import CallbackGate.Proofs.Staging

/-!
# What is left in a pool after loans

Buffers are borrowed and returned in any order.  When all of them are back, the
pool holds what it held before, or as many as were out at once if those are more
and may be kept.

There are four groups.

* Pools.  `Sound` is what every pool is that loans can come to, and the lemmas
  below it count the idle buffers.
* Steps.  `step_cases` says what one step on a pool and its loans does to the two
  counts, and every invariant is from it.
* Runs.  `Balance` is the invariant of a run, and `length_idle_of_back` is what it
  says when all loans are back.
* Loans that came back.  `Lends` sums up such a run.
-/

namespace CallbackGate

/-! ## Pools -/

namespace Pool

/-- Idle buffers are empty, and no more than may be kept. -/
structure Sound (pool : Pool) : Prop where
  clean : pool.Clean
  within : pool.idle.length ≤ pool.bound

theorem sound_new (bound : Nat) : (new bound).Sound :=
  ⟨clean_new bound, Nat.zero_le bound⟩

variable (pool : Pool)

@[simp] theorem bound_borrow : pool.borrow.2.bound = pool.bound := by
  unfold borrow
  cases pool.idle with
  | nil => rfl
  | cons buffer rest => rfl

@[simp] theorem length_idle_borrow :
    pool.borrow.2.idle.length = pool.idle.length - 1 := by
  unfold borrow
  cases hidle : pool.idle with
  | nil => rw [hidle]; rfl
  | cons buffer rest => rfl

@[simp] theorem bound_giveBack (buffer : List UInt8) :
    (pool.giveBack buffer).bound = pool.bound := by
  unfold giveBack
  split_ifs
  · rfl
  · rfl

@[simp] theorem length_idle_giveBack (buffer : List UInt8) :
    (pool.giveBack buffer).idle.length =
      if pool.idle.length < pool.bound then pool.idle.length + 1 else pool.idle.length := by
  unfold giveBack
  split_ifs
  · rfl
  · rfl

end Pool

/-! ## Steps -/

namespace Loans

/-- The number of buffers that are out. -/
def out (loans : Loans) : Nat :=
  loans.slots.countP Option.isSome

/-- Putting something else in the slot of a buffer changes the number of buffers that
are out if that is no buffer. -/
theorem out_set {loans : Loans} {slot : Nat} {buffer : List UInt8}
    (h : loans.buffer? slot = some buffer) (pool : Pool) (content : Option (List UInt8)) :
    out ⟨pool, loans.slots.set slot content⟩ + 1 =
      loans.out + if content.isSome then 1 else 0 := by
  rw [buffer?, Option.join_eq_some_iff, List.getElem?_eq_some_iff] at h
  obtain ⟨hslot, hget⟩ := h
  have hpos : 0 < loans.out := by
    rw [out, List.countP_pos_iff]
    exact ⟨some buffer, List.mem_of_getElem hget, rfl⟩
  rw [out] at hpos
  rw [out, out, List.countP_set hslot, hget]
  simp only [Option.isSome_some, if_true]
  omega

/-- What a step does to the pool and to the number of buffers that are out. -/
theorem step_cases (loans : Loans) (step : Step) :
    ((loans.step step).pool = loans.pool.borrow.2 ∧ (loans.step step).out = loans.out + 1) ∨
    ((loans.step step).pool = loans.pool ∧ (loans.step step).out = loans.out) ∨
    ∃ buffer, (loans.step step).pool = loans.pool.giveBack buffer ∧
      (loans.step step).out + 1 = loans.out := by
  cases step with
  | borrow =>
    refine Or.inl ⟨rfl, ?_⟩
    show (loans.slots ++ [some loans.pool.borrow.1]).countP Option.isSome = _
    rw [List.countP_append]
    rfl
  | write slot bytes =>
    refine Or.inr (Or.inl ?_)
    rw [Loans.step]
    cases hbuffer : loans.buffer? slot with
    | none => exact ⟨rfl, rfl⟩
    | some buffer =>
      exact ⟨rfl, Nat.succ.inj (out_set hbuffer loans.pool (some (buffer ++ bytes)))⟩
  | giveBack slot =>
    refine Or.inr ?_
    rw [Loans.step]
    cases hbuffer : loans.buffer? slot with
    | none => exact Or.inl ⟨rfl, rfl⟩
    | some buffer => exact Or.inr ⟨buffer, rfl, out_set hbuffer _ none⟩

theorem bound_step (loans : Loans) (step : Step) :
    (loans.step step).pool.bound = loans.pool.bound := by
  rcases loans.step_cases step with ⟨hpool, -⟩ | ⟨hpool, -⟩ | ⟨buffer, hpool, -⟩
  · rw [hpool, Pool.bound_borrow]
  · rw [hpool]
  · rw [hpool, Pool.bound_giveBack]

/-- What a step does to the number of idle buffers and to that of those that are out. -/
theorem step_counts (loans : Loans) (step : Step) :
    let idle := loans.pool.idle.length
    let idle' := (loans.step step).pool.idle.length
    let out' := (loans.step step).out
    (idle' = idle - 1 ∧ out' = loans.out + 1) ∨ (idle' = idle ∧ out' = loans.out) ∨
      (idle' = (if idle < loans.pool.bound then idle + 1 else idle) ∧ out' + 1 = loans.out) := by
  intro idle idle' out'
  have hlength {pool : Pool} (hpool : (loans.step step).pool = pool) :
      idle' = pool.idle.length := congrArg (fun pool => pool.idle.length) hpool
  rcases loans.step_cases step with ⟨hpool, hout⟩ | ⟨hpool, hout⟩ | ⟨buffer, hpool, hout⟩
  · exact Or.inl ⟨(hlength hpool).trans (Pool.length_idle_borrow _), hout⟩
  · exact Or.inr (Or.inl ⟨hlength hpool, hout⟩)
  · exact Or.inr (Or.inr ⟨(hlength hpool).trans (Pool.length_idle_giveBack _ buffer), hout⟩)

/-- A step leaves a sound pool. -/
theorem sound_step {loans : Loans} (h : loans.pool.Sound) (step : Step) :
    (loans.step step).pool.Sound := by
  refine ⟨clean_step h.clean step, ?_⟩
  have hwithin := h.within
  rw [bound_step]
  rcases loans.step_counts step with ⟨hidle, -⟩ | ⟨hidle, -⟩ | ⟨hidle, -⟩
  · omega
  · omega
  · split_ifs at hidle
    · omega
    · omega

/-! ## Runs -/

/-- A run of steps leaves a sound pool, with the same bound. -/
theorem sound_run {loans : Loans} (h : loans.pool.Sound) (steps : List Step) :
    (loans.run steps).pool.Sound ∧ (loans.run steps).pool.bound = loans.pool.bound := by
  induction steps generalizing loans with
  | nil => exact ⟨h, rfl⟩
  | cons step steps ih =>
    obtain ⟨hsound, hbound⟩ := ih (sound_step h step)
    exact ⟨hsound, hbound.trans (bound_step loans step)⟩

/-- The greatest number of buffers that are out at once in a run. -/
def peak (loans : Loans) : List Step → Nat
  | [] => loans.out
  | step :: steps => max loans.out ((loans.step step).peak steps)

/-- The idle buffers and those that are out, where a run began with some idle buffers
and a number of buffers was out at once. -/
structure Balance (before most : Nat) (loans : Loans) : Prop where
  sound : loans.pool.Sound
  room : before ≤ loans.pool.bound
  /-- Buffers are let go only when the pool is full. -/
  kept : max before (min loans.pool.bound most) ≤ loans.pool.idle.length + loans.out
  /-- New buffers are made only when none is idle. -/
  made : loans.pool.idle.length + loans.out ≤ max before most

theorem Balance.start {pool : Pool} (h : pool.Sound) :
    Balance pool.idle.length 0 (start pool) where
  sound := h
  room := h.within
  kept := by
    show max pool.idle.length (min pool.bound 0) ≤ pool.idle.length + 0
    omega
  made := by
    show pool.idle.length + 0 ≤ max pool.idle.length 0
    omega

theorem Balance.step {before most : Nat} {loans : Loans} (h : Balance before most loans)
    (step : Step) : Balance before (max most (loans.step step).out) (loans.step step) := by
  obtain ⟨hsound, hroom, hkept, hmade⟩ := h
  have hcounts := loans.step_counts step
  refine ⟨sound_step hsound step, ?_, ?_, ?_⟩
  · rw [bound_step]
    exact hroom
  · rw [bound_step]
    rcases hcounts with ⟨hidle, hout⟩ | ⟨hidle, hout⟩ | ⟨hidle, hout⟩
    · omega
    · omega
    · split_ifs at hidle
      · omega
      · omega
  · rcases hcounts with ⟨hidle, hout⟩ | ⟨hidle, hout⟩ | ⟨hidle, hout⟩
    · omega
    · omega
    · split_ifs at hidle
      · omega
      · omega

/-- The balance holds after any run, for the greatest number of buffers that were out. -/
theorem Balance.run {before most : Nat} {loans : Loans} (h : Balance before most loans)
    (hout : loans.out ≤ most) (steps : List Step) :
    Balance before (max most (loans.peak steps)) (loans.run steps) := by
  induction steps generalizing loans most with
  | nil =>
    rw [peak, Nat.max_eq_left hout]
    exact h
  | cons step steps ih =>
    have hrun := ih (h.step step) (Nat.le_max_right _ _)
    have hmost : max (max most (loans.step step).out) ((loans.step step).peak steps) =
        max most (loans.peak (step :: steps)) := by
      have hfirst : (loans.step step).out ≤ (loans.step step).peak steps := by
        cases steps with
        | nil => exact Nat.le_refl _
        | cons next steps => exact Nat.le_max_left _ _
      rw [peak]
      omega
    rw [hmost] at hrun
    exact hrun

/-- When all loans of a sound pool are back, it holds what it held, or as many buffers
as were out at once if those are more and may be kept. -/
theorem length_idle_of_back {pool : Pool} (h : pool.Sound) {steps : List Step}
    (hback : ((start pool).run steps).out = 0) :
    ((start pool).run steps).pool.idle.length =
      max pool.idle.length (min pool.bound ((start pool).peak steps)) := by
  have hbalance := (Balance.start h).run (Nat.zero_le _) steps
  have hwithin := hbalance.sound.within
  obtain ⟨-, hbound⟩ := sound_run (show (start pool).pool.Sound from h) steps
  obtain ⟨-, -, hkept, hmade⟩ := hbalance
  have hroom := h.within
  rw [hbound, show (start pool).pool.bound = pool.bound from rfl] at hkept hwithin
  omega

end Loans

/-! ## Loans that came back -/

namespace Pool

/-- A pool lends a number of buffers, all at once, and has all of them back. -/
def Lends (pool : Pool) (count : Nat) (after : Pool) : Prop :=
  ∃ steps, (Loans.start pool).run steps = ⟨after, List.replicate count none⟩ ∧
    (Loans.start pool).peak steps = count

variable {pool after : Pool} {count : Nat}

theorem Lends.sound (hlends : pool.Lends count after) (h : pool.Sound) :
    after.Sound ∧ after.bound = pool.bound := by
  obtain ⟨steps, hrun, -⟩ := hlends
  have hsound := Loans.sound_run (show (Loans.start pool).pool.Sound from h) steps
  rw [hrun] at hsound
  exact hsound

theorem Lends.length_idle (hlends : pool.Lends count after) (h : pool.Sound) :
    after.idle.length = max pool.idle.length (min pool.bound count) := by
  obtain ⟨steps, hrun, hpeak⟩ := hlends
  have hback : ((Loans.start pool).run steps).out = 0 := by
    rw [hrun, Loans.out, List.countP_replicate]
    rfl
  have hlength := Loans.length_idle_of_back h hback
  rw [hrun, hpeak] at hlength
  exact hlength

theorem lends_zero (pool : Pool) : pool.Lends 0 pool :=
  ⟨[], rfl, rfl⟩

/-- A buffer is borrowed and goes back, whatever was written into it. -/
theorem lends_one (pool : Pool) (buffer : List UInt8) :
    pool.Lends 1 (pool.borrow.2.giveBack buffer) :=
  ⟨[.borrow, .giveBack 0], rfl, rfl⟩

theorem lends_two (pool : Pool) (first second : List UInt8) :
    pool.Lends 2 ((pool.borrow.2.borrow.2.giveBack first).giveBack second) :=
  ⟨[.borrow, .borrow, .giveBack 1, .giveBack 0], rfl, rfl⟩

end Pool

end CallbackGate
