import CallbackGate.Proofs.Lending

/-!
# What loans hold

Each slot of a pool's loans has a history of its own: the step that borrowed its
buffer, the writes to it, and perhaps the step that returned it.  What is in the
slot is told by this history alone, whatever is done to the other slots and in
whatever order the buffers go back.

There are three groups.

* Histories.  `Holds` reads off a list of steps what is in a slot, and
  `holds_concat_iff` says what one more step changes.
* Steps.  `buffer?_step_iff` says the same of the slots of a pool that lends empty
  buffers.
* Runs.  `buffer?_run_iff` joins the two by an induction on the steps from the last
  one, and `run_lends_apart` is the assembly.
-/

namespace CallbackGate.Loans

/-! ## Histories -/

namespace Step

/-- The bytes that a step writes into a slot. -/
def written (slot : Nat) : Step → List UInt8
  | .write other bytes => if other = slot then bytes else []
  | .borrow | .giveBack _ => []

/-- The slot that a step is on when it is taken after others, each of which borrowed
into a slot of its own. -/
def slotAfter (steps : List Step) : Step → Nat
  | .borrow => steps.count .borrow
  | .write slot _ | .giveBack slot => slot

end Step

/-- A slot holds a buffer after steps on a pool without loans: one of the steps
borrowed into the slot and none of those after it returned the buffer, which has the
bytes that they wrote. -/
def Holds (steps : List Step) (slot : Nat) (content : List UInt8) : Prop :=
  ∃ before after, steps = before ++ .borrow :: after ∧ before.count .borrow = slot ∧
    .giveBack slot ∉ after ∧ content = after.flatMap (Step.written slot)

theorem not_holds_nil (slot : Nat) (content : List UInt8) : ¬Holds [] slot content := by
  rintro ⟨before, after, hsteps, -⟩
  exact List.append_ne_nil_of_right_ne_nil before (List.cons_ne_nil _ _) hsteps.symm

/-- One more step borrows into the slot, or leaves the buffer in it and perhaps writes
to it. -/
theorem holds_concat_iff {steps : List Step} {step : Step} {slot : Nat}
    {content : List UInt8} :
    Holds (steps ++ [step]) slot content ↔
      (step = .borrow ∧ steps.count .borrow = slot ∧ content = []) ∨
      (step ≠ .giveBack slot ∧
        ∃ earlier, Holds steps slot earlier ∧ content = earlier ++ step.written slot) := by
  constructor
  · rintro ⟨before, after, hsteps, hslot, hkept, rfl⟩
    rcases List.eq_nil_or_concat after with rfl | ⟨between, last, rfl⟩
    · obtain ⟨rfl, hstep⟩ := List.append_inj' hsteps rfl
      cases hstep
      exact Or.inl ⟨rfl, hslot, rfl⟩
    · rw [List.concat_eq_append] at hsteps hkept ⊢
      rw [← List.cons_append, ← List.append_assoc] at hsteps
      obtain ⟨rfl, hstep⟩ := List.append_inj' hsteps rfl
      cases hstep
      rw [List.mem_append, List.mem_singleton, not_or] at hkept
      refine Or.inr ⟨fun hback => hkept.2 hback.symm, _,
        ⟨before, between, rfl, hslot, hkept.1, rfl⟩, ?_⟩
      rw [List.flatMap_append, List.flatMap_singleton]
  · rintro (⟨rfl, hslot, rfl⟩ | ⟨hstep, earlier, ⟨before, after, rfl, hslot, hkept, rfl⟩, rfl⟩)
    · exact ⟨steps, [], rfl, hslot, List.not_mem_nil, rfl⟩
    · refine ⟨before, after ++ [step], ?_, hslot, ?_, ?_⟩
      · rw [List.append_assoc, List.cons_append]
      · rw [List.mem_append, List.mem_singleton, not_or]
        exact ⟨hkept, fun hback => hstep hback.symm⟩
      · rw [List.flatMap_append, List.flatMap_singleton]

/-! ## Steps -/

variable {loans : Loans}

theorem buffer?_set (pool : Pool) {slot : Nat} (hslot : slot < loans.slots.length)
    (content : Option (List UInt8)) (other : Nat) :
    buffer? ⟨pool, loans.slots.set slot content⟩ other =
      if slot = other then content else loans.buffer? other := by
  rw [buffer?, List.getElem?_set]
  split_ifs with hother
  · rfl
  · rfl

theorem lt_length_of_buffer? {slot : Nat} {content : List UInt8}
    (h : loans.buffer? slot = some content) : slot < loans.slots.length := by
  rw [buffer?, Option.join_eq_some_iff] at h
  exact (List.getElem?_eq_some_iff.mp h).1

/-- A borrowed buffer is in the slot after all others. -/
theorem buffer?_step_borrow (slot : Nat) :
    (loans.step .borrow).buffer? slot =
      if slot = loans.slots.length then some loans.pool.borrow.1 else loans.buffer? slot := by
  show (loans.slots ++ [some loans.pool.borrow.1])[slot]?.join = _
  split_ifs with hslot
  · rw [hslot, List.getElem?_concat_length]
    rfl
  · rcases Nat.lt_or_gt_of_ne hslot with hslot | hslot
    · rw [List.getElem?_append_left hslot, buffer?]
    · have hlength : (loans.slots ++ [some loans.pool.borrow.1]).length ≤ slot := by
        rw [List.length_append, List.length_singleton]
        exact hslot
      rw [List.getElem?_eq_none hlength, buffer?,
        List.getElem?_eq_none (Nat.le_of_lt hslot)]

theorem step_of_none {slot : Nat} (h : loans.buffer? slot = none) :
    (∀ bytes, loans.step (.write slot bytes) = loans) ∧
      loans.step (.giveBack slot) = loans := by
  constructor
  · intro bytes
    rw [Loans.step, h]
  · rw [Loans.step, h]

theorem buffer?_step_write (slot : Nat) (bytes : List UInt8) (other : Nat) :
    (loans.step (.write slot bytes)).buffer? other =
      if slot = other then (loans.buffer? other).map (· ++ bytes) else loans.buffer? other := by
  cases hslot : loans.buffer? slot with
  | none =>
    rw [(step_of_none hslot).1]
    split_ifs with hother
    · rw [← hother, hslot, Option.map_none]
    · rfl
  | some buffer =>
    rw [Loans.step, hslot]
    dsimp only
    rw [buffer?_set _ (lt_length_of_buffer? hslot)]
    split_ifs with hother
    · rw [← hother, hslot, Option.map_some]
    · rfl

theorem buffer?_step_giveBack (slot other : Nat) :
    (loans.step (.giveBack slot)).buffer? other =
      if slot = other then none else loans.buffer? other := by
  cases hslot : loans.buffer? slot with
  | none =>
    rw [(step_of_none hslot).2]
    split_ifs with hother
    · rw [← hother, hslot]
    · rfl
  | some buffer =>
    rw [Loans.step, hslot]
    dsimp only
    rw [buffer?_set _ (lt_length_of_buffer? hslot)]

theorem buffer?_length : loans.buffer? loans.slots.length = none := by
  rw [buffer?, List.getElem?_eq_none (Nat.le_refl _)]
  rfl

/-- Only the step that borrows into a slot and the steps on it change what it holds. -/
theorem buffer?_step_iff (h : loans.pool.Clean) {step : Step} {slot : Nat}
    {content : List UInt8} :
    (loans.step step).buffer? slot = some content ↔
      (step = .borrow ∧ loans.slots.length = slot ∧ content = []) ∨
      (step ≠ .giveBack slot ∧
        ∃ earlier, loans.buffer? slot = some earlier ∧
          content = earlier ++ step.written slot) := by
  cases step with
  | borrow =>
    rw [buffer?_step_borrow, h.borrow_fst]
    by_cases hslot : slot = loans.slots.length
    · simp [hslot, buffer?_length, eq_comm]
    · simp [Step.written, hslot, Ne.symm hslot]
  | write other bytes =>
    rw [buffer?_step_write]
    by_cases hslot : other = slot
    · simp [Step.written, hslot, eq_comm]
    · simp [Step.written, hslot]
  | giveBack other =>
    rw [buffer?_step_giveBack]
    by_cases hslot : other = slot
    · simp [hslot]
    · simp [Step.written, hslot]

/-! ## Runs -/

theorem run_concat (steps : List Step) (step : Step) :
    loans.run (steps ++ [step]) = (loans.run steps).step step :=
  List.foldl_concat ..

theorem length_slots_step (step : Step) :
    (loans.step step).slots.length = loans.slots.length + [step].count .borrow := by
  cases step with
  | borrow => exact List.length_append
  | write slot bytes =>
    rw [Loans.step]
    cases loans.buffer? slot with
    | none => rfl
    | some buffer => exact List.length_set
  | giveBack slot =>
    rw [Loans.step]
    cases loans.buffer? slot with
    | none => rfl
    | some buffer => exact List.length_set

/-- Each borrowed buffer has a slot of its own. -/
theorem length_slots_run (pool : Pool) (steps : List Step) :
    ((start pool).run steps).slots.length = steps.count .borrow := by
  induction steps using List.reverseRecOn with
  | nil => rfl
  | append_singleton steps step ih =>
    rw [run_concat, length_slots_step, ih, List.count_append]

/-- What is in a slot after a run is what its history says. -/
theorem buffer?_run_iff {pool : Pool} (h : pool.Clean) (steps : List Step) (slot : Nat)
    (content : List UInt8) :
    ((start pool).run steps).buffer? slot = some content ↔ Holds steps slot content := by
  induction steps using List.reverseRecOn generalizing content with
  | nil => exact iff_of_false (by rintro ⟨⟩) (not_holds_nil slot content)
  | append_singleton steps step ih =>
    have hclean := clean_run (show (start pool).pool.Clean from h) steps
    simp only [run_concat, buffer?_step_iff hclean, holds_concat_iff, length_slots_run, ih]

/-- No more idle buffers are kept than the bound, and they are empty.  A slot holds a
buffer exactly if its history says so, with the bytes written since it was borrowed; so a
borrowed buffer is empty, and a step on one slot leaves the others as they were.  A
buffer is taken from the idle ones if there are any, and one that is returned joins them
if there is room.  A step on a slot without a buffer changes nothing. -/
theorem run_lends_apart (bound : Nat) (steps : List Step) :
    let loans := (start (.new bound)).run steps
    let idle := loans.pool.idle.length
    let idleAfter (step : Step) := (loans.step step).pool.idle.length
    idle ≤ bound ∧ (∀ buffer ∈ loans.pool.idle, buffer = []) ∧
      (∀ slot content, loans.buffer? slot = some content ↔ Holds steps slot content) ∧
      (loans.step .borrow).buffer? (steps.count .borrow) = some [] ∧
      (idleAfter .borrow = if 0 < idle then idle - 1 else idle) ∧
      (∀ step slot, step.slotAfter steps ≠ slot →
        (loans.step step).buffer? slot = loans.buffer? slot) ∧
      (∀ slot content, Holds steps slot content →
        (∀ bytes, (loans.step (.write slot bytes)).buffer? slot = some (content ++ bytes) ∧
          idleAfter (.write slot bytes) = idle) ∧
        (loans.step (.giveBack slot)).buffer? slot = none ∧
        idleAfter (.giveBack slot) = if idle < bound then idle + 1 else idle) ∧
      ∀ slot, (∀ content, ¬Holds steps slot content) →
        (∀ bytes, loans.step (.write slot bytes) = loans) ∧
          loans.step (.giveBack slot) = loans := by
  intro loans idle idleAfter
  obtain ⟨⟨hclean, hwithin⟩, hbound⟩ :=
    sound_run (show (start (.new bound)).pool.Sound from Pool.sound_new bound) steps
  have hholds := buffer?_run_iff (Pool.clean_new bound) steps
  have hslots := length_slots_run (.new bound) steps
  refine ⟨hwithin.trans_eq hbound, hclean, hholds, ?_, ?_, ?_, ?_, ?_⟩
  · rw [buffer?_step_borrow, if_pos hslots.symm, hclean.borrow_fst]
  · have hlength : idleAfter .borrow = idle - 1 := Pool.length_idle_borrow loans.pool
    rw [hlength]
    split_ifs
    · rfl
    · omega
  · intro step slot hslot
    cases step with
    | borrow =>
      rw [buffer?_step_borrow, if_neg]
      rw [hslots]
      exact fun heq => hslot heq.symm
    | write other bytes =>
      rw [buffer?_step_write]
      exact if_neg hslot
    | giveBack other =>
      rw [buffer?_step_giveBack]
      exact if_neg hslot
  · intro slot content hheld
    have hbuffer := (hholds slot content).mpr hheld
    refine ⟨fun bytes => ⟨?_, ?_⟩, ?_, ?_⟩
    · rw [buffer?_step_write, if_pos rfl, hbuffer, Option.map_some]
    · show (loans.step (.write slot bytes)).pool.idle.length = _
      rw [Loans.step, hbuffer]
    · rw [buffer?_step_giveBack, if_pos rfl]
    · show (loans.step (.giveBack slot)).pool.idle.length = _
      rw [Loans.step, hbuffer]
      dsimp only
      rw [Pool.length_idle_giveBack, hbound]
      rfl
  · intro slot hnone
    apply step_of_none
    rw [Option.eq_none_iff_forall_ne_some]
    exact fun content hbuffer => hnone content ((hholds slot content).mp hbuffer)

end CallbackGate.Loans
