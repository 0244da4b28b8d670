import CallbackGate.Proofs.Staging

/-!
# Generations of keys

Over any run of rotations and attempts a ring holds the last two keys that came
into use, and an attempt meets no other key.

There are three groups.

* Runs.  `Step` lists what can be done with a ring, and `Usage.run` does it.
* Generations.  `Holds` ties a ring to the keys that came into use so far;
  `Holds.step` and `Holds.run` keep it.
* Attempts.  `recorded` notes what an attempt is given and what it answers, and
  `Traced` lists the ways in which a ring can run one.  From these cases
  `run_holds_and_unlocks` is assembled.
-/

namespace CallbackGate.KeyRing

/-! ## Runs -/

/-- What can be done with a ring.  An attempt may read and change a state that
outlives it. -/
inductive Step (σ : Type) : Type 1
  | rotate (key : Key)
  | unlock {ε α : Type} (attempt : Key → σ → σ × Except ε α)

/-- The key that a step makes current, if it is a rotation. -/
def Step.rotated? {σ : Type} : Step σ → Option Key
  | rotate key => some key
  | unlock _ => none

/-- A ring in use, with the state that attempts carry. -/
structure Usage (σ : Type) where
  ring : KeyRing
  state : σ

namespace Usage

variable {σ : Type}

/-- Take a step.  An attempt is given the ring to read. -/
def step (usage : Usage σ) : Step σ → Usage σ
  | .rotate key => { usage with ring := usage.ring.rotate key }
  | .unlock attempt =>
    { usage with state := (usage.ring.unlock attempt usage.state).state }

/-- Take steps one after the other. -/
def run (usage : Usage σ) (steps : List (Step σ)) : Usage σ :=
  steps.foldl step usage

end Usage

/-- The keys that came into use, the oldest first: those that the ring was made
with and those rotated in. -/
def generations {σ : Type} (previous : Option Key) (current : Key)
    (steps : List (Step σ)) : List Key :=
  previous.toList ++ current :: steps.filterMap Step.rotated?

/-! ## Generations -/

/-- A key is kept as previous unless it is the zero key. -/
theorem bind_keep (previous : Option Key) :
    previous.bind keep = previous.filter (· ≠ Key.zero) := by
  cases previous with
  | none => rfl
  | some key =>
    rw [Option.bind_some, keep, Key.isZero]
    by_cases h : key = Key.zero
    · simp [Option.filter, h]
    · simp [Option.filter, h]

/-- The last of these keys is current, and the one before it is previous unless
there is none or it is the zero key. -/
def Holds (ring : KeyRing) (keys : List Key) : Prop :=
  ∃ older, keys = older ++ [ring.current] ∧
    ring.previous = older.getLast?.filter (· ≠ Key.zero)

theorem holds_withPrevious (current : Key) (previous : Option Key) :
    (withPrevious current previous).Holds (previous.toList ++ [current]) := by
  refine ⟨previous.toList, rfl, ?_⟩
  rw [withPrevious, bind_keep]
  cases previous with
  | none => rfl
  | some key => rfl

namespace Holds

variable {σ : Type} {usage : Usage σ} {ring : KeyRing} {keys : List Key}

/-- What was previous before is forgotten. -/
theorem rotate (h : ring.Holds keys) (key : Key) : (ring.rotate key).Holds (keys ++ [key]) := by
  obtain ⟨older, hkeys, -⟩ := h
  have hkeep := bind_keep (some ring.current)
  refine ⟨older ++ [ring.current], by rw [hkeys]; rfl, ?_⟩
  rw [List.getLast?_concat, ← hkeep]
  rfl

theorem step (h : usage.ring.Holds keys) (step : Step σ) :
    (usage.step step).ring.Holds (keys ++ step.rotated?.toList) := by
  cases step with
  | rotate key => exact h.rotate key
  | unlock attempt =>
    show usage.ring.Holds (keys ++ [])
    rw [List.append_nil]
    exact h

theorem run (h : usage.ring.Holds keys) (steps : List (Step σ)) :
    (usage.run steps).ring.Holds (keys ++ steps.filterMap Step.rotated?) := by
  induction steps generalizing usage keys with
  | nil =>
    show usage.ring.Holds (keys ++ [])
    rw [List.append_nil]
    exact h
  | cons next steps ih =>
    have hnext := ih (h.step next)
    have hkeys : (next :: steps).filterMap Step.rotated? =
        next.rotated?.toList ++ steps.filterMap Step.rotated? := by
      cases next with
      | rotate key => rfl
      | unlock attempt => rfl
    rw [hkeys, ← List.append_assoc]
    exact hnext

/-- Rotations alone keep it too. -/
theorem rotateAll (h : ring.Holds keys) (more : List Key) :
    (more.foldl KeyRing.rotate ring).Holds (keys ++ more) := by
  induction more generalizing ring keys with
  | nil => rwa [List.append_nil]
  | cons key more ih =>
    have hnext := ih (h.rotate key)
    rwa [List.append_assoc] at hnext

/-- The zero key is never previous. -/
theorem previous_ne_zero (h : ring.Holds keys) {key : Key} (hkey : ring.previous = some key) :
    key ≠ Key.zero := by
  obtain ⟨older, -, hprevious⟩ := h
  rw [hprevious, Option.filter_eq_some_iff, decide_eq_true_eq] at hkey
  exact hkey.2

end Holds

/-- After rotations the last key that was rotated in is current. -/
theorem current_rotateAll (ring : KeyRing) (keys : List Key) :
    (keys.foldl rotate ring).current = keys.getLast?.getD ring.current := by
  induction keys using List.reverseRecOn with
  | nil => rfl
  | append_singleton keys key _ =>
    rw [List.foldl_concat, List.getLast?_concat]
    rfl

/-! ## Attempts -/

/-- The keys that an attempt was given and its answers, in order. -/
abbrev Log (ε α : Type) := List (Key × Except ε α)

section Attempts

variable {σ ε α : Type}

/-- The attempt that also notes each key that it is given and its answer. -/
def recorded (attempt : Key → σ → σ × Except ε α) (key : Key) (noted : σ × Log ε α) :
    (σ × Log ε α) × Except ε α :=
  (((attempt key noted.1).1, noted.2 ++ [(key, (attempt key noted.1).2)]),
    (attempt key noted.1).2)

/-- The ways in which a ring runs an attempt: what the attempt was given and
answered, and what comes of it. -/
inductive Traced (ring : KeyRing) : Log ε α → Except ε (Unlocked α) → Prop
  | opened (value : α) :
    Traced ring [(ring.current, .ok value)] (.ok ⟨value, .current, ring.current⟩)
  | refused (error : ε) (h : ring.fallback = none) :
    Traced ring [(ring.current, .error error)] (.error error)
  | openedPrevious (first : ε) (key : Key) (value : α) (h : ring.fallback = some key) :
    Traced ring [(ring.current, .error first), (key, .ok value)]
      (.ok ⟨value, .previous, key⟩)
  | refusedPrevious (first error : ε) (key : Key) (h : ring.fallback = some key) :
    Traced ring [(ring.current, .error first), (key, .error error)] (.error error)

/-- A ring runs an attempt in one of these ways, and noting it changes
nothing. -/
theorem unlock_recorded (ring : KeyRing) (attempt : Key → σ → σ × Except ε α) (state : σ) :
    ∃ log, Traced ring log (ring.unlock attempt state).outcome ∧
      (ring.unlock attempt state).tried = log.map Prod.fst ∧
      ring.unlock (recorded attempt) (state, []) =
        ⟨(ring.unlock attempt state).tried, ((ring.unlock attempt state).state, log),
          (ring.unlock attempt state).outcome⟩ := by
  rcases hfirst : attempt ring.current state with ⟨after, error | value⟩
  · have hnoted : recorded attempt ring.current (state, []) =
        ((after, [(ring.current, .error error)]), .error error) := by
      rw [recorded, hfirst]
      rfl
    cases hfallback : ring.fallback with
    | none =>
      rw [unlock_of_error hfirst hfallback, unlock_of_error hnoted hfallback]
      exact ⟨_, .refused error hfallback, rfl, rfl⟩
    | some key =>
      rcases hlast : attempt key after with ⟨last, outcome⟩
      have hagain : recorded attempt key (after, [(ring.current, .error error)]) =
          ((last, [(ring.current, .error error), (key, outcome)]), outcome) := by
        rw [recorded, hlast]
        rfl
      rw [unlock_of_fallback hfirst hfallback hlast, unlock_of_fallback hnoted hfallback hagain]
      cases outcome with
      | error last => exact ⟨_, .refusedPrevious error last key hfallback, rfl, rfl⟩
      | ok value => exact ⟨_, .openedPrevious error key value hfallback, rfl, rfl⟩
  · have hnoted : recorded attempt ring.current (state, []) =
        ((after, [(ring.current, .ok value)]), .ok value) := by
      rw [recorded, hfirst]
      rfl
    rw [unlock_of_ok hfirst, unlock_of_ok hnoted]
    exact ⟨_, .opened value, rfl, rfl⟩

/-- What comes of an attempt, said of what it was given and answered. -/
structure Unlocks (ring : KeyRing) (log : Log ε α) (outcome : Except ε (Unlocked α)) :
    Prop where
  /-- The current key is tried alone if it opens or there is no other previous
  one. -/
  alone : log.map Prod.fst = [ring.current] ↔
    (∃ value, log.head? = some (ring.current, .ok value)) ∨
      ring.previous = none ∨ ring.previous = some ring.current
  /-- Otherwise the previous one is tried after it. -/
  both : ∀ key, log.map Prod.fst = [ring.current, key] ↔
    (∃ error, log.head? = some (ring.current, .error error)) ∧
      ring.previous = some key ∧ key ≠ ring.current
  /-- There are no more attempts than these. -/
  ended : log.map Prod.fst = [ring.current] ∨
    ∃ key, log.map Prod.fst = [ring.current, key]
  /-- A success is told with the value of the last attempt, its key and the
  generation of the key. -/
  opened : ∀ unlocked, outcome = .ok unlocked →
    log.getLast? = some (unlocked.key, .ok unlocked.value) ∧
      ((unlocked.generation = .current ∧ log.map Prod.fst = [unlocked.key]) ∨
        (unlocked.generation = .previous ∧
          log.map Prod.fst = [ring.current, unlocked.key]))
  /-- A failure is told with the error of the last attempt. -/
  refused : ∀ error, outcome = .error error → ∃ key, log.getLast? = some (key, .error error)

/-- There is no fallback if the previous key is absent or the current one. -/
theorem fallback_eq_none_iff (ring : KeyRing) :
    ring.fallback = none ↔ ring.previous = none ∨ ring.previous = some ring.current := by
  rw [fallback]
  cases ring.previous with
  | none => simp
  | some key => simp [Option.filter]

theorem Traced.unlocks {ring : KeyRing} {log : Log ε α} {outcome : Except ε (Unlocked α)}
    (h : Traced ring log outcome) : Unlocks ring log outcome := by
  refine ⟨?_, ?_, ?_, ?_, ?_⟩
  · rw [← ring.fallback_eq_none_iff]
    cases h with
    | opened value => simp
    | refused error h => simp [h]
    | openedPrevious first key value h => simp [h]
    | refusedPrevious first error key h => simp [h]
  · intro key
    rw [← ring.fallback_eq_some_iff]
    cases h with
    | opened value => simp
    | refused error h => simp [h]
    | openedPrevious first other value h => simp [h]
    | refusedPrevious first error other h => simp [h]
  · cases h with
    | opened value => exact Or.inl rfl
    | refused error h => exact Or.inl rfl
    | openedPrevious first key value h => exact Or.inr ⟨key, rfl⟩
    | refusedPrevious first error key h => exact Or.inr ⟨key, rfl⟩
  · intro unlocked hunlocked
    cases h with
    | opened value =>
      cases hunlocked
      exact ⟨rfl, Or.inl ⟨rfl, rfl⟩⟩
    | refused error h => cases hunlocked
    | openedPrevious first key value h =>
      cases hunlocked
      exact ⟨rfl, Or.inr ⟨rfl, rfl⟩⟩
    | refusedPrevious first error key h => cases hunlocked
  · intro last hlast
    cases h with
    | opened value => cases hlast
    | refused error h =>
      cases hlast
      exact ⟨ring.current, rfl⟩
    | openedPrevious first key value h => cases hlast
    | refusedPrevious first error key h =>
      cases hlast
      exact ⟨key, rfl⟩

/-- A ring tries its current key first, and after it no key but the previous one. -/
theorem tried_eq_cons (ring : KeyRing) (attempt : Key → σ → σ × Except ε α) (state : σ) :
    ∃ rest, (ring.unlock attempt state).tried = ring.current :: rest ∧
      ∀ key ∈ rest, ring.previous = some key := by
  obtain ⟨log, htraced, htried, -⟩ := unlock_recorded ring attempt state
  rw [htried]
  rcases htraced.unlocks.ended with halone | ⟨other, hboth⟩
  · exact ⟨[], halone, nofun⟩
  · refine ⟨[other], hboth, ?_⟩
    intro key hkey
    rw [List.mem_singleton.mp hkey]
    exact ((htraced.unlocks.both other).mp hboth).2.1

/-- An attempt is given no key but the last two that came into use. -/
theorem Unlocks.mem_generations {ring : KeyRing} {log : Log ε α}
    {outcome : Except ε (Unlocked α)} (h : Unlocks ring log outcome) {keys : List Key}
    (hkeys : ring.Holds keys) {key : Key} (hkey : key ∈ log.map Prod.fst) :
    key ∈ keys.drop (keys.length - 2) := by
  obtain ⟨older, rfl, hprevious⟩ := hkeys
  rcases h.ended with htried | ⟨other, htried⟩
  · rw [htried, List.mem_singleton] at hkey
    rw [hkey, List.drop_append_of_le_length (by simp)]
    simp
  · -- The previous key was there to be tried, so it is the one before the last.
    have hother := ((h.both other).mp htried).2.1
    rw [hprevious, Option.filter_eq_some_iff] at hother
    obtain ⟨eldest, rfl⟩ := List.getLast?_eq_some_iff.mp hother.1
    have hdrop : (eldest ++ [other] ++ [ring.current]).drop
        ((eldest ++ [other] ++ [ring.current]).length - 2) = [other, ring.current] := by
      simp
    rw [htried] at hkey
    rw [hdrop]
    simp only [List.mem_cons, List.not_mem_nil, or_false] at hkey ⊢
    exact hkey.symm

/-- Whatever a ring was made with and however it was used since, it holds the
last two keys that came into use, a zero key apart.  The next attempt leaves it
as it is, is given these keys in the one order that there is, and is told as
its last answer was.  A ring made with `new` is the case of no previous key. -/
theorem run_holds_and_unlocks (current : Key) (previous : Option Key) (state : σ)
    (steps : List (Step σ)) :
    let usage := Usage.run ⟨withPrevious current previous, state⟩ steps
    let keys := generations previous current steps
    usage.ring.Holds keys ∧
      (∀ key, usage.ring.previous = some key → key ≠ Key.zero) ∧
      ∀ (ε α : Type) (attempt : Key → σ → σ × Except ε α),
        let trial := usage.ring.unlock attempt usage.state
        usage.step (.unlock attempt) = ⟨usage.ring, trial.state⟩ ∧
        ∃ log, usage.ring.unlock (recorded attempt) (usage.state, []) =
            ⟨trial.tried, (trial.state, log), trial.outcome⟩ ∧
          trial.tried = log.map Prod.fst ∧
          Unlocks usage.ring log trial.outcome ∧
          ∀ key ∈ trial.tried, key ∈ keys.drop (keys.length - 2) := by
  intro usage keys
  have hholds : usage.ring.Holds keys := by
    have hfirst : (Usage.mk (withPrevious current previous) state).ring.Holds _ :=
      holds_withPrevious current previous
    have hstart := hfirst.run steps
    rw [List.append_assoc, List.singleton_append] at hstart
    exact hstart
  refine ⟨hholds, fun key => hholds.previous_ne_zero, ?_⟩
  intro ε α attempt trial
  obtain ⟨log, htraced, htried, hrecorded⟩ := unlock_recorded usage.ring attempt usage.state
  refine ⟨rfl, log, hrecorded, htried, htraced.unlocks, ?_⟩
  intro key hkey
  rw [show trial.tried = log.map Prod.fst from htried] at hkey
  exact htraced.unlocks.mem_generations hholds hkey

end Attempts

end CallbackGate.KeyRing
