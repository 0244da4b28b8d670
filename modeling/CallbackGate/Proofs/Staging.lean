import CallbackGate.Endpoint.Opening
import CallbackGate.Proofs.Decryption

/-!
# Opening in borrowed buffers

A secure delivery is opened in buffers of a pool, one key after the other.  The
message that comes out is the one that opening a copy of the ciphertext gives,
as long as the buffers are empty when they are borrowed; and they are, in every
state that a pool can come to.

There are three groups.

* Pools.  `Loans.clean_run` keeps idle buffers empty over any run of loans.
* Rings.  `unlock_map` takes the state out of an attempt, and
  `unlockPure_eq_ok_iff` says which key opens.
* Staging.  `stage_of_error` and `stage_of_ok` are the two ways it can go.  Each
  attempt begins with the ciphertext alone in its buffer (`attempt_eq`), and
  `stage_outcome` puts all of this together.
-/

namespace CallbackGate

/-! ## Pools -/

namespace Pool

/-- Every idle buffer is empty. -/
def Clean (pool : Pool) : Prop :=
  ∀ buffer ∈ pool.idle, buffer = []

theorem clean_new (bound : Nat) : (new bound).Clean := by
  intro buffer hbuffer
  cases hbuffer

variable {pool : Pool}

/-- A clean pool lends an empty buffer. -/
theorem Clean.borrow_fst (h : pool.Clean) : pool.borrow.1 = [] := by
  unfold borrow
  cases hidle : pool.idle with
  | nil => rfl
  | cons buffer rest => exact h buffer (by rw [hidle]; exact List.mem_cons_self ..)

theorem Clean.borrow_snd (h : pool.Clean) : pool.borrow.2.Clean := by
  unfold borrow
  cases hidle : pool.idle with
  | nil => exact h
  | cons buffer rest =>
    intro other hother
    exact h other (by rw [hidle]; exact List.mem_cons_of_mem _ hother)

/-- A buffer goes back empty, whatever was in it. -/
theorem Clean.giveBack (h : pool.Clean) (buffer : List UInt8) :
    (pool.giveBack buffer).Clean := by
  unfold Pool.giveBack
  by_cases hroom : pool.idle.length < pool.bound
  · rw [if_pos hroom]
    intro other hother
    rcases List.mem_cons.mp hother with rfl | hother
    · rfl
    · exact h other hother
  · rw [if_neg hroom]
    exact h

end Pool

namespace Loans

/-- No step on a pool and its loans leaves bytes in an idle buffer. -/
theorem clean_step {loans : Loans} (h : loans.pool.Clean) (step : Step) :
    (loans.step step).pool.Clean := by
  cases step with
  | borrow => exact h.borrow_snd
  | write slot bytes =>
    rw [Loans.step]
    cases loans.buffer? slot with
    | none => exact h
    | some buffer => exact h
  | giveBack slot =>
    rw [Loans.step]
    cases loans.buffer? slot with
    | none => exact h
    | some buffer => exact h.giveBack buffer

/-- No run of steps does. -/
theorem clean_run {loans : Loans} (h : loans.pool.Clean) (steps : List Step) :
    (loans.run steps).pool.Clean := by
  induction steps generalizing loans with
  | nil => exact h
  | cons step steps ih => exact ih (clean_step h step)

end Loans

/-! ## Rings -/

namespace KeyRing

variable {σ ε α β : Type} (ring : KeyRing)

section Unlock

variable {ring} {attempt : Key → σ → σ × Except ε α} {state after last : σ} {error : ε}
  {key : Key}

theorem unlock_of_ok {value : α} (h : attempt ring.current state = (after, .ok value)) :
    ring.unlock attempt state =
      ⟨[ring.current], after, .ok ⟨value, .current, ring.current⟩⟩ := by
  rw [unlock, h]

theorem unlock_of_error (h : attempt ring.current state = (after, .error error))
    (hfallback : ring.fallback = none) :
    ring.unlock attempt state = ⟨[ring.current], after, .error error⟩ := by
  rw [unlock, h]
  dsimp only
  rw [hfallback]

theorem unlock_of_fallback {outcome : Except ε α}
    (h : attempt ring.current state = (after, .error error))
    (hfallback : ring.fallback = some key) (hkey : attempt key after = (last, outcome)) :
    ring.unlock attempt state =
      ⟨[ring.current, key], last, outcome.map (⟨·, .previous, key⟩)⟩ := by
  rw [unlock, h]
  dsimp only
  rw [hfallback]
  dsimp only
  rw [hkey]

end Unlock

/-- A ring runs an attempt that carries no state with its current key, and with
the fallback where that fails. -/
theorem unlockPure_outcome (attempt : Key → Except ε α) :
    (ring.unlockPure attempt).outcome =
      match attempt ring.current with
      | .ok value => .ok ⟨value, .current, ring.current⟩
      | .error error =>
        match ring.fallback with
        | none => .error error
        | some key => (attempt key).map (⟨·, .previous, key⟩) := by
  unfold unlockPure unlock
  dsimp only
  cases attempt ring.current with
  | ok value => rfl
  | error error =>
    cases ring.fallback with
    | none => rfl
    | some key => rfl

/-- An attempt that carries a state is as good as one that does not, if both
come to the same for every key and state. -/
theorem unlock_map {attempt : Key → σ → σ × Except ε α} {plain : Key → Except ε β}
    (view : σ → α → β)
    (h : ∀ key state, (attempt key state).2.map (view (attempt key state).1) = plain key)
    (state : σ) :
    (ring.unlock attempt state).outcome.map (fun unlocked =>
      (⟨view (ring.unlock attempt state).state unlocked.value, unlocked.generation,
        unlocked.key⟩ : Unlocked β)) = (ring.unlockPure plain).outcome := by
  rw [unlockPure_outcome, ← h ring.current state]
  rcases hattempt : attempt ring.current state with ⟨after, error | value⟩
  · cases hfallback : ring.fallback with
    | none =>
      rw [unlock_of_error hattempt hfallback]
      rfl
    | some key =>
      rcases hlast : attempt key after with ⟨last, outcome⟩
      have hkey := h key after
      rw [hlast] at hkey
      rw [unlock_of_fallback hattempt hfallback hlast]
      show _ = (plain key).map _
      rw [← hkey]
      cases outcome with
      | error error' => rfl
      | ok value => rfl
  · rw [unlock_of_ok hattempt]
    rfl

theorem fallback_eq_some_iff {key : Key} :
    ring.fallback = some key ↔ ring.previous = some key ∧ key ≠ ring.current := by
  rw [fallback, Option.filter_eq_some_iff, bne_iff_ne]

/-- The fallback unlocks exactly if the attempt succeeds with it. -/
theorem map_previous_eq_ok_iff {outcome : Except ε α} {key : Key} {unlocked : Unlocked α} :
    outcome.map (⟨·, .previous, key⟩) = .ok unlocked ↔
      outcome = .ok unlocked.value ∧ unlocked.generation = .previous ∧ unlocked.key = key := by
  rcases unlocked with ⟨value, generation, other⟩
  cases outcome with
  | error error => simp [Except.map]
  | ok found =>
    rw [Except.map, Except.ok.injEq, Except.ok.injEq, Unlocked.mk.injEq]
    exact and_congr_right' (and_congr eq_comm eq_comm)

/-- A ring unlocks with its current key, or with a different previous one where
the current one fails. -/
theorem unlockPure_eq_ok_iff {attempt : Key → Except ε α} {unlocked : Unlocked α} :
    (ring.unlockPure attempt).outcome = .ok unlocked ↔
      (attempt ring.current = .ok unlocked.value ∧ unlocked.generation = .current ∧
        unlocked.key = ring.current) ∨
      ((∃ error, attempt ring.current = .error error) ∧
        ring.previous = some unlocked.key ∧ unlocked.key ≠ ring.current ∧
        attempt unlocked.key = .ok unlocked.value ∧ unlocked.generation = .previous) := by
  rw [unlockPure_outcome]
  cases hcurrent : attempt ring.current with
  | ok found =>
    dsimp only
    constructor
    · intro h
      cases h
      exact Or.inl ⟨rfl, rfl, rfl⟩
    · intro h
      rcases h with ⟨hvalue, hgeneration, hkey⟩ | ⟨⟨error, herror⟩, -⟩
      · rcases unlocked with ⟨value, generation, key⟩
        cases hvalue
        cases hgeneration
        cases hkey
        rfl
      · cases herror
  | error error =>
    dsimp only
    rw [← and_assoc (a := ring.previous = some unlocked.key), ← ring.fallback_eq_some_iff]
    cases hfallback : ring.fallback with
    | none =>
      constructor
      · intro h
        cases h
      · intro h
        rcases h with ⟨hvalue, -⟩ | ⟨-, hkey, -⟩
        · cases hvalue
        · cases hkey
    | some key =>
      dsimp only
      rw [map_previous_eq_ok_iff]
      constructor
      · intro h
        obtain ⟨hvalue, hgeneration, hkey⟩ := h
        rw [hkey]
        exact Or.inr ⟨⟨error, rfl⟩, rfl, hvalue, hgeneration⟩
      · intro h
        rcases h with ⟨hvalue, -⟩ | ⟨-, hkey, hvalue, hgeneration⟩
        · cases hvalue
        · cases hkey
          exact ⟨hvalue, hgeneration, rfl⟩

end KeyRing

/-! ## Staging -/

/-- Open a ciphertext in Base64 with the keys of a ring, without buffers. -/
def openEncrypted (appId : String) (ring : KeyRing) (encrypt : String) :
    Except CallbackError (Unlocked Cipher.Decrypted) :=
  match Bytes.Base64.decode .strict (Text.Utf8.bytes encrypt) with
  | .error fault => .error (.crypto (.invalidBase64 fault))
  | .ok ciphertext =>
    (ring.unlockPure (Cipher.decrypt ciphertext appId)).outcome.mapError .crypto

/-- What was unlocked, with the message taken out of the buffer that holds it. -/
def takeOut (staged : List UInt8 × Unlocked Cipher.Opening) : Unlocked Cipher.Decrypted :=
  ⟨⟨staged.2.value.salt, Cipher.slice staged.1 staged.2.value.first staged.2.value.stop⟩,
    staged.2.generation, staged.2.key⟩

section

variable {appId encrypt : String} {ring : KeyRing} {pool : Pool}

/-- What is not Base64 is decoded into one buffer, and no key is tried on it. -/
theorem stage_of_error {fault : Bytes.Base64.Fault}
    (h : Bytes.Base64.decode .strict (Text.Utf8.bytes encrypt) = .error fault) :
    stage appId ring pool encrypt =
      ⟨pool.borrow.2.giveBack pool.borrow.1, 1, [], .error (.crypto (.invalidBase64 fault))⟩ := by
  unfold stage
  dsimp only
  rw [h]

/-- What is Base64 is given to the ring.  The work buffer stays out if the ring unlocks. -/
theorem stage_of_ok {decoded : List UInt8} {trial : Trial (List UInt8) CryptoError Cipher.Opening}
    (h : Bytes.Base64.decode .strict (Text.Utf8.bytes encrypt) = .ok decoded)
    (htrial : ring.unlock (attempt appId (pool.borrow.1 ++ decoded)) pool.borrow.2.borrow.1 =
      trial) :
    stage appId ring pool encrypt =
      ⟨match trial.outcome with
        | .error _ =>
          (pool.borrow.2.borrow.2.giveBack trial.state).giveBack (pool.borrow.1 ++ decoded)
        | .ok _ => pool.borrow.2.borrow.2.giveBack (pool.borrow.1 ++ decoded),
        2, trial.tried, (trial.outcome.map (trial.state, ·)).mapError .crypto⟩ := by
  unfold stage
  dsimp only
  rw [h]
  dsimp only
  rw [htrial]
  cases trial.outcome with
  | error error => rfl
  | ok unlocked => rfl

end

/-- What is in the work buffer before an attempt makes no difference to it. -/
theorem attempt_eq (appId : String) (ciphertext : List UInt8) (key : Key)
    (work : List UInt8) :
    attempt appId ciphertext key work = Cipher.decryptInPlace ciphertext appId key := by
  rw [attempt, List.take_zero, List.nil_append]

/-- Opening in buffers of a clean pool comes to the same as opening without
them. -/
theorem stage_outcome {pool : Pool} (h : pool.Clean) (appId : String) (ring : KeyRing)
    (encrypt : String) :
    (stage appId ring pool encrypt).outcome.map takeOut =
      openEncrypted appId ring encrypt := by
  have hbuffer := h.borrow_fst
  unfold openEncrypted
  cases hdecode : Bytes.Base64.decode .strict (Text.Utf8.bytes encrypt) with
  | error fault =>
    rw [stage_of_error hdecode]
    rfl
  | ok ciphertext =>
    -- The view of an attempt is what opening a copy of the ciphertext gives.
    have hattempt : ∀ key state,
        (attempt appId ciphertext key state).2.map (fun opening =>
          (⟨opening.salt, Cipher.slice (attempt appId ciphertext key state).1 opening.first
            opening.stop⟩ : Cipher.Decrypted)) = Cipher.decrypt ciphertext appId key := by
      intro key state
      rw [attempt_eq, Cipher.decrypt_eq_map]
    have hunlock := ring.unlock_map (fun state (opening : Cipher.Opening) =>
      (⟨opening.salt, Cipher.slice state opening.first opening.stop⟩ : Cipher.Decrypted))
      hattempt pool.borrow.2.borrow.1
    rw [stage_of_ok hdecode rfl, hbuffer, List.nil_append]
    dsimp only
    rw [← hunlock]
    cases (ring.unlock (attempt appId ciphertext) pool.borrow.2.borrow.1).outcome with
    | error error => rfl
    | ok unlocked => rfl

end CallbackGate
