import CallbackGate.Key

/-!
# Key rings

A ring holds the key in use and the one it replaced.  Rotation makes a new key
current and keeps the old one as previous; what was previous before is
forgotten.  A zero key is never kept as previous.

`KeyRing.unlock` runs an attempt with the current key and, if that fails and
there is another previous key, once more with that one.  The attempt may carry
a state from one run to the next.
-/

namespace CallbackGate

/-- The current key and the one it replaced. -/
structure KeyRing where
  current : Key
  previous : Option Key
  deriving DecidableEq

/-- Which key of a ring is meant. -/
inductive Generation
  | current
  | previous
  deriving DecidableEq, Repr

/-- The word for a generation. -/
def Generation.word : Generation → String
  | .current => "current"
  | .previous => "previous"

/-- The value of an attempt that succeeded, with the key that it was given. -/
structure Unlocked (α : Type) where
  value : α
  generation : Generation
  key : Key
  deriving DecidableEq

/-- What became of the attempts: the keys they were given, in order, the state
after them and the outcome. -/
structure Trial (σ ε α : Type) where
  tried : List Key
  state : σ
  outcome : Except ε (Unlocked α)

namespace KeyRing

/-- A key, unless it is the zero key. -/
def keep (key : Key) : Option Key :=
  if key.isZero then none else some key

/-- The ring with a current and perhaps a previous key. -/
def withPrevious (current : Key) (previous : Option Key) : KeyRing :=
  ⟨current, previous.bind keep⟩

/-- The ring with a current key only. -/
def new (current : Key) : KeyRing :=
  withPrevious current none

/-- Make a key current and keep the old one as previous. -/
def rotate (ring : KeyRing) (key : Key) : KeyRing :=
  ⟨key, keep ring.current⟩

/-- The previous key, if it is not the current one. -/
def fallback (ring : KeyRing) : Option Key :=
  ring.previous.filter (· != ring.current)

/-- Run an attempt with the current key and perhaps with the previous one. -/
def unlock (ring : KeyRing) (attempt : Key → σ → σ × Except ε α) (state : σ) :
    Trial σ ε α :=
  match attempt ring.current state with
  | (state, .ok value) =>
    ⟨[ring.current], state, .ok ⟨value, .current, ring.current⟩⟩
  | (state, .error error) =>
    match ring.fallback with
    | none => ⟨[ring.current], state, .error error⟩
    | some key =>
      let (state, outcome) := attempt key state
      ⟨[ring.current, key], state, outcome.map (⟨·, .previous, key⟩)⟩

/-- Run an attempt that carries no state. -/
def unlockPure (ring : KeyRing) (attempt : Key → Except ε α) :
    Trial Unit ε α :=
  ring.unlock (fun key state => (state, attempt key)) ()

/-- The text shown for a ring, which tells nothing about its keys. -/
def shown (ring : KeyRing) : String :=
  s!"KeyRing \x7b has_previous: {ring.previous.isSome} \x7d"

end KeyRing

end CallbackGate
