/-!
# Buffer pools

Requests borrow byte buffers from a pool.  A buffer is wiped before it goes
back, and a pool that is full lets it go.  `Loans` is a pool together with the
buffers that are out, each in a slot of its own, and the steps that borrow,
write and return.
-/

namespace CallbackGate

/-- Idle buffers, the next one to lend first, and how many may be kept. -/
structure Pool where
  bound : Nat
  idle : List (List UInt8)
  deriving DecidableEq, Repr

namespace Pool

/-- A pool with no idle buffer. -/
def new (bound : Nat) : Pool := ⟨bound, []⟩

/-- The pool that is used when no bound is given. -/
def standard : Pool := new 64

/-- Borrow a buffer: an idle one, or a new one, which is empty. -/
def borrow (pool : Pool) : List UInt8 × Pool :=
  match pool.idle with
  | [] => ([], pool)
  | buffer :: rest => (buffer, { pool with idle := rest })

/-- A buffer with its bytes wiped. -/
def wipe (_ : List UInt8) : List UInt8 := []

/-- Return a buffer. -/
def giveBack (pool : Pool) (buffer : List UInt8) : Pool :=
  if pool.idle.length < pool.bound then
    { pool with idle := wipe buffer :: pool.idle }
  else pool

end Pool

/-- A pool and the buffers that were borrowed from it, each in the slot of its
number; a buffer that went back leaves its slot empty. -/
structure Loans where
  pool : Pool
  slots : List (Option (List UInt8))
  deriving DecidableEq, Repr

namespace Loans

/-- What can be done with a pool and its loans. -/
inductive Step
  /-- Borrow a buffer into the next slot. -/
  | borrow
  /-- Write bytes at the end of the buffer in a slot. -/
  | write (slot : Nat) (bytes : List UInt8)
  /-- Return the buffer in a slot. -/
  | giveBack (slot : Nat)
  deriving DecidableEq, Repr

/-- A pool with no loans. -/
def start (pool : Pool) : Loans := ⟨pool, []⟩

/-- The buffer in a slot, if one is there. -/
def buffer? (loans : Loans) (slot : Nat) : Option (List UInt8) :=
  loans.slots[slot]?.join

/-- Take a step.  A step on a slot without a buffer does nothing. -/
def step (loans : Loans) : Step → Loans
  | .borrow =>
    let (buffer, pool) := loans.pool.borrow
    ⟨pool, loans.slots ++ [some buffer]⟩
  | .write slot bytes =>
    match loans.buffer? slot with
    | some buffer =>
      { loans with slots := loans.slots.set slot (some (buffer ++ bytes)) }
    | none => loans
  | .giveBack slot =>
    match loans.buffer? slot with
    | some buffer =>
      ⟨loans.pool.giveBack buffer, loans.slots.set slot none⟩
    | none => loans

/-- Take steps one after the other. -/
def run (loans : Loans) (steps : List Step) : Loans :=
  steps.foldl step loans

end Loans

end CallbackGate
