/-!
# Numbers as bytes

A number is written with its most significant byte first.  `toNat` reads the
bytes as one number, and `ofNat` writes the low bytes of a number in a given
width.
-/

namespace CallbackGate.Bytes.BigEndian

/-- The number that the bytes spell after those that gave the value so far. -/
def extend (value : Nat) (bytes : List UInt8) : Nat :=
  bytes.foldl (fun total byte => total * 256 + byte.toNat) value

/-- The number that the bytes spell. -/
def toNat (bytes : List UInt8) : Nat :=
  extend 0 bytes

/-- The low `width` bytes of a number. -/
def ofNat : (width value : Nat) → List UInt8
  | 0, _ => []
  | width + 1, value => ofNat width (value / 256) ++ [UInt8.ofNat value]

@[simp] theorem length_ofNat (width value : Nat) :
    (ofNat width value).length = width := by
  induction width generalizing value with
  | zero => rfl
  | succ width ih => simp [ofNat, ih]

theorem toNat_append_singleton (bytes : List UInt8) (byte : UInt8) :
    toNat (bytes ++ [byte]) = toNat bytes * 256 + byte.toNat := by
  simp [toNat, extend]

end CallbackGate.Bytes.BigEndian
