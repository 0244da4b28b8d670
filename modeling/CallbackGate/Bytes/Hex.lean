/-!
# Hexadecimal

Bytes are written as two small hexadecimal digits each, the high half first.
-/

namespace CallbackGate.Bytes.Hex

/-- The small hexadecimal digit of a value below sixteen. -/
def digit (value : Nat) : Char :=
  if value < 10 then Char.ofNat ('0'.toNat + value)
  else Char.ofNat ('a'.toNat + (value - 10))

/-- The value of a hexadecimal digit in either case. -/
def value? (c : Char) : Option Nat :=
  if '0' ≤ c ∧ c ≤ '9' then some (c.toNat - '0'.toNat)
  else if 'a' ≤ c ∧ c ≤ 'f' then some (c.toNat - 'a'.toNat + 10)
  else if 'A' ≤ c ∧ c ≤ 'F' then some (c.toNat - 'A'.toNat + 10)
  else none

/-- The two digits of a byte. -/
def pair (byte : UInt8) : List Char :=
  [digit (byte.toNat / 16), digit (byte.toNat % 16)]

/-- The digits of a list of bytes. -/
def encode (bytes : List UInt8) : String :=
  String.ofList (bytes.flatMap pair)

/-- Read pairs of digits after the bytes already read, the last one first. -/
def decodeFrom (before : List UInt8) : List Char → Option (List UInt8)
  | [] => some before.reverse
  | [_] => none
  | high :: low :: rest =>
    match value? high, value? low with
    | some h, some l => decodeFrom (UInt8.ofNat (h * 16 + l) :: before) rest
    | _, _ => none

/-- The bytes that pairs of hexadecimal digits spell. -/
def decode? (text : String) : Option (List UInt8) :=
  decodeFrom [] text.toList

theorem value?_digit : ∀ v < 16, value? (digit v) = some v := by
  decide

@[simp] theorem length_pair (byte : UInt8) : (pair byte).length = 2 := rfl

theorem decodeFrom_flatMap_pair (bytes before : List UInt8) :
    decodeFrom before (bytes.flatMap pair) = some (before.reverse ++ bytes) := by
  induction bytes generalizing before with
  | nil => simp [decodeFrom]
  | cons byte rest ih =>
    have hhigh : byte.toNat / 16 < 16 := by have := byte.toNat_lt; omega
    have hlow : byte.toNat % 16 < 16 := by omega
    have hbyte : UInt8.ofNat (byte.toNat / 16 * 16 + byte.toNat % 16) = byte := by
      rw [Nat.mul_comm, Nat.div_add_mod, UInt8.ofNat_toNat]
    simp [pair, decodeFrom, value?_digit _ hhigh, value?_digit _ hlow, hbyte,
      ih]

/-- Reading undoes writing. -/
theorem decode?_encode (bytes : List UInt8) :
    decode? (encode bytes) = some bytes := by
  simp [decode?, encode, decodeFrom_flatMap_pair]

end CallbackGate.Bytes.Hex
