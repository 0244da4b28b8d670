/-!
# Base64

The standard alphabet, three bytes as four symbols.  `encode` writes pads so
that the length is a multiple of four, and `encodeUnpadded` writes none.

`decode` reads groups of four symbols, the last of which may be short or end
in pads.  `Rules` says how strict it is with the last group: whether pads must
fill it, and whether the bits that belong to no byte may be set.  The faults
come in the order of the input, except that a last symbol that stands alone in
its group is tested first.
-/

namespace CallbackGate.Bytes.Base64

/-! ## The alphabet -/

/-- The pad, an equals sign. -/
def pad : UInt8 := 61

/-- The symbol of a value below sixty-four. -/
def symbol (value : Nat) : UInt8 :=
  if value < 26 then UInt8.ofNat (65 + value)
  else if value < 52 then UInt8.ofNat (97 + (value - 26))
  else if value < 62 then UInt8.ofNat (48 + (value - 52))
  else if value = 62 then 43
  else 47

/-- The value of a symbol of the alphabet. -/
def value? (byte : UInt8) : Option Nat :=
  let b := byte.toNat
  if 65 ≤ b ∧ b ≤ 90 then some (b - 65)
  else if 97 ≤ b ∧ b ≤ 122 then some (b - 97 + 26)
  else if 48 ≤ b ∧ b ≤ 57 then some (b - 48 + 52)
  else if b = 43 then some 62
  else if b = 47 then some 63
  else none

/-- A byte of the alphabet. -/
def isSymbol (byte : UInt8) : Bool :=
  (value? byte).isSome

theorem value?_symbol : ∀ v < 64, value? (symbol v) = some v := by
  decide

/-! ## Writing -/

/-- The symbols of bytes, without pads. -/
def encodeUnpadded : List UInt8 → List UInt8
  | [] => []
  | [a] =>
    [symbol (a.toNat / 4), symbol (a.toNat % 4 * 16)]
  | [a, b] =>
    [symbol (a.toNat / 4), symbol (a.toNat % 4 * 16 + b.toNat / 16),
      symbol (b.toNat % 16 * 4)]
  | a :: b :: c :: rest =>
    symbol (a.toNat / 4) :: symbol (a.toNat % 4 * 16 + b.toNat / 16) ::
      symbol (b.toNat % 16 * 4 + c.toNat / 64) :: symbol (c.toNat % 64) ::
        encodeUnpadded rest

/-- The symbols of bytes and the pads that fill the last group. -/
def encode (bytes : List UInt8) : List UInt8 :=
  encodeUnpadded bytes ++ List.replicate ((3 - bytes.length % 3) % 3) pad

/-! ## Reading -/

/-- Why bytes are not Base64. -/
inductive Fault
  /-- A byte that has no place where it stands. -/
  | symbol (byte : UInt8) (offset : Nat)
  /-- The input ends with a single symbol of a group. -/
  | loneSymbol (length : Nat)
  /-- The last symbol has bits set that belong to no byte. -/
  | lastSymbol (byte : UInt8) (offset : Nat)
  /-- The pads that fill the last group are missing. -/
  | padding
  deriving DecidableEq, Repr

/-- The wording of a fault. -/
def Fault.message : Fault → String
  | .symbol byte offset => s!"Invalid symbol {byte.toNat}, offset {offset}."
  | .loneSymbol length => s!"Invalid input length: {length}"
  | .lastSymbol byte offset =>
    s!"Invalid last symbol {byte.toNat}, offset {offset}."
  | .padding => "Invalid padding"

/-- How strict a reader is with the last group. -/
structure Rules where
  /-- The last group must be filled with pads. -/
  padded : Bool
  /-- Bits of the last symbol that belong to no byte must be zero. -/
  exact : Bool
  deriving DecidableEq, Repr

/-- Pads fill the last group, and no stray bit is set. -/
def Rules.strict : Rules := ⟨true, true⟩

/-- Pads may be missing, and stray bits are dropped. -/
def Rules.lenient : Rules := ⟨false, false⟩

/-- The three bytes of four values. -/
def joinGroup (a b c d : Nat) : List UInt8 :=
  [UInt8.ofNat (a * 4 + b / 16), UInt8.ofNat (b % 16 * 16 + c / 4),
    UInt8.ofNat (c % 4 * 64 + d)]

/-- The last group as it is read: the values of its symbols and the last
symbol, the last one first, and where the first pad stands and how many pads
there are. -/
structure LastGroup where
  values : List (Nat × UInt8) := []
  pads : Nat := 0
  deriving Repr

/-- Read a byte of the last group.  `offset` is where the group begins. -/
def LastGroup.read (offset : Nat) (group : LastGroup) (byte : UInt8) :
    Except Fault LastGroup :=
  let place := group.values.length + group.pads
  if byte = pad then
    if place < 2 then .error (.symbol byte (offset + place))
    else .ok { group with pads := group.pads + 1 }
  else if 0 < group.pads then
    .error (.symbol pad (offset + group.values.length))
  else match value? byte with
    | none => .error (.symbol byte (offset + place))
    | some value => .ok { group with values := (value, byte) :: group.values }

/-- The bytes of the last group, which begins at `offset` and has at least one
byte. -/
def LastGroup.finish (rules : Rules) (offset : Nat) (group : LastGroup) :
    Except Fault (List UInt8) :=
  let count := group.values.length
  let strayBits (bits : Nat) (bytes : List UInt8) : Except Fault (List UInt8) :=
    match group.values with
    | (value, byte) :: _ =>
      if rules.exact && value % bits != 0 then
        .error (.lastSymbol byte (offset + count - 1))
      else .ok bytes
    | [] => .ok bytes
  if count < 2 then .error (.loneSymbol (offset + count))
  else if rules.padded && (count + group.pads) % 4 != 0 then .error .padding
  else match group.values.reverse with
    | [(a, _), (b, _)] => strayBits 16 ((joinGroup a b 0 0).take 1)
    | [(a, _), (b, _), (c, _)] => strayBits 4 ((joinGroup a b c 0).take 2)
    | [(a, _), (b, _), (c, _), (d, _)] => .ok (joinGroup a b c d)
    | _ => .ok []

/-- The value of a symbol that stands at `offset`. -/
def valueAt (offset : Nat) (byte : UInt8) : Except Fault Nat :=
  match value? byte with
  | some value => .ok value
  | none => .error (.symbol byte offset)

/-- Read groups of symbols, the first of which stands at `offset`, after the
bytes read before, the last one first.  The last group is the one after which
there is nothing. -/
def decodeFrom (rules : Rules) (offset : Nat) (before : List UInt8) :
    List UInt8 → Except Fault (List UInt8)
  | a :: b :: c :: d :: e :: rest => do
    let a ← valueAt offset a
    let b ← valueAt (offset + 1) b
    let c ← valueAt (offset + 2) c
    let d ← valueAt (offset + 3) d
    decodeFrom rules (offset + 4) ((joinGroup a b c d).reverse ++ before)
      (e :: rest)
  | [] => .ok before.reverse
  | last => do
    let group ← last.foldlM (LastGroup.read offset) {}
    let bytes ← group.finish rules offset
    .ok (before.reverse ++ bytes)

/-- The byte that stands alone in its group at the end of an input, when it is
neither a symbol nor a pad. -/
def strayLast? (input : List UInt8) : Option UInt8 :=
  if input.length % 4 = 1 then
    input.getLast?.filter fun byte => byte != pad && !isSymbol byte
  else none

/-- The bytes that an input in Base64 spells. -/
def decode (rules : Rules) (input : List UInt8) : Except Fault (List UInt8) :=
  match strayLast? input with
  | some byte => .error (.symbol byte (input.length - 1))
  | none => decodeFrom rules 0 [] input

end CallbackGate.Bytes.Base64
