import CallbackGate.Bytes.Base64
import CallbackGate.Text.Blank
import CallbackGate.Text.Utf8

/-!
# Keys

A key is thirty-two bytes.  The account's owner hands it out as forty-three
symbols of Base64 without a pad, which spell 258 bits; the two bits over are
dropped.  A key whose bytes are all zero stands for no key.
-/

namespace CallbackGate

/-- A key of the cipher. -/
structure Key where
  bytes : List UInt8
  length_eq : bytes.length = 32
  deriving DecidableEq

namespace Key

/-- The key that stands for no key. -/
def zero : Key := ⟨List.replicate 32 0, rfl⟩

instance : Inhabited Key := ⟨zero⟩

/-- The key with the given bytes, if there are thirty-two of them. -/
def ofBytes? (bytes : List UInt8) : Option Key :=
  if h : bytes.length = 32 then some ⟨bytes, h⟩ else none

/-- The key stands for no key. -/
def isZero (key : Key) : Bool := key == zero

/-- The text shown for a key, which tells nothing about it. -/
def shown (_ : Key) : String := "AesKey(..)"

/-! ## The text of a key -/

/-- The number of symbols of an encoded key. -/
def encodedLength : Nat := 43

/-- Why a text is not an encoded key. -/
inductive Fault
  /-- The trimmed text has another number of bytes. -/
  | textLength (length : Nat)
  /-- The text is not Base64. -/
  | base64 (fault : Bytes.Base64.Fault)
  /-- The text spells another number of bytes, which are wiped. -/
  | keyLength
  /-- A reason given by whoever holds the key. -/
  | other (reason : String)
  deriving DecidableEq, Repr

/-- The wording of a fault.  The count of bytes is taken after they are
wiped. -/
def Fault.message : Fault → String
  | .textLength length => s!"expected {encodedLength} characters, got {length}"
  | .base64 fault => fault.message
  | .keyLength => "decoded to 0 bytes"
  | .other reason => reason

/-- The key that a text encodes. -/
def ofEncoded (text : String) : Except Fault Key :=
  let encoded := Text.Utf8.bytes (Text.trim text)
  if encoded.length ≠ encodedLength then .error (.textLength encoded.length)
  else match Bytes.Base64.decode .lenient encoded with
    | .error fault => .error (.base64 fault)
    | .ok bytes =>
      match ofBytes? bytes with
      | some key => .ok key
      | none => .error .keyLength

/-- The text that encodes a key. -/
def encoded (key : Key) : String :=
  String.ofList <| (Bytes.Base64.encodeUnpadded key.bytes).map fun byte =>
    Char.ofNat byte.toNat

end Key

end CallbackGate
