/-!
# UTF-8

`bytes` writes a text as UTF-8.  Reading runs a machine over the bytes, one at
a time, that splits them into `Piece`s: characters, sequences that are not
UTF-8, and at most one sequence that the end cuts short.  Two readers stand on
the pieces:

* `decode` refuses the first piece that is not a character and says where it
  stands and how long it is;
* `decodeLossy` puts the replacement character in the place of each.

A sequence that is not UTF-8 is as long as the longest part of it that some
well-formed sequence begins with, and at least one byte.
-/

namespace CallbackGate.Text.Utf8

/-- The UTF-8 bytes of a text. -/
def bytes (text : String) : List UInt8 :=
  text.toList.flatMap String.utf8EncodeChar

/-! ## Pieces -/

/-- What a reader finds at one place of its input. -/
inductive Piece
  /-- A character, spelled in the given number of bytes. -/
  | char (c : Char) (length : Nat)
  /-- Bytes that no well-formed sequence begins with. -/
  | invalid (length : Nat)
  /-- A sequence that is well formed so far when the input ends. -/
  | incomplete (length : Nat)
  deriving DecidableEq, Repr

/-- A sequence that has begun and is not over. -/
structure Partial where
  /-- The code point spelled so far. -/
  value : Nat
  /-- The number of bytes still due, at least one. -/
  due : Nat
  /-- The number of bytes read. -/
  length : Nat
  /-- The least value of the next byte. -/
  low : Nat
  /-- The greatest value of the next byte. -/
  high : Nat
  deriving DecidableEq, Repr

/-- The sequence of several bytes that a first byte begins, if it begins one.
The bounds of the second byte leave out overlong forms, surrogates and code
points above `10FFFF`. -/
def Partial.ofLead? (b : Nat) : Option Partial :=
  if 0xC2 ≤ b ∧ b ≤ 0xDF then some ⟨b - 0xC0, 1, 1, 0x80, 0xBF⟩
  else if b = 0xE0 then some ⟨0x0, 2, 1, 0xA0, 0xBF⟩
  else if b = 0xED then some ⟨0xD, 2, 1, 0x80, 0x9F⟩
  else if 0xE1 ≤ b ∧ b ≤ 0xEF then some ⟨b - 0xE0, 2, 1, 0x80, 0xBF⟩
  else if b = 0xF0 then some ⟨0, 3, 1, 0x90, 0xBF⟩
  else if b = 0xF4 then some ⟨4, 3, 1, 0x80, 0x8F⟩
  else if 0xF1 ≤ b ∧ b ≤ 0xF3 then some ⟨b - 0xF0, 3, 1, 0x80, 0xBF⟩
  else none

/-- The machine: the pieces found, the last one first, and the sequence that
is not over. -/
structure Machine where
  found : List Piece := []
  pending : Option Partial := none

/-- Read a byte that stands between sequences. -/
def Machine.start (found : List Piece) (b : Nat) : Machine :=
  if b < 0x80 then ⟨.char (Char.ofNat b) 1 :: found, none⟩
  else match Partial.ofLead? b with
    | some sequence => ⟨found, some sequence⟩
    | none => ⟨.invalid 1 :: found, none⟩

/-- Read a byte.  A byte that a sequence cannot go on with ends it as invalid
and is read again between sequences. -/
def Machine.read (machine : Machine) (byte : UInt8) : Machine :=
  let b := byte.toNat
  match machine.pending with
  | none => Machine.start machine.found b
  | some sequence =>
    if sequence.low ≤ b ∧ b ≤ sequence.high then
      let value := sequence.value * 64 + (b - 0x80)
      if sequence.due ≤ 1 then
        ⟨.char (Char.ofNat value) (sequence.length + 1) :: machine.found, none⟩
      else
        ⟨machine.found,
          some ⟨value, sequence.due - 1, sequence.length + 1, 0x80, 0xBF⟩⟩
    else Machine.start (.invalid sequence.length :: machine.found) b

/-- The pieces found when the input is over, in their order. -/
def Machine.finish (machine : Machine) : List Piece :=
  match machine.pending with
  | none => machine.found.reverse
  | some sequence => (.incomplete sequence.length :: machine.found).reverse

/-- The pieces of an input. -/
def pieces (input : List UInt8) : List Piece :=
  (input.foldl Machine.read {}).finish

/-! ## Readers -/

/-- Where and why an input is not UTF-8. -/
inductive Fault
  /-- Bytes that no well-formed sequence begins with. -/
  | invalid (length index : Nat)
  /-- The input ends inside a sequence that is well formed so far. -/
  | incomplete (index : Nat)
  deriving DecidableEq, Repr

/-- The wording of a fault. -/
def Fault.message : Fault → String
  | .invalid length index =>
    s!"invalid utf-8 sequence of {length} bytes from index {index}"
  | .incomplete index => s!"incomplete utf-8 byte sequence from index {index}"

/-- The characters of the pieces, the first of which stands at the given
index, after the characters read before, the last one first. -/
def decodeFrom (index : Nat) (before : List Char) :
    List Piece → Except Fault (List Char)
  | [] => .ok before.reverse
  | .char c length :: rest => decodeFrom (index + length) (c :: before) rest
  | .invalid length :: _ => .error (.invalid length index)
  | .incomplete _ :: _ => .error (.incomplete index)

/-- The text that the bytes spell. -/
def decode (input : List UInt8) : Except Fault String :=
  (decodeFrom 0 [] (pieces input)).map String.ofList

/-- The text that the bytes spell, with a replacement character for each piece
that is not a character. -/
def decodeLossy (input : List UInt8) : String :=
  String.ofList <| (pieces input).map fun
    | .char c _ => c
    | .invalid _ | .incomplete _ => '\uFFFD'

end CallbackGate.Text.Utf8
