import CallbackGate.Bytes.Hex
import CallbackGate.Text.Utf8

/-!
# Form fields

A query string is a list of fields.  Fields stand between ampersands, empty
ones do not count, and the first equals sign of a field parts its name from
its value.  In both, a plus sign is a space and a percent sign with two
hexadecimal digits is a byte; any other percent sign stands for itself.  Bytes
that are not UTF-8 read as replacement characters.
-/

namespace CallbackGate.Bytes.Form

/-- The parts of a list between the separators, at least one. -/
def splitOn (separator : UInt8) (bytes : List UInt8) : List (List UInt8) :=
  bytes.foldr (fun byte parts =>
    if byte = separator then [] :: parts
    else match parts with
      | part :: rest => (byte :: part) :: rest
      | [] => [[byte]]) [[]]

/-- The hexadecimal value of an ASCII digit. -/
def hexValue? (byte : UInt8) : Option Nat :=
  Hex.value? (Char.ofNat byte.toNat)

/-- Read a name or a value after the bytes read before, the last one first. -/
def unescapeFrom (before : List UInt8) : List UInt8 → List UInt8
  | [] => before.reverse
  | 0x2B :: rest => unescapeFrom (0x20 :: before) rest
  | 0x25 :: high :: low :: rest =>
    match hexValue? high, hexValue? low with
    | some h, some l => unescapeFrom (UInt8.ofNat (h * 16 + l) :: before) rest
    | _, _ => unescapeFrom (0x25 :: before) (high :: low :: rest)
  | byte :: rest => unescapeFrom (byte :: before) rest

/-- The text of a name or a value. -/
def unescape (bytes : List UInt8) : String :=
  Text.Utf8.decodeLossy (unescapeFrom [] bytes)

/-- The name and the value of a field. -/
def field (bytes : List UInt8) : String × String :=
  (unescape (bytes.takeWhile (· != 0x3D)),
    unescape ((bytes.dropWhile (· != 0x3D)).drop 1))

/-- The fields of a query string, in their order. -/
def fields (query : String) : List (String × String) :=
  ((splitOn 0x26 (Text.Utf8.bytes query)).filter (!·.isEmpty)).map field

end CallbackGate.Bytes.Form
