import CallbackGate.Bytes.Hex
import CallbackGate.Text.Integer

/-!
# Escapes in text

In the text of a document an ampersand begins an escape that a semicolon ends:
one of five names, or a number sign and a code point.  `unescape` replaces the
escapes of a text and refuses one that it does not know.  `escape` writes the
five characters that have a name.
-/

namespace CallbackGate.Markup

/-- The character that a name stands for. -/
def named? (name : List Char) : Option Char :=
  if name == "lt".toList then some '<'
  else if name == "gt".toList then some '>'
  else if name == "amp".toList then some '&'
  else if name == "quot".toList then some '"'
  else if name == "apos".toList then some '\''
  else none

/-- The number that digits spell in a base, if all of them are digits. -/
def codePoint? (base : Nat) (value? : Char → Option Nat)
    (digits : List Char) : Option Nat :=
  digits.foldlM (fun total c => (value? c).map (total * base + ·)) 0

/-- The character with a code point.  Zero is no character of a document. -/
def scalar? (code : Nat) : Option Char :=
  if h : code.isValidChar ∧ code ≠ 0 then
    some (Char.ofNatAux code h.1)
  else none

/-- The character that the text after a number sign stands for.  A decimal
code point has at most seven digits and a hexadecimal one at most six. -/
def numbered? : List Char → Option Char
  | 'x' :: digits =>
    if digits.length ≤ 6 then
      (codePoint? 16 Bytes.Hex.value? digits).bind scalar?
    else none
  | digits =>
    if digits.length ≤ 7 then
      (codePoint? 10 Text.digit? digits).bind scalar?
    else none

/-- The character that the text between an ampersand and a semicolon stands
for. -/
def escaped? : List Char → Option Char
  | '#' :: number => numbered? number
  | name => named? name

/-- Where a reader of escapes stands: in plain text, or in an escape whose
characters so far are given, the last one first. -/
inductive EscapeState
  | plain
  | within (name : List Char)
  deriving DecidableEq, Repr

/-- Replace the escapes of a text, after the characters read before, the last
one first. -/
def unescapeFrom (before : List Char) :
    EscapeState → List Char → Option (List Char)
  | .plain, [] => some before.reverse
  | .within _, [] => none
  | .plain, c :: rest =>
    if c = '&' then unescapeFrom before (.within []) rest
    else unescapeFrom (c :: before) .plain rest
  | .within name, c :: rest =>
    if c = ';' then
      match escaped? name.reverse with
      | some character => unescapeFrom (character :: before) .plain rest
      | none => none
    else if c = '&' then none
    else unescapeFrom before (.within (c :: name)) rest

/-- The text with its escapes replaced. -/
def unescape (text : List Char) : Option (List Char) :=
  unescapeFrom [] .plain text

/-- A character as it is written in text. -/
def escapeChar (c : Char) : List Char :=
  if c = '<' then "&lt;".toList
  else if c = '>' then "&gt;".toList
  else if c = '&' then "&amp;".toList
  else if c = '\'' then "&apos;".toList
  else if c = '"' then "&quot;".toList
  else [c]

/-- A text as it is written in a document. -/
def escape (text : List Char) : List Char :=
  text.flatMap escapeChar

end CallbackGate.Markup
