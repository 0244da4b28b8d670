import CallbackGate.Text.Blank

/-!
# Attributes

The attributes of an element carry nothing that is used.  Where an element is
read as a record they must be well formed all the same: a name, an equals sign
and a value in quotation marks, no name twice.
-/

namespace CallbackGate.Markup.Attributes

/-- The text from its first character that is not white space. -/
def skipSpace (input : List Char) : List Char :=
  input.dropWhile Text.isMarkupSpace

/-- The text after a value in quotation marks. -/
def afterValue? : List Char → Option (List Char)
  | [] => none
  | mark :: rest =>
    if mark = '\'' ∨ mark = '"' then
      match rest.dropWhile (· != mark) with
      | [] => none
      | _ :: rest => some rest
    else none

/-- The name of an attribute and the text after its value.  The first
character belongs to the name whatever it is. -/
def next? : List Char → Option (List Char × List Char)
  | [] => none
  | c :: rest =>
    let (more, rest) := rest.span fun d => d != '=' && !Text.isMarkupSpace d
    match skipSpace rest with
    | '=' :: rest =>
      (afterValue? (skipSpace rest)).map fun rest => (c :: more, rest)
    | _ => none

/-- The attributes are well formed, and none of them has one of the given
names.  There are at most as many as `fuel` says. -/
def wellFormedFrom : (fuel : Nat) → (names : List (List Char)) →
    List Char → Bool
  | 0, _, _ => false
  | fuel + 1, names, input =>
    match skipSpace input with
    | [] => true
    | input =>
      match next? input with
      | none => false
      | some (name, rest) =>
        !names.contains name && wellFormedFrom fuel (name :: names) rest

/-- The attributes of a start tag are well formed.  Each has at least one
character. -/
def wellFormed (attributes : List Char) : Bool :=
  wellFormedFrom (attributes.length + 1) [] attributes

end CallbackGate.Markup.Attributes
