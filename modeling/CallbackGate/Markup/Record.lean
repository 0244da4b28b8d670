import CallbackGate.Markup.Attributes
import CallbackGate.Markup.Node
import CallbackGate.Text.Binary64
import CallbackGate.Text.Utf8

/-!
# Elements as records

A record is an element whose children are its fields, told apart by the part of
their names after the first colon.  A record is described by the list of its
fields, each with a reader for the content of its child (`Field`).  Children
of other names are skipped, and so is text between children; a field given
twice is an error.  Errors come in the order of the document.
-/

namespace CallbackGate.Markup

/-- Why the body of a message cannot be read. -/
inductive BodyError
  /-- The body is not UTF-8. -/
  | notUtf8 (fault : Text.Utf8.Fault)
  /-- The body is not a document of the expected shape. -/
  | malformed
  /-- A field that a record must have is not there. -/
  | missingField (name : String)
  /-- A field stands twice in a record. -/
  | duplicateField (name : String)
  /-- The text of a field is not a number of its kind. -/
  | numeral (fault : Text.NumeralFault)
  deriving DecidableEq, Repr

/-- The wording of an error. -/
def BodyError.message : BodyError → String
  | .notUtf8 fault => fault.message
  | .malformed => "not a well-formed document of the expected shape"
  | .missingField name => "missing field `" ++ name ++ "`"
  | .duplicateField name => "duplicate field `" ++ name ++ "`"
  | .numeral fault => fault.message

/-- A reader of an element, given the text of its attributes and its
content. -/
abbrev Reader (α : Type) := List Char → List Node → Except BodyError α

/-- A field of a record: its name and what its child changes in the record. -/
structure Field (α : Type) where
  name : String
  read : Reader (α → α)

namespace Record

/-- The text of a run. -/
def runText (run : Run) : Except BodyError String :=
  match run.value? with
  | some characters => .ok (String.ofList characters)
  | none => .error .malformed

/-- The text of an element that holds nothing but text. -/
def contentText : List Node → Except BodyError String
  | [] => .ok ""
  | [.text run] => runText run
  | _ => .error .malformed

/-- An element that is not used can be passed over: it could be read to its
end, and the escapes of text at its beginning can be read. -/
def canSkip (content : List Node) : Bool :=
  Node.allIntact content &&
    match content with
    | .text run :: _ => run.value?.isSome
    | _ => true

/-- Read children into a record.  `seen` holds the names of the fields that
have been read. -/
def readChildren (fields : List (Field α)) (seen : List String) (record : α) :
    List Node → Except BodyError (List String × α)
  | [] => .ok (seen, record)
  | .fault :: _ => .error .malformed
  | .text run :: rest =>
    match runText run with
    | .error error => .error error
    | .ok _ => readChildren fields seen record rest
  | .element name attributes content :: rest =>
    match fields.find? (·.name == localName name) with
    | none =>
      if canSkip content then readChildren fields seen record rest
      else .error .malformed
    | some field =>
      if seen.contains field.name then .error (.duplicateField field.name)
      else match field.read attributes content with
        | .error error => .error error
        | .ok change =>
          readChildren fields (field.name :: seen) (change record) rest

/-- Read an element as a record with the given fields, starting from a record
in which they are absent.  The first required field that is not there is an
error. -/
def read (fields : List (Field α)) (required : List String) (blank : α) :
    Reader α := fun attributes content =>
  if !Attributes.wellFormed attributes then .error .malformed
  else match readChildren fields [] blank content with
    | .error error => .error error
    | .ok (seen, record) =>
      match required.find? (!seen.contains ·) with
      | some name => .error (.missingField name)
      | none => .ok record

/-- Read the root of a document as a record. -/
def ofBody (reader : Reader α) (body : List UInt8) : Except BodyError α :=
  match Text.Utf8.decode body with
  | .error fault => .error (.notUtf8 fault)
  | .ok document =>
    match Node.root? document with
    | some (.element _ attributes content) => reader attributes content
    | _ => .error .malformed

end Record

/-! ## Fields -/

namespace Field

/-- A field that holds text. -/
def text (name : String) (set : String → α → α) : Field α where
  name
  read _ content := (Record.contentText content).map set

/-- A field that holds a numeral, read by `parse` after white space is trimmed.
A blank one counts as absent. -/
def numeral (name : String)
    (parse : List Char → Except Text.NumeralFault β) (set : β → α → α) :
    Field α where
  name
  read _ content :=
    match Record.contentText content with
    | .error error => .error error
    | .ok value =>
      match (Text.trim value).toList with
      | [] => .ok id
      | digits =>
        match parse digits with
        | .error fault => .error (.numeral fault)
        | .ok number => .ok (set number)

/-- A field that holds a numeral, which must not be blank and is not
trimmed. -/
def bareNumeral (name : String)
    (parse : List Char → Except Text.NumeralFault β) (set : β → α → α) :
    Field α where
  name
  read _ content :=
    match Record.contentText content with
    | .error error => .error error
    | .ok value =>
      match parse value.toList with
      | .error fault => .error (.numeral fault)
      | .ok number => .ok (set number)

/-- A field that holds a record. -/
def record (name : String) (reader : Reader β) (set : β → α → α) :
    Field α where
  name
  read attributes content := (reader attributes content).map set

end Field

/-! ## Lists of items -/

namespace Record

/-- Where a reader of a list stands: before the first item, among items with
the given full name, or after the last one. -/
inductive ItemPhase
  | before
  | among (name : String)
  | after
  deriving DecidableEq, Repr

/-- Read children as a list of items, after the items read before, the last one
first.  Items stand next to each other under one full name, with no text
between them; an item that stands apart is a field given twice. -/
def readItems (item : String) (reader : Reader α) (found : List α) :
    ItemPhase → List Node → Except BodyError (List α)
  | _, [] => .ok found.reverse
  | _, .fault :: _ => .error .malformed
  | phase, .text run :: rest =>
    match runText run, phase with
    | .error error, _ => .error error
    | .ok _, .among _ => .error .malformed
    | .ok _, phase => readItems item reader found phase rest
  | phase, .element name attributes content :: rest =>
    let isNext := match phase with
      | .before => localName name == item
      | .among first => name == first
      | .after => false
    if isNext then
      match reader attributes content with
      | .error error => .error error
      | .ok value => readItems item reader (value :: found) (.among name) rest
    else if localName name == item then .error (.duplicateField item)
    else if canSkip content then
      let phase := match phase with
        | .before => .before
        | _ => .after
      readItems item reader found phase rest
    else .error .malformed

/-- Read an element as a list of items. -/
def items (item : String) (reader : Reader α) : Reader (List α) :=
  fun attributes content =>
    if !Attributes.wellFormed attributes then .error .malformed
    else readItems item reader [] .before content

end Record

end CallbackGate.Markup
