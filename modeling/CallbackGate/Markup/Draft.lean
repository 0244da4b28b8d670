import CallbackGate.Markup.Entity

/-!
# Documents to be written

A `Draft` is an element to be written.  Strings are written as CDATA sections
and numbers as text, with no white space between elements.  A section that
would end early, because its content holds `]]>`, is parted in two there.
-/

namespace CallbackGate.Markup

/-- An element to be written. -/
inductive Draft
  /-- An element that holds a string. -/
  | cdata (name value : String)
  /-- An element that holds text with escapes. -/
  | text (name value : String)
  /-- An element that holds other elements. -/
  | group (name : String) (content : List Draft)
  deriving Repr

namespace Draft

/-- The content of a section with `]]>` parted wherever it stands. -/
def partSections : List Char → List Char
  | ']' :: ']' :: '>' :: rest =>
    "]]]]><![CDATA[>".toList ++ partSections rest
  | c :: rest => c :: partSections rest
  | [] => []

/-- The start tag of an element. -/
def startTag (name : String) : List Char :=
  '<' :: name.toList ++ ['>']

/-- The end tag of an element. -/
def stopTag (name : String) : List Char :=
  '<' :: '/' :: name.toList ++ ['>']

mutual

/-- The characters of an element. -/
def write : Draft → List Char
  | cdata name value =>
    startTag name ++ "<![CDATA[".toList ++ partSections value.toList ++
      "]]>".toList ++ stopTag name
  | text name value =>
    startTag name ++ escape value.toList ++ stopTag name
  | group name content => startTag name ++ writeAll content ++ stopTag name

/-- The characters of elements that follow each other. -/
def writeAll : List Draft → List Char
  | [] => []
  | draft :: rest => draft.write ++ writeAll rest

end

/-- The document whose root holds the given elements. -/
def document (content : List Draft) : String :=
  String.ofList (group "xml" content).write

end Draft

end CallbackGate.Markup
