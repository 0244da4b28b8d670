import CallbackGate.Markup.Entity
import CallbackGate.Markup.Token

/-!
# Documents as trees

A document is read as a tree of elements and runs of text.  It is read from its
beginning, and what cannot be read appears in the tree as a `fault` in the
place where reading stopped: all that comes before it is there.  So a reader
of the tree meets the first thing that is wrong with a document in the order of
the document.

A run of text is made of text and CDATA sections between two tags; comments and
instructions do not part a run.  The text at the beginning of a run loses its
leading white space and the text at the end its trailing white space.  White
space alone is no run.
-/

namespace CallbackGate.Markup

/-- A part of a run of text. -/
inductive Piece
  /-- Text as it is written, with its escapes. -/
  | plain (raw : List Char)
  /-- The content of a CDATA section. -/
  | literal (content : List Char)
  deriving DecidableEq, Repr

/-- The text of a piece, if its escapes can be read. -/
def Piece.value? : Piece → Option (List Char)
  | .plain raw => unescape raw
  | .literal content => some content

/-- A run of text. -/
abbrev Run := List Piece

/-- The text of a run, if its escapes can be read. -/
def Run.value? (run : Run) : Option (List Char) :=
  (run.mapM Piece.value?).map List.flatten

/-! ## Runs between tags -/

/-- A tag, a run of text between two tags, or the place where tokens stop. -/
inductive Event
  | start (name : String) (attributes : List Char)
  | stop (name : String)
  | text (run : Run)
  | fault
  deriving DecidableEq, Repr

namespace Event

/-- Text at the beginning of a run without its leading white space. -/
def trimStart (raw : List Char) : List Char :=
  raw.dropWhile Text.isMarkupSpace

/-- Text at the end of a run without its trailing white space. -/
def trimEnd (raw : List Char) : List Char :=
  Text.stripEnd Text.isMarkupSpace raw

/-- A run with more text, the last piece first. -/
def addText (run : Run) (raw : List Char) : Run :=
  match run with
  | [] =>
    let raw := trimStart raw
    if raw.isEmpty then [] else [.plain raw]
  | run => .plain raw :: run

/-- The event of a run that is over, given its last piece first. -/
def ofRun : Run → List Event
  | [] => []
  | .plain raw :: rest => [.text (.plain (trimEnd raw) :: rest).reverse]
  | run => [.text run.reverse]

/-- The events of tokens, after the pieces of a run that is not over, the last
piece first. -/
def ofTokensFrom (run : Run) : List Token → List Event
  | [] => ofRun run
  | .text raw :: rest => ofTokensFrom (addText run raw) rest
  | .cdata content :: rest => ofTokensFrom (.literal content :: run) rest
  | .aside :: rest => ofTokensFrom run rest
  | .doctype :: rest => ofRun run ++ ofTokensFrom [] rest
  | .start name attributes :: rest =>
    ofRun run ++ .start name attributes :: ofTokensFrom [] rest
  | .stop name :: rest => ofRun run ++ .stop name :: ofTokensFrom [] rest
  | .broken :: _ => ofRun run ++ [.fault]

/-- The events of a document. -/
def ofTokens (tokens : List Token) : List Event :=
  ofTokensFrom [] tokens

end Event

/-! ## The tree -/

/-- A part of a document. -/
inductive Node
  /-- A run of text. -/
  | text (run : Run)
  /-- An element with its full name, the text of its attributes and its
  content. -/
  | element (name : String) (attributes : List Char) (content : List Node)
  /-- The place where the document cannot be read any further. -/
  | fault
  deriving Repr

namespace Node

/-- An element whose end tag has not been read, with its content so far, the
last part first. -/
structure Unclosed where
  name : String
  attributes : List Char
  content : List Node

/-- The element with the content it has. -/
def Unclosed.close (element : Unclosed) : Node :=
  .element element.name element.attributes element.content.reverse

/-- The element with one more part of its content. -/
def Unclosed.add (element : Unclosed) (node : Node) : Unclosed :=
  { element with content := node :: element.content }

/-- The outermost element when reading stops at a fault.  `outer` holds the
elements around this one, the innermost first. -/
def breakOff (element : Unclosed) (outer : List Unclosed) : Node :=
  outer.foldl (fun node around => (around.add node).close)
    (element.add .fault).close

/-- The outermost element that events complete. -/
def build (element : Unclosed) (outer : List Unclosed) : List Event → Node
  | [] => breakOff element outer
  | .fault :: _ => breakOff element outer
  | .text run :: rest => build (element.add (.text run)) outer rest
  | .start name attributes :: rest =>
    build ⟨name, attributes, []⟩ (element :: outer) rest
  | .stop name :: rest =>
    if name = element.name then
      match outer with
      | [] => element.close
      | around :: outer => build (around.add element.close) outer rest
    else breakOff element outer

/-- The root element of a document.  Nothing but white space, comments,
instructions and a document type may come before it, and whatever follows it
does not matter. -/
def root? (document : String) : Option Node :=
  match Event.ofTokens (Token.scan document) with
  | .start name attributes :: rest =>
    some (build ⟨name, attributes, []⟩ [] rest)
  | _ => none

mutual

/-- The document could be read throughout this part. -/
def intact : Node → Bool
  | text _ => true
  | element _ _ content => allIntact content
  | fault => false

/-- The document could be read throughout these parts. -/
def allIntact : List Node → Bool
  | [] => true
  | node :: rest => node.intact && allIntact rest

end

end Node

/-- The part of a name after its first colon, or the whole name. -/
def localName (name : String) : String :=
  match name.toList.dropWhile (· != ':') with
  | _ :: rest => String.ofList rest
  | [] => name

end CallbackGate.Markup
