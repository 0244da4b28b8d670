import CallbackGate.Text.Blank
import CallbackGate.Text.Letters

/-!
# Tokens of a document

`Token.scan` cuts a document into tags, text and the other kinds of markup.
It looks at one construct at a time and knows nothing of nesting.  A construct
that cannot be read gives the token `broken`, after which there are no more.

An element without content, `<a/>`, gives the tokens of `<a></a>`.
-/

namespace CallbackGate.Markup

/-- A construct of a document. -/
inductive Token
  /-- A start tag, with the text between its name and its end. -/
  | start (name : String) (attributes : List Char)
  /-- An end tag. -/
  | stop (name : String)
  /-- Text up to the next tag, as it is written. -/
  | text (raw : List Char)
  /-- The content of a CDATA section. -/
  | cdata (content : List Char)
  /-- A document type declaration. -/
  | doctype
  /-- A comment, a processing instruction or an XML declaration. -/
  | aside
  /-- Markup that cannot be read. -/
  | broken
  deriving DecidableEq, Repr

namespace Token

/-! ## Parts of the input -/

/-- The part of the input before a character and the part after it.  Where the
character is missing, the first part is the whole input. -/
def cut (mark : Char) (input : List Char) : List Char × List Char :=
  let (before, rest) := input.span (· != mark)
  (before, rest.drop 1)

/-- The quotation mark that an attribute value inside a tag waits for. -/
abbrev Quote := Option Char

/-- The state after a character of a tag. -/
def Quote.next : Quote → Char → Quote
  | none, c => if c = '\'' ∨ c = '"' then some c else none
  | some mark, c => if c = mark then none else some mark

/-- The part of the input before the end of a tag, which is the first `>` that
is not in an attribute value, and the part after it. -/
def cutTag (before : List Char) (quote : Quote) :
    List Char → Option (List Char × List Char)
  | [] => none
  | c :: rest =>
    if quote = none ∧ c = '>' then some (before.reverse, rest)
    else cutTag (c :: before) (Quote.next quote c) rest

/-- The part of the input before the first `>` that stands after the given
characters, the last one first, and the part after it.  `before` holds what
was read, the last character first. -/
def cutAfter (mark : List Char) (before : List Char) :
    List Char → Option (List Char × List Char)
  | [] => none
  | c :: rest =>
    if c = '>' ∧ mark.isPrefixOf before then
      some ((before.drop mark.length).reverse, rest)
    else cutAfter mark (c :: before) rest

/-- The part of the input before the first `>` that closes as many angle
brackets as were opened, and the part after it.  `depth` counts the open
ones. -/
def cutBalanced (depth : Nat) (before : List Char) :
    List Char → Option (List Char × List Char)
  | [] => none
  | '>' :: rest =>
    if depth = 0 then some (before.reverse, rest)
    else cutBalanced (depth - 1) ('>' :: before) rest
  | '<' :: rest => cutBalanced (depth + 1) ('<' :: before) rest
  | c :: rest => cutBalanced depth (c :: before) rest

/-- The text after a word at the head of the input, where the case of letters
does not count. -/
def afterWord? (word : String) (input : List Char) : Option (List Char) :=
  let head := input.take word.length
  if Text.sameLetters (String.ofList head) word then
    some (input.drop word.length)
  else none

/-! ## Constructs -/

/-- The tokens of a construct and the input after it. -/
abbrev Read := List Token × List Char

/-- A construct that cannot be read. -/
def failed : Read := ([broken], [])

/-- A start tag, from the character after `<`. -/
def readStart (input : List Char) : Read :=
  match cutTag [] none input with
  | none => failed
  | some (body, rest) =>
    let isEmpty := body.getLast? == some '/'
    let body := if isEmpty then body.dropLast else body
    let (name, attributes) := body.span (!Text.isMarkupSpace ·)
    let name := String.ofList name
    if isEmpty then ([start name attributes, stop name], rest)
    else ([start name attributes], rest)

/-- The name in an end tag, which white space may follow.  Where there is
nothing but white space, the white space is the name. -/
def stopName (body : List Char) : String :=
  let name := Text.stripEnd Text.isMarkupSpace body
  String.ofList (if name.isEmpty then body else name)

/-- An end tag, from the character after `</`.  At the end of the input its
`>` may be missing. -/
def readStop (input : List Char) : Read :=
  let (body, rest) := cut '>' input
  ([stop (stopName body)], rest)

/-- A processing instruction or declaration, from the character after `<?`.  It
ends at the first `>`, which stands after a question mark, and is not
empty. -/
def readInstruction (input : List Char) : Read :=
  let (body, rest) := cut '>' input
  if body.length ≥ 2 ∧ body.getLast? = some '?' then ([aside], rest)
  else failed

/-- A comment, from the character after `<!`. -/
def readComment (input : List Char) : Read :=
  match input with
  | '-' :: '-' :: content =>
    match cutAfter ['-', '-'] [] content with
    | some (_, rest) => ([aside], rest)
    | none => failed
  | _ => failed

/-- A CDATA section, from the character after `<!`. -/
def readCdata (input : List Char) : Read :=
  match afterWord? "[CDATA[" input with
  | none => failed
  | some content =>
    match cutAfter [']', ']'] [] content with
    | some (content, rest) => ([cdata content], rest)
    | none => failed

/-- A document type declaration, from the character after `<!`.  It says
something after its first word. -/
def readDoctype (input : List Char) : Read :=
  match cutBalanced 0 [] input with
  | none => failed
  | some (body, rest) =>
    match afterWord? "DOCTYPE" body with
    | none => failed
    | some content =>
      if content.all Text.isMarkupSpace then failed else ([doctype], rest)

/-- A construct, from the character after `<`.  A lone `<` at the end of the
input is no construct. -/
def readMarkup : List Char → Read
  | [] => ([], [])
  | '/' :: rest => readStop rest
  | '?' :: rest => readInstruction rest
  | '!' :: rest =>
    match rest with
    | '[' :: _ => readCdata rest
    | '-' :: _ => readComment rest
    | 'D' :: _ | 'd' :: _ => readDoctype rest
    | _ => failed
  | rest => readStart rest

/-- The construct at the head of the input. -/
def readNext : List Char → Read
  | '<' :: rest => readMarkup rest
  | input =>
    let (raw, rest) := input.span (· != '<')
    ([text raw], rest)

/-! ## The whole document -/

/-- The tokens of an input, at most as many constructs as `fuel` says. -/
def scanFrom : (fuel : Nat) → List Char → List Token
  | 0, _ => []
  | _, [] => []
  | fuel + 1, input =>
    let (tokens, rest) := readNext input
    tokens ++ scanFrom fuel rest

/-- The tokens of a document.  Each construct has at least one character.  A
byte order mark at the head does not count. -/
def scan (document : String) : List Token :=
  match document.toList with
  | '\uFEFF' :: input => scanFrom input.length input
  | input => scanFrom input.length input

end Token

end CallbackGate.Markup
