/-!
# Patterns of paths

A path pattern describes the paths at which a site is found.  Its characters
stand for themselves, with two exceptions: `:name` stands for what is left of a
segment, and `*name` at the end stands for what is left of the path.

`PathPattern.ofText?` reads a pattern, and `PathPattern.accepts` tells whether a
path is one of those that it describes.  Beside an exact path a pattern can miss
some of them: `PathPattern.strands` tells which.
-/

namespace CallbackGate

/-- A part of a path pattern. -/
inductive PathPart
  /-- One character, which stands for itself. -/
  | literal (character : Char)
  /-- What is left of a segment, up to the next slash. -/
  | segment
  /-- What is left of the path. -/
  | remainder
  deriving DecidableEq, Repr

namespace PathPart

/-- A name is not empty, stays within its segment and opens no second
wildcard. -/
def isName (name : List Char) : Bool :=
  !name.isEmpty && name.all fun c => c != '/' && c != ':' && c != '*'

/-- The parts that a text spells.  The name of a segment ends at the next
slash, and the name of the remainder at the end of the text. -/
def parse? : List Char → Option (List PathPart)
  | [] => some []
  | c :: text =>
    if c = '*' then
      if isName text then some [remainder] else none
    else if c = ':' then
      if isName (text.takeWhile (· != '/')) then
        (parse? (text.dropWhile (· != '/'))).map (segment :: ·)
      else none
    else (parse? text).map (literal c :: ·)
termination_by text => text.length
decreasing_by
  · have := (List.dropWhile_suffix (l := text) (· != '/')).length_le
    simp only [List.length_cons]
    omega
  · simp

/-- The parts describe a path.  A wildcard needs a character to stand at, so
that a segment can be empty before a slash and not at the end of the path. -/
def describe : List PathPart → List Char → Bool
  | [], path => path.isEmpty
  | _ :: _, [] => false
  | literal character :: parts, c :: path =>
    character == c && describe parts path
  | segment :: parts, c :: path =>
    describe parts ((c :: path).dropWhile (· != '/'))
  | remainder :: parts, _ :: _ => describe parts []

/-- What is left of a path that follows an exact one to its end, and the whole
of one that does not. -/
def beyond (exact path : List Char) : List Char :=
  if exact.isPrefixOf path then path.drop exact.length else path

/-- A path is stranded between a pattern and an exact path.  The three agree up
to the first wildcard, the exact path and the path also in the next character,
and then only a slash is left of the path. -/
def strand : List PathPart → List Char → List Char → Bool
  | literal character :: parts, e :: exact, c :: path =>
    character == e && character == c && strand parts exact path
  | segment :: _, e :: exact, c :: path
  | remainder :: _, e :: exact, c :: path =>
    e == c && beyond (e :: exact) (c :: path) == ['/']
  | _, _, _ => false

end PathPart

/-- A pattern of paths. -/
structure PathPattern where
  parts : List PathPart
  deriving DecidableEq, Repr

namespace PathPattern

/-- The pattern that a text spells, if its wildcards are well formed. -/
def ofText? (text : String) : Option PathPattern :=
  (PathPart.parse? text.toList).map .mk

/-- A path is one of those that a pattern describes.  Percent signs in the path
stand for themselves. -/
def accepts (pattern : PathPattern) (path : String) : Bool :=
  PathPart.describe pattern.parts path.toList

/-- A path is stranded between a pattern and an exact path, which is followed
first where it goes on past the first wildcard.  A path of which only a slash is
left then, such as the exact path with a slash after it, is not handed back to
the wildcard. -/
def strands (pattern : PathPattern) (exact path : String) : Bool :=
  PathPart.strand pattern.parts exact.toList path.toList

end PathPattern

end CallbackGate
