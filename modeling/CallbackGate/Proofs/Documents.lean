import CallbackGate.Markup.Record
import CallbackGate.Proofs.Scanning
import CallbackGate.Proofs.Utf8

/-!
# Reading what was written

A written document is read back as the tree that `Draft.node` describes.  A
string in sections is there character for character; a text with escapes has
lost the white space of markup at its ends.

There are four groups.

* Escapes.  `unescape_escape` is the round trip.
* White space.  Escapes and the white space at the ends of a text do not mix.
* Trees.  `root?_document` is assembled from the tokens of the document, the
  events of the tokens and the tree of the events.
* Records.  What `Record` finds in a written document.
-/

namespace CallbackGate.Markup

/-! ## Escapes -/

/-- An escape puts the character that its name stands for, if there is one. -/
theorem unescapeFrom_within {name : List Char} (before read : List Char)
    (hname : ∀ c ∈ name, c ≠ ';' ∧ c ≠ '&') (rest : List Char) :
    unescapeFrom before (.within read) (name ++ ';' :: rest) =
      (escaped? (read.reverse ++ name)).bind fun character =>
        unescapeFrom (character :: before) .plain rest := by
  induction name generalizing read with
  | nil =>
    rw [List.nil_append, unescapeFrom, if_pos rfl, List.append_nil]
    cases escaped? read.reverse with
    | none => rfl
    | some character => rfl
  | cons c name ih =>
    obtain ⟨hsemicolon, hand⟩ := hname c (List.mem_cons_self ..)
    rw [List.cons_append, unescapeFrom, if_neg hsemicolon, if_neg hand, ih, List.reverse_cons,
      List.append_assoc, List.singleton_append]
    intro d hd
    exact hname d (List.mem_cons_of_mem c hd)

theorem unescapeFrom_reference {name : List Char} (before : List Char)
    (hname : ∀ c ∈ name, c ≠ ';' ∧ c ≠ '&') (rest : List Char) :
    unescapeFrom before .plain (('&' :: name ++ [';']) ++ rest) =
      (escaped? name).bind fun character => unescapeFrom (character :: before) .plain rest := by
  rw [List.append_assoc, List.singleton_append, List.cons_append, unescapeFrom, if_pos rfl,
    unescapeFrom_within before [] hname]
  rfl

theorem unescapeFrom_named {name : List Char} {character : Char} (before : List Char)
    (hname : ∀ c ∈ name, c ≠ ';' ∧ c ≠ '&') (hcharacter : escaped? name = some character)
    (rest : List Char) :
    unescapeFrom before .plain (('&' :: name ++ [';']) ++ rest) =
      unescapeFrom (character :: before) .plain rest := by
  rw [unescapeFrom_reference before hname, hcharacter, Option.bind_some]

/-- A written character is read back. -/
theorem unescapeFrom_escapeChar (before : List Char) (c : Char) (rest : List Char) :
    unescapeFrom before .plain (escapeChar c ++ rest) =
      unescapeFrom (c :: before) .plain rest := by
  unfold escapeChar
  split_ifs with hless hgreater hand hsingle hdouble
  · rw [show "&lt;".toList = '&' :: ['l', 't'] ++ [';'] by decide, hless]
    exact unescapeFrom_named before (by simp) rfl rest
  · rw [show "&gt;".toList = '&' :: ['g', 't'] ++ [';'] by decide, hgreater]
    exact unescapeFrom_named before (by simp) rfl rest
  · rw [show "&amp;".toList = '&' :: ['a', 'm', 'p'] ++ [';'] by decide, hand]
    exact unescapeFrom_named before (by simp) rfl rest
  · rw [show "&apos;".toList = '&' :: ['a', 'p', 'o', 's'] ++ [';'] by decide, hsingle]
    exact unescapeFrom_named before (by simp) rfl rest
  · rw [show "&quot;".toList = '&' :: ['q', 'u', 'o', 't'] ++ [';'] by decide, hdouble]
    exact unescapeFrom_named before (by simp) rfl rest
  · rw [List.singleton_append, unescapeFrom, if_neg hand]

/-- Escaped text is read back. -/
theorem unescape_escape (text : List Char) : unescape (escape text) = some text := by
  have hfrom : ∀ before, unescapeFrom before .plain (escape text) =
      some (before.reverse ++ text) := by
    induction text with
    | nil =>
      intro before
      rw [List.append_nil]
      rfl
    | cons c text ih =>
      intro before
      rw [escape, List.flatMap_cons, unescapeFrom_escapeChar, ← escape, ih,
        List.reverse_cons, List.append_assoc, List.singleton_append]
  exact hfrom []

/-! ## White space -/

/-- White space is written as it is, and nothing else begins or ends with it. -/
theorem escapeChar_space (c : Char) :
    (Text.isMarkupSpace c = true → escapeChar c = [c]) ∧
      (Text.isMarkupSpace c = false →
        (∃ d tail, escapeChar c = d :: tail ∧ Text.isMarkupSpace d = false) ∧
          ∃ d tail, (escapeChar c).reverse = d :: tail ∧ Text.isMarkupSpace d = false) := by
  unfold escapeChar
  split_ifs with hless hgreater hand hsingle hdouble
  · rw [hless]
    exact ⟨by decide, fun _ => ⟨⟨_, _, rfl, by decide⟩, ⟨_, _, rfl, by decide⟩⟩⟩
  · rw [hgreater]
    exact ⟨by decide, fun _ => ⟨⟨_, _, rfl, by decide⟩, ⟨_, _, rfl, by decide⟩⟩⟩
  · rw [hand]
    exact ⟨by decide, fun _ => ⟨⟨_, _, rfl, by decide⟩, ⟨_, _, rfl, by decide⟩⟩⟩
  · rw [hsingle]
    exact ⟨by decide, fun _ => ⟨⟨_, _, rfl, by decide⟩, ⟨_, _, rfl, by decide⟩⟩⟩
  · rw [hdouble]
    exact ⟨by decide, fun _ => ⟨⟨_, _, rfl, by decide⟩, ⟨_, _, rfl, by decide⟩⟩⟩
  · exact ⟨fun _ => rfl, fun hspace => ⟨⟨c, [], rfl, hspace⟩, ⟨c, [], rfl, hspace⟩⟩⟩

/-- Characters at the beginning are dropped before or after each character is
spelled, if the dropped ones spell themselves and the spelling of no other
begins with one. -/
theorem dropWhile_flatMap {accepts : Char → Bool} {spell : Char → List Char}
    (haccepted : ∀ c, accepts c = true → spell c = [c])
    (hother : ∀ c, accepts c = false → ∃ d tail, spell c = d :: tail ∧ accepts d = false)
    (text : List Char) :
    (text.flatMap spell).dropWhile accepts = (text.dropWhile accepts).flatMap spell := by
  induction text with
  | nil => rfl
  | cons c text ih =>
    cases hc : accepts c with
    | true =>
      rw [List.flatMap_cons, haccepted c hc, List.singleton_append,
        List.dropWhile_cons_of_pos hc, List.dropWhile_cons_of_pos hc, ih]
    | false =>
      obtain ⟨d, tail, hspell, hd⟩ := hother c hc
      rw [List.dropWhile_cons_of_neg (by rw [hc]; decide), List.flatMap_cons, hspell,
        List.cons_append, List.dropWhile_cons_of_neg (by rw [hd]; decide)]

/-- The beginning of an escaped text is trimmed like that of the text. -/
theorem trimStart_escape (text : List Char) :
    Event.trimStart (escape text) = escape (text.dropWhile Text.isMarkupSpace) := by
  apply dropWhile_flatMap
  · intro c hc
    exact (escapeChar_space c).1 hc
  · intro c hc
    exact ((escapeChar_space c).2 hc).1

/-- The end of an escaped text is trimmed like that of the text. -/
theorem trimEnd_escape (text : List Char) :
    Event.trimEnd (escape text) = escape (Text.stripEnd Text.isMarkupSpace text) := by
  have hreverse : ∀ text, (escape text).reverse =
      text.reverse.flatMap fun c => (escapeChar c).reverse := by
    intro text
    rw [escape, List.reverse_flatMap]
    rfl
  have hdrop : (text.reverse.flatMap fun c => (escapeChar c).reverse).dropWhile
      Text.isMarkupSpace =
        (text.reverse.dropWhile Text.isMarkupSpace).flatMap fun c => (escapeChar c).reverse := by
    apply dropWhile_flatMap
    · intro c hc
      rw [(escapeChar_space c).1 hc]
      rfl
    · intro c hc
      exact ((escapeChar_space c).2 hc).2
  rw [Event.trimEnd, Text.stripEnd, hreverse, hdrop, Text.stripEnd]
  rw [← List.reverse_inj, List.reverse_reverse, hreverse, List.reverse_reverse]

/-- What is left of a text between white space is empty only if nothing is left
after the white space at its beginning. -/
theorem strip_eq_nil_iff (text : List Char) :
    Text.strip Text.isMarkupSpace text = [] ↔ text.dropWhile Text.isMarkupSpace = [] := by
  rw [Text.strip, Text.stripEnd, List.reverse_eq_nil_iff]
  constructor
  · intro h
    rw [List.dropWhile_eq_nil_iff] at h
    cases hdrop : text.dropWhile Text.isMarkupSpace with
    | nil => rfl
    | cons c rest =>
      have hhead := List.head?_dropWhile_not Text.isMarkupSpace text
      have hc := h c (by rw [hdrop, List.mem_reverse]; exact List.mem_cons_self ..)
      rw [hdrop, List.head?_cons] at hhead
      exact absurd (hc.symm.trans hhead) (by decide)
  · intro h
    rw [h]
    rfl

/-! ## Trees -/

namespace Draft

/-- The text that is read back from a text written with escapes. -/
def stripped (value : String) : List Char :=
  Text.strip Text.isMarkupSpace value.toList

/-- The run of a string in sections. -/
def sectionRun (value : String) : Run :=
  (sectionsOf value.toList).map .literal

/-- The runs of a text written with escapes: one, or none if nothing but white
space was written. -/
def textRuns (value : String) : List Run :=
  if stripped value = [] then [] else [[.plain (escape (stripped value))]]

mutual

/-- The events of an element that was written. -/
def events : Draft → List Event
  | cdata name value => [.start name [], .text (sectionRun value), .stop name]
  | text name value => .start name [] :: (textRuns value).map .text ++ [.stop name]
  | group name content => .start name [] :: allEvents content ++ [.stop name]

/-- The events of elements that were written. -/
def allEvents : List Draft → List Event
  | [] => []
  | draft :: rest => draft.events ++ allEvents rest

end

mutual

/-- The part of the tree that an element is read back as. -/
def node : Draft → Node
  | cdata name value => .element name [] [.text (sectionRun value)]
  | text name value => .element name [] ((textRuns value).map .text)
  | group name content => .element name [] (nodes content)

/-- The parts of the tree that elements are read back as. -/
def nodes : List Draft → List Node
  | [] => []
  | draft :: rest => draft.node :: nodes rest

end

end Draft

namespace Event

/-- Sections make a run. -/
theorem ofTokensFrom_cdata (contents : List (List Char)) (run : Run) (rest : List Token) :
    ofTokensFrom run (contents.map .cdata ++ rest) =
      ofTokensFrom ((contents.map .literal).reverse ++ run) rest := by
  induction contents generalizing run with
  | nil => rfl
  | cons content contents ih =>
    rw [List.map_cons, List.cons_append, ofTokensFrom, ih, List.map_cons, List.reverse_cons,
      List.append_assoc, List.singleton_append]

/-- A run of sections is over as it is. -/
theorem ofRun_literal {contents : List (List Char)} (h : contents ≠ []) :
    ofRun (contents.map Piece.literal).reverse = [.text (contents.map .literal)] := by
  rw [← List.map_reverse]
  cases hreverse : contents.reverse with
  | nil => exact absurd (List.reverse_eq_nil_iff.mp hreverse) h
  | cons content before =>
    rw [List.map_cons, ofRun, ← List.map_cons, ← hreverse, ← List.map_reverse,
      List.reverse_reverse]
    · intro h
      cases h
    · intro raw rest h
      cases h

/-- The tokens of an escaped text make its runs. -/
theorem ofTokensFrom_textTokens (name value : String) (rest : List Token) :
    ofTokensFrom [] (Draft.textTokens value ++ .stop name :: rest) =
      (Draft.textRuns value).map .text ++ .stop name :: ofTokensFrom [] rest := by
  have htrim := trimStart_escape value.toList
  have hnil := strip_eq_nil_iff value.toList
  unfold Draft.textTokens Draft.textRuns Draft.stripped
  by_cases hvalue : value.toList = []
  · rw [if_pos hvalue, hvalue]
    rfl
  · rw [if_neg hvalue, List.singleton_append, ofTokensFrom, addText, htrim]
    by_cases hblank : value.toList.dropWhile Text.isMarkupSpace = []
    · rw [if_pos (hnil.mpr hblank), hblank]
      rfl
    · have hescape := List.isEmpty_eq_false_iff.mpr (escape_ne_nil hblank)
      rw [if_neg (fun h => hblank (hnil.mp h)), hescape, if_neg (by decide), ofTokensFrom,
        ofRun, trimEnd_escape]
      rfl

mutual

/-- The tokens of an element make its events. -/
theorem ofTokensFrom_tokens : ∀ (draft : Draft) (rest : List Token),
    ofTokensFrom [] (draft.tokens ++ rest) = draft.events ++ ofTokensFrom [] rest
  | .cdata name value, rest => by
    rw [Draft.tokens, Draft.events, List.cons_append, List.cons_append, ofTokensFrom,
      List.append_assoc, List.singleton_append, ofTokensFrom_cdata, List.append_nil,
      ofTokensFrom, ofRun_literal (show sectionsOf value.toList ≠ [] from List.cons_ne_nil _ _)]
    rfl
  | .text name value, rest => by
    rw [Draft.tokens, Draft.events, List.cons_append, List.cons_append, ofTokensFrom,
      List.append_assoc, List.singleton_append, ofTokensFrom_textTokens]
    simp only [ofRun, List.cons_append, List.nil_append, List.append_assoc]
  | .group name content, rest => by
    rw [Draft.tokens, Draft.events, List.cons_append, List.cons_append, ofTokensFrom,
      List.append_assoc, List.singleton_append, ofTokensFrom_allTokens content, ofTokensFrom]
    simp only [ofRun, List.cons_append, List.nil_append, List.append_assoc]

/-- The tokens of elements make their events. -/
theorem ofTokensFrom_allTokens : ∀ (drafts : List Draft) (rest : List Token),
    ofTokensFrom [] (Draft.allTokens drafts ++ rest) =
      Draft.allEvents drafts ++ ofTokensFrom [] rest
  | [], rest => rfl
  | draft :: drafts, rest => by
    rw [Draft.allTokens, Draft.allEvents, List.append_assoc, ofTokensFrom_tokens draft,
      ofTokensFrom_allTokens drafts, List.append_assoc]

end

end Event

namespace Node

mutual

/-- The events of an element add it to the element around it. -/
theorem build_events : ∀ (draft : Draft) (inner : Unclosed) (outer : List Unclosed)
    (rest : List Event),
    build inner outer (draft.events ++ rest) = build (inner.add draft.node) outer rest
  | .cdata name value, inner, outer, rest => by
    rw [Draft.events, Draft.node]
    show build ⟨name, [], [.text (Draft.sectionRun value)]⟩ (inner :: outer)
      (.stop name :: rest) = _
    rw [build, if_pos rfl]
    rfl
  | .text name value, inner, outer, rest => by
    rw [Draft.events, Draft.node, Draft.textRuns]
    split_ifs with hempty
    · show build ⟨name, [], []⟩ (inner :: outer) (.stop name :: rest) = _
      rw [build, if_pos rfl]
      rfl
    · show build ⟨name, [], [.text _]⟩ (inner :: outer) (.stop name :: rest) = _
      rw [build, if_pos rfl]
      rfl
  | .group name content, inner, outer, rest => by
    rw [Draft.events, Draft.node, List.cons_append, List.cons_append, build,
      List.append_assoc, build_allEvents content, List.singleton_append, build, if_pos rfl]
    show build (inner.add (.element name [] ((Draft.nodes content).reverse ++ []).reverse))
      outer rest = _
    rw [List.append_nil, List.reverse_reverse]

/-- The events of elements add them to the element around them. -/
theorem build_allEvents : ∀ (drafts : List Draft) (inner : Unclosed)
    (outer : List Unclosed) (rest : List Event),
    build inner outer (Draft.allEvents drafts ++ rest) =
      build { inner with content := (Draft.nodes drafts).reverse ++ inner.content }
        outer rest
  | [], inner, outer, rest => rfl
  | draft :: drafts, inner, outer, rest => by
    rw [Draft.allEvents, List.append_assoc, build_events draft, build_allEvents drafts,
      Draft.nodes, List.reverse_cons, List.append_assoc]
    rfl

end

/-- A document is read as its root element, if what stands between the tags of the root
adds its nodes to the element around it. -/
theorem root?_of_tokens {document root : String} {tokens : List Token} {nodes : List Node}
    (hscan : Token.scan document = .start root [] :: (tokens ++ [.stop root]))
    (hbuild : ∀ inner outer rest, build inner outer (Event.ofTokensFrom [] (tokens ++ rest)) =
      build { inner with content := nodes.reverse ++ inner.content } outer
        (Event.ofTokensFrom [] rest)) :
    root? document = some (.element root [] nodes) := by
  rw [root?, hscan, Event.ofTokens, Event.ofTokensFrom]
  show some (build ⟨root, [], []⟩ [] (Event.ofTokensFrom [] (tokens ++ [.stop root]))) = _
  rw [hbuild]
  show some (build _ [] [.stop root]) = _
  rw [build, if_pos rfl]
  show some (Node.element root [] (nodes.reverse ++ []).reverse) = _
  rw [List.append_nil, List.reverse_reverse]

/-- A written document is read back as the tree of its elements. -/
theorem root?_document {drafts : List Draft} (h : Draft.allWellNamed drafts = true) :
    root? (Draft.document drafts) = some (.element "xml" [] (Draft.nodes drafts)) := by
  apply root?_of_tokens (Token.scan_document h)
  intro inner outer rest
  rw [Event.ofTokensFrom_allTokens, build_allEvents]

end Node

/-! ## Records -/

namespace Record

theorem mapM_literal (contents : List (List Char)) :
    (contents.map Piece.literal).mapM Piece.value? = some contents := by
  induction contents with
  | nil => rfl
  | cons content contents ih =>
    rw [List.map_cons, List.mapM_cons, ih]
    rfl

/-- A string in sections is read back character for character. -/
theorem contentText_sectionRun (value : String) :
    contentText [.text (Draft.sectionRun value)] = .ok value := by
  have hvalue : Run.value? (Draft.sectionRun value) = some value.toList := by
    rw [Run.value?, Draft.sectionRun, mapM_literal, Option.map_some, flatten_sectionsOf]
  rw [contentText, runText, hvalue]
  show Except.ok (String.ofList value.toList) = _
  rw [String.ofList_toList]

/-- A text written with escapes is read back without the white space at its
ends. -/
theorem contentText_textRuns (value : String) :
    contentText ((Draft.textRuns value).map .text) =
      .ok (String.ofList (Draft.stripped value)) := by
  unfold Draft.textRuns
  split_ifs with hempty
  · rw [hempty]
    rfl
  · have hvalue : Run.value? [.plain (escape (Draft.stripped value))] =
        some (Draft.stripped value) := by
      rw [Run.value?, List.mapM_cons, Piece.value?, unescape_escape]
      show some (Draft.stripped value ++ []) = _
      rw [List.append_nil]
    rw [List.map_singleton, contentText, runText, hvalue]

/-- A reader of a document is given the content of its root. -/
theorem ofBody_of_root? {document root : String} {attributes : List Char}
    {content : List Node} (h : Node.root? document = some (.element root attributes content))
    (reader : Reader α) :
    ofBody reader (Text.Utf8.bytes document) = reader attributes content := by
  rw [ofBody, Text.Utf8.decode_bytes]
  dsimp only
  rw [h]

/-- A reader of a written document is given its elements. -/
theorem ofBody_document {drafts : List Draft} (h : Draft.allWellNamed drafts = true)
    (reader : Reader α) :
    ofBody reader (Text.Utf8.bytes (Draft.document drafts)) =
      reader [] (Draft.nodes drafts) :=
  ofBody_of_root? (Node.root?_document h) reader

end Record

/-- A field of text holds the text of its element. -/
theorem Field.read_text {name : String} {attributes : List Char} {content : List Node}
    (set : String → α → α) {value : String} (hcontent : Record.contentText content = .ok value) :
    (Field.text name set).read attributes content = .ok (set value) := by
  show (Record.contentText content).map set = _
  rw [hcontent]
  rfl

namespace Record

variable {fields : List (Field α)} {seen : List String} {record : α} {rest : List Node}

/-- A child is read by the field of its name. -/
theorem readChildren_field {name : String} {attributes : List Char} {content : List Node}
    {field : Field α} {change : α → α}
    (hfind : fields.find? (·.name == localName name) = some field)
    (hseen : seen.contains field.name = false)
    (hread : field.read attributes content = .ok change) :
    readChildren fields seen record (.element name attributes content :: rest) =
      readChildren fields (field.name :: seen) (change record) rest := by
  rw [readChildren, hfind]
  dsimp only
  rw [hseen, if_neg (by decide), hread]

/-- A child that holds text sets its field. -/
theorem readChildren_text {name : String} {attributes : List Char} {content : List Node}
    {value : String} {set : String → α → α}
    (hfind : fields.find? (·.name == localName name) = some (.text name set))
    (hseen : seen.contains name = false) (hcontent : contentText content = .ok value) :
    readChildren fields seen record (.element name attributes content :: rest) =
      readChildren fields (name :: seen) (set value record) rest :=
  readChildren_field hfind hseen (Field.read_text set hcontent)

/-- A record is read if its children are and no required field is missing. -/
theorem read_of_readChildren {required : List String} {blank : α} {content : List Node}
    (hchildren : readChildren fields [] blank content = .ok (seen, record))
    (hrequired : required.find? (!seen.contains ·) = none) :
    read fields required blank [] content = .ok record := by
  have hattributes : Attributes.wellFormed [] = true := rfl
  rw [read, hattributes, Bool.not_true, if_neg (by decide), hchildren]
  dsimp only
  rw [hrequired]

end Record

end CallbackGate.Markup
