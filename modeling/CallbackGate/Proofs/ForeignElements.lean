import CallbackGate.Proofs.Documents
import Mathlib.Data.List.Infix

/-!
# Elements of others

An element that no field is for may be anything that is well formed: with
attributes, references, sections, comments, instructions and elements in it.  It
is scanned to its tags and to what stands between them, but for an instruction: a
reader takes it to end at its first `>`, which need not be the one of its end mark.

There are four groups.

* The grammar.  `Element` and what it is made of are what may be written.  Names and
  characters are those of the markup language, or more.
* Tags.  `Inert` is the text that a reader passes on the way to the end of a tag.
* Text, comments and instructions.  `Glyph.unescapeFrom_write` reads a reference.
* Elements.  `Content.scans_tokensThen` follows the tokens of content to its end, or to an
  instruction that seems to end before its end mark, where they stop.  `Element.scans` is
  the assembly.
-/

namespace CallbackGate.Markup

/-! ## The grammar -/

/-- A character of text, or a reference to one. -/
inductive Glyph
  | char (c : Char)
  /-- A reference by name. -/
  | named (name : List Char)
  /-- A reference to a code point in decimal. -/
  | decimal (digits : List Char)
  /-- A reference to a code point in hexadecimal. -/
  | hexadecimal (digits : List Char)
  deriving DecidableEq, Repr

namespace Glyph

def write : Glyph → List Char
  | char c => [c]
  | named name => '&' :: name ++ [';']
  | decimal digits => '&' :: ('#' :: digits) ++ [';']
  | hexadecimal digits => '&' :: ('#' :: 'x' :: digits) ++ [';']

/-- A character does not begin markup, and a reference is to a character. -/
def wellFormed : Glyph → Bool
  | char c => c != '<' && c != '&'
  | named name => (named? name).isSome
  | decimal digits => ((codePoint? 10 Text.digit? digits).bind scalar?).isSome
  | hexadecimal digits => ((codePoint? 16 Bytes.Hex.value? digits).bind scalar?).isSome

/-- A reference has no more digits than the greatest code point. -/
def short : Glyph → Bool
  | decimal digits => digits.length ≤ 7
  | hexadecimal digits => digits.length ≤ 6
  | _ => true

end Glyph

/-- Text as it is written. -/
def writeText (text : List Glyph) : List Char :=
  text.flatMap Glyph.write

/-- A character of a name. -/
def isNameChar (c : Char) : Bool :=
  isPlain c || c == ':'

def isName (name : List Char) : Bool :=
  !name.isEmpty && name.all isNameChar

/-- An attribute: white space, a name, an equals sign that may have white space around it,
and a value in quotation marks. -/
structure Attribute where
  lead : List Char
  name : List Char
  before : List Char
  after : List Char
  mark : Char
  value : List Char
  deriving DecidableEq, Repr

namespace Attribute

def write (item : Attribute) : List Char :=
  item.lead ++ item.name ++ item.before ++ '=' :: item.after ++
    item.mark :: item.value ++ [item.mark]

def wellFormed (item : Attribute) : Bool :=
  !item.lead.isEmpty && item.lead.all Text.isMarkupSpace && isName item.name &&
    item.before.all Text.isMarkupSpace && item.after.all Text.isMarkupSpace &&
    (item.mark == '\'' || item.mark == '"') && !item.value.contains item.mark &&
    !item.value.contains '<'

end Attribute

/-- What a start tag holds: a name, attributes and white space. -/
structure Tag where
  name : String
  attributes : List Attribute := []
  trail : List Char := []
  deriving DecidableEq, Repr

namespace Tag

/-- The text between the name and the end of the tag. -/
def details (tag : Tag) : List Char :=
  tag.attributes.flatMap Attribute.write ++ tag.trail

def body (tag : Tag) : List Char :=
  tag.name.toList ++ tag.details

def wellFormed (tag : Tag) : Bool :=
  isName tag.name.toList && tag.attributes.all Attribute.wellFormed &&
    tag.trail.all Text.isMarkupSpace

/-- The start tag of an element. -/
def start (tag : Tag) : List Char :=
  '<' :: tag.body ++ ['>']

/-- The tag of an element without content. -/
def hollow (tag : Tag) : List Char :=
  '<' :: tag.body ++ ['/', '>']

/-- The end tag of an element, which white space may end. -/
def stop (tag : Tag) (space : List Char) : List Char :=
  '<' :: '/' :: tag.name.toList ++ space ++ ['>']

end Tag

/-- What stands between two tags, construct by construct, each with the text before
it. -/
inductive Content
  /-- Text up to the end tag. -/
  | stop (text : List Glyph)
  | cdata (text : List Glyph) (content : List Char) (rest : Content)
  | comment (text : List Glyph) (content : List Char) (rest : Content)
  | instruction (text : List Glyph) (content : List Char) (rest : Content)
  /-- An element without content. -/
  | hollow (text : List Glyph) (tag : Tag) (rest : Content)
  /-- An element with content, and the white space in its end tag. -/
  | element (text : List Glyph) (tag : Tag) (inside : Content) (space : List Char)
    (rest : Content)
  deriving DecidableEq, Repr

/-- A comment as it is written. -/
def writeComment (content : List Char) : List Char :=
  '<' :: '!' :: '-' :: '-' :: (content ++ ['-', '-', '>'])

/-- An instruction as it is written. -/
def writeInstruction (content : List Char) : List Char :=
  '<' :: '?' :: (content ++ ['?', '>'])

namespace Content

def write : Content → List Char
  | stop text => writeText text
  | cdata text content rest => writeText text ++ writeSection content ++ rest.write
  | comment text content rest => writeText text ++ writeComment content ++ rest.write
  | instruction text content rest => writeText text ++ writeInstruction content ++ rest.write
  | hollow text tag rest => writeText text ++ tag.hollow ++ rest.write
  | element text tag inside space rest =>
    writeText text ++ tag.start ++ inside.write ++ tag.stop space ++ rest.write

/-- Texts, names and tags are well formed, and nothing holds the mark that would end it. -/
def wellFormed : Content → Bool
  | stop text => text.all Glyph.wellFormed
  | cdata text content rest =>
    text.all Glyph.wellFormed && decide (¬sectionEnd <:+: content) && rest.wellFormed
  | comment text content rest =>
    text.all Glyph.wellFormed && decide (¬['-', '-'] <:+: content ++ ['-']) &&
      rest.wellFormed
  | instruction text content rest =>
    text.all Glyph.wellFormed && !content.isEmpty && decide (¬['?', '>'] <:+: content) &&
      rest.wellFormed
  | hollow text tag rest => text.all Glyph.wellFormed && tag.wellFormed && rest.wellFormed
  | element text tag inside space rest =>
    text.all Glyph.wellFormed && tag.wellFormed && inside.wellFormed &&
      space.all Text.isMarkupSpace && rest.wellFormed

/-- No instruction holds the character that its end mark ends with. -/
def plainInstructions : Content → Bool
  | stop _ => true
  | cdata _ _ rest | comment _ _ rest | hollow _ _ rest => rest.plainInstructions
  | instruction _ content rest => !content.contains '>' && rest.plainInstructions
  | element _ _ inside _ rest => inside.plainInstructions && rest.plainInstructions

/-- The references before the first tag are short. -/
def shortReferences : Content → Bool
  | stop text | hollow text _ _ | element text _ _ _ _ => text.all Glyph.short
  | cdata text _ rest | comment text _ rest | instruction text _ rest =>
    text.all Glyph.short && rest.shortReferences

end Content

/-- An element, with content or without. -/
inductive Element
  | full (tag : Tag) (inside : Content) (space : List Char)
  | hollow (tag : Tag)
  deriving DecidableEq, Repr

namespace Element

def name : Element → String
  | full tag _ _ | hollow tag => tag.name

def write : Element → List Char
  | full tag inside space => tag.start ++ inside.write ++ tag.stop space
  | hollow tag => tag.hollow

def wellFormed : Element → Bool
  | full tag inside space =>
    tag.wellFormed && inside.wellFormed && space.all Text.isMarkupSpace
  | hollow tag => tag.wellFormed

/-- Instructions and references are such as a reader takes. -/
def readable : Element → Bool
  | full _ inside _ => inside.plainInstructions && inside.shortReferences
  | hollow _ => true

end Element

/-! ## Tags -/

/-- Text in a tag that neither ends the tag nor looks like its end: what is quoted in it
ends in it, and its last character is not the one that ends the tag of an element without
content. -/
structure Inert (text : List Char) : Prop where
  cutTag : ∀ before rest, Token.cutTag before none (text ++ rest) =
    Token.cutTag (text.reverse ++ before) none rest
  getLast? : text.getLast? ≠ some '/'

namespace Inert

theorem nil : Inert [] :=
  ⟨fun _ _ => rfl, nofun⟩

theorem append {text more : List Char} (h : Inert text) (h' : Inert more) :
    Inert (text ++ more) where
  cutTag before rest := by
    rw [List.append_assoc, h.cutTag, h'.cutTag, List.reverse_append, List.append_assoc]
  getLast? := by
    have hlast := h'.getLast?
    rw [List.getLast?_append]
    cases hmore : more.getLast? with
    | none => exact h.getLast?
    | some c =>
      rw [hmore] at hlast
      exact hlast

theorem flatMap {α : Type} {write : α → List Char} {items : List α}
    (h : ∀ item ∈ items, Inert (write item)) : Inert (items.flatMap write) := by
  induction items with
  | nil => exact nil
  | cons item items ih =>
    rw [List.flatMap_cons]
    exact (h item (List.mem_cons_self ..)).append
      (ih fun other hother => h other (List.mem_cons_of_mem _ hother))

/-- A character that neither quotes nor ends a tag. -/
theorem singleton {c : Char} (h : c ∉ ['>', '/', '\'', '"']) : Inert [c] where
  cutTag before rest := by
    simp only [List.mem_cons, List.not_mem_nil, or_false, not_or] at h
    obtain ⟨hgreater, -, hsingle, hdouble⟩ := h
    have hquote : Token.Quote.next none c = none := by
      show (if _ then _ else _) = _
      rw [if_neg (by simp only [hsingle, hdouble, or_self, not_false_eq_true])]
    rw [List.singleton_append, Token.cutTag, if_neg fun hend => hgreater hend.2, hquote]
    rfl
  getLast? := by
    simp only [List.mem_cons, not_or] at h
    rw [List.getLast?_singleton, ne_eq, Option.some.injEq]
    exact h.2.1

/-- Several such characters. -/
theorem bare {text : List Char} (h : ∀ c ∈ text, c ∉ ['>', '/', '\'', '"']) : Inert text := by
  have hall := flatMap fun c hc => singleton (h c hc)
  rw [List.flatMap_singleton'] at hall
  exact hall

/-- What is in quotation marks goes up to the second one. -/
theorem cutTag_within {mark : Char} {value : List Char} (h : mark ∉ value)
    (before rest : List Char) :
    Token.cutTag before (some mark) (value ++ mark :: rest) =
      Token.cutTag (mark :: (value.reverse ++ before)) none rest := by
  induction value generalizing before with
  | nil =>
    show Token.cutTag (mark :: before) (if mark = mark then none else some mark) rest = _
    rw [if_pos rfl]
    rfl
  | cons c value ih =>
    rw [List.mem_cons, not_or] at h
    have hquote : Token.Quote.next (some mark) c = some mark := by
      show (if _ then _ else _) = _
      rw [if_neg (Ne.symm h.1)]
    rw [List.cons_append, Token.cutTag, if_neg (fun hend => by cases hend.1), hquote, ih h.2,
      List.reverse_cons, List.append_assoc, List.singleton_append]

theorem quoted {mark : Char} (hmark : mark = '\'' ∨ mark = '"') {value : List Char}
    (h : mark ∉ value) : Inert (mark :: value ++ [mark]) where
  cutTag before rest := by
    have hgreater : mark ≠ '>' := by
      rcases hmark with rfl | rfl
      · decide
      · decide
    have hquote : Token.Quote.next none mark = some mark := by
      show (if _ then _ else _) = _
      rw [if_pos hmark]
    rw [List.append_assoc, List.singleton_append, List.cons_append, Token.cutTag,
      if_neg fun hend => hgreater hend.2, hquote, cutTag_within h, List.reverse_append,
      List.reverse_singleton, List.reverse_cons]
    simp only [List.append_assoc, List.cons_append, List.nil_append]
  getLast? := by
    rw [List.getLast?_append, List.getLast?_singleton, Option.some_or, ne_eq,
      Option.some.injEq]
    rcases hmark with rfl | rfl
    · decide
    · decide

end Inert

theorem isName_iff {name : List Char} :
    isName name = true ↔ name ≠ [] ∧ ∀ c ∈ name, isNameChar c = true := by
  rw [isName, Bool.and_eq_true, Bool.not_eq_true', List.isEmpty_eq_false_iff, List.all_eq_true]

theorem isMarkupSpace_of_isNameChar {c : Char} (h : isNameChar c = true) :
    Text.isMarkupSpace c = false := by
  rw [isNameChar, Bool.or_eq_true, beq_iff_eq] at h
  rcases h with hplain | rfl
  · exact isMarkupSpace_of_isPlain hplain
  · decide

/-- A character of a name means nothing else to a reader of tags. -/
theorem not_mem_of_isNameChar {c : Char} (h : isNameChar c = true) :
    c ∉ ['<', '>', '/', '?', '!', '\'', '"'] := by
  intro hmark
  rw [isNameChar, Bool.or_eq_true, beq_iff_eq] at h
  rcases h with hplain | rfl
  · exact ne_of_isPlain hplain c (List.mem_append_left [':'] hmark) rfl
  · exact absurd hmark (by decide)

theorem inert_of_isName {name : List Char} (h : isName name = true) : Inert name := by
  apply Inert.bare
  intro c hc hmark
  have hsubset : ['>', '/', '\'', '"'] ⊆ ['<', '>', '/', '?', '!', '\'', '"'] := by decide
  exact not_mem_of_isNameChar ((isName_iff.mp h).2 c hc) (hsubset hmark)

theorem inert_of_isMarkupSpace {text : List Char}
    (h : text.all Text.isMarkupSpace = true) : Inert text := by
  apply Inert.bare
  intro c hc hmark
  have hspace := List.all_eq_true.mp h c hc
  have hmarks : ['>', '/', '\'', '"'].all (!Text.isMarkupSpace ·) = true := by decide
  have hno := List.all_eq_true.mp hmarks c hmark
  rw [hspace] at hno
  cases hno

theorem Attribute.wellFormed_iff {item : Attribute} :
    item.wellFormed = true ↔
      item.lead ≠ [] ∧ item.lead.all Text.isMarkupSpace = true ∧ isName item.name = true ∧
        item.before.all Text.isMarkupSpace = true ∧
        item.after.all Text.isMarkupSpace = true ∧ (item.mark = '\'' ∨ item.mark = '"') ∧
        item.mark ∉ item.value ∧ '<' ∉ item.value := by
  simp only [wellFormed, Bool.and_eq_true, Bool.not_eq_true', List.isEmpty_eq_false_iff,
    Bool.or_eq_true, beq_iff_eq, List.contains_eq_mem, decide_eq_false_iff_not, and_assoc]

theorem Attribute.inert_write {item : Attribute} (h : item.wellFormed = true) :
    Inert item.write := by
  obtain ⟨-, hlead, hname, hbefore, hafter, hmark, hvalue, -⟩ := wellFormed_iff.mp h
  have hequals : Inert ['='] := Inert.singleton (by decide)
  have hall := (((((inert_of_isMarkupSpace hlead).append (inert_of_isName hname)).append
    (inert_of_isMarkupSpace hbefore)).append hequals).append
      (inert_of_isMarkupSpace hafter)).append (Inert.quoted hmark hvalue)
  rw [write]
  simp only [List.append_assoc, List.cons_append, List.nil_append] at hall ⊢
  exact hall

namespace Tag

variable {tag : Tag}

theorem wellFormed_iff :
    tag.wellFormed = true ↔ isName tag.name.toList = true ∧
      (∀ item ∈ tag.attributes, item.wellFormed = true) ∧
      tag.trail.all Text.isMarkupSpace = true := by
  rw [wellFormed, Bool.and_eq_true, Bool.and_eq_true, List.all_eq_true, and_assoc]

theorem inert_body (h : tag.wellFormed = true) : Inert tag.body := by
  obtain ⟨hname, hattributes, htrail⟩ := wellFormed_iff.mp h
  exact (inert_of_isName hname).append
    ((Inert.flatMap fun item hitem => Attribute.inert_write (hattributes item hitem)).append
      (inert_of_isMarkupSpace htrail))

/-- White space parts the name from what follows it. -/
theorem details_cases (h : tag.wellFormed = true) :
    tag.details = [] ∨ ∃ c rest, tag.details = c :: rest ∧ Text.isMarkupSpace c = true := by
  obtain ⟨-, hattributes, htrail⟩ := wellFormed_iff.mp h
  unfold details
  cases hlist : tag.attributes with
  | nil =>
    rw [List.flatMap_nil, List.nil_append]
    cases hspace : tag.trail with
    | nil => exact Or.inl rfl
    | cons c rest =>
      rw [hspace] at htrail
      exact Or.inr ⟨c, rest, rfl, List.all_eq_true.mp htrail c (List.mem_cons_self ..)⟩
  | cons item items =>
    have hitem := hattributes item (by rw [hlist]; exact List.mem_cons_self ..)
    obtain ⟨hne, hlead, -⟩ := Attribute.wellFormed_iff.mp hitem
    refine Or.inr ?_
    rw [List.flatMap_cons, Attribute.write]
    cases hspace : item.lead with
    | nil => exact absurd hspace hne
    | cons c rest =>
      rw [hspace] at hlead
      exact ⟨c, _, rfl, List.all_eq_true.mp hlead c (List.mem_cons_self ..)⟩

theorem span_body (h : tag.wellFormed = true) :
    tag.body.span (!Text.isMarkupSpace ·) = (tag.name.toList, tag.details) := by
  obtain ⟨hname, -⟩ := wellFormed_iff.mp h
  have haccepts : ∀ c ∈ tag.name.toList, (!Text.isMarkupSpace c) = true := by
    intro c hc
    rw [isMarkupSpace_of_isNameChar ((isName_iff.mp hname).2 c hc), Bool.not_false]
  unfold body
  rcases details_cases h with hnil | ⟨c, rest, hdetails, hspace⟩
  · rw [hnil, List.append_nil]
    exact Token.span_of_all haccepts
  · rw [hdetails]
    exact Token.span_append haccepts (by rw [hspace]; rfl) rest

/-- A first character of a name begins a start tag. -/
theorem readMarkup_body (h : tag.wellFormed = true) (rest : List Char) :
    Token.readMarkup (tag.body ++ rest) = Token.readStart (tag.body ++ rest) := by
  obtain ⟨hne, hchars⟩ := isName_iff.mp (wellFormed_iff.mp h).1
  unfold body
  cases hname : tag.name.toList with
  | nil => exact absurd hname hne
  | cons c name =>
    have hc := not_mem_of_isNameChar (hchars c (by rw [hname]; exact List.mem_cons_self ..))
    simp only [List.mem_cons, List.not_mem_nil, or_false, not_or] at hc
    exact Token.readMarkup_of_ne ⟨hc.2.2.1, hc.2.2.2.1, hc.2.2.2.2.1⟩ _

/-- A start tag is read as its name and its details. -/
theorem readNext_start (h : tag.wellFormed = true) (rest : List Char) :
    Token.readNext (tag.start ++ rest) = ([.start tag.name tag.details], rest) := by
  obtain ⟨hcut, hlast⟩ := inert_body h
  have hbody : Token.cutTag [] none (tag.body ++ '>' :: rest) = some (tag.body, rest) := by
    rw [hcut, List.append_nil, Token.cutTag, if_pos ⟨rfl, rfl⟩, List.reverse_reverse]
  show Token.readMarkup (tag.body ++ ['>'] ++ rest) = _
  rw [List.append_assoc, List.singleton_append, readMarkup_body h, Token.readStart, hbody]
  simp only [beq_iff_eq, hlast, if_false, span_body h, String.ofList_toList]

/-- The tag of an element without content is read as its two tags. -/
theorem readNext_hollow (h : tag.wellFormed = true) (rest : List Char) :
    Token.readNext (tag.hollow ++ rest) =
      ([.start tag.name tag.details, .stop tag.name], rest) := by
  have hslash : Token.cutTag [] none (tag.body ++ '/' :: '>' :: rest) =
      some (tag.body ++ ['/'], rest) := by
    rw [(inert_body h).cutTag, List.append_nil]
    show some (('/' :: tag.body.reverse).reverse, rest) = _
    rw [List.reverse_cons, List.reverse_reverse]
  show Token.readMarkup (tag.body ++ ['/', '>'] ++ rest) = _
  rw [List.append_assoc]
  show Token.readMarkup (tag.body ++ '/' :: '>' :: rest) = _
  rw [readMarkup_body h, Token.readStart, hslash]
  simp only [List.getLast?_concat, beq_self_eq_true, if_true, List.dropLast_concat, span_body h,
    String.ofList_toList]

/-- An end tag is read as its name. -/
theorem readNext_stop (h : tag.wellFormed = true) {space : List Char}
    (hspace : space.all Text.isMarkupSpace = true) (rest : List Char) :
    Token.readNext (tag.stop space ++ rest) = ([.stop tag.name], rest) := by
  obtain ⟨hne, hchars⟩ := isName_iff.mp (wellFormed_iff.mp h).1
  have hspan : (tag.name.toList ++ space ++ '>' :: rest).span (· != '>') =
      (tag.name.toList ++ space, '>' :: rest) := by
    apply Token.span_append _ (by decide)
    intro c hc
    rw [bne_iff_ne]
    rcases List.mem_append.mp hc with hname | hblank
    · rintro rfl
      exact not_mem_of_isNameChar (hchars _ hname) (by decide)
    · rintro rfl
      cases List.all_eq_true.mp hspace _ hblank
  have hstrip : Text.stripEnd Text.isMarkupSpace (tag.name.toList ++ space) =
      tag.name.toList := by
    rw [Text.stripEnd, List.reverse_append, List.dropWhile_append_of_pos, ← Text.stripEnd]
    · exact Token.stripEnd_of_none fun c hc => isMarkupSpace_of_isNameChar (hchars c hc)
    · intro c hc
      exact List.all_eq_true.mp hspace c (List.mem_reverse.mp hc)
  show Token.readStop (tag.name.toList ++ space ++ ['>'] ++ rest) = _
  rw [List.append_assoc, List.singleton_append, Token.readStop, Token.cut, hspan]
  show ([Token.stop (Token.stopName (tag.name.toList ++ space))], rest) = _
  rw [Token.stopName, hstrip, if_neg (by rwa [List.isEmpty_iff]), String.ofList_toList]

end Tag

/-! ## Text, comments and instructions -/

/-- What digits spell is spelled by digits only. -/
theorem isSome_of_mem_codePoint? {base : Nat} {value? : Char → Option Nat} {digits : List Char}
    (h : (codePoint? base value? digits).isSome = true) {c : Char} (hc : c ∈ digits) :
    (value? c).isSome = true := by
  unfold codePoint? at h
  generalize 0 = total at h
  induction digits generalizing total with
  | nil => cases hc
  | cons d digits ih =>
    rw [List.foldlM_cons] at h
    cases hd : value? d with
    | none =>
      rw [hd] at h
      cases h
    | some value =>
      rw [hd] at h
      rcases List.mem_cons.mp hc with rfl | hc
      · rw [hd]
        rfl
      · exact ih hc _ h

namespace Glyph

/-- The characters of a reference between its marks. -/
def inner? : Glyph → Option (List Char)
  | char _ => none
  | named name => some name
  | decimal digits => some ('#' :: digits)
  | hexadecimal digits => some ('#' :: 'x' :: digits)

/-- The names that characters are referred to by. -/
def referenceNames : List (List Char) :=
  [['l', 't'], ['g', 't'], ['a', 'm', 'p'], ['q', 'u', 'o', 't'], ['a', 'p', 'o', 's']]

theorem mem_referenceNames {name : List Char} (h : (named? name).isSome = true) :
    name ∈ referenceNames := by
  unfold named? at h
  split_ifs at h with hless hgreater hand hdouble hsingle
  · rw [beq_iff_eq.mp hless]
    decide
  · rw [beq_iff_eq.mp hgreater]
    decide
  · rw [beq_iff_eq.mp hand]
    decide
  · rw [beq_iff_eq.mp hdouble]
    decide
  · rw [beq_iff_eq.mp hsingle]
    decide
  · cases h

/-- A reference holds none of the marks that text and references are parted by. -/
theorem not_mem_inner? {glyph : Glyph} (h : glyph.wellFormed = true) {name : List Char}
    (hname : glyph.inner? = some name) {c : Char} (hc : c ∈ name) : c ∉ ['<', '&', ';'] := by
  intro hmark
  have hcases : c = '<' ∨ c = '&' ∨ c = ';' := by simpa using hmark
  cases glyph with
  | char c => cases hname
  | named other =>
    cases hname
    have hnames : referenceNames.all (·.all fun c => !(['<', '&', ';'].contains c)) = true := by
      decide
    have hno := List.all_eq_true.mp (List.all_eq_true.mp hnames _ (mem_referenceNames h)) c hc
    rw [List.contains_iff_mem.mpr hmark] at hno
    cases hno
  | decimal digits =>
    cases hname
    obtain ⟨hne, hnone⟩ : c ≠ '#' ∧ Text.digit? c = none := by
      rcases hcases with rfl | rfl | rfl
      · decide
      · decide
      · decide
    have hsome := isSome_of_mem_codePoint? (Option.isSome_of_isSome_bind h)
      (List.mem_of_ne_of_mem hne hc)
    rw [hnone] at hsome
    cases hsome
  | hexadecimal digits =>
    cases hname
    obtain ⟨hne, hne', hnone⟩ : c ≠ '#' ∧ c ≠ 'x' ∧ Bytes.Hex.value? c = none := by
      rcases hcases with rfl | rfl | rfl
      · decide
      · decide
      · decide
    have hsome := isSome_of_mem_codePoint? (Option.isSome_of_isSome_bind h)
      (List.mem_of_ne_of_mem hne' (List.mem_of_ne_of_mem hne hc))
    rw [hnone] at hsome
    cases hsome

theorem write_of_inner? {glyph : Glyph} {name : List Char} (h : glyph.inner? = some name) :
    glyph.write = '&' :: name ++ [';'] := by
  cases glyph with
  | char c => cases h
  | named other => cases h; rfl
  | decimal digits => cases h; rfl
  | hexadecimal digits => cases h; rfl

/-- A character of text does not begin markup. -/
theorem bne_of_mem_write {glyph : Glyph} (h : glyph.wellFormed = true) {c : Char}
    (hc : c ∈ glyph.write) : (c != '<') = true := by
  rw [bne_iff_ne]
  rintro rfl
  cases hinner : glyph.inner? with
  | none =>
    cases glyph with
    | char d =>
      rw [write, List.mem_singleton] at hc
      rw [← hc] at h
      cases h
    | _ => cases hinner
  | some name =>
    rw [write_of_inner? hinner] at hc
    simp only [List.cons_append, List.mem_cons, List.mem_append, List.not_mem_nil, or_false] at hc
    rcases hc with hc | hc | hc
    · cases hc
    · exact not_mem_inner? h hinner hc (by decide)
    · cases hc

/-- The character that is read. -/
def value? : Glyph → Option Char
  | char c => some c
  | named name => escaped? name
  | decimal digits => escaped? ('#' :: digits)
  | hexadecimal digits => escaped? ('#' :: 'x' :: digits)

theorem value?_of_inner? {glyph : Glyph} {name : List Char} (h : glyph.inner? = some name) :
    glyph.value? = escaped? name := by
  cases glyph with
  | char c => cases h
  | named other => cases h; rfl
  | decimal digits => cases h; rfl
  | hexadecimal digits => cases h; rfl

/-- A character is read from a reference if it is short. -/
theorem isSome_value? {glyph : Glyph} (h : glyph.wellFormed = true) :
    glyph.value?.isSome = glyph.short := by
  cases glyph with
  | char c => rfl
  | named name =>
    have hnames : ∀ name ∈ referenceNames, (escaped? name).isSome = true := by decide
    exact hnames name (mem_referenceNames h)
  | decimal digits =>
    have hx : Text.digit? 'x' = none := by decide
    rw [wellFormed] at h
    show (numbered? digits).isSome = decide (digits.length ≤ 7)
    unfold numbered?
    split
    · rename_i digits
      have hspelled : (codePoint? 10 Text.digit? ('x' :: digits)).isSome = true :=
        Option.isSome_of_isSome_bind h
      have hd := isSome_of_mem_codePoint? hspelled (List.mem_cons_self ..)
      rw [hx] at hd
      cases hd
    · split_ifs with hlength
      · rw [h, decide_eq_true hlength]
      · rw [decide_eq_false hlength]
        rfl
  | hexadecimal digits =>
    rw [wellFormed] at h
    show (if digits.length ≤ 6 then _ else none).isSome = decide (digits.length ≤ 6)
    split_ifs with hlength
    · rw [h, decide_eq_true hlength]
    · rw [decide_eq_false hlength]
      rfl

/-- What is written for a character is read as one. -/
theorem unescapeFrom_write {glyph : Glyph} (h : glyph.wellFormed = true)
    (before rest : List Char) :
    unescapeFrom before .plain (glyph.write ++ rest) =
      glyph.value?.bind fun c => unescapeFrom (c :: before) .plain rest := by
  cases hinner : glyph.inner? with
  | none =>
    cases glyph with
    | char c =>
      rw [wellFormed, Bool.and_eq_true, bne_iff_ne, bne_iff_ne] at h
      rw [write, List.singleton_append, unescapeFrom, if_neg h.2]
      rfl
    | _ => cases hinner
  | some name =>
    rw [write_of_inner? hinner, value?_of_inner? hinner]
    apply unescapeFrom_reference
    intro d hd
    have hmarks := not_mem_inner? h hinner hd
    simp only [List.mem_cons, List.not_mem_nil, or_false, not_or] at hmarks
    exact ⟨hmarks.2.2, hmarks.2.1⟩

end Glyph

/-- The token of a text, if it is not empty. -/
def glyphTokens (text : List Glyph) : List Token :=
  if writeText text = [] then [] else [.text (writeText text)]

namespace Token

/-- Text before a tag. -/
theorem Scans.glyphs {text : List Glyph} (h : text.all Glyph.wellFormed = true)
    {rest : List Char} {tokens : List Token} (hrest : Scans ('<' :: rest) tokens) :
    Scans (writeText text ++ '<' :: rest) (glyphTokens text ++ tokens) := by
  unfold glyphTokens
  by_cases hraw : writeText text = []
  · rw [if_pos hraw, hraw]
    exact hrest
  · rw [if_neg hraw]
    refine Scans.prepend (readNext_text hraw ?_ rest) hraw hrest
    intro c hc
    obtain ⟨glyph, hglyph, hwrite⟩ := List.mem_flatMap.mp hc
    exact Glyph.bne_of_mem_write (List.all_eq_true.mp h glyph hglyph) hwrite

/-- A comment is passed over. -/
theorem readNext_comment {content : List Char} (h : ¬['-', '-'] <:+: content ++ ['-'])
    (rest : List Char) :
    readNext (writeComment content ++ rest) = ([.aside], rest) := by
  have hinside : ¬['-', '-', '>'] <:+: ([] : List Char).reverse ++ content := by
    intro hend
    have hshort : ['-', '-'] <:+: ['-', '-', '>'] := ⟨[], ['>'], rfl⟩
    exact h ((hshort.trans hend).trans (List.prefix_append content ['-']).isInfix)
  have hcut := cutAfter_twice (by decide) [] hinside rest
  show readComment ('-' :: '-' :: (content ++ ['-', '-', '>'] ++ rest)) = _
  rw [readComment, hcut]

/-- An instruction is passed over if it ends where it seems to. -/
theorem readNext_instruction {content : List Char} (hne : content ≠ []) (h : '>' ∉ content)
    (rest : List Char) :
    readNext (writeInstruction content ++ rest) = ([.aside], rest) := by
  have hspan : (content ++ ['?'] ++ '>' :: rest).span (· != '>') =
      (content ++ ['?'], '>' :: rest) := by
    apply span_append _ (by decide)
    intro c hc
    rw [bne_iff_ne]
    rintro rfl
    rcases List.mem_append.mp hc with hc | hc
    · exact h hc
    · cases List.mem_singleton.mp hc
  have hlength : (content ++ ['?']).length ≥ 2 := by
    have hpos := List.length_pos_iff.mpr hne
    rw [List.length_append, List.length_singleton]
    omega
  have hshape : content ++ ['?', '>'] ++ rest = content ++ ['?'] ++ '>' :: rest := by
    simp only [List.append_assoc, List.cons_append, List.nil_append]
  show readInstruction (content ++ ['?', '>'] ++ rest) = _
  rw [hshape, readInstruction, cut, hspan]
  dsimp only
  rw [if_pos ⟨hlength, List.getLast?_concat⟩]
  rfl

/-- Tokens stop at a construct that cannot be read. -/
theorem Scans.broken {front rest : List Char} (hread : readNext (front ++ rest) = failed)
    (hfront : front ≠ []) : Scans (front ++ rest) [.broken] := by
  have hpos : 0 < (front ++ rest).length :=
    List.length_pos_iff.mpr (List.append_ne_nil_of_left_ne_nil hfront rest)
  exact Scans.of_readNext hread hpos scans_nil

/-- Text is read up to the end. -/
theorem readNext_lastText {raw : List Char} (hne : raw ≠ [])
    (h : ∀ c ∈ raw, (c != '<') = true) : readNext raw = ([.text raw], []) := by
  have hspan := span_of_all h
  cases raw with
  | nil => exact absurd rfl hne
  | cons d tail =>
    have hd : (d != '<') = true := h d (List.mem_cons_self ..)
    rw [readNext, hspan]
    intro tail' h
    cases h
    cases hd

/-- Text before markup or at the end. -/
theorem Scans.glyphs_of_head? {text : List Glyph} (h : text.all Glyph.wellFormed = true)
    {rest : List Char} (hhead : ∀ c ∈ rest.head?, c = '<') {next : List Token}
    (hrest : Scans rest next) :
    Scans (writeText text ++ rest) (glyphTokens text ++ next) := by
  cases rest with
  | cons c rest =>
    cases hhead c rfl
    exact Scans.glyphs h hrest
  | nil =>
    unfold glyphTokens
    by_cases hraw : writeText text = []
    · rw [if_pos hraw, hraw]
      exact hrest
    · rw [if_neg hraw]
      refine Scans.prepend ?_ hraw hrest
      rw [List.append_nil, readNext_lastText hraw]
      intro c hc
      obtain ⟨glyph, hglyph, hwrite⟩ := List.mem_flatMap.mp hc
      exact Glyph.bne_of_mem_write (List.all_eq_true.mp h glyph hglyph) hwrite

/-- An instruction cannot be read if it seems to end before its end mark. -/
theorem readNext_instruction_of_mem {content : List Char} (h : ¬['?', '>'] <:+: content)
    (hmem : '>' ∈ content) (rest : List Char) :
    readNext (writeInstruction content ++ rest) = failed := by
  obtain ⟨before, after, rfl, hbefore⟩ := List.eq_append_cons_of_mem hmem
  have hspan : (before ++ '>' :: (after ++ ['?', '>'] ++ rest)).span (· != '>') =
      (before, '>' :: (after ++ ['?', '>'] ++ rest)) := by
    apply span_append _ (by decide)
    intro c hc
    rw [bne_iff_ne]
    rintro rfl
    exact hbefore hc
  have hlast : before.getLast? ≠ some '?' := by
    intro hlast
    obtain ⟨front, rfl⟩ := List.getLast?_eq_some_iff.mp hlast
    exact h ⟨front, after, by simp only [List.append_assoc, List.cons_append, List.nil_append]⟩
  have hshape : before ++ '>' :: after ++ ['?', '>'] ++ rest =
      before ++ '>' :: (after ++ ['?', '>'] ++ rest) := by
    simp only [List.append_assoc, List.cons_append, List.nil_append]
  show readInstruction (before ++ '>' :: after ++ ['?', '>'] ++ rest) = _
  rw [hshape, readInstruction, cut, hspan]
  exact if_neg fun hend => hlast hend.2

end Token

/-! ## Elements -/

namespace Content

/-- The tokens that content is scanned to. -/
def tokens : Content → List Token
  | stop text => glyphTokens text
  | cdata text content rest => glyphTokens text ++ .cdata content :: rest.tokens
  | comment text _ rest | instruction text _ rest =>
    glyphTokens text ++ .aside :: rest.tokens
  | hollow text tag rest =>
    glyphTokens text ++ .start tag.name tag.details :: .stop tag.name :: rest.tokens
  | element text tag inside _ rest =>
    glyphTokens text ++ .start tag.name tag.details ::
      (inside.tokens ++ .stop tag.name :: rest.tokens)

/-- The tokens of content and those of what follows it. -/
def tokensThen : Content → List Token → List Token
  | stop text, next => glyphTokens text ++ next
  | cdata text content rest, next => glyphTokens text ++ .cdata content :: rest.tokensThen next
  | comment text _ rest, next => glyphTokens text ++ .aside :: rest.tokensThen next
  | instruction text content rest, next =>
    glyphTokens text ++
      if content.contains '>' then [.broken] else .aside :: rest.tokensThen next
  | hollow text tag rest, next =>
    glyphTokens text ++ .start tag.name tag.details :: .stop tag.name :: rest.tokensThen next
  | element text tag inside _ rest, next =>
    glyphTokens text ++ .start tag.name tag.details ::
      inside.tokensThen (.stop tag.name :: rest.tokensThen next)

/-- Content is scanned to its tokens, before markup or at the end. -/
theorem scans_tokensThen {content : Content} (h : content.wellFormed = true)
    {rest : List Char} (hhead : ∀ c ∈ rest.head?, c = '<') {next : List Token}
    (hrest : Token.Scans rest next) :
    Token.Scans (content.write ++ rest) (content.tokensThen next) := by
  induction content generalizing rest next with
  | stop text => exact Token.Scans.glyphs_of_head? h hhead hrest
  | cdata text content more ih =>
    simp only [wellFormed, Bool.and_eq_true, decide_eq_true_eq] at h
    have hsection := (ih h.2 hhead hrest).prepend (Token.readNext_writeSection h.1.2 _)
      (List.cons_ne_nil _ _)
    have hall := Token.Scans.glyphs h.1.1 hsection
    simp only [write, tokensThen, List.append_assoc, List.cons_append, List.nil_append]
      at hall ⊢
    exact hall
  | comment text content more ih =>
    simp only [wellFormed, Bool.and_eq_true, decide_eq_true_eq] at h
    have hcomment := (ih h.2 hhead hrest).prepend (Token.readNext_comment h.1.2 _)
      (List.cons_ne_nil _ _)
    have hall := Token.Scans.glyphs h.1.1 hcomment
    simp only [write, tokensThen, List.append_assoc, List.cons_append, List.nil_append]
      at hall ⊢
    exact hall
  | instruction text content more ih =>
    simp only [wellFormed, Bool.and_eq_true, Bool.not_eq_true', List.isEmpty_eq_false_iff,
      decide_eq_true_eq] at h
    by_cases hmem : '>' ∈ content
    · have hinstruction := Token.Scans.broken
        (Token.readNext_instruction_of_mem h.1.2 hmem (more.write ++ rest))
        (List.cons_ne_nil _ _)
      have hall := Token.Scans.glyphs h.1.1.1 hinstruction
      simp only [write, tokensThen, List.contains_eq_mem, hmem, decide_true, if_true,
        List.append_assoc] at hall ⊢
      exact hall
    · have hinstruction := (ih h.2 hhead hrest).prepend
        (Token.readNext_instruction h.1.1.2 hmem _) (List.cons_ne_nil _ _)
      have hall := Token.Scans.glyphs h.1.1.1 hinstruction
      simp only [write, tokensThen, List.contains_eq_mem, hmem, decide_false,
        Bool.false_eq_true, if_false, List.append_assoc, List.cons_append, List.nil_append]
        at hall ⊢
      exact hall
  | hollow text tag more ih =>
    simp only [wellFormed, Bool.and_eq_true] at h
    have htag := (ih h.2 hhead hrest).prepend (Tag.readNext_hollow h.1.2 _) (List.cons_ne_nil _ _)
    have hall := Token.Scans.glyphs h.1.1 htag
    simp only [write, tokensThen, List.append_assoc, List.cons_append, List.nil_append]
      at hall ⊢
    exact hall
  | element text tag inside space more ihinside ihmore =>
    simp only [wellFormed, Bool.and_eq_true] at h
    have hstop := (ihmore h.2 hhead hrest).prepend (Tag.readNext_stop h.1.1.1.2 h.1.2 _)
      (List.cons_ne_nil _ _)
    have hstart := (ihinside h.1.1.2 (by rintro _ ⟨⟩; rfl) hstop).prepend
      (Tag.readNext_start h.1.1.1.2 _)
      (List.cons_ne_nil _ _)
    have hall := Token.Scans.glyphs h.1.1.1.1 hstart
    simp only [write, tokensThen, List.append_assoc, List.cons_append, List.nil_append]
      at hall ⊢
    exact hall

/-- Tokens do not stop in content whose instructions end where they seem to. -/
theorem tokensThen_eq {content : Content} (h : content.plainInstructions = true)
    (next : List Token) : content.tokensThen next = content.tokens ++ next := by
  induction content generalizing next with
  | stop text => rfl
  | cdata text content rest ih =>
    simp only [tokensThen, tokens, ih h, List.append_assoc, List.cons_append]
  | comment text content rest ih =>
    simp only [tokensThen, tokens, ih h, List.append_assoc, List.cons_append]
  | instruction text content rest ih =>
    simp only [plainInstructions, Bool.and_eq_true, Bool.not_eq_true'] at h
    simp only [tokensThen, tokens, ih h.2, h.1, Bool.false_eq_true, if_false, List.append_assoc,
      List.cons_append]
  | hollow text tag rest ih =>
    simp only [tokensThen, tokens, ih h, List.append_assoc, List.cons_append]
  | element text tag inside space rest ihinside ihrest =>
    rw [plainInstructions, Bool.and_eq_true] at h
    simp only [tokensThen, tokens, ihinside h.1, ihrest h.2, List.append_assoc, List.cons_append]

theorem scans {content : Content} (h : content.wellFormed = true)
    (hplain : content.plainInstructions = true) {rest : List Char} {tokens : List Token}
    (hrest : Token.Scans ('<' :: rest) tokens) :
    Token.Scans (content.write ++ '<' :: rest) (content.tokens ++ tokens) := by
  rw [← tokensThen_eq hplain]
  exact scans_tokensThen h (by rintro _ ⟨⟩; rfl) hrest

end Content

namespace Element

/-- The tokens that an element is scanned to. -/
def tokens : Element → List Token
  | full tag inside _ => .start tag.name tag.details :: (inside.tokens ++ [.stop tag.name])
  | hollow tag => [.start tag.name tag.details, .stop tag.name]

theorem scans {element : Element} (h : element.wellFormed = true)
    (hreadable : element.readable = true) {rest : List Char} {tokens : List Token}
    (hrest : Token.Scans rest tokens) :
    Token.Scans (element.write ++ rest) (element.tokens ++ tokens) := by
  cases element with
  | full tag inside space =>
    simp only [wellFormed, readable, Bool.and_eq_true] at h hreadable
    have hstop := hrest.prepend (Tag.readNext_stop h.1.1 h.2 _) (List.cons_ne_nil _ _)
    have hinside := inside.scans h.1.2 hreadable.1 hstop
    have hall := hinside.prepend (Tag.readNext_start h.1.1 _) (List.cons_ne_nil _ _)
    simp only [write, Element.tokens, List.append_assoc, List.cons_append, List.nil_append]
      at hall ⊢
    exact hall
  | hollow tag => exact hrest.prepend (Tag.readNext_hollow h _) (List.cons_ne_nil _ _)

end Element

end CallbackGate.Markup
