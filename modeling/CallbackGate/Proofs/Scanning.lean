import CallbackGate.Markup.Draft
import CallbackGate.Markup.Token
import Mathlib.Data.List.TakeDrop
import Mathlib.Data.List.TakeWhile
import Mathlib.Tactic.SplitIfs

/-!
# Scanning what was written

A written element is scanned to the tokens that `Draft.tokens` lists: its tags,
and between them the sections that its string was parted into, its escaped text
or the tokens of its content.  The strings may hold any characters; the names
must be plain.

There are four groups.

* Names and tags.
* Sections.  `sections` parts a string where `Draft.partSections` does, and no
  section holds the mark that would end it.
* Text.  Escaped text has no character that begins markup.
* Elements.  `Scans` says what an input is scanned to, whatever fuel is left
  over, so that constructs can be put together; `scans_write` goes over the
  elements.
-/

namespace CallbackGate.Markup

/-! ## Names and tags -/

/-- The characters that mean something to a reader of tags and names. -/
def marks : List Char := ['<', '>', '/', '?', '!', '\'', '"', ':']

/-- A character that means nothing to a reader of tags and names. -/
def isPlain (c : Char) : Bool :=
  !Text.isMarkupSpace c && !marks.contains c

/-- A name that is read as it is written. -/
def plainName (name : String) : Bool :=
  !name.toList.isEmpty && name.toList.all isPlain

theorem isMarkupSpace_of_isPlain {c : Char} (h : isPlain c = true) :
    Text.isMarkupSpace c = false := by
  rw [isPlain, Bool.and_eq_true, Bool.not_eq_true'] at h
  exact h.1

theorem ne_of_isPlain {c : Char} (h : isPlain c = true) (mark : Char)
    (hmark : mark ∈ marks) : c ≠ mark := by
  intro h
  subst h
  rw [isPlain, List.contains_iff_mem.mpr hmark, Bool.not_true, Bool.and_false] at h
  cases h

theorem plainName_iff {name : String} :
    plainName name = true ↔ name.toList ≠ [] ∧ ∀ c ∈ name.toList, isPlain c = true := by
  rw [plainName, Bool.and_eq_true, Bool.not_eq_true', List.isEmpty_eq_false_iff,
    List.all_eq_true]

namespace Token

/-- A tag ends behind plain characters. -/
theorem cutTag_plain (before : List Char) {name : List Char}
    (h : ∀ c ∈ name, isPlain c = true) (rest : List Char) :
    cutTag before none (name ++ '>' :: rest) = some (before.reverse ++ name, rest) := by
  induction name generalizing before with
  | nil =>
    show (if _ then _ else _) = _
    rw [if_pos ⟨rfl, rfl⟩, List.append_nil]
  | cons c name ih =>
    have hc : isPlain c = true := h c (List.mem_cons_self ..)
    have hquote : Quote.next none c = none := by
      have hsingle := ne_of_isPlain hc '\'' (by decide)
      have hdouble := ne_of_isPlain hc '"' (by decide)
      show (if _ then _ else _) = _
      rw [if_neg (by simp only [hsingle, hdouble, or_self, not_false_eq_true])]
    have hgreater := ne_of_isPlain hc '>' (by decide)
    rw [List.cons_append, cutTag, if_neg (fun hend => hgreater hend.2), hquote,
      ih (c :: before) (fun d hd => h d (List.mem_cons_of_mem c hd)), List.reverse_cons,
      List.append_assoc, List.singleton_append]

theorem span_of_all {accepts : Char → Bool} {input : List Char}
    (h : ∀ c ∈ input, accepts c = true) : input.span accepts = (input, []) := by
  rw [List.span_eq_takeWhile_dropWhile, List.takeWhile_eq_self_iff.mpr h,
    List.dropWhile_eq_nil_iff.mpr h]

theorem span_append {accepts : Char → Bool} {input : List Char} {mark : Char}
    (h : ∀ c ∈ input, accepts c = true) (hmark : accepts mark = false)
    (rest : List Char) :
    (input ++ mark :: rest).span accepts = (input, mark :: rest) := by
  rw [List.span_eq_takeWhile_dropWhile, List.takeWhile_append_of_pos h,
    List.dropWhile_append_of_pos h, List.takeWhile_cons_of_neg (by rw [hmark]; decide),
    List.dropWhile_cons_of_neg (by rw [hmark]; decide), List.append_nil]

theorem stripEnd_of_none {accepts : Char → Bool} {input : List Char}
    (h : ∀ c ∈ input, accepts c = false) : Text.stripEnd accepts input = input := by
  have hdrop : input.reverse.dropWhile accepts = input.reverse := by
    cases hreverse : input.reverse with
    | nil => rfl
    | cons c rest =>
      have hmem : c ∈ input := by
        rw [← List.mem_reverse, hreverse]
        exact List.mem_cons_self ..
      rw [List.dropWhile_cons_of_neg (by rw [h c hmem]; decide)]
  rw [Text.stripEnd, hdrop, List.reverse_reverse]

/-- A character that begins no other markup begins a start tag. -/
theorem readMarkup_of_ne {c : Char} (h : c ≠ '/' ∧ c ≠ '?' ∧ c ≠ '!') (rest : List Char) :
    readMarkup (c :: rest) = readStart (c :: rest) := by
  obtain ⟨hslash, hquestion, hbang⟩ := h
  rw [readMarkup]
  · intro h
    cases h
  · intro _ h
    cases h
    exact hslash rfl
  · intro _ h
    cases h
    exact hquestion rfl
  · intro _ h
    cases h
    exact hbang rfl

/-- A plain character begins a start tag. -/
theorem readMarkup_of_isPlain {c : Char} (h : isPlain c = true) (rest : List Char) :
    readMarkup (c :: rest) = readStart (c :: rest) :=
  readMarkup_of_ne ⟨ne_of_isPlain h '/' (by decide), ne_of_isPlain h '?' (by decide),
    ne_of_isPlain h '!' (by decide)⟩ rest

/-- A start tag is read as its name. -/
theorem readNext_startTag {name : String} (h : plainName name = true) (rest : List Char) :
    readNext (Draft.startTag name ++ rest) = ([start name []], rest) := by
  obtain ⟨hne, hplain⟩ := plainName_iff.mp h
  have hcut := cutTag_plain [] hplain rest
  have hlast : name.toList.getLast? ≠ some '/' := by
    intro hslash
    exact ne_of_isPlain (hplain _ (List.mem_of_getLast? hslash)) '/' (by decide) rfl
  have hspan : name.toList.span (!Text.isMarkupSpace ·) = (name.toList, []) := by
    apply span_of_all
    intro c hc
    rw [isMarkupSpace_of_isPlain (hplain c hc), Bool.not_false]
  have hread : readStart (name.toList ++ '>' :: rest) = ([start name []], rest) := by
    rw [readStart, hcut]
    simp only [List.reverse_nil, List.nil_append, beq_iff_eq, hlast, if_false, hspan,
      String.ofList_toList]
  show readMarkup (name.toList ++ ['>'] ++ rest) = _
  rw [List.append_assoc, List.singleton_append]
  cases hname : name.toList with
  | nil => exact absurd hname hne
  | cons c tail =>
    have hc : isPlain c = true := hplain c (by rw [hname]; exact List.mem_cons_self ..)
    rw [hname] at hread
    rw [List.cons_append, readMarkup_of_isPlain hc, ← List.cons_append, hread]

/-- An end tag is read as its name. -/
theorem readNext_stopTag {name : String} (h : plainName name = true) (rest : List Char) :
    readNext (Draft.stopTag name ++ rest) = ([stop name], rest) := by
  obtain ⟨hne, hplain⟩ := plainName_iff.mp h
  have hspan : (name.toList ++ '>' :: rest).span (· != '>') = (name.toList, '>' :: rest) :=
    span_append (fun c hc => bne_iff_ne.mpr (ne_of_isPlain (hplain c hc) '>' (by decide)))
      (by decide) rest
  have hstrip : Text.stripEnd Text.isMarkupSpace name.toList = name.toList :=
    stripEnd_of_none fun c hc => isMarkupSpace_of_isPlain (hplain c hc)
  show readStop (name.toList ++ ['>'] ++ rest) = _
  rw [List.append_assoc, List.singleton_append, readStop, cut, hspan]
  show ([stop (stopName name.toList)], rest) = _
  rw [stopName, hstrip, ite_self, String.ofList_toList]

end Token

/-! ## Sections -/

/-- The sections that a string is parted into: the first one and those after
it.  A section ends before the last character of each `]]>`. -/
def sections : List Char → List Char × List (List Char)
  | ']' :: ']' :: '>' :: rest =>
    ([']', ']'], ('>' :: (sections rest).1) :: (sections rest).2)
  | c :: rest => (c :: (sections rest).1, (sections rest).2)
  | [] => ([], [])

/-- All sections of a string. -/
def sectionsOf (value : List Char) : List (List Char) :=
  (sections value).1 :: (sections value).2

/-- The mark that begins a section. -/
def sectionStart : List Char := ['<', '!', '[', 'C', 'D', 'A', 'T', 'A', '[']

/-- The mark that ends a section. -/
def sectionEnd : List Char := [']', ']', '>']

theorem toList_sectionStart : "<![CDATA[".toList = sectionStart := by decide

theorem toList_sectionEnd : "]]>".toList = sectionEnd := by decide

theorem toList_parted :
    "]]]]><![CDATA[>".toList = [']', ']'] ++ sectionEnd ++ sectionStart ++ ['>'] := by
  decide

/-- Where a string holds the mark, one section ends and another begins. -/
theorem partSections_sectionEnd (rest : List Char) :
    Draft.partSections (sectionEnd ++ rest) =
      [']', ']'] ++ sectionEnd ++ sectionStart ++ '>' :: Draft.partSections rest := by
  show "]]]]><![CDATA[>".toList ++ Draft.partSections rest = _
  rw [toList_parted, List.append_assoc, List.singleton_append]

theorem partSections_cons {c : Char} {rest : List Char}
    (h : ∀ tail, c = ']' → rest = ']' :: '>' :: tail → False) :
    Draft.partSections (c :: rest) = c :: Draft.partSections rest := by
  rw [Draft.partSections.eq_def]
  split
  · rename_i heq
    cases heq
    exact (h _ rfl rfl).elim
  · rename_i heq
    cases heq
    rfl
  · rename_i heq
    cases heq

/-- A section as it is written. -/
def writeSection (content : List Char) : List Char :=
  sectionStart ++ content ++ sectionEnd

/-- The sections hold the string. -/
theorem flatten_sectionsOf (value : List Char) : (sectionsOf value).flatten = value := by
  show (sections value).1 ++ (sections value).2.flatten = value
  fun_induction sections value with
  | case1 rest ih =>
    rw [List.flatten_cons, List.cons_append, List.cons_append, List.cons_append,
      List.nil_append, ih]
  | case2 c rest _ ih => rw [List.cons_append, ih]
  | case3 => rfl

/-- A parted string is written as its sections. -/
theorem flatMap_writeSection (value : List Char) :
    (sectionsOf value).flatMap writeSection =
      sectionStart ++ Draft.partSections value ++ sectionEnd := by
  have hparts : (sections value).1 ++ sectionEnd ++
      (sections value).2.flatMap writeSection =
        Draft.partSections value ++ sectionEnd := by
    fun_induction sections value with
    | case1 rest ih =>
      have hpart := partSections_sectionEnd rest
      rw [sectionEnd, List.cons_append, List.cons_append, List.cons_append,
        List.nil_append] at hpart
      rw [hpart, List.flatMap_cons, writeSection]
      simp only [List.append_assoc, List.cons_append, List.nil_append] at ih ⊢
      rw [← ih]
      rfl
    | case2 c rest hno ih =>
      rw [partSections_cons hno, List.cons_append, List.cons_append, List.cons_append, ih]
    | case3 => rfl
  rw [sectionsOf, List.flatMap_cons, writeSection, List.append_assoc, List.append_assoc,
    ← List.append_assoc _ sectionEnd, hparts, ← List.append_assoc]

/-- The first section is a part of the string from its beginning. -/
theorem sections_fst_isPrefix (value : List Char) : (sections value).1 <+: value := by
  fun_induction sections value with
  | case1 rest ih => exact ⟨'>' :: rest, rfl⟩
  | case2 c rest _ ih =>
    obtain ⟨tail, htail⟩ := ih
    exact ⟨tail, by rw [List.cons_append, htail]⟩
  | case3 => exact List.nil_prefix

/-- No section holds the mark that would end it. -/
theorem not_isInfix_sectionsOf {value content : List Char}
    (h : content ∈ sectionsOf value) : ¬sectionEnd <:+: content := by
  unfold sectionsOf at h
  fun_induction sections value generalizing content with
  | case1 rest ih =>
    intro hend
    rw [List.mem_cons, List.mem_cons] at h
    rcases h with rfl | rfl | h
    · exact absurd hend (show ¬sectionEnd <:+: [']', ']'] by decide)
    · rw [sectionEnd, List.infix_cons_iff] at hend
      rcases hend with ⟨tail, htail⟩ | hend
      · cases htail
      · exact ih (List.mem_cons_self ..) hend
    · exact ih (List.mem_cons_of_mem _ h) hend
  | case2 c rest hno ih =>
    intro hend
    rw [List.mem_cons] at h
    rcases h with rfl | h
    · rw [sectionEnd, List.infix_cons_iff] at hend
      rcases hend with ⟨tail, htail⟩ | hend
      · -- The mark would stand at the beginning of the string itself.
        obtain ⟨more, hmore⟩ := sections_fst_isPrefix rest
        rw [List.cons_append, List.cons.injEq] at htail
        obtain ⟨rfl, htail⟩ := htail
        rw [← hmore, ← htail] at hno
        exact hno _ rfl rfl
      · exact ih (List.mem_cons_self ..) hend
    · exact ih (List.mem_cons_of_mem _ h) hend
  | case3 =>
    intro hend
    rw [List.mem_singleton] at h
    rw [h] at hend
    exact absurd hend (by decide)

namespace Token

/-- What is closed by a character twice and `>` ends at the first such mark that stands
after it. -/
theorem cutAfter_twice {mark : Char} (hmark : mark ≠ '>') (before : List Char)
    {content : List Char} (h : ¬[mark, mark, '>'] <:+: before.reverse ++ content)
    (rest : List Char) :
    cutAfter [mark, mark] before (content ++ [mark, mark, '>'] ++ rest) =
      some (before.reverse ++ content, rest) := by
  induction content generalizing before with
  | nil =>
    have hclose : [mark, mark].isPrefixOf (mark :: mark :: before) = true :=
      List.isPrefixOf_iff_prefix.mpr ⟨before, rfl⟩
    show cutAfter [mark, mark] before (mark :: mark :: '>' :: rest) = _
    rw [cutAfter, if_neg fun h => hmark h.1, cutAfter, if_neg fun h => hmark h.1, cutAfter,
      if_pos ⟨rfl, hclose⟩, List.append_nil]
    rfl
  | cons c content ih =>
    have hcut : ¬(c = '>' ∧ [mark, mark].isPrefixOf before = true) := by
      intro h
      obtain ⟨rfl, hclose⟩ := h
      obtain ⟨tail, rfl⟩ := List.isPrefixOf_iff_prefix.mp hclose
      refine h ⟨tail.reverse, content, ?_⟩
      rw [List.reverse_append]
      simp only [List.append_assoc, List.cons_append, List.nil_append, List.reverse_cons,
        List.reverse_nil]
    have hnext : (c :: before).reverse ++ content = before.reverse ++ c :: content := by
      rw [List.reverse_cons, List.append_assoc, List.singleton_append]
    rw [← hnext] at h
    rw [List.cons_append, List.cons_append, cutAfter, if_neg hcut, ih (c :: before) h, hnext]

/-- A section ends at the first mark that stands after it. -/
theorem cutAfter_sectionEnd (before : List Char) {content : List Char}
    (h : ¬sectionEnd <:+: before.reverse ++ content) (rest : List Char) :
    cutAfter [']', ']'] before (content ++ sectionEnd ++ rest) =
      some (before.reverse ++ content, rest) :=
  cutAfter_twice (by decide) before h rest

/-- A section is read as its content. -/
theorem readNext_writeSection {content : List Char} (h : ¬sectionEnd <:+: content)
    (rest : List Char) :
    readNext (writeSection content ++ rest) = ([cdata content], rest) := by
  have hlength : "[CDATA[".length = 7 := by decide
  have hword : afterWord? "[CDATA["
      (['[', 'C', 'D', 'A', 'T', 'A', '['] ++ (content ++ sectionEnd ++ rest)) =
        some (content ++ sectionEnd ++ rest) := by
    rw [afterWord?, hlength]
    show (if Text.sameLetters (String.ofList ['[', 'C', 'D', 'A', 'T', 'A', '[']) _ = true
      then some (content ++ sectionEnd ++ rest) else none) = _
    rw [if_pos (by decide)]
  have hcut := cutAfter_sectionEnd [] h rest
  have hshape : writeSection content ++ rest =
      '<' :: '!' :: (['[', 'C', 'D', 'A', 'T', 'A', '['] ++
        (content ++ sectionEnd ++ rest)) := by
    rw [writeSection, sectionStart]
    simp only [List.append_assoc, List.cons_append, List.nil_append]
  rw [hshape]
  show readCdata _ = _
  rw [readCdata, hword]
  dsimp only
  rw [hcut]
  rfl

end Token

/-! ## Text -/

/-- A written character is not empty and does not begin markup. -/
theorem escapeChar_spec (c : Char) :
    escapeChar c ≠ [] ∧ ∀ d ∈ escapeChar c, (d != '<') = true := by
  unfold escapeChar
  split_ifs with hless hgreater hand hsingle hdouble
  · simp
  · simp
  · simp
  · simp
  · simp
  · refine ⟨List.cons_ne_nil c [], ?_⟩
    intro d hd
    rw [List.mem_singleton] at hd
    rw [hd, bne_iff_ne]
    exact hless

theorem escape_ne_nil {text : List Char} (h : text ≠ []) : escape text ≠ [] := by
  cases text with
  | nil => exact absurd rfl h
  | cons c text =>
    rw [escape, List.flatMap_cons]
    exact List.append_ne_nil_of_left_ne_nil (escapeChar_spec c).1 _

theorem bne_of_mem_escape {text : List Char} (d : Char) (hd : d ∈ escape text) :
    (d != '<') = true := by
  obtain ⟨c, -, hc⟩ := List.mem_flatMap.mp hd
  exact (escapeChar_spec c).2 d hc

namespace Token

/-- Text is read up to the markup after it. -/
theorem readNext_text {raw : List Char} (hne : raw ≠ []) (h : ∀ c ∈ raw, (c != '<') = true)
    (rest : List Char) : readNext (raw ++ '<' :: rest) = ([.text raw], '<' :: rest) := by
  have hspan : (raw ++ '<' :: rest).span (· != '<') = (raw, '<' :: rest) :=
    span_append h (by decide) rest
  cases raw with
  | nil => exact absurd rfl hne
  | cons d tail =>
    have hd : (d != '<') = true := h d (List.mem_cons_self ..)
    rw [List.cons_append] at hspan ⊢
    rw [readNext, hspan]
    intro tail' h
    cases h
    cases hd

/-- Escaped text is read up to the markup after it. -/
theorem readNext_escape {text : List Char} (h : text ≠ []) (rest : List Char) :
    readNext (escape text ++ '<' :: rest) = ([.text (escape text)], '<' :: rest) :=
  readNext_text (escape_ne_nil h) bne_of_mem_escape rest

end Token

/-! ## Elements -/

namespace Draft

mutual

/-- The names in an element are read as they are written. -/
def wellNamed : Draft → Bool
  | cdata name _ => plainName name
  | text name _ => plainName name
  | group name content => plainName name && allWellNamed content

/-- The names in elements are read as they are written. -/
def allWellNamed : List Draft → Bool
  | [] => true
  | draft :: rest => draft.wellNamed && allWellNamed rest

end

/-- The token of a text that is written with escapes, if it is not empty. -/
def textTokens (value : String) : List Token :=
  if value.toList = [] then [] else [.text (escape value.toList)]

mutual

/-- The tokens that an element is scanned to. -/
def tokens : Draft → List Token
  | cdata name value =>
    .start name [] :: (sectionsOf value.toList).map .cdata ++ [.stop name]
  | text name value => .start name [] :: textTokens value ++ [.stop name]
  | group name content => .start name [] :: allTokens content ++ [.stop name]

/-- The tokens that elements are scanned to. -/
def allTokens : List Draft → List Token
  | [] => []
  | draft :: rest => draft.tokens ++ allTokens rest

end

end Draft

namespace Token

/-- An input is scanned to these tokens, with any fuel that is enough for its
length. -/
def Scans (input : List Char) (tokens : List Token) : Prop :=
  ∀ fuel, input.length ≤ fuel → scanFrom fuel input = tokens

theorem scans_nil : Scans [] [] := by
  intro fuel _
  cases fuel with
  | zero => rfl
  | succ fuel => rfl

/-- What is read first is scanned first, if something is read. -/
theorem Scans.of_readNext {input rest : List Char} {found tokens : List Token}
    (hread : readNext input = (found, rest)) (hless : rest.length < input.length)
    (h : Scans rest tokens) : Scans input (found ++ tokens) := by
  intro fuel hfuel
  obtain ⟨less, rfl⟩ : ∃ less, fuel = less + 1 := ⟨fuel - 1, by omega⟩
  cases input with
  | nil => exact absurd hless (Nat.not_lt_zero _)
  | cons c tail =>
    rw [scanFrom, hread]
    · show found ++ scanFrom less rest = _
      rw [h less (by omega)]
    · exact List.cons_ne_nil c tail

/-- A construct before an input is scanned first. -/
theorem Scans.prepend {front rest : List Char} {found tokens : List Token}
    (hread : readNext (front ++ rest) = (found, rest)) (hfront : front ≠ [])
    (h : Scans rest tokens) : Scans (front ++ rest) (found ++ tokens) := by
  refine of_readNext hread ?_ h
  rw [List.length_append]
  exact Nat.lt_add_of_pos_left (List.length_pos_iff.mpr hfront)

theorem startTag_ne_nil (name : String) : Draft.startTag name ≠ [] := List.cons_ne_nil _ _

theorem stopTag_ne_nil (name : String) : Draft.stopTag name ≠ [] := List.cons_ne_nil _ _

/-- Tags around an input that is scanned up to the end tag. -/
theorem Scans.startTag {name : String} {rest : List Char} {tokens : List Token}
    (hname : plainName name = true) (h : Scans rest tokens) :
    Scans (Draft.startTag name ++ rest) (.start name [] :: tokens) :=
  Scans.prepend (readNext_startTag hname rest) (startTag_ne_nil name) h

theorem Scans.stopTag {name : String} {rest : List Char} {tokens : List Token}
    (hname : plainName name = true) (h : Scans rest tokens) :
    Scans (Draft.stopTag name ++ rest) (.stop name :: tokens) :=
  Scans.prepend (readNext_stopTag hname rest) (stopTag_ne_nil name) h

/-- Sections before an input. -/
theorem Scans.sections {contents : List (List Char)} {rest : List Char} {tokens : List Token}
    (hcontents : ∀ content ∈ contents, ¬sectionEnd <:+: content) (h : Scans rest tokens) :
    Scans (contents.flatMap writeSection ++ rest) (contents.map .cdata ++ tokens) := by
  induction contents with
  | nil => exact h
  | cons content contents ih =>
    have htail := ih fun other hother => hcontents other (List.mem_cons_of_mem _ hother)
    have hread := readNext_writeSection (hcontents content (List.mem_cons_self ..))
      (contents.flatMap writeSection ++ rest)
    rw [List.flatMap_cons, List.append_assoc, List.map_cons, List.cons_append]
    exact Scans.prepend hread (List.cons_ne_nil _ _) htail

/-- Escaped text before an end tag. -/
theorem Scans.text (value : String) {name : String} {rest : List Char}
    {tokens : List Token} (h : Scans (Draft.stopTag name ++ rest) tokens) :
    Scans (escape value.toList ++ (Draft.stopTag name ++ rest))
      (Draft.textTokens value ++ tokens) := by
  unfold Draft.textTokens
  by_cases hvalue : value.toList = []
  · rw [if_pos hvalue, hvalue]
    exact h
  · rw [if_neg hvalue]
    exact Scans.prepend (readNext_escape hvalue _) (escape_ne_nil hvalue) h

mutual

/-- A written element is scanned to its tokens. -/
theorem scans_write : ∀ (draft : Draft), draft.wellNamed = true →
    ∀ (rest : List Char) (tokens : List Token), Scans rest tokens →
      Scans (draft.write ++ rest) (draft.tokens ++ tokens)
  | .cdata name value, hname, rest, tokens, h => by
    have hsections := Scans.sections
      (fun content (hcontent : content ∈ sectionsOf value.toList) =>
        not_isInfix_sectionsOf hcontent)
      (Scans.stopTag hname h)
    have hall := Scans.startTag hname hsections
    rw [flatMap_writeSection] at hall
    rw [Draft.write, Draft.tokens, toList_sectionStart, toList_sectionEnd]
    simp only [List.append_assoc, List.cons_append, List.nil_append] at hall ⊢
    exact hall
  | .text name value, hname, rest, tokens, h => by
    have hall := Scans.startTag hname (Scans.text value (Scans.stopTag hname h))
    rw [Draft.write, Draft.tokens]
    simp only [List.append_assoc, List.cons_append, List.nil_append] at hall ⊢
    exact hall
  | .group name content, hnames, rest, tokens, h => by
    rw [Draft.wellNamed, Bool.and_eq_true] at hnames
    have hcontent := scans_writeAll content hnames.2 _ _ (Scans.stopTag hnames.1 h)
    have hall := Scans.startTag hnames.1 hcontent
    rw [Draft.write, Draft.tokens]
    simp only [List.append_assoc, List.cons_append, List.nil_append] at hall ⊢
    exact hall

/-- Written elements are scanned to their tokens. -/
theorem scans_writeAll : ∀ (drafts : List Draft), Draft.allWellNamed drafts = true →
    ∀ (rest : List Char) (tokens : List Token), Scans rest tokens →
      Scans (Draft.writeAll drafts ++ rest) (Draft.allTokens drafts ++ tokens)
  | [], _, rest, tokens, h => h
  | draft :: drafts, hnames, rest, tokens, h => by
    rw [Draft.allWellNamed, Bool.and_eq_true] at hnames
    have hrest := scans_writeAll drafts hnames.2 rest tokens h
    have hall := scans_write draft hnames.1 _ _ hrest
    rw [Draft.writeAll, Draft.allTokens, List.append_assoc, List.append_assoc]
    exact hall

end

/-- A written document is scanned to the tokens of its root. -/
theorem scan_document {drafts : List Draft} (h : Draft.allWellNamed drafts = true) :
    scan (Draft.document drafts) =
      .start "xml" [] :: Draft.allTokens drafts ++ [.stop "xml"] := by
  have hnames : (Draft.group "xml" drafts).wellNamed = true := by
    rw [Draft.wellNamed, h, Bool.and_true]
    decide
  have hscans := scans_write (.group "xml" drafts) hnames [] [] scans_nil
  rw [List.append_nil, List.append_nil] at hscans
  rw [Draft.document, scan, String.toList_ofList]
  rw [← Draft.tokens, ← hscans _ (Nat.le_refl _)]
  rw [Draft.write, Draft.startTag]
  rfl

end Token

end CallbackGate.Markup
