import CallbackGate.Message.Reading
import CallbackGate.Proofs.Gaps
import CallbackGate.Proofs.Numerals

/-!
# Blank numerals

An element for a numeral may stand blank: a document is read as the same document without
this element.  That holds of every numeral of an envelope and of the place in it, but not of
the count of pictures, whose element spoils the document if it is blank.

There are four groups.

* Blank content.  It is white space, spelled in any way that is read.
* Faults.  The readers of envelopes are strict.
* Enclosures.  A record with a blank numeral in a gap is read as without it
  (`Record.read_filled`).
* Envelopes.  `ofBody_blank_numeral` is the assembly.
-/

namespace CallbackGate.Markup

/-! ## Blank content -/

/-- A character of white space, or a reference to one that can be read. -/
def Glyph.isBlank (glyph : Glyph) : Bool :=
  glyph.value?.any Text.isBlank

/-- White space as text and in sections, perhaps between comments and instructions that can
be read. -/
def Content.isBlank : Content → Bool
  | stop text => text.all Glyph.isBlank
  | cdata text content rest =>
    text.all Glyph.isBlank && content.all Text.isBlank && rest.isBlank
  | comment text _ rest => text.all Glyph.isBlank && rest.isBlank
  | instruction text content rest =>
    text.all Glyph.isBlank && !content.contains '>' && rest.isBlank
  | hollow .. | element .. => false

/-- There is nothing but white space in the element. -/
def Element.isBlank : Element → Bool
  | full _ inside _ => inside.isBlank
  | hollow _ => true

/-- A piece that is read as white space. -/
def Piece.Blank (piece : Piece) : Prop :=
  ∃ value, piece.value? = some value ∧ ∀ c ∈ value, Text.isBlank c = true

theorem Piece.blank_plain {text : List Glyph} (h : text.all Glyph.wellFormed = true)
    (hblank : text.all Glyph.isBlank = true) : Piece.Blank (.plain (writeText text)) := by
  induction text with
  | nil => exact ⟨[], rfl, nofun⟩
  | cons glyph text ih =>
    rw [List.all_cons, Bool.and_eq_true] at h hblank
    obtain ⟨value, hvalue, hspace⟩ := ih h.2 hblank.2
    obtain ⟨c, hc, hcblank⟩ := (Option.any_eq_true ..).mp hblank.1
    refine ⟨c :: value, ?_, List.forall_mem_cons.mpr ⟨hcblank, hspace⟩⟩
    rw [Piece.value?, unescape] at hvalue ⊢
    rw [writeText, List.flatMap_cons, Glyph.unescapeFrom_write h.1, hc, Option.bind_some,
      unescapeFrom_before, ← writeText, hvalue]
    rfl

theorem Piece.Blank.trimStart {raw : List Char} (h : Piece.Blank (.plain raw)) :
    Piece.Blank (.plain (Event.trimStart raw)) := by
  obtain ⟨value, hvalue, hblank⟩ := h
  obtain ⟨space, -, hraw⟩ := exists_unescape_trimStart raw
  rw [Piece.value?, hraw, Option.map_eq_some_iff] at hvalue
  obtain ⟨rest, hrest, rfl⟩ := hvalue
  exact ⟨rest, hrest, fun c hc => hblank c (List.mem_append_right _ hc)⟩

theorem Piece.Blank.trimEnd {raw : List Char} (h : Piece.Blank (.plain raw)) :
    Piece.Blank (.plain (Event.trimEnd raw)) := by
  obtain ⟨value, hvalue, hblank⟩ := h
  obtain ⟨space, -, hraw⟩ := exists_unescape_trimEnd raw
  rw [Piece.value?, hraw, Option.map_eq_some_iff] at hvalue
  obtain ⟨rest, hrest, rfl⟩ := hvalue
  exact ⟨rest, hrest, fun c hc => hblank c (List.mem_append_left _ hc)⟩

/-- A run that is read as white space. -/
def BlankRun (run : Run) : Prop :=
  ∀ piece ∈ run, piece.Blank

theorem BlankRun.nil : BlankRun [] :=
  List.forall_mem_nil _

theorem BlankRun.addGlyphs {run : Run} (hrun : BlankRun run) {text : List Glyph}
    (h : text.all Glyph.wellFormed = true) (hblank : text.all Glyph.isBlank = true) :
    BlankRun (addGlyphs run text) := by
  have htext := Piece.blank_plain h hblank
  unfold Markup.addGlyphs
  split_ifs
  · exact hrun
  · cases run with
    | nil =>
      show BlankRun (if _ then [] else [.plain (Event.trimStart (writeText text))])
      split_ifs
      · exact hrun
      · exact List.forall_mem_cons.mpr ⟨htext.trimStart, hrun⟩
    | cons piece run => exact List.forall_mem_cons.mpr ⟨htext, hrun⟩

theorem BlankRun.value? {run : Run} (h : BlankRun run) :
    ∃ value, Run.value? run = some value ∧ ∀ c ∈ value, Text.isBlank c = true := by
  have hvalues : ∃ values, run.mapM Piece.value? = some values ∧
      ∀ value ∈ values, ∀ c ∈ value, Text.isBlank c = true := by
    induction run with
    | nil => exact ⟨[], rfl, nofun⟩
    | cons piece run ih =>
      obtain ⟨⟨value, hvalue, hblank⟩, hrun⟩ := List.forall_mem_cons.mp h
      obtain ⟨values, hvalues, hblanks⟩ := ih hrun
      refine ⟨value :: values, ?_, List.forall_mem_cons.mpr ⟨hblank, hblanks⟩⟩
      rw [List.mapM_cons, hvalue, hvalues]
      rfl
  obtain ⟨values, hvalues, hblanks⟩ := hvalues
  refine ⟨values.flatten, by rw [Run.value?, hvalues, Option.map_some], ?_⟩
  intro c hc
  obtain ⟨value, hvalue, hc⟩ := List.mem_flatten.mp hc
  exact hblanks value hvalue c hc

/-- A blank run that is over is read as white space, or not at all. -/
theorem BlankRun.contentText {run : Run} (h : BlankRun run) :
    ∃ value, Record.contentText ((overRun run).map .text) = .ok value ∧
      ∀ c ∈ value.toList, Text.isBlank c = true := by
  have hended {run : Run} (h : BlankRun run) :
      ∃ value, Record.contentText [.text run.reverse] = .ok value ∧
        ∀ c ∈ value.toList, Text.isBlank c = true := by
    have hreverse : BlankRun run.reverse := fun piece hpiece => h piece (List.mem_reverse.mp hpiece)
    obtain ⟨value, hvalue, hblank⟩ := hreverse.value?
    refine ⟨String.ofList value, ?_, by rwa [String.toList_ofList]⟩
    rw [Record.contentText, Record.runText, hvalue]
  rcases run with _ | ⟨raw | content, rest⟩
  · exact ⟨"", rfl, List.forall_mem_nil _⟩
  · obtain ⟨hraw, hrest⟩ := List.forall_mem_cons.mp h
    exact hended (List.forall_mem_cons.mpr ⟨hraw.trimEnd, hrest⟩)
  · exact hended h

namespace Content

variable {content : Content}

theorem plainInstructions_of_isBlank (h : content.isBlank = true) :
    content.plainInstructions = true := by
  induction content with
  | stop text => rfl
  | cdata text content rest ih =>
    rw [isBlank, Bool.and_eq_true] at h
    exact ih h.2
  | comment text content rest ih =>
    rw [isBlank, Bool.and_eq_true] at h
    exact ih h.2
  | instruction text content rest ih =>
    rw [isBlank, Bool.and_eq_true, Bool.and_eq_true] at h
    rw [plainInstructions, h.1.2, ih h.2]
    rfl
  | hollow text tag rest ih => cases h
  | element text tag inside space rest ihinside ihrest => cases h

/-- Blank content is read as white space. -/
theorem contentText_of_isBlank (h : content.wellFormed = true) (hblank : content.isBlank = true)
    {run : Run} (hrun : BlankRun run) :
    ∃ value, Record.contentText (content.nodesTo run) = .ok value ∧
      ∀ c ∈ value.toList, Text.isBlank c = true := by
  induction content generalizing run with
  | stop text => exact (hrun.addGlyphs h hblank).contentText
  | cdata text content rest ih =>
    simp only [wellFormed, isBlank, Bool.and_eq_true] at h hblank
    have hsection : Piece.Blank (.literal content) :=
      ⟨content, rfl, List.all_eq_true.mp hblank.1.2⟩
    exact ih h.2 hblank.2 (List.forall_mem_cons.mpr ⟨hsection, hrun.addGlyphs h.1.1 hblank.1.1⟩)
  | comment text content rest ih =>
    simp only [wellFormed, isBlank, Bool.and_eq_true] at h hblank
    exact ih h.2 hblank.2 (hrun.addGlyphs h.1.1 hblank.1)
  | instruction text content rest ih =>
    simp only [wellFormed, isBlank, Bool.and_eq_true, Bool.not_eq_true'] at h hblank
    rw [nodesTo, if_neg (by rw [hblank.1.2]; decide)]
    exact ih h.2 hblank.2 (hrun.addGlyphs h.1.1.1 hblank.1.1)
  | hollow text tag rest ih => cases hblank
  | element text tag inside space rest ihinside ihrest => cases hblank

end Content

/-! ## Faults -/

namespace Record

variable {α β : Type}

theorem contentText_of_fault {content : List Node} (h : Node.allIntact content = false) :
    contentText content = .error .malformed := by
  rcases content with _ | ⟨node, _ | ⟨other, rest⟩⟩
  · cases h
  · cases node with
    | text run => cases h
    | fault => rfl
    | element name attributes content => rfl
  · cases node with
    | _ => rfl

theorem strict_text (name : String) (set : String → α → α) :
    Strict (Field.text name set).read := by
  intro attributes content h
  refine ⟨.malformed, ?_⟩
  show (contentText content).map set = _
  rw [contentText_of_fault h]
  rfl

theorem strict_numeral (name : String) (parse : List Char → Except Text.NumeralFault β)
    (set : β → α → α) : Strict (Field.numeral name parse set).read := by
  intro attributes content h
  refine ⟨.malformed, ?_⟩
  rw [Field.numeral]
  dsimp only
  rw [contentText_of_fault h]

theorem strict_bareNumeral (name : String) (parse : List Char → Except Text.NumeralFault β)
    (set : β → α → α) : Strict (Field.bareNumeral name parse set).read := by
  intro attributes content h
  refine ⟨.malformed, ?_⟩
  rw [Field.bareNumeral]
  dsimp only
  rw [contentText_of_fault h]

theorem strict_record (name : String) {reader : Reader β} (h : Strict reader)
    (set : β → α → α) : Strict (Field.record name reader set).read := by
  intro attributes content hcontent
  obtain ⟨error, herror⟩ := h attributes content hcontent
  refine ⟨error, ?_⟩
  show (reader attributes content).map set = _
  rw [herror]
  rfl

/-- A record without required fields is what its children make of the blank one. -/
theorem read_eq_recordFrom (fields : List (Field α)) (blank : α) (attributes : List Char)
    (content : List Node) :
    read fields [] blank attributes content =
      if Attributes.wellFormed attributes then recordFrom fields [] blank content
      else .error .malformed := by
  rw [read, recordFrom]
  cases Attributes.wellFormed attributes with
  | false => rfl
  | true =>
    cases readChildren fields [] blank content with
    | error error => rfl
    | ok found => rfl

theorem strict_read {fields : List (Field α)} (h : ∀ field ∈ fields, Strict field.read)
    (blank : α) : Strict (read fields [] blank) := by
  intro attributes content hcontent
  rw [read_eq_recordFrom]
  split_ifs
  · exact recordFrom_of_fault h hcontent
  · exact ⟨.malformed, rfl⟩

theorem readItems_of_fault {item : String} {reader : Reader α} (hreader : Strict reader)
    {nodes : List Node} (h : Node.allIntact nodes = false) (found : List α)
    (phase : ItemPhase) :
    ∃ error, readItems item reader found phase nodes = .error error := by
  induction nodes generalizing found phase with
  | nil => cases h
  | cons node rest ih =>
    rw [Node.allIntact, Bool.and_eq_false_iff] at h
    cases node with
    | fault => exact ⟨.malformed, by rw [readItems.eq_def]⟩
    | text run =>
      rw [readItems.eq_def]
      dsimp only
      cases runText run with
      | error error => exact ⟨error, rfl⟩
      | ok value =>
        cases phase with
        | before => exact ih (h.resolve_left nofun) _ _
        | among name => exact ⟨.malformed, rfl⟩
        | after => exact ih (h.resolve_left nofun) _ _
    | element name attributes content =>
      rw [readItems.eq_def]
      dsimp only
      split_ifs with hnext hitem hskip
      · cases hread : reader attributes content with
        | error error => exact ⟨error, rfl⟩
        | ok value =>
          refine ih (h.resolve_left fun hcontent => ?_) _ _
          obtain ⟨error, herror⟩ := hreader attributes content hcontent
          cases hread.symm.trans herror
      · exact ⟨_, rfl⟩
      · refine ih (h.resolve_left fun hcontent => ?_) _ _
        rw [canSkip_eq, Bool.and_eq_true] at hskip
        cases hskip.1.symm.trans hcontent
      · exact ⟨_, rfl⟩

theorem strict_items (item : String) {reader : Reader α} (h : Strict reader) :
    Strict (items item reader) := by
  intro attributes content hcontent
  rw [items]
  split_ifs
  · exact ⟨.malformed, rfl⟩
  · exact readItems_of_fault h hcontent [] .before

end Record

/-! ## Enclosures -/

namespace Element

/-- What an element becomes in the tree. -/
def contentTo : Element → List Node
  | full _ inside _ => inside.nodesTo []
  | hollow _ => []

/-- The element is read to its end. -/
def plainInstructions : Element → Bool
  | full _ inside _ => inside.plainInstructions
  | hollow _ => true

theorem nodesTo_before (element : Element) (rest : Content) :
    (element.before rest).nodesTo [] =
      .element element.name element.attributes element.contentTo ::
        if element.plainInstructions then rest.nodesTo [] else [] := by
  cases element with
  | full tag inside space => rfl
  | hollow tag => rfl

theorem plainInstructions_of_isBlank {element : Element} (h : element.isBlank = true) :
    element.plainInstructions = true := by
  cases element with
  | full tag inside space => exact Content.plainInstructions_of_isBlank h
  | hollow tag => rfl

/-- A blank element is read as white space. -/
theorem contentText_of_isBlank {element : Element} (h : element.wellFormed = true)
    (hblank : element.isBlank = true) :
    ∃ value, Record.contentText element.contentTo = .ok value ∧
      ∀ c ∈ value.toList, Text.isBlank c = true := by
  cases element with
  | full tag inside space =>
    simp only [wellFormed, Bool.and_eq_true] at h
    exact Content.contentText_of_isBlank h.1.2 hblank BlankRun.nil
  | hollow tag => exact ⟨"", rfl, List.forall_mem_nil _⟩

end Element

namespace Enclosure

variable {enclosure : Enclosure} {element : Element}

/-- The content with an element in the gap. -/
def filled (enclosure : Enclosure) (element : Element) : Content :=
  enclosure.left.append (element.before enclosure.right)

/-- The content with nothing in the gap. -/
def closed (enclosure : Enclosure) : Content :=
  enclosure.left.append enclosure.right

/-- The element around the gap, with a content in place of its own. -/
def withContent (enclosure : Enclosure) (content : Content) : Element :=
  .full enclosure.tag content enclosure.space

theorem write_filled (enclosure : Enclosure) (element : Element) :
    (enclosure.filled element).write =
      enclosure.left.write ++ element.write ++ enclosure.right.write := by
  rw [filled, Content.write_append, Element.write_before, List.append_assoc]

theorem write_closed (enclosure : Enclosure) :
    enclosure.closed.write = enclosure.left.write ++ [] ++ enclosure.right.write := by
  rw [closed, Content.write_append, List.append_nil]

theorem write_withContent {content : Content} {inner : List Char}
    (h : content.write = enclosure.left.write ++ inner ++ enclosure.right.write) :
    (enclosure.withContent content).write = enclosure.write inner := by
  rw [withContent, Element.write, h, write]

theorem wellFormed_iff :
    enclosure.wellFormed = true ↔ enclosure.tag.wellFormed = true ∧
      enclosure.left.wellFormed = true ∧ enclosure.right.wellFormed = true ∧
      enclosure.space.all Text.isMarkupSpace = true := by
  simp only [wellFormed, Bool.and_eq_true, and_assoc]

theorem wellFormed_filled (h : enclosure.wellFormed = true) (helement : element.wellFormed = true) :
    (enclosure.filled element).wellFormed = true := by
  obtain ⟨-, hleft, hright, -⟩ := wellFormed_iff.mp h
  rw [filled, Content.wellFormed_append, Element.wellFormed_before, hleft, helement, hright]
  rfl

theorem wellFormed_closed (h : enclosure.wellFormed = true) :
    enclosure.closed.wellFormed = true := by
  obtain ⟨-, hleft, hright, -⟩ := wellFormed_iff.mp h
  rw [closed, Content.wellFormed_append, hleft, hright]
  rfl

/-- The reader gets as far with an element that it reads to its end as without it. -/
theorem plainInstructions_filled (h : element.plainInstructions = true) :
    (enclosure.filled element).plainInstructions = enclosure.closed.plainInstructions := by
  have hbefore : (element.before enclosure.right).plainInstructions =
      enclosure.right.plainInstructions := by
    cases element with
    | full tag inside space =>
      rw [Element.before, Content.plainInstructions, show inside.plainInstructions = true from h,
        Bool.true_and]
    | hollow tag => rfl
  rw [filled, closed, Content.plainInstructions_append, Content.plainInstructions_append, hbefore]

theorem wellFormed_withContent (h : enclosure.wellFormed = true) {content : Content}
    (hcontent : content.wellFormed = true) :
    (enclosure.withContent content).wellFormed = true := by
  obtain ⟨htag, -, -, hspace⟩ := wellFormed_iff.mp h
  rw [withContent, Element.wellFormed, htag, hcontent, hspace]
  rfl

end Enclosure

namespace Record

variable {α β : Type} {fields : List (Field α)} {enclosure : Enclosure} {element : Element}

/-- Two elements that agree but for their gaps are read alike if what follows is. -/
theorem rel_read (Rel : Except BodyError α → Except BodyError α → Prop)
    (allowed : List String → Prop) (hrel : ∀ error, Rel (.error error) (.error error))
    (hstrict : ∀ field ∈ fields, Strict field.read) (h : enclosure.wellFormed = true)
    {more other : Content} (hmore : more.wellFormed = true) (hother : other.wellFormed = true)
    (hstart : allowed [])
    (hallowed : ∀ seen, allowed seen → ∀ name ∈ enclosure.left.names, allowed (name :: seen))
    (hgap : ∀ seen record, allowed seen →
      Rel (recordFrom fields seen record (more.nodesTo []))
        (recordFrom fields seen record (other.nodesTo []))) (blank : α) (attributes : List Char) :
    Rel (read fields [] blank attributes ((enclosure.left.append more).nodesTo []))
      (read fields [] blank attributes ((enclosure.left.append other).nodesTo [])) := by
  obtain ⟨-, hleft, -⟩ := Enclosure.wellFormed_iff.mp h
  rw [read_eq_recordFrom, read_eq_recordFrom]
  split_ifs
  · exact rel_append Rel allowed hrel hstrict hleft hmore hother hallowed hgap hstart []
  · exact hrel _

/-- A blank numeral changes nothing. -/
theorem read_numeral_of_blank {name : String} {parse : List Char → Except Text.NumeralFault β}
    {set : β → α → α} {attributes : List Char} {content : List Node} {value : String}
    (hcontent : contentText content = .ok value)
    (hblank : ∀ c ∈ value.toList, Text.isBlank c = true) :
    (Field.numeral name parse set).read attributes content = .ok id := by
  rw [Field.numeral]
  dsimp only
  rw [hcontent]
  dsimp only
  rw [Text.trim_eq_empty_iff.mpr hblank]
  rfl

theorem not_mem_cons_of_not_mem {name : String} {names : List String} (h : name ∉ names) :
    ∀ seen, name ∉ seen → ∀ other ∈ names, name ∉ other :: seen := by
  intro seen hseen other hother hmem
  obtain hsame | hmem := List.mem_cons.mp hmem
  · exact h (hsame ▸ hother)
  · exact hseen hmem

/-- A record is read with a blank numeral as without it. -/
theorem read_filled (hstrict : ∀ field ∈ fields, Strict field.read)
    (h : enclosure.wellFormed = true) (helement : element.wellFormed = true)
    (hblank : element.isBlank = true) {parse : List Char → Except Text.NumeralFault β}
    {set : β → α → α}
    (hfind : fields.find? (·.name == localName element.name) =
      some (.numeral (localName element.name) parse set))
    (hname : localName element.name ∉ enclosure.names) (blank : α) (attributes : List Char) :
    read fields [] blank attributes ((enclosure.filled element).nodesTo []) =
      read fields [] blank attributes (enclosure.closed.nodesTo []) := by
  obtain ⟨-, -, hright, -⟩ := Enclosure.wellFormed_iff.mp h
  rw [Enclosure.names, List.mem_append, not_or] at hname
  obtain ⟨value, hcontent, hspace⟩ := Element.contentText_of_isBlank helement hblank
  refine rel_read Eq (localName element.name ∉ ·) (fun _ => rfl) hstrict h
    (by rw [Element.wellFormed_before, helement, hright]; rfl) hright List.not_mem_nil
    (not_mem_cons_of_not_mem hname.1) ?_ blank attributes
  intro seen record hseen
  have hunseen : seen.contains (localName element.name) = false := by
    rwa [List.contains_eq_mem, decide_eq_false_iff_not]
  rw [Element.nodesTo_before, Element.plainInstructions_of_isBlank hblank, if_pos rfl,
    recordFrom, readChildren_field hfind hunseen (read_numeral_of_blank hcontent hspace)]
  show recordFrom fields (localName element.name :: seen) record (enclosure.right.nodesTo []) = _
  exact recordFrom_congr_seen
    (fun node hnode hchild => hname.2 (Content.mem_names_of_mem_nodesTo hnode hchild))
    (fun other hother => by rw [List.mem_cons, or_iff_right hother])

/-- A child is read alike if its field reads it alike. -/
theorem recordFrom_element_congr {name : String} {attributes : List Char}
    {content other rest : List Node} {field : Field α}
    (hfind : fields.find? (·.name == localName name) = some field)
    (h : field.read attributes content = field.read attributes other) (seen : List String)
    (record : α) :
    recordFrom fields seen record (.element name attributes content :: rest) =
      recordFrom fields seen record (.element name attributes other :: rest) := by
  simp only [recordFrom, readChildren, hfind, h]

/-- The first result is an error, which is about a numeral if the second one is not an
error. -/
def Spoiled {α : Type} (result other : Except BodyError α) : Prop :=
  ∃ error, result = .error error ∧ ((∃ value, other = .ok value) → ∃ fault, error = .numeral fault)

theorem spoiled_error {α : Type} (error : BodyError) :
    Spoiled (.error error : Except BodyError α) (.error error) :=
  ⟨error, rfl, nofun⟩

theorem Spoiled.map {result other : Except BodyError β} (h : Spoiled result other)
    (f : β → α) : Spoiled (result.map f) (other.map f) := by
  obtain ⟨error, rfl, hfault⟩ := h
  refine ⟨error, rfl, ?_⟩
  rintro ⟨value, hvalue⟩
  apply hfault
  cases other with
  | error error => cases hvalue
  | ok found => exact ⟨found, rfl⟩

/-- A child that its field does not read spoils the record. -/
theorem spoiled_element {name : String} {attributes : List Char}
    {content other rest : List Node} {field : Field α}
    (hfind : fields.find? (·.name == localName name) = some field)
    (h : Spoiled (field.read attributes content) (field.read attributes other))
    (seen : List String) (record : α) :
    Spoiled (recordFrom fields seen record (.element name attributes content :: rest))
      (recordFrom fields seen record (.element name attributes other :: rest)) := by
  obtain ⟨error, herror, hfault⟩ := h
  simp only [recordFrom, readChildren, hfind, herror]
  split_ifs
  · exact spoiled_error _
  · refine ⟨error, rfl, ?_⟩
    rintro ⟨value, hvalue⟩
    apply hfault
    cases hother : field.read attributes other with
    | error error =>
      rw [hother] at hvalue
      cases hvalue
    | ok change => exact ⟨change, rfl⟩

end Record

end CallbackGate.Markup

namespace CallbackGate

open Markup

/-! ## Envelopes -/

theorem ScanCodeInfo.strict_reader : Record.Strict reader := by
  apply Record.strict_read
  simp only [List.forall_mem_cons, Record.strict_text, true_and]
  exact nofun

namespace SendPicsInfo

/-- The count of pictures. -/
def countField : Markup.Field SendPicsInfo :=
  .bareNumeral "Count" Numeral.uint32 fun v r => { r with count := v }

/-- The fields of the pictures that were sent. -/
def fields : List (Markup.Field SendPicsInfo) :=
  [countField,
    .record "PicList" (Record.items "item" itemReader) fun v r => { r with md5Sums := v }]

theorem reader_eq : reader = Record.read fields [] {} :=
  rfl

theorem strict_fields : ∀ field ∈ fields, Record.Strict field.read := by
  have hitem : Record.Strict itemReader := by
    apply Record.strict_read
    simp only [List.forall_mem_cons, Record.strict_text, true_and]
    exact nofun
  simp only [fields, countField, List.forall_mem_cons, Record.strict_bareNumeral, true_and]
  exact ⟨Record.strict_record _ (Record.strict_items _ hitem) _, nofun⟩

/-- A blank count is no number. -/
theorem read_count_of_blank {content : List Node} {value : String}
    (hcontent : Record.contentText content = .ok value)
    (hblank : ∀ c ∈ value.toList, Text.isBlank c = true) (attributes : List Char) :
    ∃ fault, countField.read attributes content = .error (.numeral fault) := by
  have hparse : ∃ fault, (Text.Bounds.unsigned 32).parse value.toList = .error fault :=
    Text.Bounds.exists_parse_of_isBlank hblank
  obtain ⟨fault, hfault⟩ := hparse
  refine ⟨fault, ?_⟩
  rw [countField, Field.bareNumeral]
  dsimp only
  rw [hcontent]
  dsimp only
  rw [Numeral.uint32, hfault]
  rfl

/-- The pictures are not read if their count is blank. -/
theorem spoiled_reader {enclosure : Enclosure} (h : enclosure.wellFormed = true)
    {element : Element} (helement : element.wellFormed = true) (hblank : element.isBlank = true)
    (hcount : localName element.name = "Count") (hname : localName element.name ∉ enclosure.names)
    (attributes : List Char) :
    Record.Spoiled (reader attributes ((enclosure.filled element).nodesTo []))
      (reader attributes (enclosure.closed.nodesTo [])) := by
  obtain ⟨-, -, hright, -⟩ := Enclosure.wellFormed_iff.mp h
  rw [hcount, Enclosure.names, List.mem_append, not_or] at hname
  obtain ⟨value, hcontent, hspace⟩ := Element.contentText_of_isBlank helement hblank
  obtain ⟨fault, hfault⟩ := read_count_of_blank hcontent hspace element.attributes
  have hfind : fields.find? (·.name == localName element.name) = some countField := by
    rw [hcount]
    rfl
  rw [reader_eq]
  refine Record.rel_read Record.Spoiled ("Count" ∉ ·) Record.spoiled_error strict_fields h
    (by rw [Element.wellFormed_before, helement, hright]; rfl) hright List.not_mem_nil
    (Record.not_mem_cons_of_not_mem hname.1) ?_ {} attributes
  intro seen record hseen
  have hunseen : seen.contains countField.name = false := by
    rw [List.contains_eq_mem, decide_eq_false_iff_not]
    exact hseen
  refine ⟨.numeral fault, ?_, fun _ => ⟨fault, rfl⟩⟩
  rw [Element.nodesTo_before]
  simp only [Record.recordFrom, Record.readChildren, hfind, hunseen, hfault, Bool.false_eq_true,
    if_false]
  rfl

end SendPicsInfo

namespace SendLocationInfo

/-- The names of the numerals of a place. -/
def numeralNames : List String :=
  ["Location_X", "Location_Y", "Scale"]

/-- The fields of a place. -/
def fields : List (Markup.Field SendLocationInfo) :=
  [.numeral "Location_X" Text.Binary64.parse fun v r => { r with locationX := some v },
    .numeral "Location_Y" Text.Binary64.parse fun v r => { r with locationY := some v },
    .numeral "Scale" Text.Binary64.parse fun v r => { r with scale := some v },
    .text "Label" fun v r => { r with label := some v },
    .text "Poiname" fun v r => { r with poiname := some v }]

theorem reader_eq : reader = Record.read fields [] {} :=
  rfl

theorem strict_fields : ∀ field ∈ fields, Record.Strict field.read := by
  simp only [fields, List.forall_mem_cons, Record.strict_numeral, Record.strict_text, true_and]
  exact nofun

theorem exists_numeral {name : String} (h : name ∈ numeralNames) :
    ∃ set, fields.find? (·.name == name) = some (.numeral name Text.Binary64.parse set) := by
  simp only [numeralNames, List.mem_cons, List.not_mem_nil, or_false] at h
  rcases h with rfl | rfl | rfl
  · exact ⟨_, rfl⟩
  · exact ⟨_, rfl⟩
  · exact ⟨_, rfl⟩

/-- A place is read with a blank numeral as without it. -/
theorem reader_filled {enclosure : Enclosure} (h : enclosure.wellFormed = true)
    {element : Element} (helement : element.wellFormed = true) (hblank : element.isBlank = true)
    (hnumeral : localName element.name ∈ numeralNames)
    (hname : localName element.name ∉ enclosure.names) (attributes : List Char) :
    reader attributes ((enclosure.filled element).nodesTo []) =
      reader attributes (enclosure.closed.nodesTo []) := by
  obtain ⟨set, hfind⟩ := exists_numeral hnumeral
  rw [reader_eq]
  exact Record.read_filled strict_fields h helement hblank hfind hname {} attributes

end SendLocationInfo

namespace Envelope

/-- The names of the numerals of an envelope. -/
def numeralNames : List String :=
  ["CreateTime", "MsgId", "Location_X", "Location_Y", "Scale", "FileTotalLen", "Latitude",
    "Longitude", "Precision", "MsgID", "TotalCount", "FilterCount", "SentCount", "ErrorCount",
    "IsGiveByFriend", "OuterId", "ExpiredTime"]

theorem strict_fields : ∀ field ∈ fields, Record.Strict field.read := by
  have hscan := Record.strict_record "ScanCodeInfo" ScanCodeInfo.strict_reader
    fun v (e : Envelope) => { e with scanCodeInfo := some v }
  have hpics := Record.strict_record "SendPicsInfo"
    (Record.strict_read SendPicsInfo.strict_fields {})
    fun v (e : Envelope) => { e with sendPicsInfo := some v }
  have hlocation := Record.strict_record "SendLocationInfo"
    (Record.strict_read SendLocationInfo.strict_fields {})
    fun v (e : Envelope) => { e with sendLocationInfo := some v }
  simp only [fields, List.forall_mem_cons, Record.strict_text, Record.strict_numeral, true_and]
  exact ⟨hscan, hpics, hlocation, nofun⟩

theorem find?_pics {name : String} (h : name = "SendPicsInfo") :
    fields.find? (·.name == name) = some (.record "SendPicsInfo" SendPicsInfo.reader
      fun v e => { e with sendPicsInfo := some v }) := by
  rw [h]
  rfl

theorem find?_place {name : String} (h : name = "SendLocationInfo") :
    fields.find? (·.name == name) = some (.record "SendLocationInfo" SendLocationInfo.reader
      fun v e => { e with sendLocationInfo := some v }) := by
  rw [h]
  rfl

theorem exists_numeral {name : String} (h : name ∈ numeralNames) :
    ∃ (β : Type) (parse : List Char → Except Text.NumeralFault β)
      (set : β → Envelope → Envelope),
      fields.find? (·.name == name) = some (.numeral name parse set) := by
  simp only [numeralNames, List.mem_cons, List.not_mem_nil, or_false] at h
  rcases h with rfl | rfl | rfl | rfl | rfl | rfl | rfl | rfl | rfl | rfl | rfl | rfl | rfl |
    rfl | rfl | rfl | rfl
  all_goals exact ⟨_, _, _, rfl⟩

section Documents

variable (Rel : Except BodyError Envelope → Except BodyError Envelope → Prop)
  {template : Template} {content other : Content} {inner inner' : List Char}

/-- Two documents are read alike if their roots are. -/
theorem rel_ofBody (hrel : ∀ error, Rel (.error error) (.error error))
    (h : template.wellFormed = true) (hcontent : content.wellFormed = true)
    (hother : other.wellFormed = true)
    (hinner : content.write = template.root.left.write ++ inner ++ template.root.right.write)
    (hinner' : other.write = template.root.left.write ++ inner' ++ template.root.right.write)
    (hread : Rel (reader template.root.tag.details (content.nodesTo []))
      (reader template.root.tag.details (other.nodesTo []))) :
    Rel (ofBody (Text.Utf8.bytes (template.write inner)))
      (ofBody (Text.Utf8.bytes (template.write inner'))) := by
  rw [ofBody, ofBody, Template.ofBody_write h hcontent hinner,
    Template.ofBody_write h hother hinner']
  split_ifs
  · exact hread
  · exact hrel _

/-- Two documents that agree but for the gap in a child of their root are read alike if the
child is. -/
theorem rel_ofBody_child (hrel : ∀ error, Rel (.error error) (.error error))
    (h : template.wellFormed = true) {child : Enclosure} (hchild : child.wellFormed = true)
    (hcontent : content.wellFormed = true) (hother : other.wellFormed = true)
    (hinner : content.write = child.left.write ++ inner ++ child.right.write)
    (hinner' : other.write = child.left.write ++ inner' ++ child.right.write)
    (hplain : content.plainInstructions = other.plainInstructions)
    (hread : ∀ rest seen record,
      Rel (Record.recordFrom fields seen record
          (.element child.tag.name child.tag.details (content.nodesTo []) :: rest))
        (Record.recordFrom fields seen record
          (.element child.tag.name child.tag.details (other.nodesTo []) :: rest))) :
    Rel (ofBody (Text.Utf8.bytes (template.write (child.write inner))))
      (ofBody (Text.Utf8.bytes (template.write (child.write inner')))) := by
  obtain ⟨-, -, -, hroot, -⟩ := Template.wellFormed_iff.mp h
  obtain ⟨-, -, hright, -⟩ := Enclosure.wellFormed_iff.mp hroot
  have hfilled {content : Content} (hcontent : content.wellFormed = true) :=
    Enclosure.wellFormed_withContent hchild hcontent
  have hwrite {content : Content} {inner : List Char}
      (hinner : content.write = child.left.write ++ inner ++ child.right.write) :
      (template.root.filled (child.withContent content)).write =
        template.root.left.write ++ child.write inner ++ template.root.right.write := by
    rw [Enclosure.write_filled, Enclosure.write_withContent hinner]
  refine rel_ofBody Rel hrel h (Enclosure.wellFormed_filled hroot (hfilled hcontent))
    (Enclosure.wellFormed_filled hroot (hfilled hother)) (hwrite hinner) (hwrite hinner') ?_
  refine Record.rel_read Rel (fun _ => True) hrel strict_fields hroot
    (by rw [Element.wellFormed_before, hfilled hcontent, hright]; rfl)
    (by rw [Element.wellFormed_before, hfilled hother, hright]; rfl) trivial
    (fun _ _ _ _ => trivial) ?_ {} template.root.tag.details
  intro seen record _
  rw [Element.nodesTo_before, Element.nodesTo_before, Enclosure.withContent,
    Enclosure.withContent, Element.plainInstructions, Element.plainInstructions, hplain]
  exact hread _ seen record

end Documents

/-- A document is read with a blank numeral as without it, whether the numeral is one of the
envelope or one of the place in it.  With a blank count of pictures it is not read, even if
it is without it. -/
theorem ofBody_blank_numeral {template : Template} (h : template.wellFormed = true)
    {element : Element} (helement : element.wellFormed = true)
    (hblank : element.isBlank = true) :
    (localName element.name ∈ numeralNames → localName element.name ∉ template.root.names →
      ofBody (Text.Utf8.bytes (template.write element.write)) =
        ofBody (Text.Utf8.bytes (template.write []))) ∧
    ∀ child : Enclosure, child.wellFormed = true → localName element.name ∉ child.names →
      (localName child.tag.name = "SendLocationInfo" →
        localName element.name ∈ SendLocationInfo.numeralNames →
        ofBody (Text.Utf8.bytes (template.write (child.write element.write))) =
          ofBody (Text.Utf8.bytes (template.write (child.write [])))) ∧
      (localName child.tag.name = "SendPicsInfo" → localName element.name = "Count" →
        Record.Spoiled (ofBody (Text.Utf8.bytes (template.write (child.write element.write))))
          (ofBody (Text.Utf8.bytes (template.write (child.write []))))) := by
  obtain ⟨-, -, -, hroot, -⟩ := Template.wellFormed_iff.mp h
  refine ⟨?numeral, fun child hchild hname => ⟨?place, ?count⟩⟩
  case numeral =>
    intro hnumeral hname
    obtain ⟨β, parse, set, hfind⟩ := exists_numeral hnumeral
    exact rel_ofBody Eq (fun _ => rfl) h (Enclosure.wellFormed_filled hroot helement)
      (Enclosure.wellFormed_closed hroot) (Enclosure.write_filled _ _) (Enclosure.write_closed _)
      (Record.read_filled strict_fields hroot helement hblank hfind hname {} _)
  all_goals
    have hfilled := Enclosure.wellFormed_filled hchild helement
    have hclosed := Enclosure.wellFormed_closed hchild
    have hplain : (child.filled element).plainInstructions = child.closed.plainInstructions :=
      Enclosure.plainInstructions_filled (Element.plainInstructions_of_isBlank hblank)
  case place =>
    intro hplace hnumeral
    have hread := SendLocationInfo.reader_filled hchild helement hblank hnumeral hname
      child.tag.details
    refine rel_ofBody_child Eq (fun _ => rfl) h hchild hfilled hclosed
      (Enclosure.write_filled _ _) (Enclosure.write_closed _) hplain fun rest seen record => ?_
    exact Record.recordFrom_element_congr (find?_place hplace)
      (congrArg (Except.map _) hread) seen record
  case count =>
    intro hpics hcount
    have hread := SendPicsInfo.spoiled_reader hchild helement hblank hcount hname child.tag.details
    refine rel_ofBody_child Record.Spoiled Record.spoiled_error h hchild hfilled hclosed
      (Enclosure.write_filled _ _) (Enclosure.write_closed _) hplain fun rest seen record => ?_
    exact Record.spoiled_element (find?_pics hpics) (hread.map _) seen record

/-- An event with pictures, and a gap beside them. -/
def pictureEvent : Template where
  mark := true
  prolog := .instruction [] "xml version=\"1.0\"".toList (.stop [.char '\n'])
  root :=
    { tag := { name := "xml" }
      left := .element [] { name := "MsgType" } (.cdata [] "event".toList (.stop [])) [] (.stop [])
      right := .stop [.char '\n']
      space := [] }

/-- The pictures, and a gap before them. -/
def pictures : Enclosure where
  tag := { name := "SendPicsInfo" }
  left := .stop []
  right := .hollow [] { name := "PicList" } (.stop [])
  space := []

/-- An element that holds a space and a line feed. -/
def blankElement (name : String) : Element :=
  .full { name } (.stop [.char ' ', .decimal ['1', '0']]) []

/-- A blank time changes nothing in an event with pictures, and a blank count spoils it. -/
theorem ofBody_blank_numeral_pictures :
    pictureEvent.write (pictures.write (blankElement "Count").write) =
      "\uFEFF<?xml version=\"1.0\"?>\n<xml><MsgType><![CDATA[event]]></MsgType>" ++
        "<SendPicsInfo><Count> &#10;</Count><PicList/></SendPicsInfo>\n</xml>" ∧
    ofBody (Text.Utf8.bytes (pictureEvent.write (blankElement "CreateTime").write)) =
      ofBody (Text.Utf8.bytes (pictureEvent.write [])) ∧
    ofBody (Text.Utf8.bytes (pictureEvent.write (pictures.write []))) =
      .ok { msgType := "event", sendPicsInfo := some {} } ∧
    ∃ fault, ofBody (Text.Utf8.bytes (pictureEvent.write
      (pictures.write (blankElement "Count").write))) = .error (.numeral fault) := by
  have hevent : pictureEvent.wellFormed = true := by decide +kernel
  have hroot : pictureEvent.root.wellFormed = true := by decide +kernel
  have hwithout : ofBody (Text.Utf8.bytes (pictureEvent.write (pictures.write []))) =
      .ok { msgType := "event", sendPicsInfo := some {} } := by
    have hclosed : (pictures.withContent pictures.closed).write = pictures.write [] :=
      Enclosure.write_withContent (Enclosure.write_closed pictures)
    have hwellFormed : (pictures.withContent pictures.closed).wellFormed = true := by decide
    have hread := Template.ofBody_write hevent
      (Enclosure.wellFormed_filled hroot hwellFormed) (Enclosure.write_filled _ _) reader
    rw [hclosed] at hread
    rw [ofBody, hread]
    rfl
  have hcount : (blankElement "Count").wellFormed = true := by decide
  have htime : (blankElement "CreateTime").wellFormed = true := by decide
  refine ⟨by decide +kernel, ?_, hwithout, ?_⟩
  · exact (ofBody_blank_numeral hevent htime (by decide)).1 (by decide) (by decide)
  · obtain ⟨error, herror, hfault⟩ := ((ofBody_blank_numeral hevent hcount (by decide)).2
      pictures (by decide) (by decide)).2 (by decide) (by decide)
    obtain ⟨fault, rfl⟩ := hfault ⟨_, hwithout⟩
    exact ⟨fault, herror⟩

end Envelope

end CallbackGate
