import CallbackGate.Proofs.ForeignElements
import Mathlib.Data.List.Induction

/-!
# Elements of others are passed over

An element that was scanned is a part of the tree of its document.  A reader that
has no field for it passes over it if it was read to its end and its first text can
be read: the references in it must not have more digits than a code point.

There are two groups.

* Trees.  `Content.build_tokensThen` puts together what the tokens make, with a fault where
  they stop.
* Passing over.  Legible text remains legible when it is trimmed, and
  `Element.canSkip` is the assembly.
-/

namespace CallbackGate.Markup

/-! ## Trees -/

/-- The run that is over, if there is one, given its last piece first. -/
def overRun : Run → List Run
  | [] => []
  | .plain raw :: rest => [(.plain (Event.trimEnd raw) :: rest).reverse]
  | run => [run.reverse]

theorem ofRun_eq (run : Run) : Event.ofRun run = (overRun run).map .text := by
  rcases run with _ | ⟨raw | content, rest⟩
  · rfl
  · rfl
  · rfl

/-- A run with a text added, if it is not empty. -/
def addGlyphs (run : Run) (text : List Glyph) : Run :=
  if writeText text = [] then run else Event.addText run (writeText text)

theorem ofTokensFrom_glyphTokens (run : Run) (text : List Glyph) (rest : List Token) :
    Event.ofTokensFrom run (glyphTokens text ++ rest) =
      Event.ofTokensFrom (addGlyphs run text) rest := by
  unfold glyphTokens addGlyphs
  split_ifs
  · rfl
  · rfl

/-- A run that is over is added to the element around it. -/
theorem build_overRun (run : Run) (inner : Node.Unclosed) (outer : List Node.Unclosed)
    (rest : List Event) :
    Node.build inner outer (Event.ofRun run ++ rest) =
      Node.build { inner with content := ((overRun run).map .text).reverse ++ inner.content }
        outer rest := by
  rw [ofRun_eq]
  rcases run with _ | ⟨raw | content, pieces⟩
  · rfl
  · rfl
  · rfl

namespace Node

/-- The outermost element when nothing more is read.  `outer` holds the elements around this
one, the innermost first. -/
def closeAll (element : Unclosed) (outer : List Unclosed) : Node :=
  outer.foldl (fun node around => (around.add node).close) element.close

theorem breakOff_eq (element : Unclosed) (outer : List Unclosed) :
    breakOff element outer = closeAll (element.add .fault) outer :=
  rfl

end Node

namespace Content

/-- The parts of the tree that content is read as, after the pieces of a run that is not
over, the last piece first. -/
def nodesFrom (run : Run) : Content → List Node
  | stop text => (overRun (addGlyphs run text)).map .text
  | cdata text content rest => rest.nodesFrom (.literal content :: addGlyphs run text)
  | comment text _ rest | instruction text _ rest => rest.nodesFrom (addGlyphs run text)
  | hollow text tag rest =>
    (overRun (addGlyphs run text)).map .text ++
      .element tag.name tag.details [] :: rest.nodesFrom []
  | element text tag inside _ rest =>
    (overRun (addGlyphs run text)).map .text ++
      .element tag.name tag.details (inside.nodesFrom []) :: rest.nodesFrom []

/-- The part of the tree that content becomes, after the pieces of a run that is not over, the
last piece first. -/
def nodesTo (run : Run) : Content → List Node
  | stop text => (overRun (addGlyphs run text)).map .text
  | cdata text content rest => rest.nodesTo (.literal content :: addGlyphs run text)
  | comment text _ rest => rest.nodesTo (addGlyphs run text)
  | instruction text content rest =>
    if content.contains '>' then (overRun (addGlyphs run text)).map .text ++ [.fault]
    else rest.nodesTo (addGlyphs run text)
  | hollow text tag rest =>
    (overRun (addGlyphs run text)).map .text ++
      .element tag.name tag.details [] :: rest.nodesTo []
  | element text tag inside _ rest =>
    (overRun (addGlyphs run text)).map .text ++
      .element tag.name tag.details (inside.nodesTo []) ::
        if inside.plainInstructions then rest.nodesTo [] else []

/-- The tokens of content add its nodes to the element around it.  Reading goes on with the
end tag after it, unless tokens stop. -/
theorem build_tokensThen (content : Content) (run : Run) (inner : Node.Unclosed)
    (outer : List Node.Unclosed) (name : String) (rest : List Token) :
    Node.build inner outer (Event.ofTokensFrom run (content.tokensThen (.stop name :: rest))) =
      if content.plainInstructions then
        Node.build { inner with content := (content.nodesTo run).reverse ++ inner.content } outer
          (.stop name :: Event.ofTokensFrom [] rest)
      else Node.closeAll
        { inner with content := (content.nodesTo run).reverse ++ inner.content } outer := by
  induction content generalizing run inner outer name rest with
  | stop text =>
    rw [tokensThen, ofTokensFrom_glyphTokens, Event.ofTokensFrom, build_overRun, nodesTo,
      plainInstructions, if_pos rfl]
  | cdata text content more ih =>
    rw [tokensThen, ofTokensFrom_glyphTokens, Event.ofTokensFrom, ih, nodesTo, plainInstructions]
  | comment text content more ih =>
    rw [tokensThen, ofTokensFrom_glyphTokens, Event.ofTokensFrom, ih, nodesTo, plainInstructions]
  | instruction text content more ih =>
    rw [tokensThen, ofTokensFrom_glyphTokens, nodesTo, plainInstructions]
    cases content.contains '>' with
    | true =>
      rw [if_pos rfl, if_pos rfl, Event.ofTokensFrom, build_overRun, Node.build,
        Node.breakOff_eq, Bool.not_true, Bool.false_and, if_neg Bool.false_ne_true,
        List.reverse_append, List.reverse_singleton, List.append_assoc]
      rfl
    | false =>
      rw [if_neg Bool.false_ne_true, if_neg Bool.false_ne_true, Event.ofTokensFrom, ih,
        Bool.not_false, Bool.true_and]
  | hollow text tag more ih =>
    rw [tokensThen, ofTokensFrom_glyphTokens, Event.ofTokensFrom, build_overRun, Node.build,
      Event.ofTokensFrom]
    show Node.build _ _ (.stop tag.name :: Event.ofTokensFrom [] _) = _
    rw [Node.build, if_pos rfl]
    rw [ih, nodesTo, plainInstructions]
    simp only [Node.Unclosed.add, Node.Unclosed.close, List.reverse_append, List.reverse_cons,
      List.append_assoc, List.cons_append, List.nil_append, List.reverse_nil]
  | element text tag inside space more ihinside ihmore =>
    rw [tokensThen, ofTokensFrom_glyphTokens, Event.ofTokensFrom, build_overRun, Node.build,
      ihinside, nodesTo, plainInstructions]
    cases inside.plainInstructions with
    | true =>
      rw [if_pos rfl, if_pos rfl, Bool.true_and, Node.build, if_pos rfl]
      dsimp only
      rw [ihmore]
      simp only [Node.Unclosed.add, Node.Unclosed.close, List.reverse_append,
        List.reverse_cons, List.append_assoc, List.cons_append, List.nil_append,
        List.append_nil, List.reverse_reverse]
    | false =>
      rw [if_neg Bool.false_ne_true, if_neg Bool.false_ne_true, Bool.false_and,
        if_neg Bool.false_ne_true, Node.closeAll, List.foldl_cons]
      simp only [Node.closeAll, Node.Unclosed.add, Node.Unclosed.close, List.reverse_append,
        List.reverse_cons, List.append_assoc, List.cons_append, List.nil_append,
        List.append_nil, List.reverse_reverse]

/-- Content whose instructions end where they seem to is read to its end. -/
theorem nodesTo_eq {content : Content} (h : content.plainInstructions = true) (run : Run) :
    content.nodesTo run = content.nodesFrom run := by
  induction content generalizing run with
  | stop text => rfl
  | cdata text content rest ih => exact ih h _
  | comment text content rest ih => exact ih h _
  | instruction text content rest ih =>
    simp only [plainInstructions, Bool.and_eq_true, Bool.not_eq_true'] at h
    rw [nodesTo, nodesFrom, h.1, if_neg Bool.false_ne_true, ih h.2]
  | hollow text tag rest ih => rw [nodesTo, nodesFrom, ih h]
  | element text tag inside space rest ihinside ihrest =>
    rw [plainInstructions, Bool.and_eq_true] at h
    rw [nodesTo, nodesFrom, ihinside h.1, ihrest h.2, if_pos h.1]

theorem allIntact_append (left right : List Node) :
    Node.allIntact (left ++ right) = (Node.allIntact left && Node.allIntact right) := by
  induction left with
  | nil => rfl
  | cons node left ih =>
    rw [List.cons_append, Node.allIntact, ih, Node.allIntact, Bool.and_assoc]

theorem allIntact_map_text (runs : List Run) : Node.allIntact (runs.map .text) = true := by
  induction runs with
  | nil => rfl
  | cons run runs ih =>
    rw [List.map_cons, Node.allIntact, ih]
    rfl

/-- Content is read to its end. -/
theorem allIntact_nodesFrom (content : Content) (run : Run) :
    Node.allIntact (content.nodesFrom run) = true := by
  induction content generalizing run with
  | stop text => exact allIntact_map_text _
  | cdata text content rest ih => exact ih _
  | comment text content rest ih => exact ih _
  | instruction text content rest ih => exact ih _
  | hollow text tag rest ih =>
    rw [nodesFrom, allIntact_append, allIntact_map_text, Node.allIntact, ih]
    rfl
  | element text tag inside space rest ihinside ihrest =>
    rw [nodesFrom, allIntact_append, allIntact_map_text, Node.allIntact, ihrest, Node.intact,
      ihinside]
    rfl

end Content

/-! ## Passing over -/

/-- Text whose references can be read. -/
def Legible (raw : List Char) : Prop :=
  (unescape raw).isSome = true

/-- What was read before stands before what is read. -/
theorem unescapeFrom_before (before : List Char) (state : EscapeState) (raw : List Char) :
    unescapeFrom before state raw = (unescapeFrom [] state raw).map (before.reverse ++ ·) := by
  induction raw generalizing before state with
  | nil =>
    cases state with
    | plain =>
      show some before.reverse = some (before.reverse ++ [])
      rw [List.append_nil]
    | within name => rfl
  | cons c raw ih =>
    -- Both readers have read one more character.
    have hstep (d : Char) : unescapeFrom (d :: before) .plain raw =
        (unescapeFrom [d] .plain raw).map (before.reverse ++ ·) := by
      rw [ih (d :: before), ih [d], Option.map_map]
      congr 1
      funext text
      simp only [Function.comp_apply, List.reverse_cons, List.reverse_nil, List.append_assoc,
        List.nil_append]
    cases state with
    | plain =>
      rw [unescapeFrom, unescapeFrom]
      split_ifs
      · exact ih _ _
      · exact hstep c
    | within name =>
      rw [unescapeFrom, unescapeFrom]
      split_ifs
      · cases escaped? name.reverse with
        | none => rfl
        | some character => exact hstep character
      · rfl
      · exact ih _ _

theorem ne_of_isMarkupSpace {c : Char} (h : Text.isMarkupSpace c = true) :
    c ≠ '&' ∧ c ≠ ';' := by
  constructor
  · rintro rfl
    cases h
  · rintro rfl
    cases h

/-- White space at the beginning of a text is read as it is. -/
theorem exists_unescape_trimStart (raw : List Char) :
    ∃ space : List Char, (∀ c ∈ space, Text.isMarkupSpace c = true) ∧
      unescape raw = (unescape (Event.trimStart raw)).map (space ++ ·) := by
  unfold Event.trimStart
  induction raw with
  | nil => exact ⟨[], nofun, rfl⟩
  | cons c raw ih =>
    cases hc : Text.isMarkupSpace c with
    | false =>
      rw [List.dropWhile_cons_of_neg (by rw [hc]; decide)]
      exact ⟨[], nofun, Option.map_id'.symm⟩
    | true =>
      obtain ⟨space, hspace, hraw⟩ := ih
      refine ⟨c :: space, List.forall_mem_cons.mpr ⟨hc, hspace⟩, ?_⟩
      rw [List.dropWhile_cons_of_pos hc, unescape, unescapeFrom,
        if_neg (ne_of_isMarkupSpace hc).1, unescapeFrom_before, ← unescape, hraw, Option.map_map]
      rfl

/-- White space at the end of a text is read as it is: no reference goes on over it. -/
theorem unescapeFrom_concat {c : Char} (hc : Text.isMarkupSpace c = true)
    (before : List Char) (state : EscapeState) (raw : List Char) :
    unescapeFrom before state (raw ++ [c]) = (unescapeFrom before state raw).map (· ++ [c]) := by
  obtain ⟨hand, hsemicolon⟩ := ne_of_isMarkupSpace hc
  induction raw generalizing before state with
  | nil =>
    cases state with
    | plain =>
      show (if c = '&' then _ else some (c :: before).reverse) = some (before.reverse ++ [c])
      rw [if_neg hand, List.reverse_cons]
    | within name =>
      show (if c = ';' then _ else if c = '&' then none else none) = none
      rw [if_neg hsemicolon, if_neg hand]
  | cons d raw ih =>
    rw [List.cons_append]
    cases state with
    | plain =>
      rw [unescapeFrom, unescapeFrom]
      split_ifs
      · exact ih _ _
      · exact ih _ _
    | within name =>
      rw [unescapeFrom, unescapeFrom]
      split_ifs
      · cases escaped? name.reverse with
        | none => rfl
        | some character => exact ih _ _
      · rfl
      · exact ih _ _

theorem exists_unescape_trimEnd (raw : List Char) :
    ∃ space : List Char, (∀ c ∈ space, Text.isMarkupSpace c = true) ∧
      unescape raw = (unescape (Event.trimEnd raw)).map (· ++ space) := by
  unfold Event.trimEnd Text.stripEnd
  induction raw using List.reverseRecOn with
  | nil => exact ⟨[], nofun, rfl⟩
  | append_singleton raw c ih =>
    rw [List.reverse_append, List.reverse_singleton, List.singleton_append]
    cases hc : Text.isMarkupSpace c with
    | false =>
      rw [List.dropWhile_cons_of_neg (by rw [hc]; decide), List.reverse_cons,
        List.reverse_reverse]
      refine ⟨[], nofun, ?_⟩
      simp only [List.append_nil, Option.map_id']
    | true =>
      obtain ⟨space, hspace, hraw⟩ := ih
      refine ⟨space ++ [c], ?_, ?_⟩
      · simpa [or_imp, forall_and, hc] using hspace
      · rw [List.dropWhile_cons_of_pos hc, unescape, unescapeFrom_concat hc, ← unescape, hraw,
          Option.map_map]
        simp only [Function.comp_def, List.append_assoc]

/-- Text is legible with or without the white space at its beginning. -/
theorem legible_trimStart_iff {raw : List Char} :
    Legible (Event.trimStart raw) ↔ Legible raw := by
  obtain ⟨space, -, hraw⟩ := exists_unescape_trimStart raw
  rw [Legible, Legible, hraw, Option.isSome_map]

/-- Text is legible with or without the white space at its end. -/
theorem legible_trimEnd_iff {raw : List Char} : Legible (Event.trimEnd raw) ↔ Legible raw := by
  obtain ⟨space, -, hraw⟩ := exists_unescape_trimEnd raw
  rw [Legible, Legible, hraw, Option.isSome_map]

/-- Written text is legible if its references are short. -/
theorem legible_writeText_iff {text : List Glyph} (h : text.all Glyph.wellFormed = true) :
    Legible (writeText text) ↔ text.all Glyph.short = true := by
  have hfrom : ∀ before,
      (unescapeFrom before .plain (writeText text)).isSome = text.all Glyph.short := by
    induction text with
    | nil =>
      intro before
      rfl
    | cons glyph text ih =>
      intro before
      rw [List.all_cons, Bool.and_eq_true] at h
      rw [writeText, List.flatMap_cons, Glyph.unescapeFrom_write h.1, List.all_cons,
        ← Glyph.isSome_value? h.1]
      cases glyph.value? with
      | none => rfl
      | some c => exact ih h.2 _
  rw [Legible, unescape, hfrom]

/-- A run whose text can be read. -/
def LegibleRun (run : Run) : Prop :=
  ∀ piece ∈ run, piece.value?.isSome = true

theorem legibleRun_nil : LegibleRun [] :=
  nofun

@[simp] theorem legibleRun_plain_iff {raw : List Char} {run : Run} :
    LegibleRun (.plain raw :: run) ↔ Legible raw ∧ LegibleRun run :=
  List.forall_mem_cons

@[simp] theorem legibleRun_literal_iff {content : List Char} {run : Run} :
    LegibleRun (.literal content :: run) ↔ LegibleRun run :=
  List.forall_mem_cons.trans (and_iff_right rfl)

theorem isSome_value?_iff {run : Run} : (Run.value? run).isSome = true ↔ LegibleRun run := by
  rw [Run.value?, Option.isSome_map]
  induction run with
  | nil => exact iff_of_true rfl legibleRun_nil
  | cons piece run ih =>
    rw [LegibleRun, List.forall_mem_cons, ← LegibleRun, ← ih, List.mapM_cons]
    cases piece.value? with
    | none => simp
    | some value => cases run.mapM Piece.value? <;> simp

/-- Text leaves a run legible exactly if its references are short. -/
theorem legibleRun_addGlyphs_iff {run : Run} {text : List Glyph}
    (h : text.all Glyph.wellFormed = true) :
    LegibleRun (addGlyphs run text) ↔ LegibleRun run ∧ text.all Glyph.short = true := by
  rw [← legible_writeText_iff h]
  unfold addGlyphs
  split_ifs with hempty
  · rw [hempty]
    exact (and_iff_left rfl).symm
  · cases run with
    | nil =>
      rw [← legible_trimStart_iff]
      show LegibleRun (if _ then [] else [.plain (Event.trimStart (writeText text))]) ↔ _
      split_ifs with hblank
      · rw [List.isEmpty_iff.mp hblank]
        exact (and_iff_left rfl).symm
      · exact legibleRun_plain_iff.trans and_comm
    | cons piece run => exact legibleRun_plain_iff.trans and_comm

/-- A run that is over is legible if its pieces are. -/
theorem forall_mem_overRun_iff {run : Run} :
    (∀ ended ∈ overRun run, (Run.value? ended).isSome = true) ↔ LegibleRun run := by
  have hreverse (pieces : Run) : LegibleRun pieces.reverse ↔ LegibleRun pieces :=
    forall_congr' fun piece => imp_congr List.mem_reverse Iff.rfl
  rcases run with _ | ⟨raw | content, rest⟩
  · exact iff_of_true nofun legibleRun_nil
  · rw [overRun, List.forall_mem_singleton, isSome_value?_iff, hreverse, legibleRun_plain_iff,
      legibleRun_plain_iff, legible_trimEnd_iff]
  · show (∀ ended ∈ [(Piece.literal content :: rest).reverse], _) ↔ _
    rw [List.forall_mem_singleton, isSome_value?_iff, hreverse]

/-- A part of the tree is no text, or text that can be read. -/
def leads : Option Node → Bool
  | some (.text run) => (Run.value? run).isSome
  | _ => true

theorem canSkip_eq (content : List Node) :
    Record.canSkip content = (Node.allIntact content && leads content.head?) := by
  unfold Record.canSkip leads
  rcases content with _ | ⟨run | ⟨name, attributes, inside⟩ | _, rest⟩
  · rfl
  · rfl
  · rfl
  · rfl

theorem LegibleRun.leads_append {run : Run} (hrun : LegibleRun run) {rest : List Node}
    (hrest : leads rest.head? = true) :
    leads ((Markup.overRun run).map Node.text ++ rest).head? = true := by
  have hended := forall_mem_overRun_iff.mpr hrun
  cases hlist : Markup.overRun run with
  | nil => exact hrest
  | cons ended others => exact hended ended (by rw [hlist]; exact List.mem_cons_self ..)

/-- The first text of content can be read if its references are short. -/
theorem Content.leads_nodesFrom {content : Content} (h : content.wellFormed = true)
    (hshort : content.shortReferences = true) {run : Run} (hrun : LegibleRun run) :
    leads (content.nodesFrom run).head? = true := by
  have htext {run : Run} (hrun : LegibleRun run) {text : List Glyph}
      (h : text.all Glyph.wellFormed = true) (hshort : text.all Glyph.short = true) :
      LegibleRun (addGlyphs run text) :=
    (legibleRun_addGlyphs_iff h).mpr ⟨hrun, hshort⟩
  induction content generalizing run with
  | stop text =>
    have hleads := (htext hrun h hshort).leads_append
      (show leads ([] : List Node).head? = true from rfl)
    rwa [List.append_nil] at hleads
  | cdata text content rest ih =>
    simp only [wellFormed, shortReferences, Bool.and_eq_true] at h hshort
    exact ih h.2 hshort.2 (legibleRun_literal_iff.mpr (htext hrun h.1.1 hshort.1))
  | comment text content rest ih =>
    simp only [wellFormed, shortReferences, Bool.and_eq_true] at h hshort
    exact ih h.2 hshort.2 (htext hrun h.1.1 hshort.1)
  | instruction text content rest ih =>
    simp only [wellFormed, shortReferences, Bool.and_eq_true] at h hshort
    exact ih h.2 hshort.2 (htext hrun h.1.1.1 hshort.1)
  | hollow text tag rest ih =>
    simp only [wellFormed, shortReferences, Bool.and_eq_true] at h hshort
    exact (htext hrun h.1.1 hshort).leads_append rfl
  | element text tag inside space rest ihinside ihrest =>
    simp only [wellFormed, shortReferences, Bool.and_eq_true] at h hshort
    exact (htext hrun h.1.1.1.1 hshort).leads_append rfl

namespace Element

def attributes : Element → List Char
  | full tag _ _ | hollow tag => tag.details

/-- What is between the tags of an element. -/
def inside : Element → List Node
  | full _ inside _ => inside.nodesFrom []
  | hollow _ => []

/-- The part of the tree that an element is read as. -/
def node (element : Element) : Node :=
  .element element.name element.attributes element.inside

/-- The tokens of an element add its node to the element around it. -/
theorem build_tokens {element : Element} (hreadable : element.readable = true)
    (inner : Node.Unclosed) (outer : List Node.Unclosed) (rest : List Token) :
    Node.build inner outer (Event.ofTokensFrom [] (element.tokens ++ rest)) =
      Node.build (inner.add element.node) outer (Event.ofTokensFrom [] rest) := by
  cases element with
  | full tag inside space =>
    rw [readable, Bool.and_eq_true] at hreadable
    rw [tokens, List.cons_append, List.append_assoc, List.singleton_append, Event.ofTokensFrom]
    show Node.build ⟨tag.name, tag.details, []⟩ (inner :: outer)
      (Event.ofTokensFrom [] (inside.tokens ++ .stop tag.name :: rest)) = _
    rw [← Content.tokensThen_eq hreadable.1, Content.build_tokensThen, if_pos hreadable.1,
      Node.build, if_pos rfl, Content.nodesTo_eq hreadable.1]
    dsimp only
    rw [List.append_nil, Node.Unclosed.close, List.reverse_reverse]
    rfl
  | hollow tag =>
    show Node.build ⟨tag.name, tag.details, []⟩ (inner :: outer)
      (.stop tag.name :: Event.ofTokensFrom [] rest) = _
    rw [Node.build, if_pos rfl]
    rfl

/-- A well-formed element is passed over, if its instructions and references are such as a
reader takes. -/
theorem canSkip {element : Element} (h : element.wellFormed = true)
    (hreadable : element.readable = true) : Record.canSkip element.inside = true := by
  rw [canSkip_eq, Bool.and_eq_true]
  cases element with
  | full tag inside space =>
    simp only [wellFormed, readable, Bool.and_eq_true] at h hreadable
    exact ⟨inside.allIntact_nodesFrom [],
      inside.leads_nodesFrom h.1.2 hreadable.2 legibleRun_nil⟩
  | hollow tag => exact ⟨rfl, rfl⟩

end Element

end CallbackGate.Markup
