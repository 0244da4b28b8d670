import CallbackGate.Proofs.ForeignTrees

/-!
# Whole documents

Any well-formed document, with a gap in it that is left to be filled.  What stands before
its root does not matter, as long as a reader gets past it: an instruction there that seems
to end before its end mark keeps the whole document from being read.

There are two groups.

* Contents.  Content parts at any place between two constructs (`Content.append`).
* Documents.  `Template.root?_write` is the assembly, and `Template.ofBody_write` is it for a
  reader of the root.
-/

namespace CallbackGate.Markup

/-! ## Contents -/

/-- A character of white space, as it is. -/
def Glyph.isSpace : Glyph → Bool
  | char c => Text.isMarkupSpace c
  | _ => false

namespace Content

/-- Content with text before it. -/
def withText (text : List Glyph) : Content → Content
  | stop more => stop (text ++ more)
  | cdata more content rest => cdata (text ++ more) content rest
  | comment more content rest => comment (text ++ more) content rest
  | instruction more content rest => instruction (text ++ more) content rest
  | hollow more tag rest => hollow (text ++ more) tag rest
  | element more tag inside space rest => element (text ++ more) tag inside space rest

/-- Content followed by more of it. -/
def append : Content → Content → Content
  | stop text, more => more.withText text
  | cdata text content rest, more => cdata text content (rest.append more)
  | comment text content rest, more => comment text content (rest.append more)
  | instruction text content rest, more => instruction text content (rest.append more)
  | hollow text tag rest, more => hollow text tag (rest.append more)
  | element text tag inside space rest, more => element text tag inside space (rest.append more)

/-- The names that a record tells its children apart by. -/
def names : Content → List String
  | stop _ => []
  | cdata _ _ rest | comment _ _ rest | instruction _ _ rest => rest.names
  | hollow _ tag rest | element _ tag _ _ rest => localName tag.name :: rest.names

/-- Nothing but white space, comments and instructions. -/
def isAside : Content → Bool
  | stop text => text.all Glyph.isSpace
  | comment text _ rest | instruction text _ rest => text.all Glyph.isSpace && rest.isAside
  | cdata .. | hollow .. | element .. => false

theorem withText_nil (content : Content) : content.withText [] = content := by
  cases content with
  | _ => rfl

theorem write_withText (text : List Glyph) (content : Content) :
    (content.withText text).write = writeText text ++ content.write := by
  have happend (more : List Glyph) : writeText (text ++ more) = writeText text ++ writeText more :=
    List.flatMap_append
  cases content with
  | stop more => exact happend more
  | _ => simp only [withText, write, happend, List.append_assoc]

theorem write_append (left right : Content) :
    (left.append right).write = left.write ++ right.write := by
  induction left with
  | stop text => exact write_withText text right
  | cdata text content rest ih => simp only [append, write, ih, List.append_assoc]
  | comment text content rest ih => simp only [append, write, ih, List.append_assoc]
  | instruction text content rest ih => simp only [append, write, ih, List.append_assoc]
  | hollow text tag rest ih => simp only [append, write, ih, List.append_assoc]
  | element text tag inside space rest _ ih => simp only [append, write, ih, List.append_assoc]

theorem plainInstructions_withText (text : List Glyph) (content : Content) :
    (content.withText text).plainInstructions = content.plainInstructions := by
  cases content with
  | _ => rfl

theorem plainInstructions_append (left right : Content) :
    (left.append right).plainInstructions =
      (left.plainInstructions && right.plainInstructions) := by
  induction left with
  | stop text => exact plainInstructions_withText text right
  | cdata text content rest ih => exact ih
  | comment text content rest ih => exact ih
  | instruction text content rest ih =>
    simp only [append, plainInstructions, ih, Bool.and_assoc]
  | hollow text tag rest ih => exact ih
  | element text tag inside space rest _ ih =>
    simp only [append, plainInstructions, ih, Bool.and_assoc]

theorem wellFormed_withText (text : List Glyph) (content : Content) :
    (content.withText text).wellFormed = (text.all Glyph.wellFormed && content.wellFormed) := by
  cases content with
  | stop more => exact List.all_append
  | _ => simp only [withText, wellFormed, List.all_append, Bool.and_assoc]

theorem wellFormed_append (left right : Content) :
    (left.append right).wellFormed = (left.wellFormed && right.wellFormed) := by
  induction left with
  | stop text => exact wellFormed_withText text right
  | cdata text content rest ih => simp only [append, wellFormed, ih, Bool.and_assoc]
  | comment text content rest ih => simp only [append, wellFormed, ih, Bool.and_assoc]
  | instruction text content rest ih => simp only [append, wellFormed, ih, Bool.and_assoc]
  | hollow text tag rest ih => simp only [append, wellFormed, ih, Bool.and_assoc]
  | element text tag inside space rest _ ih =>
    simp only [append, wellFormed, ih, Bool.and_assoc]

end Content

/-- Content that an element begins. -/
def Element.before : Element → Content → Content
  | full tag inside space, rest => .element [] tag inside space rest
  | hollow tag, rest => .hollow [] tag rest

theorem Element.write_before (element : Element) (rest : Content) :
    (element.before rest).write = element.write ++ rest.write := by
  cases element with
  | full tag inside space => simp only [before, Content.write, write, writeText, List.flatMap_nil,
      List.nil_append, List.append_assoc]
  | hollow tag => rfl

theorem Element.wellFormed_before (element : Element) (rest : Content) :
    (element.before rest).wellFormed = (element.wellFormed && rest.wellFormed) := by
  cases element with
  | full tag inside space => rfl
  | hollow tag => rfl

/-! ## Documents -/

/-- An element with a gap in its content. -/
structure Enclosure where
  tag : Tag
  left : Content
  right : Content
  space : List Char
  deriving DecidableEq, Repr

namespace Enclosure

/-- The element with its gap filled. -/
def write (enclosure : Enclosure) (inner : List Char) : List Char :=
  enclosure.tag.start ++ (enclosure.left.write ++ inner ++ enclosure.right.write) ++
    enclosure.tag.stop enclosure.space

def wellFormed (enclosure : Enclosure) : Bool :=
  enclosure.tag.wellFormed && enclosure.left.wellFormed && enclosure.right.wellFormed &&
    enclosure.space.all Text.isMarkupSpace

/-- The names of the children around the gap. -/
def names (enclosure : Enclosure) : List String :=
  enclosure.left.names ++ enclosure.right.names

end Enclosure

/-- Every angle bracket is closed, besides the given number of open ones. -/
def balanced : Nat → List Char → Bool
  | depth, [] => depth == 0
  | depth, c :: rest =>
    if c = '<' then balanced (depth + 1) rest
    else if c = '>' then depth != 0 && balanced (depth - 1) rest
    else balanced depth rest

/-- A document type declaration as it is written. -/
def writeDoctype (content : List Char) : List Char :=
  '<' :: '!' :: ("DOCTYPE".toList ++ content ++ ['>'])

/-- A document with a gap in its root. -/
structure Template where
  /-- The document begins with a byte order mark. -/
  mark : Bool := false
  /-- What stands before the root, or before the document type declaration. -/
  prolog : Content := .stop []
  /-- A document type declaration and what stands between it and the root. -/
  doctype : Option (List Char × Content) := none
  root : Enclosure
  epilog : Content := .stop []
  deriving DecidableEq, Repr

namespace Template

/-- The root with its gap filled and all that stands before it. -/
def writeBody (template : Template) (inner : List Char) : List Char :=
  template.prolog.write ++ match template.doctype with
    | none => template.root.write inner ++ template.epilog.write
    | some (content, more) =>
      writeDoctype content ++ (more.write ++ (template.root.write inner ++ template.epilog.write))

/-- The document with its gap filled. -/
def write (template : Template) (inner : List Char) : String :=
  String.ofList (if template.mark then '\uFEFF' :: template.writeBody inner
    else template.writeBody inner)

/-- Around the root there is nothing but white space, comments, instructions and perhaps a
document type declaration, whose angle brackets are balanced. -/
def wellFormed (template : Template) : Bool :=
  template.prolog.wellFormed && template.prolog.isAside &&
    template.doctype.all (fun doctype =>
      balanced 0 doctype.1 && !doctype.1.all Text.isMarkupSpace &&
        doctype.2.wellFormed && doctype.2.isAside) &&
    template.root.wellFormed && template.epilog.wellFormed && template.epilog.isAside

end Template

namespace Token

/-- What is balanced ends at the next bracket that is not opened in it. -/
theorem cutBalanced_append {depth : Nat} {content : List Char}
    (h : balanced depth content = true) (before rest : List Char) :
    cutBalanced depth before (content ++ '>' :: rest) =
      some (before.reverse ++ content, rest) := by
  induction content generalizing depth before with
  | nil =>
    rw [balanced, beq_iff_eq] at h
    rw [List.nil_append, cutBalanced, if_pos h, List.append_nil]
  | cons c content ih =>
    have hnext : (c :: before).reverse ++ content = before.reverse ++ c :: content := by
      rw [List.reverse_cons, List.append_assoc, List.singleton_append]
    rw [balanced] at h
    split_ifs at h with hopen hclose
    · rw [hopen] at hnext ⊢
      rw [List.cons_append, cutBalanced, ih h, hnext]
    · rw [Bool.and_eq_true, bne_iff_ne] at h
      rw [hclose] at hnext ⊢
      rw [List.cons_append, cutBalanced, if_neg h.1, ih h.2, hnext]
    · rw [List.cons_append, cutBalanced, ih h, hnext]
      · exact fun heq => hclose heq
      · exact fun heq => hopen heq

/-- A document type declaration is passed over. -/
theorem readNext_doctype {content : List Char} (h : balanced 0 content = true)
    (hsome : content.all Text.isMarkupSpace = false) (rest : List Char) :
    readNext (writeDoctype content ++ rest) = ([.doctype], rest) := by
  have hlength : "DOCTYPE".length = 7 := by decide
  have hword : afterWord? "DOCTYPE" ("DOCTYPE".toList ++ content) = some content := by
    rw [afterWord?, hlength]
    show (if Text.sameLetters (String.ofList ['D', 'O', 'C', 'T', 'Y', 'P', 'E']) _ = true
      then some content else none) = _
    rw [if_pos (by decide)]
  have hbalanced : balanced 0 ("DOCTYPE".toList ++ content) = true := h
  have hcut := cutBalanced_append hbalanced [] rest
  show readDoctype ("DOCTYPE".toList ++ content ++ ['>'] ++ rest) = _
  rw [List.append_assoc, List.singleton_append, readDoctype, hcut]
  dsimp only
  rw [List.reverse_nil, List.nil_append, hword]
  dsimp only
  rw [hsome, if_neg Bool.false_ne_true]

end Token

namespace Content

theorem isMarkupSpace_of_mem_writeText {text : List Glyph} (h : text.all Glyph.isSpace = true)
    {c : Char} (hc : c ∈ writeText text) : Text.isMarkupSpace c = true := by
  obtain ⟨glyph, hglyph, hwrite⟩ := List.mem_flatMap.mp hc
  have hspace := List.all_eq_true.mp h glyph hglyph
  cases glyph with
  | char d =>
    cases List.mem_singleton.mp hwrite
    exact hspace
  | _ => cases hspace

/-- White space is no text of a document around its root. -/
theorem addGlyphs_of_isSpace {text : List Glyph} (h : text.all Glyph.isSpace = true) :
    addGlyphs [] text = [] := by
  have htrim : Event.trimStart (writeText text) = [] :=
    List.dropWhile_eq_nil_iff.mpr fun c hc => isMarkupSpace_of_mem_writeText h hc
  unfold addGlyphs
  split_ifs
  · rfl
  · rw [Event.addText, htrim]
    rfl

/-- What is passed over around the root leaves nothing, unless tokens stop. -/
theorem ofTokensFrom_of_isAside {content : Content} (h : content.isAside = true)
    (next : List Token) :
    Event.ofTokensFrom [] (content.tokensThen next) =
      if content.plainInstructions then Event.ofTokensFrom [] next else [.fault] := by
  induction content with
  | stop text =>
    rw [tokensThen, ofTokensFrom_glyphTokens, addGlyphs_of_isSpace h, plainInstructions,
      if_pos rfl]
  | comment text content rest ih =>
    rw [isAside, Bool.and_eq_true] at h
    rw [tokensThen, ofTokensFrom_glyphTokens, addGlyphs_of_isSpace h.1, Event.ofTokensFrom,
      ih h.2, plainInstructions]
  | instruction text content rest ih =>
    rw [isAside, Bool.and_eq_true] at h
    rw [tokensThen, ofTokensFrom_glyphTokens, addGlyphs_of_isSpace h.1, plainInstructions]
    cases content.contains '>' with
    | true =>
      rw [if_pos rfl, Event.ofTokensFrom, Bool.not_true, Bool.false_and,
        if_neg Bool.false_ne_true]
      rfl
    | false =>
      rw [if_neg Bool.false_ne_true, Event.ofTokensFrom, ih h.2, Bool.not_false, Bool.true_and]
  | cdata text content rest ih => cases h
  | hollow text tag rest ih => cases h
  | element text tag inside space rest ihinside ihrest => cases h

/-- White space or markup stands first in a document. -/
theorem head_of_isAside {content : Content} (h : content.isAside = true) {rest : List Char}
    (hrest : rest.head? = some '<') :
    ∀ c ∈ (content.write ++ rest).head?, Text.isMarkupSpace c = true ∨ c = '<' := by
  have htext {text : List Glyph} (htext : text.all Glyph.isSpace = true) {more : List Char}
      (hmore : more.head? = some '<') :
      ∀ c ∈ (writeText text ++ more).head?, Text.isMarkupSpace c = true ∨ c = '<' := by
    intro c hc
    rw [List.head?_append, hmore] at hc
    cases hhead : (writeText text).head? with
    | none =>
      rw [hhead] at hc
      exact .inr (Option.some.inj hc).symm
    | some d =>
      rw [hhead] at hc
      cases hc
      exact .inl (isMarkupSpace_of_mem_writeText htext (List.mem_of_mem_head? hhead))
  cases content with
  | stop text => exact htext h hrest
  | comment text content more =>
    rw [isAside, Bool.and_eq_true] at h
    rw [write, List.append_assoc, List.append_assoc]
    exact htext h.1 rfl
  | instruction text content more =>
    rw [isAside, Bool.and_eq_true] at h
    rw [write, List.append_assoc, List.append_assoc]
    exact htext h.1 rfl
  | cdata text content rest => cases h
  | hollow text tag rest => cases h
  | element text tag inside space rest => cases h

end Content

namespace Template

variable {template : Template} {content : Content} {inner : List Char}

/-- The tokens of the root and of what follows it. -/
def rootTokens (template : Template) (content : Content) : List Token :=
  .start template.root.tag.name template.root.tag.details ::
    content.tokensThen (.stop template.root.tag.name :: template.epilog.tokensThen [])

/-- The tokens of a document whose root has the given content. -/
def tokens (template : Template) (content : Content) : List Token :=
  template.prolog.tokensThen <| match template.doctype with
    | none => template.rootTokens content
    | some (_, more) => .doctype :: more.tokensThen (template.rootTokens content)

/-- A reader gets to the root. -/
def reachesRoot (template : Template) : Bool :=
  template.prolog.plainInstructions && template.doctype.all (·.2.plainInstructions)

theorem wellFormed_iff :
    template.wellFormed = true ↔ template.prolog.wellFormed = true ∧
      template.prolog.isAside = true ∧ (∀ doctype ∈ template.doctype,
        balanced 0 doctype.1 = true ∧ doctype.1.all Text.isMarkupSpace = false ∧
          doctype.2.wellFormed = true ∧ doctype.2.isAside = true) ∧
      template.root.wellFormed = true ∧ template.epilog.wellFormed = true ∧
      template.epilog.isAside = true := by
  simp only [wellFormed, Bool.and_eq_true, Option.all_eq_true, Bool.not_eq_true', and_assoc,
    Option.mem_def]

theorem scans_root (h : template.wellFormed = true) (hcontent : content.wellFormed = true)
    (hinner : content.write = template.root.left.write ++ inner ++ template.root.right.write) :
    Token.Scans (template.root.write inner ++ template.epilog.write)
      (template.rootTokens content) := by
  obtain ⟨-, -, -, hroot, hepilog, -⟩ := wellFormed_iff.mp h
  simp only [Enclosure.wellFormed, Bool.and_eq_true] at hroot
  have hend : Token.Scans (template.epilog.write ++ []) (template.epilog.tokensThen []) :=
    Content.scans_tokensThen hepilog (by rintro _ ⟨⟩) Token.scans_nil
  rw [List.append_nil] at hend
  have hstop := hend.prepend (Tag.readNext_stop hroot.1.1.1 hroot.2 _) (List.cons_ne_nil _ _)
  have hinside := Content.scans_tokensThen hcontent (by rintro _ ⟨⟩; rfl) hstop
  have hall := hinside.prepend (Tag.readNext_start hroot.1.1.1 _) (List.cons_ne_nil _ _)
  rw [hinner] at hall
  simp only [Enclosure.write, rootTokens, List.append_assoc, List.cons_append,
    List.nil_append] at hall ⊢
  exact hall

theorem scans_body (h : template.wellFormed = true) (hcontent : content.wellFormed = true)
    (hinner : content.write = template.root.left.write ++ inner ++ template.root.right.write) :
    Token.Scans (template.writeBody inner) (template.tokens content) := by
  obtain ⟨hprolog, -, hdoctype, -⟩ := wellFormed_iff.mp h
  have hroot := scans_root h hcontent hinner
  unfold writeBody tokens
  cases hfound : template.doctype with
  | none => exact Content.scans_tokensThen hprolog (by rintro _ ⟨⟩; rfl) hroot
  | some doctype =>
    obtain ⟨declaration, more⟩ := doctype
    obtain ⟨hbalanced, hsome, hmore, -⟩ := hdoctype _ hfound
    have hmore := Content.scans_tokensThen hmore (by rintro _ ⟨⟩; rfl) hroot
    have hdeclaration := hmore.prepend (Token.readNext_doctype hbalanced hsome _)
      (List.cons_ne_nil _ _)
    exact Content.scans_tokensThen hprolog (by rintro _ ⟨⟩; rfl) hdeclaration

/-- A byte order mark makes no difference. -/
theorem scan_write (h : template.wellFormed = true) (hcontent : content.wellFormed = true)
    (hinner : content.write = template.root.left.write ++ inner ++ template.root.right.write) :
    Token.scan (template.write inner) = template.tokens content := by
  obtain ⟨-, haside, -⟩ := wellFormed_iff.mp h
  have hscans := scans_body h hcontent hinner _ (Nat.le_refl _)
  rw [Token.scan, write, String.toList_ofList]
  cases template.mark with
  | true => exact hscans
  | false =>
    rw [if_neg Bool.false_ne_true]
    split
    · rename_i input hinput
      have hrest : (match template.doctype with
          | none => template.root.write inner ++ template.epilog.write
          | some (content, more) => writeDoctype content ++
            (more.write ++ (template.root.write inner ++ template.epilog.write))).head? =
          some '<' := by
        cases template.doctype with
        | none => rfl
        | some doctype => rfl
      have hhead := Content.head_of_isAside haside hrest '\uFEFF' (by
        rw [← writeBody, hinput]
        rfl)
      exact absurd hhead (by decide)
    · exact hscans

/-- The root that events begin with. -/
def rootOf : List Event → Option Node
  | .start name attributes :: rest => some (Node.build ⟨name, attributes, []⟩ [] rest)
  | _ => none

/-- The root of a document is read with its content, if the reader gets to it. -/
theorem root?_write (h : template.wellFormed = true) (hcontent : content.wellFormed = true)
    (hinner : content.write = template.root.left.write ++ inner ++ template.root.right.write) :
    Node.root? (template.write inner) =
      if template.reachesRoot then
        some (.element template.root.tag.name template.root.tag.details (content.nodesTo []))
      else none := by
  obtain ⟨-, haside, hdoctype, -⟩ := wellFormed_iff.mp h
  have hroot : ∀ rest, Node.build ⟨template.root.tag.name, template.root.tag.details, []⟩ []
      (Event.ofTokensFrom [] (content.tokensThen (.stop template.root.tag.name :: rest))) =
        .element template.root.tag.name template.root.tag.details (content.nodesTo []) := by
    intro rest
    rw [Content.build_tokensThen, Node.build, if_pos rfl]
    have hclose : ∀ nodes : List Node,
        Node.Unclosed.close
          ⟨template.root.tag.name, template.root.tag.details, nodes.reverse ++ []⟩ =
          .element template.root.tag.name template.root.tag.details nodes := by
      intro nodes
      rw [Node.Unclosed.close, List.append_nil, List.reverse_reverse]
    split_ifs
    · exact hclose _
    · exact hclose _
  have hreached : rootOf (Event.ofTokensFrom [] (template.rootTokens content)) =
      some (.element template.root.tag.name template.root.tag.details (content.nodesTo [])) :=
    congrArg some (hroot _)
  show rootOf (Event.ofTokens (Token.scan (template.write inner))) = _
  rw [Event.ofTokens, scan_write h hcontent hinner, tokens,
    Content.ofTokensFrom_of_isAside haside, reachesRoot]
  cases template.prolog.plainInstructions with
  | false => rfl
  | true =>
    rw [if_pos rfl, Bool.true_and]
    cases hfound : template.doctype with
    | none => exact hreached
    | some doctype =>
      obtain ⟨-, -, -, hmore⟩ := hdoctype _ hfound
      show rootOf (Event.ofTokensFrom [] (doctype.2.tokensThen _)) = _
      rw [Content.ofTokensFrom_of_isAside hmore, Option.all_some]
      cases doctype.2.plainInstructions with
      | false => rfl
      | true => exact hreached

/-- A reader of a document is given the content of the root, if it gets there. -/
theorem ofBody_write {α : Type} (h : template.wellFormed = true)
    (hcontent : content.wellFormed = true)
    (hinner : content.write = template.root.left.write ++ inner ++ template.root.right.write)
    (reader : Reader α) :
    Record.ofBody reader (Text.Utf8.bytes (template.write inner)) =
      if template.reachesRoot then reader template.root.tag.details (content.nodesTo [])
      else .error .malformed := by
  rw [Record.ofBody, Text.Utf8.decode_bytes]
  dsimp only
  rw [root?_write h hcontent hinner]
  cases template.reachesRoot with
  | false => rfl
  | true => rfl

end Template

end CallbackGate.Markup
