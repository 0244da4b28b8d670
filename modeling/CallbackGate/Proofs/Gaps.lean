import CallbackGate.Proofs.WholeDocuments

/-!
# Records around a gap

What a record is read as does not depend on how the text between its children is parted, but
for one thing: an illegible text is where reading fails.  So two contents of a record that
agree but for what stands in a gap are read alike if what stands there is read alike
(`rel_append`).

There are four groups.

* Text.  `recordFrom_withText` takes the text before a content apart from it.
* Children.  A child either ends the reading or leads to another record
  (`recordFrom_element_cases`).
* Faults.  A record is not read over the place where its document cannot be read
  (`recordFrom_of_fault`).
* Gaps.  `rel_append` carries a relation of two results over what stands before a gap.
-/

namespace CallbackGate.Markup

instance (run : Run) : Decidable (LegibleRun run) :=
  List.decidableBAll _ run

namespace Record

variable {α : Type} {fields : List (Field α)} {seen : List String} {record : α}

/-- The record that children make of another one. -/
def recordFrom (fields : List (Field α)) (seen : List String) (record : α)
    (nodes : List Node) : Except BodyError α :=
  (readChildren fields seen record nodes).map Prod.snd

/-! ## Text -/

theorem recordFrom_text (run : Run) (rest : List Node) :
    recordFrom fields seen record (.text run :: rest) =
      if (Run.value? run).isSome then recordFrom fields seen record rest
      else .error .malformed := by
  rw [recordFrom, readChildren, runText]
  cases Run.value? run with
  | none => rfl
  | some value => rfl

theorem recordFrom_texts (runs : List Run) (rest : List Node) :
    recordFrom fields seen record (runs.map .text ++ rest) =
      if ∀ run ∈ runs, (Run.value? run).isSome = true then recordFrom fields seen record rest
      else .error .malformed := by
  induction runs with
  | nil => rw [if_pos nofun, List.map_nil, List.nil_append]
  | cons run runs ih =>
    rw [List.map_cons, List.cons_append, recordFrom_text, ih]
    simp only [List.forall_mem_cons, ite_and]

/-- A run that is over is passed over if it is legible. -/
theorem recordFrom_overRun (run : Run) (rest : List Node) :
    recordFrom fields seen record ((overRun run).map .text ++ rest) =
      if LegibleRun run then recordFrom fields seen record rest else .error .malformed := by
  rw [recordFrom_texts]
  exact if_congr forall_mem_overRun_iff rfl rfl

theorem legible_append_iff {run : Run} {text more : List Glyph}
    (htext : text.all Glyph.wellFormed = true) (hmore : more.all Glyph.wellFormed = true) :
    LegibleRun (addGlyphs run (text ++ more)) ↔
      (LegibleRun run ∧ text.all Glyph.short = true) ∧ more.all Glyph.short = true := by
  rw [legibleRun_addGlyphs_iff (by rw [List.all_append, htext, hmore]; rfl), List.all_append,
    Bool.and_eq_true, and_assoc]

theorem legible_glyphs_iff {text : List Glyph}
    (h : text.all Glyph.wellFormed = true) :
    LegibleRun (addGlyphs [] text) ↔ text.all Glyph.short = true := by
  rw [legibleRun_addGlyphs_iff h, and_iff_right legibleRun_nil]

/-- A run and text before a content are passed over if they are legible. -/
theorem recordFrom_withText {content : Content} (h : content.wellFormed = true)
    {text : List Glyph} (htext : text.all Glyph.wellFormed = true) (run : Run) :
    recordFrom fields seen record ((content.withText text).nodesTo run) =
      if LegibleRun run ∧ text.all Glyph.short = true then
        recordFrom fields seen record (content.nodesTo [])
      else .error .malformed := by
  induction content generalizing run text with
  | stop more =>
    have hend (run : Run) : recordFrom fields seen record ((overRun run).map .text) =
        if LegibleRun run then recordFrom fields seen record [] else .error .malformed := by
      rw [← recordFrom_overRun, List.append_nil]
    simp only [Content.withText, Content.nodesTo, hend, legible_append_iff htext h,
      legible_glyphs_iff h, ite_and]
  | cdata more content rest ih =>
    simp only [Content.wellFormed, Bool.and_eq_true] at h
    have hrest (run : Run) := ih h.2 List.all_nil run
    simp only [Content.withText_nil, List.all_nil, and_true] at hrest
    rw [Content.withText, Content.nodesTo, Content.nodesTo, hrest,
      hrest (.literal content :: addGlyphs [] more)]
    simp only [legibleRun_literal_iff, legible_append_iff htext h.1.1, legible_glyphs_iff h.1.1,
      ite_and]
  | comment more content rest ih =>
    simp only [Content.wellFormed, Bool.and_eq_true] at h
    have hrest (run : Run) := ih h.2 List.all_nil run
    simp only [Content.withText_nil, List.all_nil, and_true] at hrest
    rw [Content.withText, Content.nodesTo, Content.nodesTo, hrest,
      hrest (addGlyphs [] more)]
    simp only [legible_append_iff htext h.1.1, legible_glyphs_iff h.1.1, ite_and]
  | instruction more content rest ih =>
    simp only [Content.wellFormed, Bool.and_eq_true] at h
    have hrest (run : Run) := ih h.2 List.all_nil run
    simp only [Content.withText_nil, List.all_nil, and_true] at hrest
    rw [Content.withText, Content.nodesTo, Content.nodesTo]
    cases content.contains '>' with
    | true =>
      simp only [if_true, recordFrom_overRun, legible_append_iff htext h.1.1.1,
        legible_glyphs_iff h.1.1.1, ite_and]
    | false =>
      simp only [Bool.false_eq_true, if_false]
      rw [hrest, hrest (addGlyphs [] more)]
      simp only [legible_append_iff htext h.1.1.1, legible_glyphs_iff h.1.1.1, ite_and]
  | hollow more tag rest ih =>
    simp only [Content.wellFormed, Bool.and_eq_true] at h
    simp only [Content.withText, Content.nodesTo, recordFrom_overRun,
      legible_append_iff htext h.1.1, legible_glyphs_iff h.1.1, ite_and]
  | element more tag inside space rest ihinside ihrest =>
    simp only [Content.wellFormed, Bool.and_eq_true] at h
    simp only [Content.withText, Content.nodesTo, recordFrom_overRun,
      legible_append_iff htext h.1.1.1.1, legible_glyphs_iff h.1.1.1.1, ite_and]

/-! ## Children -/

/-- A child either ends the reading or leads to another record: it is passed over, or a field
is read from it. -/
theorem recordFrom_element_cases (fields : List (Field α)) (seen : List String) (record : α)
    (name : String) (attributes : List Char) (content : List Node) :
    (∃ error, ∀ rest, recordFrom fields seen record (.element name attributes content :: rest) =
      .error error) ∨
    ∃ seen' record', (canSkip content = true ∧ seen' = seen ∨
        (∃ field ∈ fields, ∃ change, field.read attributes content = .ok change) ∧
          seen' = localName name :: seen) ∧
      ∀ rest, recordFrom fields seen record (.element name attributes content :: rest) =
        recordFrom fields seen' record' rest := by
  cases hfind : fields.find? (·.name == localName name) with
  | none =>
    cases hskip : canSkip content with
    | true =>
      refine .inr ⟨seen, record, .inl ⟨rfl, rfl⟩, fun rest => ?_⟩
      simp only [recordFrom, readChildren, hfind, hskip, if_true]
    | false =>
      refine .inl ⟨.malformed, fun rest => ?_⟩
      simp only [recordFrom, readChildren, hfind, hskip, Bool.false_eq_true, if_false]
      rfl
  | some field =>
    have hname := List.find?_some hfind
    rw [beq_iff_eq] at hname
    cases hseen : seen.contains field.name with
    | true =>
      refine .inl ⟨.duplicateField field.name, fun rest => ?_⟩
      simp only [recordFrom, readChildren, hfind, hseen, if_true]
      rfl
    | false =>
      cases hread : field.read attributes content with
      | error error =>
        refine .inl ⟨error, fun rest => ?_⟩
        simp only [recordFrom, readChildren, hfind, hseen, hread, Bool.false_eq_true, if_false]
        rfl
      | ok change =>
        refine .inr ⟨field.name :: seen, change record, .inr ⟨⟨field,
          List.mem_of_find?_eq_some hfind, change, hread⟩, by rw [hname]⟩, fun rest => ?_⟩
        rw [recordFrom, readChildren_field hfind hseen hread]
        rfl

end Record

/-- The name of a child that a record tells it by. -/
def Node.childName? : Node → Option String
  | element name _ _ => some (localName name)
  | text _ | fault => none

namespace Record

variable {α : Type} {fields : List (Field α)} {seen : List String} {record : α}

/-- Whether a field was read before does not matter to children of other names. -/
theorem recordFrom_congr_seen {name : String} {nodes : List Node}
    (hnodes : ∀ node ∈ nodes, name ∉ node.childName?) {seen' : List String}
    (h : ∀ other, other ≠ name → (other ∈ seen ↔ other ∈ seen')) :
    recordFrom fields seen record nodes = recordFrom fields seen' record nodes := by
  induction nodes generalizing seen seen' record with
  | nil => rfl
  | cons node rest ih =>
    rw [List.forall_mem_cons] at hnodes
    have hrest (record : α) :
        recordFrom fields seen record rest = recordFrom fields seen' record rest :=
      ih hnodes.2 h
    cases node with
    | fault => rfl
    | text run => rw [recordFrom_text, recordFrom_text, hrest]
    | element child attributes content =>
      cases hfind : fields.find? (·.name == localName child) with
      | none =>
        simp only [recordFrom] at hrest
        simp only [recordFrom, readChildren, hfind]
        split_ifs
        · exact hrest record
        · rfl
      | some field =>
        have hname := List.find?_some hfind
        rw [beq_iff_eq] at hname
        have hother : field.name ≠ name := by
          rintro rfl
          exact hnodes.1 (congrArg some hname.symm)
        have hseen : seen.contains field.name = seen'.contains field.name := by
          rw [Bool.eq_iff_iff, List.contains_iff_mem, List.contains_iff_mem, h _ hother]
        simp only [recordFrom, readChildren, hfind, hseen]
        split_ifs
        · rfl
        · cases field.read attributes content with
          | error error => rfl
          | ok change =>
            refine ih hnodes.2 fun other hne => ?_
            rw [List.mem_cons, List.mem_cons, h other hne]

/-! ## Faults -/

/-- A reader does not read an element that could not be read to its end. -/
def Strict (reader : Reader α) : Prop :=
  ∀ attributes content, Node.allIntact content = false →
    ∃ error, reader attributes content = .error error

/-- Children are not read over a fault. -/
theorem recordFrom_of_fault (hstrict : ∀ field ∈ fields, Strict field.read) {nodes : List Node}
    (h : Node.allIntact nodes = false) :
    ∃ error, recordFrom fields seen record nodes = .error error := by
  induction nodes generalizing seen record with
  | nil => cases h
  | cons node rest ih =>
    rw [Node.allIntact, Bool.and_eq_false_iff] at h
    cases node with
    | fault => exact ⟨.malformed, rfl⟩
    | text run =>
      rw [recordFrom_text]
      split_ifs
      · exact ih (h.resolve_left nofun)
      · exact ⟨.malformed, rfl⟩
    | element name attributes content =>
      obtain ⟨error, herror⟩ | ⟨seen', record', hread, hstep⟩ :=
        recordFrom_element_cases fields seen record name attributes content
      · exact ⟨error, herror rest⟩
      · rw [hstep]
        refine ih (h.resolve_left fun hcontent => ?_)
        rw [Node.intact] at hcontent
        obtain ⟨hskip, -⟩ | ⟨⟨field, hfield, change, hread⟩, -⟩ := hread
        · rw [canSkip_eq, hcontent] at hskip
          cases hskip
        · obtain ⟨error, herror⟩ := hstrict field hfield attributes content hcontent
          cases hread.symm.trans herror

end Record

/-- Content that is not read to its end leaves a fault. -/
theorem Content.allIntact_nodesTo {content : Content} (h : content.plainInstructions = false)
    (run : Run) : Node.allIntact (content.nodesTo run) = false := by
  induction content generalizing run with
  | stop text => cases h
  | cdata text content rest ih => exact ih h _
  | comment text content rest ih => exact ih h _
  | instruction text content rest ih =>
    rw [nodesTo]
    rw [plainInstructions] at h
    cases hcontains : content.contains '>' with
    | true => rw [if_pos rfl, allIntact_append, allIntact_map_text]; rfl
    | false =>
      rw [hcontains] at h
      rw [if_neg Bool.false_ne_true]
      exact ih h _
  | hollow text tag rest ih =>
    rw [nodesTo, allIntact_append, allIntact_map_text, Node.allIntact, ih h]
    rfl
  | element text tag inside space rest ihinside ihrest =>
    rw [plainInstructions, Bool.and_eq_false_iff] at h
    rw [nodesTo, allIntact_append, allIntact_map_text, Node.allIntact, Node.intact, Bool.true_and]
    cases hinside : inside.plainInstructions with
    | false =>
      rw [ihinside hinside]
      rfl
    | true =>
      rw [if_pos rfl, ihrest (h.resolve_left fun hfalse => by cases hinside.symm.trans hfalse),
        Bool.and_false]

/-- The children of content have its names. -/
theorem Content.mem_names_of_mem_nodesTo {content : Content} {run : Run} {node : Node}
    (hnode : node ∈ content.nodesTo run) {name : String} (hname : name ∈ node.childName?) :
    name ∈ content.names := by
  have htext {runs : List Run} (hmem : node ∈ runs.map Node.text) : False := by
    obtain ⟨run, -, rfl⟩ := List.mem_map.mp hmem
    cases hname
  induction content generalizing run with
  | stop text => exact (htext hnode).elim
  | cdata text content rest ih => exact ih hnode
  | comment text content rest ih => exact ih hnode
  | instruction text content rest ih =>
    rw [nodesTo] at hnode
    split_ifs at hnode
    · rw [List.mem_append, List.mem_singleton] at hnode
      obtain hnode | rfl := hnode
      · exact (htext hnode).elim
      · cases hname
    · exact ih hnode
  | hollow text tag rest ih =>
    rw [nodesTo, List.mem_append, List.mem_cons] at hnode
    obtain hnode | rfl | hnode := hnode
    · exact (htext hnode).elim
    · cases hname
      exact List.mem_cons_self ..
    · exact List.mem_cons_of_mem _ (ih hnode)
  | element text tag inside space rest ihinside ihrest =>
    rw [nodesTo, List.mem_append, List.mem_cons] at hnode
    obtain hnode | rfl | hnode := hnode
    · exact (htext hnode).elim
    · cases hname
      exact List.mem_cons_self ..
    · split_ifs at hnode
      · exact List.mem_cons_of_mem _ (ihrest hnode)
      · cases hnode

namespace Record

variable {α : Type} {fields : List (Field α)} {seen : List String} {record : α}

/-! ## Gaps -/

theorem forall_names_cons {allowed : List String → Prop} {name : String} {names : List String}
    (h : ∀ seen, allowed seen → ∀ other ∈ name :: names, allowed (other :: seen)) :
    (∀ seen, allowed seen → allowed (name :: seen)) ∧
      ∀ seen, allowed seen → ∀ other ∈ names, allowed (other :: seen) :=
  ⟨fun seen hseen => h seen hseen name (List.mem_cons_self ..),
    fun seen hseen other hother => h seen hseen other (List.mem_cons_of_mem name hother)⟩

section Relation

variable (Rel : Except BodyError α → Except BodyError α → Prop) (allowed : List String → Prop)

/-- What follows a child is read alike behind it if it is read alike. -/
theorem rel_element (hrel : ∀ error, Rel (.error error) (.error error)) (name : String)
    (attributes : List Char) (content : List Node) {nodes others : List Node}
    (hallowed : ∀ seen, allowed seen → allowed (localName name :: seen))
    (h : ∀ seen record, allowed seen →
      Rel (recordFrom fields seen record nodes) (recordFrom fields seen record others))
    (hseen : allowed seen) :
    Rel (recordFrom fields seen record (.element name attributes content :: nodes))
      (recordFrom fields seen record (.element name attributes content :: others)) := by
  obtain ⟨error, herror⟩ | ⟨seen', record', hread, hstep⟩ :=
    recordFrom_element_cases fields seen record name attributes content
  · rw [herror, herror]
    exact hrel error
  · rw [hstep, hstep]
    obtain ⟨-, rfl⟩ | ⟨-, rfl⟩ := hread
    · exact h _ record' hseen
    · exact h _ record' (hallowed seen hseen)

/-- Two contents that agree up to a gap are read alike if what follows is. -/
theorem rel_append (hrel : ∀ error, Rel (.error error) (.error error))
    (hstrict : ∀ field ∈ fields, Strict field.read) {left more other : Content}
    (hleft : left.wellFormed = true) (hmore : more.wellFormed = true)
    (hother : other.wellFormed = true)
    (hallowed : ∀ seen, allowed seen → ∀ name ∈ left.names, allowed (name :: seen))
    (h : ∀ seen record, allowed seen → Rel (recordFrom fields seen record (more.nodesTo []))
      (recordFrom fields seen record (other.nodesTo [])))
    (hseen : allowed seen) (run : Run) :
    Rel (recordFrom fields seen record ((left.append more).nodesTo run))
      (recordFrom fields seen record ((left.append other).nodesTo run)) := by
  induction left generalizing seen record run with
  | stop text =>
    rw [Content.append, Content.append, recordFrom_withText hmore hleft,
      recordFrom_withText hother hleft]
    split_ifs
    · exact h seen record hseen
    · exact hrel _
  | cdata text content rest ih =>
    simp only [Content.wellFormed, Bool.and_eq_true] at hleft
    exact ih hleft.2 hallowed hseen _
  | comment text content rest ih =>
    simp only [Content.wellFormed, Bool.and_eq_true] at hleft
    exact ih hleft.2 hallowed hseen _
  | instruction text content rest ih =>
    simp only [Content.wellFormed, Bool.and_eq_true] at hleft
    rw [Content.append, Content.append, Content.nodesTo, Content.nodesTo]
    cases content.contains '>' with
    | true =>
      rw [if_pos rfl, if_pos rfl, recordFrom_overRun]
      split_ifs
      · exact hrel _
      · exact hrel _
    | false => exact ih hleft.2 hallowed hseen _
  | hollow text tag rest ih =>
    simp only [Content.wellFormed, Bool.and_eq_true] at hleft
    obtain ⟨hchild, hrest⟩ := forall_names_cons hallowed
    rw [Content.append, Content.append, Content.nodesTo, Content.nodesTo, recordFrom_overRun,
      recordFrom_overRun]
    split_ifs
    · exact rel_element Rel allowed hrel _ _ _ hchild
        (fun seen record hseen => ih hleft.2 hrest hseen _) hseen
    · exact hrel _
  | element text tag inside space rest ihinside ihrest =>
    simp only [Content.wellFormed, Bool.and_eq_true] at hleft
    obtain ⟨hchild, hrest⟩ := forall_names_cons hallowed
    rw [Content.append, Content.append, Content.nodesTo, Content.nodesTo, recordFrom_overRun,
      recordFrom_overRun]
    split_ifs with hlegible hinside
    · exact rel_element Rel allowed hrel _ _ _ hchild
        (fun seen record hseen => ihrest hleft.2 hrest hseen _) hseen
    · rw [Bool.not_eq_true] at hinside
      have hfault : Node.allIntact
          [.element tag.name tag.details (inside.nodesTo [])] = false := by
        rw [Node.allIntact, Node.intact, Content.allIntact_nodesTo hinside]
        rfl
      obtain ⟨error, herror⟩ : ∃ error, recordFrom fields seen record
          [.element tag.name tag.details (inside.nodesTo [])] = .error error :=
        recordFrom_of_fault hstrict hfault
      rw [herror]
      exact hrel error
    · exact hrel _

end Relation

end Record

end CallbackGate.Markup
