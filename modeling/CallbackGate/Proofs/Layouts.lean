import CallbackGate.Proofs.ForeignTrees
import CallbackGate.Proofs.ReplyDocuments
import Mathlib.Data.List.Sigma

/-!
# Records in any order

A record is read from the elements of its fields, which may stand in any order and
with elements of other names between them.  What is read holds the value of each
field that is there, and no other; a field that stands twice is an error.

There are four groups.

* Documents.  A document of written elements and of elements of others is read back
  as the tree of both (`Part.root?_document`).
* Children that were read.  What they show of the first of them.
* Spellings and layouts.  A `Spelling` writes a value such that a field reads it back.
  A `Layout` spells the fields of a record and says which record holds some values of
  them.
* Children.  `Layout.readChildren_of_distinct` and `Layout.distinct_of_readChildren` are
  the inductions over the children.  `Layout.ofBody_document` is about the children of a
  root, and `Spelling.record` and `Spelling.items` about an element inside a record.
-/

namespace CallbackGate.Markup

/-! ## Documents -/

/-- An element of a document: one that was written, or one of others. -/
inductive Part
  | draft (written : Draft)
  | foreign (element : Element)

namespace Part

def write : Part → List Char
  | draft written => written.write
  | foreign element => element.write

def tokens : Part → List Token
  | draft written => written.tokens
  | foreign element => element.tokens

def node : Part → Node
  | draft written => written.node
  | foreign element => element.node

/-- A part can be scanned. -/
def clear : Part → Bool
  | draft written => written.wellNamed
  | foreign element => element.wellFormed && element.readable

/-- The document with these parts in a root element. -/
def document (root : String) (parts : List Part) : String :=
  String.ofList (Draft.startTag root ++ parts.flatMap write ++ Draft.stopTag root)

theorem scans {part : Part} (h : part.clear = true) {rest : List Char} {tokens : List Token}
    (hrest : Token.Scans rest tokens) :
    Token.Scans (part.write ++ rest) (part.tokens ++ tokens) := by
  cases part with
  | draft written => exact Token.scans_write written h rest tokens hrest
  | foreign element =>
    rw [clear, Bool.and_eq_true] at h
    exact Element.scans h.1 h.2 hrest

theorem scans_all {parts : List Part} (h : ∀ part ∈ parts, part.clear = true)
    {rest : List Char} {tokens : List Token} (hrest : Token.Scans rest tokens) :
    Token.Scans (parts.flatMap write ++ rest) (parts.flatMap Part.tokens ++ tokens) := by
  induction parts with
  | nil => exact hrest
  | cons part parts ih =>
    obtain ⟨hpart, hparts⟩ := List.forall_mem_cons.mp h
    rw [List.flatMap_cons, List.flatMap_cons, List.append_assoc, List.append_assoc]
    exact scans hpart (ih hparts)

theorem build_tokens {part : Part} (h : part.clear = true) (inner : Node.Unclosed)
    (outer : List Node.Unclosed) (rest : List Token) :
    Node.build inner outer (Event.ofTokensFrom [] (part.tokens ++ rest)) =
      Node.build (inner.add part.node) outer (Event.ofTokensFrom [] rest) := by
  cases part with
  | draft written =>
    show Node.build inner outer (Event.ofTokensFrom [] (written.tokens ++ rest)) = _
    rw [Event.ofTokensFrom_tokens, Node.build_events]
    rfl
  | foreign element =>
    rw [clear, Bool.and_eq_true] at h
    exact Element.build_tokens h.2 inner outer rest

theorem build_allTokens {parts : List Part} (h : ∀ part ∈ parts, part.clear = true)
    (inner : Node.Unclosed) (outer : List Node.Unclosed) (rest : List Token) :
    Node.build inner outer (Event.ofTokensFrom [] (parts.flatMap Part.tokens ++ rest)) =
      Node.build { inner with content := (parts.map node).reverse ++ inner.content } outer
        (Event.ofTokensFrom [] rest) := by
  induction parts generalizing inner with
  | nil => rfl
  | cons part parts ih =>
    obtain ⟨hpart, hparts⟩ := List.forall_mem_cons.mp h
    rw [List.flatMap_cons, List.append_assoc, build_tokens hpart, ih hparts, List.map_cons,
      List.reverse_cons, List.append_assoc]
    rfl

theorem scan_document {root : String} (hroot : plainName root = true) {parts : List Part}
    (h : ∀ part ∈ parts, part.clear = true) :
    Token.scan (document root parts) =
      .start root [] :: (parts.flatMap Part.tokens ++ [.stop root]) := by
  have hscans := Token.Scans.startTag hroot
    (scans_all h (Token.Scans.stopTag hroot Token.scans_nil))
  rw [List.append_nil, ← List.append_assoc] at hscans
  rw [document, Token.scan, String.toList_ofList, ← hscans _ (Nat.le_refl _)]
  rfl

/-- A document is read back as the tree of its parts. -/
theorem root?_document {root : String} (hroot : plainName root = true) {parts : List Part}
    (h : ∀ part ∈ parts, part.clear = true) :
    Node.root? (document root parts) = some (.element root [] (parts.map node)) :=
  Node.root?_of_tokens (scan_document hroot h) (build_allTokens h)

/-- A reader of a document is given its parts. -/
theorem ofBody_document {root : String} (hroot : plainName root = true) {parts : List Part}
    (h : ∀ part ∈ parts, part.clear = true) {α : Type} (reader : Reader α) :
    Record.ofBody reader (Text.Utf8.bytes (document root parts)) =
      reader [] (parts.map node) :=
  Record.ofBody_of_root? (root?_document hroot h) reader

end Part

/-! ## Children that were read -/

namespace Record

variable {α : Type} {fields : List (Field α)} {seen : List String} {record : α}

/-- A child that was read stood for the first time, and its field could be read. -/
theorem field_of_readChildren {name : String} {attributes : List Char}
    {content rest : List Node} {field : Field α} {result : List String × α}
    (hfind : fields.find? (·.name == localName name) = some field)
    (h : readChildren fields seen record (.element name attributes content :: rest) =
      .ok result) :
    field.name ∉ seen ∧ ∃ change, field.read attributes content = .ok change ∧
      readChildren fields (field.name :: seen) (change record) rest = .ok result := by
  rw [readChildren, hfind] at h
  dsimp only at h
  split_ifs at h with hseen
  cases hread : field.read attributes content with
  | error error =>
    rw [hread] at h
    cases h
  | ok change =>
    rw [hread] at h
    exact ⟨by simpa using hseen, change, rfl, h⟩

end Record

/-! ## Spellings and layouts -/

/-- A name that is read as it is written has no colon in it. -/
theorem localName_of_plainName {name : String} (h : plainName name = true) :
    localName name = name := by
  have hplain : ∀ c ∈ name.toList, (c != ':') = true := by
    intro c hc
    rw [plainName, Bool.and_eq_true, List.all_eq_true] at h
    have hc := h.2 c hc
    rw [bne_iff_ne]
    rintro rfl
    exact absurd hc (by decide)
  rw [localName, List.dropWhile_eq_nil_iff.mpr hplain]

/-- How values of one kind are written, and the field that reads them back. -/
structure Spelling (α : Type) where
  /-- What is written. -/
  Value : Type
  /-- What is read. -/
  Result : Type
  result : Value → Result
  /-- Nothing stands twice in a value. -/
  single : Value → Bool
  draft : String → Value → Draft
  field : String → (Result → α → α) → Field α
  draft_name : ∀ name value, (draft name value).name = name
  field_name : ∀ name set, (field name set).name = name
  wellNamed : ∀ {name}, plainName name = true → ∀ value, (draft name value).wellNamed = true
  read_draft : ∀ name set {value}, single value = true →
    (field name set).read [] (draft name value).inside = .ok (set (result value))
  single_of_read : ∀ {name set value change},
    (field name set).read [] (draft name value).inside = .ok change → single value = true

namespace Spelling

variable {α : Type}

/-- Strings are written in sections. -/
def text : Spelling α where
  Value := String
  Result := String
  result := id
  single _ := true
  draft := .cdata
  field := .text
  draft_name _ _ := rfl
  field_name _ _ := rfl
  wellNamed hname _ := hname
  read_draft _ set value _ := Field.read_text set (Record.contentText_sectionRun value)
  single_of_read _ := rfl

/-- Whole numbers are written in decimal. -/
def number {β : Type} (toInt : β → Int) (field : String → (β → α → α) → Field α)
    (hname : ∀ name set, (field name set).name = name)
    (hread : ∀ {name set content number},
      Record.contentText content = .ok (toString (toInt number)) →
        (field name set).read [] content = .ok (set number)) : Spelling α where
  Value := β
  Result := β
  result := id
  single _ := true
  draft name number := .text name (toString (toInt number))
  field := field
  draft_name _ _ := rfl
  field_name := hname
  wellNamed hname _ := hname
  read_draft _ _ number _ := hread (Record.contentText_numeral (toInt number))
  single_of_read _ := rfl

variable {β : Type} (parse : List Char → Except Text.NumeralFault β) (toInt : β → Int)
  (h : ∀ number, parse (toString (toInt number)).toList = .ok number)

/-- Numbers whose text is trimmed before it is read. -/
def numeral : Spelling α :=
  number toInt (fun name set => .numeral name parse set) (fun _ _ => rfl)
    fun hcontent => Field.read_numeral _ hcontent (h _)

/-- Numbers whose text is read as it is. -/
def bareNumeral : Spelling α :=
  number toInt (fun name set => .bareNumeral name parse set) (fun _ _ => rfl)
    fun hcontent => Field.read_bareNumeral _ hcontent (h _)

end Spelling

/-- How the fields of a record are written, and which record holds some values of
them. -/
structure Layout (α Name : Type) [DecidableEq Name] where
  /-- The fields that the record is read by. -/
  fields : List (Field α)
  element : Name → String
  spelling : Name → Spelling α
  set : (name : Name) → (spelling name).Result → α → α
  /-- The record with these values, and with no others. -/
  make : ((name : Name) → Option (spelling name).Value) → α
  plainName_element : ∀ name, plainName (element name) = true
  find?_element : ∀ name, fields.find? (·.name == element name) =
    some ((spelling name).field (element name) (set name))
  set_make : ∀ name value chosen, set name ((spelling name).result value) (make chosen) =
    make (Function.update chosen name (some value))

/-- A child of a record: one of its fields with a value, or an element of others. -/
inductive Child {Name : Type} (Value : Name → Type)
  | field (entry : Sigma Value)
  | foreign (element : Element)

namespace Child

variable {Name : Type} {Value : Name → Type}

def entry? : Child Value → Option (Sigma Value)
  | field entry => some entry
  | foreign _ => none

/-- The fields among children. -/
def entries (children : List (Child Value)) : List (Sigma Value) :=
  children.filterMap entry?

theorem entries_field (entries : List (Sigma Value)) :
    Child.entries (entries.map Child.field) = entries := by
  rw [Child.entries, List.filterMap_map]
  exact List.filterMap_some

end Child

/-! ## Children -/

namespace Layout

variable {α Name : Type} [DecidableEq Name] (layout : Layout α Name)

/-- What is written for a field. -/
abbrev Value (name : Name) : Type :=
  (layout.spelling name).Value

/-- A field as it is written. -/
def draft (name : Name) (value : layout.Value name) : Draft :=
  (layout.spelling name).draft (layout.element name) value

/-- The reader of the record. -/
def reader : Reader α :=
  Record.read layout.fields [] (layout.make fun _ => none)

/-- The record with the values of these fields, and with no others. -/
def ofEntries (entries : List (Sigma layout.Value)) : α :=
  layout.make fun name => entries.dlookup name

/-- No field of the record is for an element. -/
def unknown (element : Element) : Bool :=
  !(layout.fields.map (·.name)).contains (localName element.name)

/-- The field that a child is for. -/
def name? : Child layout.Value → Option String
  | .field entry => some (layout.element entry.1)
  | .foreign element => if layout.unknown element then none else some (localName element.name)

def single : Child layout.Value → Bool
  | .field entry => (layout.spelling entry.1).single entry.2
  | .foreign _ => true

/-- No field stands twice. -/
def distinct (children : List (Child layout.Value)) : Bool :=
  decide (children.filterMap layout.name?).Nodup && children.all layout.single

/-- A child can be scanned. -/
def clear : Child layout.Value → Bool
  | .field _ => true
  | .foreign element => element.wellFormed && element.readable

/-- An element of others has a name of its own. -/
def apart : Child layout.Value → Bool
  | .field _ => true
  | .foreign element => layout.unknown element

def part : Child layout.Value → Part
  | .field ⟨name, value⟩ => .draft (layout.draft name value)
  | .foreign element => .foreign element

/-- The children of a record in the tree. -/
def nodes (children : List (Child layout.Value)) : List Node :=
  children.map fun child => (layout.part child).node

variable {layout}

theorem distinct_cons {child : Child layout.Value} {children : List (Child layout.Value)} :
    layout.distinct (child :: children) = true ↔
      layout.single child = true ∧
        (∀ name, layout.name? child = some name → name ∉ children.filterMap layout.name?) ∧
        layout.distinct children = true := by
  simp only [distinct, Bool.and_eq_true, decide_eq_true_iff, List.all_cons]
  cases hname : layout.name? child with
  | none =>
    rw [List.filterMap_cons_none hname]
    simp only [reduceCtorEq, false_implies, implies_true, true_and]
    tauto
  | some name =>
    rw [List.filterMap_cons_some hname, List.nodup_cons]
    simp only [Option.some.injEq, forall_eq']
    tauto

theorem wellNamed_draft (name : Name) (value : layout.Value name) :
    (layout.draft name value).wellNamed = true :=
  (layout.spelling name).wellNamed (layout.plainName_element name) value

theorem clear_part {child : Child layout.Value} (h : layout.clear child = true) :
    (layout.part child).clear = true := by
  cases child with
  | field entry => exact wellNamed_draft entry.1 entry.2
  | foreign element => exact h

variable {seen : List String} {record : α}

/-- An element of others is passed over. -/
theorem readChildren_foreign {element : Element} (hclear : layout.clear (.foreign element) = true)
    (h : layout.unknown element = true) (rest : List Node) :
    Record.readChildren layout.fields seen record (element.node :: rest) =
      Record.readChildren layout.fields seen record rest := by
  have hfind : layout.fields.find? (·.name == localName element.name) = none := by
    rw [List.find?_eq_none]
    intro field hfield hname
    simp only [unknown, Bool.not_eq_true', List.contains_eq_mem, decide_eq_false_iff_not] at h
    exact h (List.mem_map.mpr ⟨field, hfield, beq_iff_eq.mp hname⟩)
  rw [clear, Bool.and_eq_true] at hclear
  rw [Element.node, Record.readChildren, hfind, Element.canSkip hclear.1 hclear.2]
  rfl

/-- An element that is known is read by the field of its name. -/
theorem find?_of_known {element : Element} (h : layout.unknown element = false) :
    ∃ field, layout.fields.find? (·.name == localName element.name) = some field ∧
      field.name = localName element.name := by
  simp only [unknown, Bool.not_eq_false', List.contains_eq_mem, decide_eq_true_eq] at h
  obtain ⟨field, hfield, hname⟩ := List.mem_map.mp h
  cases hfind : layout.fields.find? (·.name == localName element.name) with
  | none => exact absurd (beq_iff_eq.mpr hname) (List.find?_eq_none.mp hfind field hfield)
  | some found => exact ⟨found, rfl, by simpa using List.find?_some hfind⟩

theorem find?_localName (name : Name) :
    layout.fields.find? (·.name == localName (layout.element name)) =
      some ((layout.spelling name).field (layout.element name) (layout.set name)) := by
  rw [localName_of_plainName (layout.plainName_element name), layout.find?_element]

/-- The name of a written field is that of its element. -/
theorem node_draft (name : Name) (value : layout.Value name) :
    (layout.draft name value).node =
      .element (layout.element name) [] (layout.draft name value).inside := by
  rw [Draft.node_eq, draft, (layout.spelling name).draft_name]

/-- A field that is new puts its value in the record. -/
theorem readChildren_draft {name : Name} {value : layout.Value name}
    (hsingle : (layout.spelling name).single value = true) (hfresh : layout.element name ∉ seen)
    (chosen : (name : Name) → Option (layout.Value name)) (rest : List Node) :
    Record.readChildren layout.fields seen (layout.make chosen)
      ((layout.draft name value).node :: rest) =
        Record.readChildren layout.fields (layout.element name :: seen)
          (layout.make (Function.update chosen name (some value))) rest := by
  have hname := (layout.spelling name).field_name (layout.element name) (layout.set name)
  have hvalue : ((layout.spelling name).field (layout.element name) (layout.set name)).read
      [] (layout.draft name value).inside =
        .ok (layout.set name ((layout.spelling name).result value)) :=
    (layout.spelling name).read_draft _ _ hsingle
  rw [node_draft, Record.readChildren_field (find?_localName name)
    (by rw [hname]; simpa using hfresh) hvalue, hname, layout.set_make]

/-- A value that stands before others goes before those chosen already. -/
theorem or_update_dlookup {Value : Name → Type} {name : Name} {value : Value name}
    {entries : List (Sigma Value)} (h : name ∉ entries.keys)
    (chosen : (name : Name) → Option (Value name)) (other : Name) :
    (entries.dlookup other).or (Function.update chosen name (some value) other) =
      ((⟨name, value⟩ :: entries : List (Sigma Value)).dlookup other).or (chosen other) := by
  by_cases heq : other = name
  · subst heq
    rw [List.dlookup_eq_none.mpr h, Function.update_self, List.dlookup_cons_eq]
    rfl
  · rw [Function.update_of_ne heq, List.dlookup_cons_ne _ _ heq]

theorem mem_names_of_mem_keys {name : Name} {children : List (Child layout.Value)}
    (h : name ∈ (Child.entries children).keys) :
    layout.element name ∈ children.filterMap layout.name? := by
  obtain ⟨value, hentry⟩ := List.mem_keys.mp h
  obtain ⟨child, hchild, hfield⟩ := List.mem_filterMap.mp hentry
  cases child with
  | foreign element => cases hfield
  | field entry =>
    cases hfield
    exact List.mem_filterMap.mpr ⟨_, hchild, rfl⟩

/-- Children in any order are read into the record that holds their values, if no field
stands twice. -/
theorem readChildren_of_distinct {children : List (Child layout.Value)}
    (hclear : ∀ child ∈ children, layout.clear child = true)
    (hapart : ∀ child ∈ children, layout.apart child = true)
    (hdistinct : layout.distinct children = true)
    (hseen : ∀ name ∈ children.filterMap layout.name?, name ∉ seen)
    (chosen : (name : Name) → Option (layout.Value name)) :
    ∃ after, Record.readChildren layout.fields seen (layout.make chosen)
      (layout.nodes children) =
        .ok (after, layout.make fun name =>
          ((Child.entries children).dlookup name).or (chosen name)) := by
  induction children generalizing seen chosen with
  | nil => exact ⟨seen, rfl⟩
  | cons child children ih =>
    cases child with
    | foreign element =>
      obtain ⟨-, -, hdistinct⟩ := distinct_cons.mp hdistinct
      obtain ⟨hclear, hclears⟩ := List.forall_mem_cons.mp hclear
      obtain ⟨hapart, haparts⟩ := List.forall_mem_cons.mp hapart
      have hname : layout.name? (.foreign element) = none := if_pos hapart
      rw [List.filterMap_cons_none hname] at hseen
      obtain ⟨after, hread⟩ := ih hclears haparts hdistinct hseen chosen
      exact ⟨after, (readChildren_foreign hclear hapart _).trans hread⟩
    | field entry =>
      obtain ⟨name, value⟩ := entry
      obtain ⟨hsingle, hnew, hdistinct⟩ := distinct_cons.mp hdistinct
      obtain ⟨-, hclears⟩ := List.forall_mem_cons.mp hclear
      obtain ⟨-, haparts⟩ := List.forall_mem_cons.mp hapart
      obtain ⟨hfresh, hseens⟩ := List.forall_mem_cons.mp hseen
      replace hnew := hnew (layout.element name) rfl
      have hlater : ∀ other ∈ children.filterMap layout.name?,
          other ∉ layout.element name :: seen := by
        intro other hother hmem
        rcases List.mem_cons.mp hmem with rfl | hmem
        · exact hnew hother
        · exact hseens other hother hmem
      obtain ⟨after, hread⟩ := ih hclears haparts hdistinct hlater
        (Function.update chosen name (some value))
      refine ⟨after, ?_⟩
      show Record.readChildren layout.fields seen _
        ((layout.draft name value).node :: layout.nodes children) = _
      rw [readChildren_draft hsingle hfresh, hread]
      congr 3
      funext other
      exact or_update_dlookup (fun hmem => hnew (mem_names_of_mem_keys hmem)) chosen other

/-- A field that is new goes before fields that are distinct from it. -/
theorem distinct_and_fresh_cons {child : Child layout.Value}
    {children : List (Child layout.Value)} {name : String}
    (hname : layout.name? child = some name) (hsingle : layout.single child = true)
    (hfresh : name ∉ seen) (hdistinct : layout.distinct children = true)
    (hseen : ∀ other ∈ children.filterMap layout.name?, other ∉ name :: seen) :
    layout.distinct (child :: children) = true ∧
      ∀ other ∈ (child :: children).filterMap layout.name?, other ∉ seen := by
  constructor
  · refine distinct_cons.mpr ⟨hsingle, ?_, hdistinct⟩
    intro other hother hmem
    rw [hname, Option.some.injEq] at hother
    exact hseen other hmem (by rw [hother]; exact List.mem_cons_self ..)
  · rw [List.filterMap_cons_some hname]
    exact List.forall_mem_cons.mpr
      ⟨hfresh, fun other hother hmem => hseen other hother (List.mem_cons_of_mem _ hmem)⟩

/-- Conversely, children that can be read have no field that stands twice, and none that
was there before.  This holds of elements of others that have the name of a field, too. -/
theorem distinct_of_readChildren {children : List (Child layout.Value)}
    (hclear : ∀ child ∈ children, layout.clear child = true) {result : List String × α}
    (h : Record.readChildren layout.fields seen record (layout.nodes children) = .ok result) :
    layout.distinct children = true ∧
      ∀ name ∈ children.filterMap layout.name?, name ∉ seen := by
  induction children generalizing seen record with
  | nil => exact ⟨rfl, nofun⟩
  | cons child children ih =>
    cases child with
    | foreign element =>
      obtain ⟨hclear, hclears⟩ := List.forall_mem_cons.mp hclear
      cases hunknown : layout.unknown element with
      | true =>
        have hname : layout.name? (.foreign element) = none := if_pos hunknown
        obtain ⟨hdistinct, hseen⟩ :=
          ih hclears ((readChildren_foreign hclear hunknown _).symm.trans h)
        rw [List.filterMap_cons_none hname, distinct_cons, hname]
        exact ⟨⟨rfl, nofun, hdistinct⟩, hseen⟩
      | false =>
        have hname : layout.name? (.foreign element) = some (localName element.name) :=
          if_neg (by rw [hunknown]; decide)
        obtain ⟨field, hfind, hfield⟩ := find?_of_known hunknown
        obtain ⟨hfresh, change, -, hread⟩ := Record.field_of_readChildren hfind h
        obtain ⟨hdistinct, hseen⟩ := ih hclears hread
        rw [hfield] at hfresh hseen
        exact distinct_and_fresh_cons hname rfl hfresh hdistinct hseen
    | field entry =>
      obtain ⟨name, value⟩ := entry
      obtain ⟨-, hclears⟩ := List.forall_mem_cons.mp hclear
      replace h : Record.readChildren layout.fields seen record
          ((layout.draft name value).node :: layout.nodes children) = .ok result := h
      rw [node_draft] at h
      obtain ⟨hfresh, change, hchange, hread⟩ :=
        Record.field_of_readChildren (find?_localName name) h
      rw [(layout.spelling name).field_name] at hfresh hread
      obtain ⟨hdistinct, hseen⟩ := ih hclears hread
      exact distinct_and_fresh_cons rfl ((layout.spelling name).single_of_read hchange) hfresh
        hdistinct hseen

/-- A record is read from its children in any order. -/
theorem reader_of_distinct {children : List (Child layout.Value)}
    (hclear : ∀ child ∈ children, layout.clear child = true)
    (hapart : ∀ child ∈ children, layout.apart child = true)
    (hdistinct : layout.distinct children = true) :
    layout.reader [] (layout.nodes children) = .ok (layout.ofEntries (Child.entries children)) := by
  have hseen : ∀ name ∈ children.filterMap layout.name?, name ∉ ([] : List String) :=
    fun _ _ => List.not_mem_nil
  obtain ⟨after, hread⟩ := readChildren_of_distinct hclear hapart hdistinct hseen fun _ => none
  simp only [Option.or_none] at hread
  exact Record.read_of_readChildren hread rfl

/-- A record that can be read has no field that stands twice. -/
theorem distinct_of_reader {children : List (Child layout.Value)}
    (hclear : ∀ child ∈ children, layout.clear child = true)
    (h : layout.reader [] (layout.nodes children) = .ok record) :
    layout.distinct children = true := by
  rw [reader, Record.read] at h
  split at h
  · cases h
  · cases hread : Record.readChildren layout.fields [] (layout.make fun _ => none)
      (layout.nodes children) with
    | error error =>
      rw [hread] at h
      cases h
    | ok result => exact (distinct_of_readChildren hclear hread).1

/-! ### Documents and nested records -/

variable (layout)

/-- The document of a record whose root has these children. -/
def document (root : String) (children : List (Child layout.Value)) : String :=
  Part.document root (children.map layout.part)

/-- The fields of a record that holds nothing else. -/
def drafts (entries : List (Sigma layout.Value)) : List Draft :=
  entries.map fun entry => layout.draft entry.1 entry.2

variable {layout}

theorem ofBody_document {root : String} (hroot : plainName root = true)
    {children : List (Child layout.Value)}
    (hclear : ∀ child ∈ children, layout.clear child = true) :
    Record.ofBody layout.reader (Text.Utf8.bytes (layout.document root children)) =
      layout.reader [] (layout.nodes children) := by
  rw [document, Part.ofBody_document hroot, List.map_map]
  · rfl
  · intro part hpart
    obtain ⟨child, hchild, rfl⟩ := List.mem_map.mp hpart
    exact clear_part (hclear child hchild)

theorem allWellNamed_drafts (entries : List (Sigma layout.Value)) :
    Draft.allWellNamed (layout.drafts entries) = true :=
  Draft.allWellNamed_map (fun entry : Sigma layout.Value => layout.draft entry.1 entry.2)
    (fun entry => wellNamed_draft entry.1 entry.2) entries

theorem nodes_field (entries : List (Sigma layout.Value)) :
    layout.nodes (entries.map Child.field) = Draft.nodes (layout.drafts entries) := by
  rw [drafts, Draft.nodes_eq_map, nodes, List.map_map, List.map_map]
  rfl

theorem clear_field (entries : List (Sigma layout.Value)) :
    ∀ child ∈ entries.map Child.field, layout.clear child = true := by
  intro child hchild
  obtain ⟨entry, -, rfl⟩ := List.mem_map.mp hchild
  rfl

theorem apart_field (entries : List (Sigma layout.Value)) :
    ∀ child ∈ entries.map Child.field, layout.apart child = true := by
  intro child hchild
  obtain ⟨entry, -, rfl⟩ := List.mem_map.mp hchild
  rfl

end Layout

/-- A record inside another is written as an element with its fields. -/
def Spelling.record {α β Name : Type} [DecidableEq Name] (layout : Layout β Name) :
    Spelling α where
  Value := List (Sigma layout.Value)
  Result := β
  result := layout.ofEntries
  single entries := layout.distinct (entries.map .field)
  draft name entries := .group name (layout.drafts entries)
  field name set := .record name layout.reader set
  draft_name _ _ := rfl
  field_name _ _ := rfl
  wellNamed hname entries :=
    Bool.and_eq_true_iff.mpr ⟨hname, layout.allWellNamed_drafts entries⟩
  read_draft name set entries h := by
    show (layout.reader [] (Draft.nodes (layout.drafts entries))).map set = _
    rw [← Layout.nodes_field, Layout.reader_of_distinct (Layout.clear_field entries)
      (Layout.apart_field entries) h, Child.entries_field]
    rfl
  single_of_read {name set entries change} h := by
    replace h : (layout.reader [] (Draft.nodes (layout.drafts entries))).map set =
      .ok change := h
    cases hread : layout.reader [] (Draft.nodes (layout.drafts entries)) with
    | error error =>
      rw [hread] at h
      cases h
    | ok record =>
      rw [← Layout.nodes_field] at hread
      exact Layout.distinct_of_reader (Layout.clear_field entries) hread

/-! ### Lists of items -/

section Items

variable {β : Type} {item : String} {reader : Reader β} {content : β → List Draft}

/-- Items that are written next to each other are read in their order. -/
theorem Record.readItems_drafts (hitem : plainName item = true)
    (hread : ∀ value, reader [] (Draft.nodes (content value)) = .ok value)
    {phase : ItemPhase} (hphase : phase = .before ∨ phase = .among item)
    (found values : List β) :
    readItems item reader found phase
      (Draft.nodes (values.map fun value => .group item (content value))) =
        .ok (found.reverse ++ values) := by
  induction values generalizing found phase with
  | nil =>
    rw [List.append_nil]
    rfl
  | cons value values ih =>
    have hnext (rest : List Node) : readItems item reader found phase
        (.element item [] (Draft.nodes (content value)) :: rest) =
          readItems item reader (value :: found) (.among item) rest := by
      rcases hphase with rfl | rfl
      · rw [readItems, if_pos (beq_iff_eq.mpr (localName_of_plainName hitem)), hread]
      · rw [readItems, if_pos (beq_self_eq_true item), hread]
    show readItems item reader found phase
      (.element item [] (Draft.nodes (content value)) :: Draft.nodes (values.map _)) = _
    rw [hnext, ih (Or.inr rfl), List.reverse_cons, List.append_assoc, List.singleton_append]

/-- Values of one kind are written one by one, each in an element of its own. -/
def Spelling.items {α : Type} (item : String) (reader : Reader β) (content : β → List Draft)
    (hitem : plainName item = true)
    (hnames : ∀ value, Draft.allWellNamed (content value) = true)
    (hread : ∀ value, reader [] (Draft.nodes (content value)) = .ok value) : Spelling α where
  Value := List β
  Result := List β
  result := id
  single _ := true
  draft name values := .group name (values.map fun value => .group item (content value))
  field name set := .record name (Record.items item reader) set
  draft_name _ _ := rfl
  field_name _ _ := rfl
  wellNamed hname values :=
    Bool.and_eq_true_iff.mpr ⟨hname, Draft.allWellNamed_map
      (fun value => .group item (content value))
      (fun value => Bool.and_eq_true_iff.mpr ⟨hitem, hnames value⟩) values⟩
  read_draft name set values _ := by
    show (Record.readItems item reader [] .before
      (Draft.nodes (values.map fun value => .group item (content value)))).map set = _
    rw [Record.readItems_drafts hitem hread (Or.inl rfl)]
    rfl
  single_of_read _ := rfl

end Items

end CallbackGate.Markup
