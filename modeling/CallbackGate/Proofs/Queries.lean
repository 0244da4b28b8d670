import CallbackGate.Endpoint.Query
import Mathlib.Data.List.Nodup

/-!
# Which fields make a query

The fields of a query string make a query unless they give a known name twice.
`Query.Spells` compares the fields with the query name by name, whatever their order,
and `Query.ofFields_eq_ok_iff` says that reading the fields one after the other comes to
the same.

There are three groups.

* Names.  `Query.parts` is the table of known names, and two queries with the same parts
  are the same (`Query.eq_of_parts`).
* Setting a name.  `Query.Sets` says what one field does to a query, known or not, and
  `Query.set?_sets` that setting does it.
* Reading fields.  `Query.addFields_eq_ok_iff` is about the fields that are still to be
  added, so that the induction over them goes through.
-/

namespace CallbackGate.Query

/-! ## Names -/

/-- The names that are known, each with the part of a query that it sets. -/
def parts : List (String × (Query → Option String)) :=
  [("signature", signature), ("timestamp", timestamp), ("nonce", nonce),
    ("echostr", echostr), ("encrypt_type", encryptType), ("msg_signature", msgSignature),
    ("openid", openid)]

/-- A query is its parts. -/
theorem eq_of_parts {query other : Query}
    (h : ∀ part ∈ parts, (part.2 query).toList = (part.2 other).toList) : query = other := by
  have hsame (part : String × (Query → Option String)) (hpart : part ∈ parts) :
      part.2 query = part.2 other := by
    simpa only [Option.head?_toList] using congrArg List.head? (h part hpart)
  cases query
  cases other
  simpa [parts] using hsame

theorem parts_distinct {part other : String × (Query → Option String)} (hpart : part ∈ parts)
    (hother : other ∈ parts) (hname : part.1 = other.1) : part = other :=
  List.inj_on_of_nodup_map (by decide : (parts.map Prod.fst).Nodup) hpart hother hname

/-- The values that fields give to a name, in their order. -/
def valuesOf (fields : List (String × String)) (name : String) : List String :=
  (fields.filter fun field => field.1 = name).map Prod.snd

theorem valuesOf_cons (name value : String) (fields : List (String × String))
    (wanted : String) :
    valuesOf ((name, value) :: fields) wanted =
      (if name = wanted then [value] else []) ++ valuesOf fields wanted := by
  by_cases h : name = wanted
  · simp [valuesOf, h]
  · simp [valuesOf, h]

/-! ## Setting a name -/

/-- What setting a name may come to: its value is added to the part of the name, if that
is known, or the part has a value already. -/
def Sets (query : Query) (name value : String) : Option Query → Prop
  | some updated => ∀ part ∈ parts, (part.2 updated).toList =
      (part.2 query).toList ++ if name = part.1 then [value] else []
  | none => ∃ part ∈ parts, name = part.1 ∧ (part.2 query).isSome = true

/-- A known name is set once, if no other part is touched. -/
theorem sets_once (part : String × (Query → Option String)) (hpart : part ∈ parts)
    {query updated : Query} {value : String} (hset : part.2 updated = some value)
    (hkeep : ∀ other ∈ parts, other.1 ≠ part.1 → other.2 updated = other.2 query) :
    query.Sets part.1 value (if (part.2 query).isSome then none else some updated) := by
  by_cases hsome : (part.2 query).isSome = true
  · rw [if_pos hsome]
    exact ⟨part, hpart, rfl, hsome⟩
  · rw [if_neg hsome]
    intro other hother
    by_cases hsame : part.1 = other.1
    · rw [Option.not_isSome_iff_eq_none] at hsome
      rw [← parts_distinct hpart hother hsame, if_pos rfl, hset, hsome]
      rfl
    · rw [hkeep other hother (Ne.symm hsame), if_neg hsame, List.append_nil]

/-- A name that is not known sets nothing. -/
theorem sets_nothing {query : Query} {name value : String}
    (h : ∀ part ∈ parts, name ≠ part.1) : query.Sets name value (some query) := by
  intro part hpart
  rw [if_neg (h part hpart), List.append_nil]

theorem set?_sets (query : Query) (name value : String) :
    query.Sets name value (query.set? name value) := by
  by_cases hknown : ∃ part ∈ parts, name = part.1
  · obtain ⟨part, hpart, rfl⟩ := hknown
    have hmem := hpart
    simp only [parts, List.mem_cons, List.not_mem_nil, or_false] at hpart
    rcases hpart with rfl | rfl | rfl | rfl | rfl | rfl | rfl
    all_goals exact sets_once _ hmem rfl (by simp [parts])
  · push Not at hknown
    have hnothing : query.set? name value = some query := by
      simp only [parts, List.forall_mem_cons] at hknown
      simp [set?, hknown]
    rw [hnothing]
    exact sets_nothing hknown

/-! ## Reading fields -/

/-- Fields spell a query: what they give to a known name is what the query has, so that
no known name is given twice. -/
def Spells (fields : List (String × String)) (query : Query) : Prop :=
  ∀ part ∈ parts, valuesOf fields part.1 = (part.2 query).toList

/-- Add fields to a query, one after the other. -/
def addFields (query : Query) (fields : List (String × String)) :
    Except ProtocolError Query :=
  fields.foldlM (fun query field =>
    match query.set? field.1 field.2 with
    | some updated => .ok updated
    | none => .error (.malformedQuery ("duplicate field `" ++ field.1 ++ "`"))) query

/-- Fields can be added to a query if no part of it comes to two values. -/
theorem addFields_eq_ok_iff {query after : Query} {fields : List (String × String)} :
    query.addFields fields = .ok after ↔
      ∀ part ∈ parts, (part.2 query).toList ++ valuesOf fields part.1 =
        (part.2 after).toList := by
  induction fields generalizing query with
  | nil =>
    show Except.ok query = .ok after ↔ _
    simp only [valuesOf, List.filter_nil, List.map_nil, List.append_nil, Except.ok.injEq]
    constructor
    · intro h part hpart
      rw [h]
    · exact eq_of_parts
  | cons field fields ih =>
    obtain ⟨name, value⟩ := field
    have hsets := query.set?_sets name value
    simp only [valuesOf_cons, ← List.append_assoc]
    rw [addFields, List.foldlM_cons]
    cases hset : query.set? name value with
    | some updated =>
      rw [hset] at hsets
      show updated.addFields fields = .ok after ↔ _
      rw [ih]
      exact forall₂_congr fun part hpart => by rw [hsets part hpart]
    | none =>
      rw [hset] at hsets
      obtain ⟨part, hpart, rfl, hsome⟩ := hsets
      refine iff_of_false (by intro h; cases h) fun h => ?_
      have hlength := congrArg List.length (h part hpart)
      have hone : (part.2 after).toList.length ≤ 1 := Option.length_toList_le
      obtain ⟨old, hold⟩ := Option.isSome_iff_exists.mp hsome
      rw [hold, if_pos rfl, List.length_append, List.length_append] at hlength
      simp only [Option.toList_some, List.length_singleton] at hlength
      omega

/-- Fields are read as the query that they spell. -/
theorem ofFields_eq_ok_iff {fields : List (String × String)} {query : Query} :
    ofFields fields = .ok query ↔ Spells fields query := by
  rw [show ofFields fields = addFields {} fields from rfl, addFields_eq_ok_iff]
  refine forall₂_congr fun part hpart => ?_
  simp only [parts, List.mem_cons, List.not_mem_nil, or_false] at hpart
  rcases hpart with rfl | rfl | rfl | rfl | rfl | rfl | rfl
  all_goals rfl

end CallbackGate.Query
