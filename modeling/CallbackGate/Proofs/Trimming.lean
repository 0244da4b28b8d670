import CallbackGate.Text.Blank
import Mathlib.Data.List.DropRight

/-!
# Trimming

Trimming drops from both ends of a list what a test accepts.  What it leaves is told
without trimming: the list is this part with accepted elements before and after it, and
neither end of the part is accepted (`strip_eq_iff`).  `IsTrimmed` says so of texts and
Unicode white space.
-/

namespace CallbackGate.Text

/-! ## Lists -/

section Strip

variable {accepts : Char → Bool} {before core after items : List Char}

/-- Nothing is dropped from a list if its first element is kept. -/
theorem dropWhile_eq_self_iff_head? :
    items.dropWhile accepts = items ↔ ∀ c ∈ items.head?, accepts c = false := by
  cases items with
  | nil => exact iff_of_true rfl (by intro c hc; cases hc)
  | cons c rest =>
    constructor
    · intro h d hd
      cases hd
      have hhead := List.head?_dropWhile_not accepts (c :: rest)
      rw [h, List.head?_cons] at hhead
      exact hhead
    · intro h
      exact List.dropWhile_cons_of_neg (by rw [h c rfl]; decide)

/-- Nothing is dropped from the end of a list if its last element is kept. -/
theorem stripEnd_eq_self_iff :
    stripEnd accepts items = items ↔ ∀ c ∈ items.getLast?, accepts c = false := by
  rw [stripEnd, List.reverse_eq_iff, dropWhile_eq_self_iff_head?, List.head?_reverse]

/-- Trimming leaves a part of the list. -/
theorem strip_isInfix (accepts : Char → Bool) (items : List Char) :
    strip accepts items <:+: items :=
  (List.rdropWhile_prefix accepts _).isInfix.trans (List.dropWhile_suffix accepts).isInfix

/-- A list is left as it is if neither of its ends is dropped. -/
theorem strip_eq_self_iff :
    strip accepts items = items ↔
      (∀ c ∈ items.head?, accepts c = false) ∧ ∀ c ∈ items.getLast?, accepts c = false := by
  rw [← dropWhile_eq_self_iff_head?, ← stripEnd_eq_self_iff]
  constructor
  · intro h
    have hdrop : items.dropWhile accepts = items := by
      have hend : strip accepts items <+: items.dropWhile accepts :=
        List.rdropWhile_prefix accepts _
      have hstart : items.dropWhile accepts <:+ items := List.dropWhile_suffix accepts
      rw [h] at hend
      exact hstart.eq_of_length (Nat.le_antisymm hstart.length_le hend.length_le)
    rw [strip, hdrop] at h
    exact ⟨hdrop, h⟩
  · intro h
    rw [strip, h.1, h.2]

theorem strip_of_none (h : ∀ c ∈ items, accepts c = false) : strip accepts items = items :=
  strip_eq_self_iff.mpr
    ⟨fun c hc => h c (List.mem_of_mem_head? hc), fun c hc => h c (List.mem_of_mem_getLast? hc)⟩

/-- What is dropped from the end of a list is dropped from a list that ends so. -/
theorem stripEnd_append (hafter : ∀ c ∈ after, accepts c = true) :
    stripEnd accepts (core ++ after) = stripEnd accepts core := by
  rw [stripEnd, stripEnd, List.reverse_append, List.dropWhile_append_of_pos]
  intro c hc
  exact hafter c (List.mem_reverse.mp hc)

/-- Trimming leaves what is between the ends of a list, if neither of its own ends is
dropped. -/
theorem strip_append (hbefore : ∀ c ∈ before, accepts c = true)
    (hafter : ∀ c ∈ after, accepts c = true) (hcore : strip accepts core = core) :
    strip accepts (before ++ core ++ after) = core := by
  rw [strip, List.append_assoc, List.dropWhile_append_of_pos hbefore]
  cases core with
  | nil =>
    have hnil : after.dropWhile accepts = [] := List.dropWhile_eq_nil_iff.mpr hafter
    rw [List.nil_append, hnil]
    rfl
  | cons c rest =>
    have hends := strip_eq_self_iff.mp hcore
    have hstart : (c :: rest ++ after).dropWhile accepts = c :: rest ++ after :=
      dropWhile_eq_self_iff_head?.mpr hends.1
    rw [hstart, stripEnd_append hafter, stripEnd_eq_self_iff.mpr hends.2]

/-- What trimming drops stands at the ends. -/
theorem exists_append_strip (accepts : Char → Bool) (items : List Char) :
    ∃ before after : List Char, items = before ++ strip accepts items ++ after ∧
      (∀ c ∈ before, accepts c = true) ∧ ∀ c ∈ after, accepts c = true := by
  refine ⟨items.takeWhile accepts, (items.dropWhile accepts).rtakeWhile accepts, ?_,
    fun c hc => List.mem_takeWhile_imp hc, fun c hc => List.mem_rtakeWhile_imp hc⟩
  have hend : strip accepts items ++ (items.dropWhile accepts).rtakeWhile accepts =
      items.dropWhile accepts := List.rdropWhile_append_rtakeWhile ..
  rw [List.append_assoc, hend, List.takeWhile_append_dropWhile]

/-- Trimming a second time changes nothing. -/
theorem strip_strip (accepts : Char → Bool) (items : List Char) :
    strip accepts (strip accepts items) = strip accepts items := by
  rw [strip_eq_self_iff]
  constructor
  · intro c hc
    have hprefix : strip accepts items <+: items.dropWhile accepts :=
      List.rdropWhile_prefix accepts _
    obtain ⟨after, hafter⟩ := hprefix
    have hhead := List.head?_dropWhile_not accepts items
    rw [← hafter, List.head?_append, hc] at hhead
    exact hhead
  · intro c hc
    have hlast := List.head?_dropWhile_not accepts (items.dropWhile accepts).reverse
    rw [strip, stripEnd, List.getLast?_reverse] at hc
    rw [hc] at hlast
    exact hlast

/-- What trimming leaves of a list. -/
theorem strip_eq_iff (accepts : Char → Bool) (items core : List Char) :
    strip accepts items = core ↔
      (∃ before after : List Char, items = before ++ core ++ after ∧
        (∀ c ∈ before, accepts c = true) ∧ ∀ c ∈ after, accepts c = true) ∧
      (∀ c ∈ core.head?, accepts c = false) ∧ ∀ c ∈ core.getLast?, accepts c = false := by
  rw [← strip_eq_self_iff]
  constructor
  · rintro rfl
    exact ⟨exists_append_strip accepts items, strip_strip accepts items⟩
  · rintro ⟨⟨before, after, rfl, hbefore, hafter⟩, hcore⟩
    exact strip_append hbefore hafter hcore

end Strip

/-! ## Texts -/

/-- A text is another one with Unicode white space before and after it, and the other one
neither begins nor ends with such white space. -/
structure IsTrimmed (core text : String) : Prop where
  parts : ∃ before after : List Char, text.toList = before ++ core.toList ++ after ∧
    (∀ c ∈ before, isBlank c = true) ∧ ∀ c ∈ after, isBlank c = true
  head : ∀ c ∈ core.toList.head?, isBlank c = false
  last : ∀ c ∈ core.toList.getLast?, isBlank c = false

/-- Each text is trimmed in exactly one way. -/
theorem isTrimmed_iff {core text : String} : IsTrimmed core text ↔ core = trim text := by
  rw [← String.toList_inj, trim, String.toList_ofList, eq_comm, strip_eq_iff]
  constructor
  · rintro ⟨hparts, hhead, hlast⟩
    exact ⟨hparts, hhead, hlast⟩
  · rintro ⟨hparts, hhead, hlast⟩
    exact ⟨hparts, hhead, hlast⟩

/-- Nothing is left of a text that is blank. -/
theorem trim_eq_empty_iff {text : String} :
    trim text = "" ↔ ∀ c ∈ text.toList, isBlank c = true := by
  rw [eq_comm, ← isTrimmed_iff]
  constructor
  · rintro ⟨⟨before, after, htext, hbefore, hafter⟩, -, -⟩ c hc
    rw [htext, String.toList_empty, List.append_nil, List.mem_append] at hc
    exact hc.elim (hbefore c) (hafter c)
  · intro h
    exact ⟨⟨text.toList, [], (List.append_nil _).symm.trans (List.append_nil _).symm, h, nofun⟩,
      nofun, nofun⟩

theorem trim_trim (text : String) : trim (trim text) = trim text := by
  rw [trim, trim, String.toList_ofList, strip_strip]

end CallbackGate.Text
