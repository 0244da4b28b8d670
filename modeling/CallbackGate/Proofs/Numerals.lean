import CallbackGate.Message.Reading
import CallbackGate.Proofs.Documents
import CallbackGate.Proofs.Trimming
import Mathlib.Algebra.Group.Nat.Defs
import Mathlib.Tactic.SplitIfs

/-!
# Decimal numerals are read back

A number that is written in decimal is read back by every reader of whole
numbers whose bounds it is within.  A numeral has no white space in it, so
neither the document nor the reader trims it.

There are four groups.

* Digits.  `readUp_digits` and `readDown_digits` follow the value of the digits
  read so far, which never leaves the bounds before its end.
* Numerals.  `parse_toString` adds the sign.
* Trimming.  `Field.read_numeral` reads the numeral in an element.
* Kinds of numerals.
-/

namespace CallbackGate.Text

/-! ## Digits -/

theorem digit?_of_isDigit {c : Char} (h : c.isDigit = true) :
    digit? c = some (c.toNat - '0'.toNat) := by
  have hbounds : '0' ≤ c ∧ c ≤ '9' := by
    simpa [Char.isDigit, Char.le_def] using h
  rw [digit?, if_pos hbounds]

/-- White space is no digit. -/
theorem digit?_of_isBlank {c : Char} (h : isBlank c = true) : digit? c = none := by
  rw [digit?, if_neg]
  intro hdigit
  have hbounds : 48 ≤ c.toNat ∧ c.toNat ≤ 57 := by
    simpa [Char.le_def, UInt32.le_iff_toNat_le] using hdigit
  simp only [isBlank, blankRanges, List.any_cons, List.any_nil, Bool.or_false, Bool.or_eq_true,
    Bool.and_eq_true, decide_eq_true_eq] at h
  omega

/-- More digits do not make a number smaller. -/
theorem le_ofDigitChars (digits : List Char) (value : Nat) :
    value ≤ Nat.ofDigitChars 10 digits value := by
  induction digits generalizing value with
  | nil => exact Nat.le_refl value
  | cons c digits ih =>
    have hrest := ih (10 * value + (c.toNat - '0'.toNat))
    rw [Nat.ofDigitChars_cons]
    omega

namespace Bounds

variable {bounds : Bounds} {digits : List Char}

theorem readUp_digits (bounds : Bounds) (hdigits : ∀ c ∈ digits, c.isDigit = true) (value : Nat)
    (hhigh : (Nat.ofDigitChars 10 digits value : Int) ≤ bounds.high) :
    bounds.readUp value digits = .ok (Nat.ofDigitChars 10 digits value) := by
  induction digits generalizing value with
  | nil => rfl
  | cons c digits ih =>
    have hc := digit?_of_isDigit (hdigits c (List.mem_cons_self ..))
    have hle := le_ofDigitChars digits (10 * value + (c.toNat - '0'.toNat))
    have hnext : (value : Int) * 10 + (c.toNat - '0'.toNat : Nat) =
        (10 * value + (c.toNat - '0'.toNat) : Nat) := by
      omega
    rw [Nat.ofDigitChars_cons] at hhigh ⊢
    rw [readUp, hc]
    dsimp only
    rw [hnext, if_pos (by omega)]
    exact ih (fun d hd => hdigits d (List.mem_cons_of_mem c hd)) _ hhigh

theorem readDown_digits (bounds : Bounds) (hdigits : ∀ c ∈ digits, c.isDigit = true) (value : Nat)
    (hlow : bounds.low ≤ -(Nat.ofDigitChars 10 digits value : Int)) :
    bounds.readDown (-value) digits = .ok (-(Nat.ofDigitChars 10 digits value : Int)) := by
  induction digits generalizing value with
  | nil => rfl
  | cons c digits ih =>
    have hc := digit?_of_isDigit (hdigits c (List.mem_cons_self ..))
    have hle := le_ofDigitChars digits (10 * value + (c.toNat - '0'.toNat))
    have hnext : -(value : Int) * 10 - (c.toNat - '0'.toNat : Nat) =
        -(10 * value + (c.toNat - '0'.toNat) : Nat) := by
      omega
    rw [Nat.ofDigitChars_cons] at hlow ⊢
    rw [readDown, hc]
    dsimp only
    rw [hnext, if_pos (by omega)]
    exact ih (fun d hd => hdigits d (List.mem_cons_of_mem c hd)) _ hlow

/-! ## Numerals -/

/-- Digits alone are a number that is not negative. -/
theorem parse_digits (hdigits : ∀ c ∈ digits, c.isDigit = true) (hne : digits ≠ []) :
    bounds.parse digits = bounds.readUp 0 digits := by
  have hsign : ∀ sign ∈ ['+', '-'], ∀ rest, digits ≠ sign :: rest := by
    intro sign hsign rest h
    have hdigit := hdigits sign (by rw [h]; exact List.mem_cons_self ..)
    simp only [List.mem_cons, List.not_mem_nil, or_false] at hsign
    rcases hsign with rfl | rfl
    · exact absurd hdigit (by decide)
    · exact absurd hdigit (by decide)
  have hplus := hsign '+' (by simp)
  have hminus := hsign '-' (by simp)
  unfold parse
  split
  · exact absurd rfl hne
  · exact absurd rfl (hplus [])
  · exact absurd rfl (hminus [])
  · exact absurd rfl (hplus _)
  · exact absurd rfl (hminus _)
  · rfl

/-- A minus sign before digits makes a number that is not positive. -/
theorem parse_minus (hlow : bounds.low < 0) (hne : digits ≠ []) :
    bounds.parse ('-' :: digits) = bounds.readDown 0 digits := by
  cases digits with
  | nil => exact absurd rfl hne
  | cons c digits =>
    show (if bounds.low < 0 then _ else _) = _
    rw [if_pos hlow]

/-- White space is no numeral. -/
theorem exists_parse_of_isBlank {text : List Char} (h : ∀ c ∈ text, isBlank c = true) :
    ∃ fault, bounds.parse text = .error fault := by
  cases text with
  | nil => exact ⟨.empty, rfl⟩
  | cons c rest =>
    have hc := h c (List.mem_cons_self ..)
    have hplus : c ≠ '+' := by
      rintro rfl
      exact absurd hc (by decide)
    have hminus : c ≠ '-' := by
      rintro rfl
      exact absurd hc (by decide)
    refine ⟨.invalidDigit, ?_⟩
    rw [parse, readUp, digit?_of_isBlank hc]
    · exact nofun
    · exact fun h => hplus (List.cons.inj h).1
    · exact fun h => hminus (List.cons.inj h).1
    · exact fun _ h => hplus (List.cons.inj h).1
    · exact fun _ h => hminus (List.cons.inj h).1

/-- A number is read back from its numeral. -/
theorem parse_toString {n : Int} (hlow : bounds.low ≤ n) (hhigh : n ≤ bounds.high) :
    bounds.parse (toString n).toList = .ok n := by
  have hdigits : ∀ m, ∀ c ∈ Nat.toDigits 10 m, c.isDigit = true := fun m c hc =>
    Nat.isDigit_of_mem_toDigits (by decide) (by decide) hc
  have hne : ∀ m, Nat.toDigits 10 m ≠ [] := fun m => Nat.toDigits_ne_nil
  cases n with
  | ofNat m =>
    have hread := readUp_digits bounds (hdigits m) 0
    rw [Nat.ofDigitChars_ten_toDigits] at hread
    show bounds.parse m.repr.toList = _
    rw [Nat.toList_repr, parse_digits (hdigits m) (hne m)]
    exact hread hhigh
  | negSucc m =>
    have hread := readDown_digits bounds (hdigits m.succ) 0
    rw [Nat.ofDigitChars_ten_toDigits] at hread
    show bounds.parse ("-" ++ m.succ.repr).toList = _
    rw [String.toList_append, Nat.toList_repr]
    show bounds.parse ('-' :: Nat.toDigits 10 m.succ) = _
    rw [parse_minus (by omega) (hne m.succ)]
    exact hread (by omega)

end Bounds

/-! ## Trimming -/

/-- A digit or a sign. -/
theorem mem_toString {n : Int} {c : Char} (h : c ∈ (toString n).toList) :
    c.isDigit = true ∨ c = '-' := by
  cases n with
  | ofNat m =>
    have hc : c ∈ m.repr.toList := h
    rw [Nat.toList_repr] at hc
    exact Or.inl (Nat.isDigit_of_mem_toDigits (by decide) (by decide) hc)
  | negSucc m =>
    have hc : c ∈ ("-" ++ m.succ.repr).toList := h
    rw [String.toList_append, Nat.toList_repr, List.mem_append] at hc
    rcases hc with hsign | hdigit
    · exact Or.inr (List.mem_singleton.mp hsign)
    · exact Or.inl (Nat.isDigit_of_mem_toDigits (by decide) (by decide) hdigit)

theorem toList_toString_ne_nil (n : Int) : (toString n).toList ≠ [] := by
  cases n with
  | ofNat m =>
    show m.repr.toList ≠ []
    rw [Nat.toList_repr]
    exact Nat.toDigits_ne_nil
  | negSucc m =>
    show ("-" ++ m.succ.repr).toList ≠ []
    rw [String.toList_append]
    exact List.cons_ne_nil '-' m.succ.repr.toList

theorem isBlank_of_mem_toString {n : Int} {c : Char} (h : c ∈ (toString n).toList) :
    isBlank c = false := by
  rcases mem_toString h with hdigit | rfl
  · have hbounds : 48 ≤ c.toNat ∧ c.toNat ≤ 57 := by
      simpa [Char.isDigit, UInt32.le_iff_toNat_le] using hdigit
    simp [isBlank, blankRanges]
    omega
  · decide

/-- A numeral has no white space to be trimmed. -/
theorem trim_toString (n : Int) : trim (toString n) = toString n := by
  have hstrip := strip_of_none fun c (hc : c ∈ (toString n).toList) =>
    isBlank_of_mem_toString hc
  rw [trim, hstrip, String.ofList_toList]

end CallbackGate.Text

namespace CallbackGate

namespace Markup

/-- A numeral is what is read back from the text of an element. -/
theorem Draft.stripped_toString (n : Int) : stripped (toString n) = (toString n).toList := by
  apply Text.strip_of_none
  intro c hc
  have hblank := Text.isBlank_of_mem_toString hc
  by_contra hspace
  rw [Bool.not_eq_false] at hspace
  rw [Text.isBlank_of_isMarkupSpace hspace] at hblank
  cases hblank

theorem Record.contentText_numeral (n : Int) :
    contentText ((Draft.textRuns (toString n)).map .text) = .ok (toString n) := by
  rw [contentText_textRuns, Draft.stripped_toString, String.ofList_toList]

variable {α β : Type} {name : String} {attributes : List Char} {content : List Node}
  {parse : List Char → Except Text.NumeralFault β} {n : Int} {number : β}

/-- A whole number is read by a field that trims its text. -/
theorem Field.read_numeral (set : β → α → α)
    (hcontent : Record.contentText content = .ok (toString n))
    (hparse : parse (toString n).toList = .ok number) :
    (Field.numeral name parse set).read attributes content = .ok (set number) := by
  simp only [Field.numeral, hcontent, Text.trim_toString]
  cases hdigits : (toString n).toList with
  | nil => exact absurd hdigits (Text.toList_toString_ne_nil n)
  | cons c digits =>
    rw [hdigits] at hparse
    dsimp only
    rw [hparse]

/-- A whole number is read by a field that does not. -/
theorem Field.read_bareNumeral (set : β → α → α)
    (hcontent : Record.contentText content = .ok (toString n))
    (hparse : parse (toString n).toList = .ok number) :
    (Field.bareNumeral name parse set).read attributes content = .ok (set number) := by
  simp only [Field.bareNumeral, hcontent, hparse]

end Markup

/-! ## Kinds of numerals -/

namespace Numeral

/-- A time is read back from its numeral. -/
theorem int64_toString (time : Int64) : int64 (toString time.toInt).toList = .ok time := by
  have hlow := Int64.le_toInt time
  have hhigh := Int64.toInt_lt time
  have hparse : (Text.Bounds.signed 64).parse (toString time.toInt).toList =
      .ok time.toInt := by
    apply Text.Bounds.parse_toString
    · simpa [Text.Bounds.signed] using hlow
    · simp only [Text.Bounds.signed]
      omega
  rw [int64, hparse, Except.map, Int64.ofInt_toInt]

/-- A number that is not negative is read back within the bounds of its width. -/
theorem unsigned_toString {width n : Nat} (h : n < 2 ^ width) :
    (Text.Bounds.unsigned width).parse (toString (n : Int)).toList = .ok (n : Int) := by
  apply Text.Bounds.parse_toString
  · simp [Text.Bounds.unsigned]
  · simp only [Text.Bounds.unsigned]
    omega

theorem uint8_toString (n : UInt8) : uint8 (toString (n.toNat : Int)).toList = .ok n := by
  rw [uint8, unsigned_toString n.toNat_lt, Except.map, Int.toNat_natCast, UInt8.ofNat_toNat]

theorem uint32_toString (n : UInt32) : uint32 (toString (n.toNat : Int)).toList = .ok n := by
  rw [uint32, unsigned_toString n.toNat_lt, Except.map, Int.toNat_natCast, UInt32.ofNat_toNat]

theorem uint64_toString (n : UInt64) : uint64 (toString (n.toNat : Int)).toList = .ok n := by
  rw [uint64, unsigned_toString n.toNat_lt, Except.map, Int.toNat_natCast, UInt64.ofNat_toNat]

end Numeral

end CallbackGate
