/-!
# White space

Two sets of white space are in use.  Settings, numerals and keys are trimmed
of Unicode white space (`isBlank`); the text of a document is trimmed of the
four white-space characters of markup (`isMarkupSpace`).  `strip` trims a
list at both ends of the characters that a test accepts.
-/

namespace CallbackGate.Text

/-! ## Trimming a list -/

/-- The list without the accepted elements at its end. -/
def stripEnd (accepts : α → Bool) (items : List α) : List α :=
  (items.reverse.dropWhile accepts).reverse

/-- The list without the accepted elements at either end. -/
def strip (accepts : α → Bool) (items : List α) : List α :=
  stripEnd accepts (items.dropWhile accepts)

/-! ## Unicode white space -/

/-- The ranges of code points with the Unicode property `White_Space`. -/
def blankRanges : List (Nat × Nat) :=
  [(0x09, 0x0D), (0x20, 0x20), (0x85, 0x85), (0xA0, 0xA0), (0x1680, 0x1680),
   (0x2000, 0x200A), (0x2028, 0x2029), (0x202F, 0x202F), (0x205F, 0x205F),
   (0x3000, 0x3000)]

/-- A character of Unicode white space. -/
def isBlank (c : Char) : Bool :=
  blankRanges.any fun range => range.1 ≤ c.toNat && c.toNat ≤ range.2

/-- A text without the Unicode white space at its ends. -/
def trim (text : String) : String :=
  String.ofList (strip isBlank text.toList)

/-- The set holds twenty-five characters. -/
example : (blankRanges.map fun range => range.2 + 1 - range.1).sum = 25 := rfl

/-! ## White space of markup -/

/-- Space, tab, line feed and carriage return. -/
def isMarkupSpace (c : Char) : Bool :=
  c == ' ' || c == '\t' || c == '\n' || c == '\r'

/-- Every white-space character of markup is one of Unicode. -/
theorem isBlank_of_isMarkupSpace {c : Char} (h : isMarkupSpace c = true) :
    isBlank c = true := by
  simp only [isMarkupSpace, Bool.or_eq_true, beq_iff_eq] at h
  rcases h with ((rfl | rfl) | rfl) | rfl <;> decide

end CallbackGate.Text
