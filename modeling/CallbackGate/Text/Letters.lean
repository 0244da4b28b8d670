/-!
# Letters without case

Tags, methods and words of the settings compare without regard to the case
of ASCII letters.  Other letters keep their case.
-/

namespace CallbackGate.Text

/-- The characters of a text with ASCII capitals made small. -/
def folded (text : String) : List Char :=
  text.toList.map Char.toLower

/-- Two texts agree up to the case of ASCII letters. -/
def sameLetters (left right : String) : Bool :=
  folded left == folded right

/-- A text with ASCII capitals made small. -/
def lowered (text : String) : String :=
  String.ofList (folded text)

theorem sameLetters_iff {left right : String} :
    sameLetters left right = true ↔ folded left = folded right := by
  simp [sameLetters]

theorem sameLetters_comm (left right : String) :
    sameLetters left right = sameLetters right left := by
  simp only [sameLetters, Bool.beq_comm]

end CallbackGate.Text
