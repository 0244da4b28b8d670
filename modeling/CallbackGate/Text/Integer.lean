/-!
# Integers in decimal

An integer is an optional sign and ASCII digits.  The reader goes from left to
right and stops at the first thing that is wrong, which is either a character
that is no digit or a value that has left the bounds.  A minus sign belongs to
a numeral only where negative values are within the bounds.
-/

namespace CallbackGate.Text

/-- Why a text is not a number. -/
inductive NumeralFault
  /-- There is no text. -/
  | empty
  /-- A character is not a digit, or there is a sign and no digit. -/
  | invalidDigit
  /-- The value is above the greatest one. -/
  | tooLarge
  /-- The value is below the least one. -/
  | tooSmall
  /-- The text is not a decimal fraction. -/
  | invalidFloat
  deriving DecidableEq, Repr

/-- The wording of a fault. -/
def NumeralFault.message : NumeralFault → String
  | .empty => "cannot parse integer from empty string"
  | .invalidDigit => "invalid digit found in string"
  | .tooLarge => "number too large to fit in target type"
  | .tooSmall => "number too small to fit in target type"
  | .invalidFloat => "invalid float literal"

/-- The value of an ASCII digit. -/
def digit? (c : Char) : Option Nat :=
  if '0' ≤ c ∧ c ≤ '9' then some (c.toNat - '0'.toNat) else none

/-- The least and the greatest value of a kind of integer. -/
structure Bounds where
  low : Int
  high : Int
  deriving DecidableEq, Repr

namespace Bounds

/-- Whole numbers of the given number of bits. -/
def unsigned (bits : Nat) : Bounds := ⟨0, (1 <<< bits : Nat) - 1⟩

/-- Signed numbers of the given number of bits. -/
def signed (bits : Nat) : Bounds :=
  let half := 1 <<< (bits - 1)
  ⟨-half, half - 1⟩

/-- Read the digits of a number that is not negative, after those that gave
the value so far. -/
def readUp (bounds : Bounds) (value : Int) :
    List Char → Except NumeralFault Int
  | [] => .ok value
  | c :: rest =>
    match digit? c with
    | none => .error .invalidDigit
    | some d =>
      let next := value * 10 + d
      if next ≤ bounds.high then readUp bounds next rest else .error .tooLarge

/-- Read the digits of a number that is not positive, after those that gave
the value so far. -/
def readDown (bounds : Bounds) (value : Int) :
    List Char → Except NumeralFault Int
  | [] => .ok value
  | c :: rest =>
    match digit? c with
    | none => .error .invalidDigit
    | some d =>
      let next := value * 10 - d
      if bounds.low ≤ next then readDown bounds next rest else .error .tooSmall

/-- The integer within the bounds that a text spells. -/
def parse (bounds : Bounds) : List Char → Except NumeralFault Int
  | [] => .error .empty
  | ['+'] | ['-'] => .error .invalidDigit
  | '+' :: digits => bounds.readUp 0 digits
  | '-' :: digits =>
    if bounds.low < 0 then bounds.readDown 0 digits else .error .invalidDigit
  | digits => bounds.readUp 0 digits

end Bounds

end CallbackGate.Text
