import CallbackGate.Text.Integer

/-!
# Decimal fractions as 64-bit floating-point numbers

A `Binary64` is the 64 bits of an IEEE 754 double.  `Binary64.nearest` rounds
a quotient of natural numbers to the nearest double, a tie going to the even
one.  `Binary64.parse` reads a decimal fraction, which is an optional sign and
either digits with an optional point and an optional exponent, or one of the
words `inf`, `infinity` and `nan` in any case.
-/

namespace CallbackGate.Text

/-- The bits of a double. -/
structure Binary64 where
  bits : UInt64
  deriving DecidableEq, Repr

namespace Binary64

/-- Positive zero. -/
def zero : Binary64 := ⟨0⟩

/-- Positive infinity, the exponent field all ones. -/
def infinity : Binary64 := ⟨0x7FF0000000000000⟩

/-- The quiet NaN. -/
def nan : Binary64 := ⟨0x7FF8000000000000⟩

instance : Inhabited Binary64 := ⟨zero⟩

/-- The number with the other sign. -/
def negate (x : Binary64) : Binary64 := ⟨x.bits ^^^ 0x8000000000000000⟩

/-! ## Rounding -/

/-- The quotient rounded to the nearest integer, a tie to the even one. -/
def roundQuotient (num den : Nat) : Nat :=
  let floor := num / den
  let twice := 2 * (num % den)
  if twice < den then floor
  else if twice = den then floor + floor % 2
  else floor + 1

/-- The quotient with the divisor times two to the power of `shift`. -/
def scaled (num den : Nat) (shift : Int) : Nat × Nat :=
  if 0 ≤ shift then (num, den <<< shift.toNat)
  else (num <<< (-shift).toNat, den)

/-- The power of two that the last bit of the double stands for.  The quotient
over it has 53 bits, unless it is below the normal numbers. -/
def lastBit (num den : Nat) : Int :=
  let low : Int := (num.log2 : Int) - den.log2 - 53
  let (n, d) := scaled num den low
  let exact := if n / d < 1 <<< 53 then low else low + 1
  max exact (-1074)

/-- The double nearest to a quotient.  The exponent field counts from the last
bit of the smallest numbers, and a significand that rounds up to the next power
of two carries into it. -/
def nearest (num den : Nat) : Binary64 :=
  if num = 0 then zero
  else
    let shift := lastBit num den
    let (n, d) := scaled num den shift
    let bits := (shift + 1074).toNat <<< 52 + roundQuotient n d
    if bits < infinity.bits.toNat then ⟨UInt64.ofNat bits⟩ else infinity

/-- The double nearest to `digits * 10 ^ exponent`, where `digits` has the
given number of decimal digits.  Far outside the range of doubles the powers
of ten are not worked out. -/
def ofDecimal (digits count : Nat) (exponent : Int) : Binary64 :=
  if digits = 0 then zero
  else if count + exponent > 400 then infinity
  else if count + exponent < -400 then zero
  else if 0 ≤ exponent then nearest (digits * Nat.pow 10 exponent.toNat) 1
  else nearest digits (Nat.pow 10 (-exponent).toNat)

/-! ## Reading -/

/-- The longest run of digits at the head of a text: its value, in two parts,
the number of digits after leading zeros, its length, and the text after it. -/
structure DigitRun where
  /-- The value of the digits before the last few. -/
  head : Nat := 0
  /-- The value of the last few digits. -/
  tail : Nat := 0
  /-- How many the last few digits are. -/
  tailLength : Nat := 0
  count : Nat := 0
  length : Nat := 0
  rest : List Char

namespace DigitRun

/-- The number that the digits spell. -/
def value (run : DigitRun) : Nat :=
  run.head * Nat.pow 10 run.tailLength + run.tail

/-- The run with one more digit, before the text that follows it.  The last
digits join the head in groups of 512, so that the work on each digit stays
small. -/
def push (run : DigitRun) (digit : Nat) (rest : List Char) : DigitRun :=
  let count := if run.count = 0 && digit = 0 then 0 else run.count + 1
  let length := run.length + 1
  if run.tailLength < 512 then
    { head := run.head
      tail := run.tail * 10 + digit
      tailLength := run.tailLength + 1
      count, length, rest }
  else
    { head := run.value, tail := digit, tailLength := 1, count, length, rest }

/-- Another digit at the end is worth the digit, and the others ten times what
they were. -/
theorem value_push (run : DigitRun) (digit : Nat) (rest : List Char) :
    (run.push digit rest).value = run.value * 10 + digit := by
  by_cases h : run.tailLength < 512
  · simp [push, value, h, Nat.pow_succ, Nat.add_mul, Nat.mul_assoc,
      Nat.add_assoc]
  · simp [push, value, h]

/-- Read on in a run of digits. -/
def extend (run : DigitRun) : List Char → DigitRun
  | [] => { run with rest := [] }
  | c :: rest =>
    match digit? c with
    | none => { run with rest := c :: rest }
    | some digit => (run.push digit rest).extend rest

/-- The run of digits at the head of a text. -/
def read (text : List Char) : DigitRun :=
  extend { rest := text } text

end DigitRun

/-- The size of an exponent that digits spell.  A digit counts only while the
size before it is below `0x10000`, which leaves the greatest exponents short
of what they spell. -/
def exponentSize (digits : List Nat) : Nat :=
  digits.foldl
    (fun size digit => if size < 0x10000 then size * 10 + digit else size) 0

/-- An exponent: nothing, or `e`, an optional sign and digits. -/
def parseExponent : List Char → Option Int
  | [] => some 0
  | e :: rest =>
    if e == 'e' || e == 'E' then
      let (negative, text) := match rest with
        | '+' :: text => (false, text)
        | '-' :: text => (true, text)
        | text => (false, text)
      match text.mapM digit? with
      | none | some [] => none
      | some digits =>
        let size : Int := exponentSize digits
        some (if negative then -size else size)
    else none

/-- A number without a sign. -/
def parseMagnitude (text : List Char) : Option Binary64 :=
  let word := text.map Char.toLower
  if word == "inf".toList || word == "infinity".toList then some infinity
  else if word == "nan".toList then some nan
  else
    let whole := DigitRun.read text
    let all := match whole.rest with
      | '.' :: rest => whole.extend rest
      | _ => whole
    let fraction := all.length - whole.length
    if all.length = 0 then none
    else (parseExponent all.rest).map fun exponent =>
      ofDecimal all.value all.count (exponent - fraction)

/-- The number that a text spells. -/
def parse (text : List Char) : Except NumeralFault Binary64 :=
  let read := match text with
    | '+' :: rest => parseMagnitude rest
    | '-' :: rest => (parseMagnitude rest).map negate
    | rest => parseMagnitude rest
  match read with
  | some number => .ok number
  | none => .error .invalidFloat

end Binary64

end CallbackGate.Text
