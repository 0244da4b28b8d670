import CallbackGate.Bytes.BigEndian

/-!
# SHA-1

The secure hash of FIPS 180-4 with a digest of twenty bytes.  A message is
padded to whole blocks of sixteen words, and each block is worked into a state
of five words in eighty rounds.
-/

namespace CallbackGate.Bytes.Sha1

/-- The chaining state. -/
structure State where
  a : UInt32
  b : UInt32
  c : UInt32
  d : UInt32
  e : UInt32
  deriving DecidableEq, Repr

/-- The state before the first block. -/
def State.initial : State :=
  ⟨0x67452301, 0xEFCDAB89, 0x98BADCFE, 0x10325476, 0xC3D2E1F0⟩

/-- A word rotated to the left by fewer than 32 bits. -/
def rotate (word : UInt32) (count : UInt32) : UInt32 :=
  (word <<< count) ||| (word >>> (32 - count))

/-! ## The message -/

/-- The message, a one bit, zeros, and the length in bits as eight bytes, in a
whole number of blocks of 64 bytes. -/
def padded (message : List UInt8) : List UInt8 :=
  message ++ 0x80 :: List.replicate ((119 - message.length % 64) % 64) 0 ++
    BigEndian.ofNat 8 (8 * message.length)

/-- The words that bytes spell, four bytes each. -/
def words : List UInt8 → List UInt32
  | a :: b :: c :: d :: rest =>
    UInt32.ofNat (BigEndian.toNat [a, b, c, d]) :: words rest
  | _ => []

/-! ## Rounds -/

/-- The function and the constant of a round, by its number. -/
def mix (round : Nat) (b c d : UInt32) : UInt32 :=
  if round < 20 then ((b &&& c) ||| (~~~b &&& d)) + 0x5A827999
  else if round < 40 then (b ^^^ c ^^^ d) + 0x6ED9EBA1
  else if round < 60 then
    ((b &&& c) ||| (b &&& d) ||| (c &&& d)) + 0x8F1BBCDC
  else (b ^^^ c ^^^ d) + 0xCA62C1D6

/-- One round, with a word of the schedule. -/
def State.round (number : Nat) (state : State) (word : UInt32) : State :=
  ⟨rotate state.a 5 + mix number state.b state.c state.d + state.e + word,
    state.a, rotate state.b 30, state.c, state.d⟩

/-- The word sixteen places after the first word of a window of sixteen. -/
def nextWord (window : List UInt32) : UInt32 :=
  rotate ((window[13]?.getD 0) ^^^ (window[8]?.getD 0) ^^^
    (window[2]?.getD 0) ^^^ (window[0]?.getD 0)) 1

/-- The last `count` of the eighty rounds, with the next sixteen words of the
schedule. -/
def rounds : (count : Nat) → State → (window : List UInt32) → State
  | 0, state, _ => state
  | count + 1, state, window =>
    rounds count (state.round (80 - (count + 1)) (window.headD 0))
      (window.tail ++ [nextWord window])

/-- Work a block of sixteen words into the state. -/
def State.absorb (state : State) (block : List UInt32) : State :=
  let worked := rounds 80 state block
  ⟨state.a + worked.a, state.b + worked.b, state.c + worked.c,
    state.d + worked.d, state.e + worked.e⟩

/-- Work blocks of sixteen words into the state, the given number of them. -/
def State.absorbAll : (blocks : Nat) → State → List UInt32 → State
  | 0, state, _ => state
  | blocks + 1, state, rest =>
    absorbAll blocks (state.absorb (rest.take 16)) (rest.drop 16)

/-- The bytes of a state. -/
def State.toBytes (state : State) : List UInt8 :=
  [state.a, state.b, state.c, state.d, state.e].flatMap fun word =>
    BigEndian.ofNat 4 word.toNat

/-- The digest of a message. -/
def digest (message : List UInt8) : List UInt8 :=
  let schedule := words (padded message)
  (State.initial.absorbAll (schedule.length / 16) schedule).toBytes

@[simp] theorem length_digest (message : List UInt8) :
    (digest message).length = 20 := by
  simp [digest, State.toBytes]

end CallbackGate.Bytes.Sha1
