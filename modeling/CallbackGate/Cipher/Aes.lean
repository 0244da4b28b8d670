import CallbackGate.Cipher.Substitution
import CallbackGate.Key

/-!
# AES with a key of 256 bits

The block cipher of FIPS 197.  A block is four columns of four bytes.  One
round substitutes bytes, shifts rows, mixes columns and adds a block of the key
schedule; the last round does not mix.  `Schedule.encrypt` runs the rounds and
`Schedule.decrypt` undoes them from the last to the first.
-/

namespace CallbackGate.Cipher

/-- Four bytes, one from each row. -/
structure Column where
  b0 : UInt8
  b1 : UInt8
  b2 : UInt8
  b3 : UInt8
  deriving DecidableEq, Repr

/-- Sixteen bytes in four columns. -/
structure Block where
  c0 : Column
  c1 : Column
  c2 : Column
  c3 : Column
  deriving DecidableEq, Repr

/-! ## Columns -/

namespace Column

/-- The same function on each byte. -/
def map (f : UInt8 → UInt8) (x : Column) : Column :=
  ⟨f x.b0, f x.b1, f x.b2, f x.b3⟩

/-- The sum of two columns, bit by bit. -/
def add (x y : Column) : Column :=
  ⟨x.b0 ^^^ y.b0, x.b1 ^^^ y.b1, x.b2 ^^^ y.b2, x.b3 ^^^ y.b3⟩

/-- The bytes moved up by one row, the top one to the bottom. -/
def rotate (x : Column) : Column := ⟨x.b1, x.b2, x.b3, x.b0⟩

/-- The bytes from the top row down. -/
def toBytes (x : Column) : List UInt8 := [x.b0, x.b1, x.b2, x.b3]

end Column

/-- The product of a byte and two in the field of 256 elements. -/
def double (x : UInt8) : UInt8 :=
  (x <<< 1) ^^^ (if x < 0x80 then 0 else 0x1B)

/-- The product with nine. -/
def times9 (x : UInt8) : UInt8 := double (double (double x)) ^^^ x

/-- The product with eleven. -/
def times11 (x : UInt8) : UInt8 :=
  double (double (double x)) ^^^ double x ^^^ x

/-- The product with thirteen. -/
def times13 (x : UInt8) : UInt8 :=
  double (double (double x)) ^^^ double (double x) ^^^ x

/-- The product with fourteen. -/
def times14 (x : UInt8) : UInt8 :=
  double (double (double x)) ^^^ double (double x) ^^^ double x

namespace Column

/-- The product of the column and the matrix whose rows are rotations of
`2 3 1 1`. -/
def mix (x : Column) : Column :=
  ⟨double x.b0 ^^^ (double x.b1 ^^^ x.b1) ^^^ x.b2 ^^^ x.b3,
    x.b0 ^^^ double x.b1 ^^^ (double x.b2 ^^^ x.b2) ^^^ x.b3,
    x.b0 ^^^ x.b1 ^^^ double x.b2 ^^^ (double x.b3 ^^^ x.b3),
    (double x.b0 ^^^ x.b0) ^^^ x.b1 ^^^ x.b2 ^^^ double x.b3⟩

/-- The product of the column and the matrix whose rows are rotations of
`14 11 13 9`. -/
def unmix (x : Column) : Column :=
  ⟨times14 x.b0 ^^^ times11 x.b1 ^^^ times13 x.b2 ^^^ times9 x.b3,
    times9 x.b0 ^^^ times14 x.b1 ^^^ times11 x.b2 ^^^ times13 x.b3,
    times13 x.b0 ^^^ times9 x.b1 ^^^ times14 x.b2 ^^^ times11 x.b3,
    times11 x.b0 ^^^ times13 x.b1 ^^^ times9 x.b2 ^^^ times14 x.b3⟩

end Column

/-! ## Blocks -/

namespace Block

/-- The same function on each column. -/
def map (f : Column → Column) (x : Block) : Block :=
  ⟨f x.c0, f x.c1, f x.c2, f x.c3⟩

/-- The sum of two blocks, bit by bit. -/
def add (x y : Block) : Block :=
  ⟨x.c0.add y.c0, x.c1.add y.c1, x.c2.add y.c2, x.c3.add y.c3⟩

/-- Row `r` moved to the left by `r` columns. -/
def shiftRows (x : Block) : Block :=
  ⟨⟨x.c0.b0, x.c1.b1, x.c2.b2, x.c3.b3⟩, ⟨x.c1.b0, x.c2.b1, x.c3.b2, x.c0.b3⟩,
    ⟨x.c2.b0, x.c3.b1, x.c0.b2, x.c1.b3⟩, ⟨x.c3.b0, x.c0.b1, x.c1.b2, x.c2.b3⟩⟩

/-- Row `r` moved to the right by `r` columns. -/
def unshiftRows (x : Block) : Block :=
  ⟨⟨x.c0.b0, x.c3.b1, x.c2.b2, x.c1.b3⟩, ⟨x.c1.b0, x.c0.b1, x.c3.b2, x.c2.b3⟩,
    ⟨x.c2.b0, x.c1.b1, x.c0.b2, x.c3.b3⟩, ⟨x.c3.b0, x.c2.b1, x.c1.b2, x.c0.b3⟩⟩

/-- The part that all rounds share: substitution and the shift of rows. -/
def scatter (x : Block) : Block := (x.map (Column.map substitute)).shiftRows

/-- What undoes `scatter`. -/
def gather (x : Block) : Block := x.unshiftRows.map (Column.map restore)

/-- The bytes, column by column. -/
def toBytes (x : Block) : List UInt8 :=
  x.c0.toBytes ++ x.c1.toBytes ++ x.c2.toBytes ++ x.c3.toBytes

/-- The whole blocks at the head of a list of bytes. -/
def split : List UInt8 → List Block
  | a0 :: a1 :: a2 :: a3 :: b0 :: b1 :: b2 :: b3 ::
      c0 :: c1 :: c2 :: c3 :: d0 :: d1 :: d2 :: d3 :: rest =>
    ⟨⟨a0, a1, a2, a3⟩, ⟨b0, b1, b2, b3⟩, ⟨c0, c1, c2, c3⟩, ⟨d0, d1, d2, d3⟩⟩ ::
      split rest
  | _ => []

/-- The bytes of blocks, one block after the other. -/
def join (blocks : List Block) : List UInt8 := blocks.flatMap toBytes

end Block

/-! ## The key schedule -/

/-- The blocks that the rounds add: before the first round, after each round
but the last, and after the last. -/
structure Schedule where
  first : Block
  middle : List Block
  last : Block
  deriving DecidableEq, Repr

/-- The two blocks of the schedule after two others, with the constant of the
step. -/
def Schedule.step (constant : UInt8) (low high : Block) : Block × Block :=
  let t := (high.c3.rotate.map substitute).add ⟨constant, 0, 0, 0⟩
  let l0 := low.c0.add t
  let l1 := low.c1.add l0
  let l2 := low.c2.add l1
  let l3 := low.c3.add l2
  let h0 := high.c0.add (l3.map substitute)
  let h1 := high.c1.add h0
  let h2 := high.c2.add h1
  let h3 := high.c3.add h2
  (⟨l0, l1, l2, l3⟩, ⟨h0, h1, h2, h3⟩)

/-- The blocks after two blocks of the schedule, in the given number of steps,
the constants of which double from the given one. -/
def Schedule.expand : (steps : Nat) → (constant : UInt8) →
    (low high : Block) → List Block
  | 0, _, _, _ => []
  | steps + 1, constant, low, high =>
    let (l, h) := Schedule.step constant low high
    l :: h :: expand steps (double constant) l h

/-- The schedule that begins with the two halves of a key.  Of its sixteen
blocks fifteen are in use. -/
def Schedule.ofHalves (low high : Block) : Schedule :=
  let blocks := high :: Schedule.expand 7 1 low high
  ⟨low, blocks.take 13, (blocks.drop 13).headD low⟩

/-- The schedule of a key. -/
def Schedule.ofKey (key : Key) : Schedule :=
  match Block.split key.bytes with
  | low :: high :: _ => Schedule.ofHalves low high
  | _ => ⟨⟨⟨0, 0, 0, 0⟩, ⟨0, 0, 0, 0⟩, ⟨0, 0, 0, 0⟩, ⟨0, 0, 0, 0⟩⟩, [],
      ⟨⟨0, 0, 0, 0⟩, ⟨0, 0, 0, 0⟩, ⟨0, 0, 0, 0⟩, ⟨0, 0, 0, 0⟩⟩⟩

/-! ## The cipher -/

/-- Run the rounds of a schedule. -/
def Schedule.encrypt (schedule : Schedule) (block : Block) : Block :=
  let mixed := schedule.middle.foldl
    (fun state key => (state.scatter.map Column.mix).add key)
    (block.add schedule.first)
  mixed.scatter.add schedule.last

/-- Undo the rounds of a schedule. -/
def Schedule.decrypt (schedule : Schedule) (block : Block) : Block :=
  let mixed := (block.add schedule.last).gather
  (schedule.middle.foldr
    (fun key state => ((state.add key).map Column.unmix).gather)
    mixed).add schedule.first

end CallbackGate.Cipher
