import CallbackGate.Cipher.Aes
import Mathlib.Data.Finite.Prod
import Mathlib.Data.Fintype.EquivFin

/-!
# The block cipher can be undone

Decrypting an encrypted block gives the block back, whatever the schedule
(`Schedule.decrypt_encrypt`), and so does encrypting a decrypted one.  So
nothing about the cipher has to be assumed further up.

There are four groups.

* Doubling is additive (`double_xor`), and so are the multiples of a byte that
  the columns need.
* Columns.  `unmix_mix` multiplies the two matrices: the four identities
  before it are the entries of one row of the product.
* Rounds.  `gather_scatter` undoes what all rounds share, and
  `foldr_unround_foldl_round` undoes the rounds in the middle one by one, from
  the last to the first.
* The other way round.  There are finitely many blocks, so encrypting reaches all
  of them, and `Schedule.encrypt_decrypt` follows.
-/

namespace CallbackGate.Cipher

/-! ## Multiples of a byte -/

private theorem msb_of_lt : ∀ n < 256,
    (decide (UInt8.ofNat n < 0x80)) = !(UInt8.ofNat n).toBitVec.msb := by
  decide +kernel

/-- A byte is below 128 when its highest bit is not set. -/
theorem lt_iff_msb (x : UInt8) : x < 0x80 ↔ x.toBitVec.msb = false := by
  have h : decide (x < 0x80) = !x.toBitVec.msb := by
    revert x
    exact forall_byte_of_lt msb_of_lt
  cases hmsb : x.toBitVec.msb with
  | false =>
    rw [hmsb] at h
    simpa using h
  | true =>
    rw [hmsb] at h
    simpa using h

/-- What is added to both sides of a sum drops out. -/
theorem xor_xor_cancel (x y z : UInt8) : (x ^^^ z) ^^^ (y ^^^ z) = x ^^^ y := by
  have hgroup : (x ^^^ z) ^^^ (y ^^^ z) = (x ^^^ y) ^^^ (z ^^^ z) := by ac_rfl
  rw [hgroup, UInt8.xor_self, UInt8.xor_zero]

/-- Doubling is additive. -/
theorem double_xor (x y : UInt8) : double (x ^^^ y) = double x ^^^ double y := by
  have hshift : (x ^^^ y) <<< 1 = x <<< 1 ^^^ y <<< 1 := UInt8.shiftLeft_xor
  simp only [double, hshift, lt_iff_msb, UInt8.toBitVec_xor, BitVec.msb_xor]
  cases x.toBitVec.msb <;> cases y.toBitVec.msb <;>
    simp only [Bool.xor_false, Bool.xor_true, Bool.not_true, Bool.not_false, if_true,
      Bool.true_eq_false, if_false, UInt8.xor_zero]
  · ac_rfl
  · ac_rfl
  · rw [xor_xor_cancel]

theorem times9_xor (x y : UInt8) : times9 (x ^^^ y) = times9 x ^^^ times9 y := by
  simp only [times9, double_xor]
  ac_rfl

theorem times11_xor (x y : UInt8) : times11 (x ^^^ y) = times11 x ^^^ times11 y := by
  simp only [times11, double_xor]
  ac_rfl

theorem times13_xor (x y : UInt8) : times13 (x ^^^ y) = times13 x ^^^ times13 y := by
  simp only [times13, double_xor]
  ac_rfl

theorem times14_xor (x y : UInt8) : times14 (x ^^^ y) = times14 x ^^^ times14 y := by
  simp only [times14, double_xor]
  ac_rfl

/-! ## Columns -/

/-- The entry of the product on the diagonal. -/
theorem entry_same (x : UInt8) :
    times14 (double x) ^^^ times11 x ^^^ times13 x ^^^ times9 (double x ^^^ x) = x := by
  revert x
  refine forall_byte_of_lt ?_
  decide +kernel

/-- The entry of the product one place after the diagonal. -/
theorem entry_next (x : UInt8) :
    times14 (double x ^^^ x) ^^^ times11 (double x) ^^^ times13 x ^^^ times9 x = 0 := by
  revert x
  refine forall_byte_of_lt ?_
  decide +kernel

/-- The entry of the product two places after the diagonal. -/
theorem entry_opposite (x : UInt8) :
    times14 x ^^^ times11 (double x ^^^ x) ^^^ times13 (double x) ^^^ times9 x = 0 := by
  revert x
  refine forall_byte_of_lt ?_
  decide +kernel

/-- The entry of the product three places after the diagonal. -/
theorem entry_before (x : UInt8) :
    times14 x ^^^ times11 x ^^^ times13 (double x ^^^ x) ^^^ times9 (double x) = 0 := by
  revert x
  refine forall_byte_of_lt ?_
  decide +kernel

/-- One row of the product of the two matrices, applied to four bytes. -/
theorem unmix_row (a b c d : UInt8) :
    times14 (double a ^^^ (double b ^^^ b) ^^^ c ^^^ d) ^^^
      times11 (a ^^^ double b ^^^ (double c ^^^ c) ^^^ d) ^^^
      times13 (a ^^^ b ^^^ double c ^^^ (double d ^^^ d)) ^^^
      times9 ((double a ^^^ a) ^^^ b ^^^ c ^^^ double d) = a := by
  -- The same terms, those of one byte together.
  have hgroup : times14 (double a ^^^ (double b ^^^ b) ^^^ c ^^^ d) ^^^
      times11 (a ^^^ double b ^^^ (double c ^^^ c) ^^^ d) ^^^
      times13 (a ^^^ b ^^^ double c ^^^ (double d ^^^ d)) ^^^
      times9 ((double a ^^^ a) ^^^ b ^^^ c ^^^ double d) =
      (times14 (double a) ^^^ times11 a ^^^ times13 a ^^^ times9 (double a ^^^ a)) ^^^
      (times14 (double b ^^^ b) ^^^ times11 (double b) ^^^ times13 b ^^^ times9 b) ^^^
      (times14 c ^^^ times11 (double c ^^^ c) ^^^ times13 (double c) ^^^ times9 c) ^^^
      (times14 d ^^^ times11 d ^^^ times13 (double d ^^^ d) ^^^ times9 (double d)) := by
    simp only [times9_xor, times11_xor, times13_xor, times14_xor]
    ac_rfl
  rw [hgroup, entry_same, entry_next, entry_opposite, entry_before]
  simp

/-- The second matrix undoes the first. -/
theorem unmix_mix (x : Column) : x.mix.unmix = x := by
  obtain ⟨a, b, c, d⟩ := x
  have h0 := unmix_row a b c d
  have h1 := unmix_row b c d a
  have h2 := unmix_row c d a b
  have h3 := unmix_row d a b c
  simp only [Column.mix, Column.unmix, Column.mk.injEq]
  -- The other rows are the first one with the bytes rotated.
  refine ⟨h0, Eq.trans ?_ h1, Eq.trans ?_ h2, Eq.trans ?_ h3⟩ <;>
    simp only [times9_xor, times11_xor, times13_xor, times14_xor] <;> ac_rfl

/-! ## Rounds -/

@[simp] theorem Column.add_add_cancel (x y : Column) : (x.add y).add y = x := by
  simp only [Column.add, UInt8.xor_assoc, UInt8.xor_self, UInt8.xor_zero]

@[simp] theorem Block.add_add_cancel (x y : Block) : (x.add y).add y = x := by
  simp [Block.add]

/-- Substitution and the shift of rows can be undone. -/
theorem gather_scatter (x : Block) : x.scatter.gather = x := by
  simp [Block.scatter, Block.gather, Block.shiftRows, Block.unshiftRows, Block.map,
    Column.map, restore_substitute]

theorem map_unmix_map_mix (x : Block) : (x.map Column.mix).map Column.unmix = x := by
  simp [Block.map, unmix_mix]

/-- The rounds in the middle are undone from the last to the first. -/
theorem foldr_unround_foldl_round (keys : List Block) (block : Block) :
    keys.foldr (fun key state => ((state.add key).map Column.unmix).gather)
        (keys.foldl (fun state key => (state.scatter.map Column.mix).add key) block) =
      block := by
  induction keys generalizing block with
  | nil => rfl
  | cons key rest ih =>
    rw [List.foldl_cons, List.foldr_cons, ih, Block.add_add_cancel, map_unmix_map_mix,
      gather_scatter]

/-- Decrypting with a schedule undoes encrypting with it. -/
theorem Schedule.decrypt_encrypt (schedule : Schedule) (block : Block) :
    schedule.decrypt (schedule.encrypt block) = block := by
  simp only [Schedule.encrypt, Schedule.decrypt]
  rw [Block.add_add_cancel, gather_scatter, foldr_unround_foldl_round,
    Block.add_add_cancel]

/-! ## The other way round -/

instance finite_byte : Finite UInt8 :=
  Finite.of_injective UInt8.toFin fun _ _ h => UInt8.toFin_inj.mp h

instance Column.finite : Finite Column :=
  Finite.of_injective (fun x : Column => (x.b0, x.b1, x.b2, x.b3)) fun x y h => by
    cases x
    cases y
    cases h
    rfl

instance Block.finite : Finite Block :=
  Finite.of_injective (fun x : Block => (x.c0, x.c1, x.c2, x.c3)) fun x y h => by
    cases x
    cases y
    cases h
    rfl

/-- Encrypting with a schedule undoes decrypting with it. -/
theorem Schedule.encrypt_decrypt (schedule : Schedule) (block : Block) :
    schedule.encrypt (schedule.decrypt block) = block := by
  have hsurjective : Function.Surjective schedule.encrypt :=
    Finite.injective_iff_surjective.mp (Function.LeftInverse.injective schedule.decrypt_encrypt)
  obtain ⟨plain, rfl⟩ := hsurjective block
  rw [schedule.decrypt_encrypt]

end CallbackGate.Cipher
