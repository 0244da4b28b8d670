import CallbackGate.Key
import CallbackGate.Proofs.Base64
import CallbackGate.Proofs.Trimming
import CallbackGate.Proofs.Utf8
import Mathlib.Data.Nat.Bitwise

/-!
# Encoded keys

A text encodes a key if it is, between white space, forty-three symbols of Base64.  They
spell 258 bits, of which the key is the first 256.  The reader of keys is lenient: it would
do without pads and with them, and drops stray bits.  But a pad in place of a symbol leaves
the key a byte short, so no text with pads is taken.

There are four groups.

* Bits.  `bits` writes a number, and strings of bits of one width are told apart by the
  numbers they are made of (`flatMap_bits_inj`).
* Symbols.  `spelledBits` is what symbols spell by their places in the alphabet.
* Groups of symbols.  `decodeFrom_symbols` says what the lenient reader makes of symbols
  that end with a group of three, and `symbols_of_decodeFrom` that it takes nothing else
  for as many bytes.
* Keys.  `ofEncoded_spells` is the assembly.
-/

namespace CallbackGate

/-! ## Bits -/

/-- The lowest bits of a number, the greatest of them first. -/
def bits (width n : Nat) : List Bool :=
  (List.range width).reverse.map n.testBit

@[simp] theorem length_bits (width n : Nat) : (bits width n).length = width := by
  rw [bits, List.length_map, List.length_reverse, List.length_range]

/-- The bits of a number are those of its upper part and those of its lower part. -/
theorem bits_add (high low n : Nat) :
    bits (high + low) n = bits high (n / 2 ^ low) ++ bits low n := by
  have hrange : List.range (high + low) = List.range low ++ (List.range high).map (low + ·) := by
    rw [Nat.add_comm, List.range_add]
  rw [bits, hrange, List.reverse_append, List.map_append, ← List.map_reverse, List.map_map,
    bits, bits, List.append_cancel_right_eq]
  apply List.map_congr_left
  intro i _
  show n.testBit (low + i) = (n / 2 ^ low).testBit i
  rw [Nat.testBit_div_two_pow, Nat.add_comm]

theorem bits_inj {width n m : Nat} (hn : n < 2 ^ width) (hm : m < 2 ^ width)
    (h : bits width n = bits width m) : n = m := by
  apply Nat.eq_of_testBit_eq
  intro i
  rw [bits, bits, List.map_inj_left] at h
  by_cases hi : i < width
  · exact h i (List.mem_reverse.mpr (List.mem_range.mpr hi))
  · have hpow : 2 ^ width ≤ 2 ^ i := Nat.pow_le_pow_right (by decide) (Nat.le_of_not_lt hi)
    rw [Nat.testBit_lt_two_pow (Nat.lt_of_lt_of_le hn hpow),
      Nat.testBit_lt_two_pow (Nat.lt_of_lt_of_le hm hpow)]

/-- Numbers with the same remainder have the same lowest bits. -/
theorem bits_congr {width n m : Nat} (h : n % 2 ^ width = m % 2 ^ width) :
    bits width n = bits width m := by
  rw [bits, bits, List.map_inj_left]
  intro i hi
  rw [List.mem_reverse, List.mem_range] at hi
  have hbit := congrArg (Nat.testBit · i) h
  simpa [Nat.testBit_mod_two_pow, hi] using hbit

/-- Numbers of one width are told by their bits, one after the other. -/
theorem flatMap_bits_inj {width : Nat} {values others : List Nat}
    (hvalues : ∀ n ∈ values, n < 2 ^ width) (hothers : ∀ n ∈ others, n < 2 ^ width)
    (hlength : values.length = others.length)
    (h : values.flatMap (bits width) = others.flatMap (bits width)) : values = others := by
  induction values generalizing others with
  | nil => exact (List.eq_nil_of_length_eq_zero hlength.symm).symm
  | cons n values ih =>
    cases others with
    | nil => cases hlength
    | cons m others =>
      rw [List.forall_mem_cons] at hvalues hothers
      rw [List.flatMap_cons, List.flatMap_cons] at h
      obtain ⟨hfirst, hrest⟩ := List.append_inj h (by rw [length_bits, length_bits])
      rw [bits_inj hvalues.1 hothers.1 hfirst,
        ih hvalues.2 hothers.2 (Nat.succ.inj hlength) hrest]

/-- The bits of bytes. -/
def byteBits (bytes : List UInt8) : List Bool :=
  (bytes.map UInt8.toNat).flatMap (bits 8)

theorem byteBits_append (bytes more : List UInt8) :
    byteBits (bytes ++ more) = byteBits bytes ++ byteBits more := by
  rw [byteBits, List.map_append, List.flatMap_append]
  rfl

theorem byteBits_inj {bytes others : List UInt8} (hlength : bytes.length = others.length)
    (h : byteBits bytes = byteBits others) : bytes = others := by
  have hbound (items : List UInt8) : ∀ n ∈ items.map UInt8.toNat, n < 2 ^ 8 := by
    intro n hn
    obtain ⟨byte, -, rfl⟩ := List.mem_map.mp hn
    exact byte.toNat_lt
  have hmap := flatMap_bits_inj (hbound bytes) (hbound others) (by simpa using hlength) h
  exact (List.map_injective_iff.mpr fun _ _ => UInt8.toNat_inj.mp) hmap

theorem length_byteBits (bytes : List UInt8) : (byteBits bytes).length = 8 * bytes.length := by
  rw [byteBits, List.length_flatMap]
  simp [Function.comp_def, Nat.mul_comm]

theorem byteBits_take {bytes : List UInt8} {count : Nat} (h : count ≤ bytes.length) :
    byteBits (bytes.take count) = (byteBits bytes).take (8 * count) := by
  have hlength : (byteBits (bytes.take count)).length = 8 * count := by
    rw [length_byteBits, List.length_take, Nat.min_eq_left h]
  conv_rhs => rw [← List.take_append_drop count bytes, byteBits_append]
  rw [List.take_left' hlength]

/-! ## Symbols -/

namespace Bytes.Base64

/-- The symbols of the alphabet, each in the place of its value. -/
def alphabet : List UInt8 :=
  Text.Utf8.bytes "ABCDEFGHIJKLMNOPQRSTUVWXYZabcdefghijklmnopqrstuvwxyz0123456789+/"

private theorem value?_of_lt : ∀ n < 256, value? (UInt8.ofNat n) =
    if UInt8.ofNat n ∈ alphabet then some (alphabet.idxOf (UInt8.ofNat n)) else none := by
  decide +kernel

/-- A symbol has the value of its place. -/
theorem value?_eq (byte : UInt8) :
    value? byte = if byte ∈ alphabet then some (alphabet.idxOf byte) else none := by
  have hbyte := value?_of_lt byte.toNat byte.toNat_lt
  rwa [UInt8.ofNat_toNat] at hbyte

theorem value?_of_mem {byte : UInt8} (h : byte ∈ alphabet) :
    value? byte = some (alphabet.idxOf byte) := by
  rw [value?_eq, if_pos h]

theorem mem_alphabet_of_value? {byte : UInt8} {v : Nat} (h : value? byte = some v) :
    byte ∈ alphabet := by
  rw [value?_eq] at h
  split_ifs at h with hmem
  exact hmem

theorem idxOf_lt {byte : UInt8} (h : byte ∈ alphabet) : alphabet.idxOf byte < 64 :=
  (symbol_of_value? (value?_of_mem h)).1

theorem ne_pad_of_mem {byte : UInt8} (h : byte ∈ alphabet) : byte ≠ pad := by
  rintro rfl
  exact absurd h (by decide)

theorem map_symbol_idxOf {symbols : List UInt8} (h : ∀ byte ∈ symbols, byte ∈ alphabet) :
    (symbols.map alphabet.idxOf).map symbol = symbols := by
  have hself : ∀ byte ∈ symbols, (symbol ∘ alphabet.idxOf) byte = id byte :=
    fun byte hbyte => (symbol_of_value? (value?_of_mem (h byte hbyte))).2
  rw [List.map_map, List.map_congr_left hself, List.map_id]

/-- The bits that symbols spell, six each. -/
def spelledBits (symbols : List UInt8) : List Bool :=
  (symbols.map alphabet.idxOf).flatMap (bits 6)

theorem spelledBits_append (symbols more : List UInt8) :
    spelledBits (symbols ++ more) = spelledBits symbols ++ spelledBits more := by
  rw [spelledBits, List.map_append, List.flatMap_append]
  rfl

theorem length_spelledBits (symbols : List UInt8) :
    (spelledBits symbols).length = 6 * symbols.length := by
  rw [spelledBits, List.length_flatMap]
  simp [Function.comp_def, Nat.mul_comm]

theorem spelledBits_inj {symbols others : List UInt8}
    (hsymbols : ∀ byte ∈ symbols, byte ∈ alphabet) (hothers : ∀ byte ∈ others, byte ∈ alphabet)
    (hlength : symbols.length = others.length) (h : spelledBits symbols = spelledBits others) :
    symbols = others := by
  have hbound {items : List UInt8} (hitems : ∀ byte ∈ items, byte ∈ alphabet) :
      ∀ n ∈ items.map alphabet.idxOf, n < 2 ^ 6 := by
    intro n hn
    obtain ⟨byte, hbyte, rfl⟩ := List.mem_map.mp hn
    exact idxOf_lt (hitems byte hbyte)
  have hmap := flatMap_bits_inj (hbound hsymbols) (hbound hothers) (by simpa using hlength) h
  rw [← map_symbol_idxOf hsymbols, hmap, map_symbol_idxOf hothers]

theorem bits_ofNat (n : Nat) : bits 8 (UInt8.ofNat n).toNat = bits 8 n := by
  apply bits_congr
  rw [UInt8.toNat_ofNat']
  exact Nat.mod_mod n (2 ^ 8)

/-- Four symbols spell three bytes. -/
theorem byteBits_joinGroup {a b c d : Nat} (hb : b < 64) (hc : c < 64) (hd : d < 64) :
    byteBits (joinGroup a b c d) = bits 6 a ++ bits 6 b ++ bits 6 c ++ bits 6 d := by
  have hfirst : bits 8 (a * 4 + b / 16) = bits 6 a ++ bits 2 (b / 16) := by
    rw [bits_add 6 2, show (a * 4 + b / 16) / 2 ^ 2 = a by omega]
    exact congrArg _ (bits_congr (by omega))
  have hsecond : bits 8 (b % 16 * 16 + c / 4) = bits 4 b ++ bits 4 (c / 4) := by
    rw [bits_add 4 4]
    exact congrArg₂ _ (bits_congr (by omega)) (bits_congr (by omega))
  have hthird : bits 8 (c % 4 * 64 + d) = bits 2 c ++ bits 6 d := by
    rw [bits_add 2 6]
    exact congrArg₂ _ (bits_congr (by omega)) (bits_congr (by omega))
  have hb6 : bits 6 b = bits 2 (b / 16) ++ bits 4 b := bits_add 2 4 b
  have hc6 : bits 6 c = bits 4 (c / 4) ++ bits 2 c := bits_add 4 2 c
  simp only [byteBits, joinGroup, List.map_cons, List.map_nil, List.flatMap_cons,
    List.flatMap_nil, bits_ofNat, hfirst, hsecond, hthird, hb6, hc6, List.append_assoc,
    List.append_nil]

/-- Three symbols spell two bytes and two bits that are dropped. -/
theorem byteBits_joinGroup_take {a b c : Nat} (hb : b < 64) (hc : c < 64) :
    byteBits ((joinGroup a b c 0).take 2) = (bits 6 a ++ bits 6 b ++ bits 6 c).take 16 := by
  have htake : 16 ≤ (bits 6 a ++ bits 6 b ++ bits 6 c).length := by
    simp only [List.length_append, length_bits, Nat.reduceAdd, Nat.reduceLeDiff]
  rw [byteBits_take (show 2 ≤ (joinGroup a b c 0).length from Nat.le_succ 2),
    byteBits_joinGroup hb hc (by decide), List.take_append_of_le_length htake]

/-! ## Groups of symbols -/

theorem exists_three {items : List UInt8} (h : 3 ≤ items.length) :
    ∃ a b c rest, items = a :: b :: c :: rest := by
  obtain ⟨a, b, c, hfirst⟩ := List.length_eq_three.mp (List.length_take_of_le h)
  have hsplit := List.take_append_drop 3 items
  rw [hfirst] at hsplit
  exact ⟨a, b, c, items.drop 3, hsplit.symm⟩

theorem exists_four {items : List UInt8} (h : 4 ≤ items.length) :
    ∃ a b c d rest, items = a :: b :: c :: d :: rest := by
  obtain ⟨a, more, rfl⟩ := List.exists_cons_of_length_pos (Nat.lt_of_lt_of_le (by decide) h)
  obtain ⟨b, c, d, rest, rfl⟩ := exists_three (Nat.le_of_succ_le_succ h)
  exact ⟨a, b, c, d, rest, rfl⟩

/-- The lenient reader takes groups of four symbols and a last group of three, and gives
the bytes that they spell. -/
theorem decodeFrom_symbols (count : Nat) {input : List UInt8}
    (hlength : input.length = 4 * count + 3) (h : ∀ byte ∈ input, byte ∈ alphabet)
    (offset : Nat) (before : List UInt8) :
    ∃ bytes, decodeFrom .lenient offset before input = .ok (before.reverse ++ bytes) ∧
      bytes.length = 3 * count + 2 ∧
      byteBits bytes = (spelledBits input).take (8 * (3 * count + 2)) := by
  induction count generalizing input offset before with
  | zero =>
    obtain ⟨a, b, c, rfl⟩ := List.length_eq_three.mp hlength
    simp only [List.forall_mem_cons] at h
    obtain ⟨ha, hb, hc, -⟩ := h
    refine ⟨(joinGroup (alphabet.idxOf a) (alphabet.idxOf b) (alphabet.idxOf c) 0).take 2, ?_,
      rfl, ?_⟩
    · simp [decodeFrom, LastGroup.read, value?_of_mem ha, value?_of_mem hb, value?_of_mem hc,
        ne_pad_of_mem ha, ne_pad_of_mem hb, ne_pad_of_mem hc, bind, Except.bind, pure,
        Except.pure, LastGroup.finish, Rules.lenient]
    · rw [byteBits_joinGroup_take (idxOf_lt hb) (idxOf_lt hc), spelledBits]
      simp only [List.map_cons, List.map_nil, List.flatMap_cons, List.flatMap_nil,
        List.append_nil, List.append_assoc]
  | succ count ih =>
    obtain ⟨a, b, c, d, rest, rfl⟩ := exists_four (show 4 ≤ input.length by omega)
    simp only [List.forall_mem_cons] at h
    obtain ⟨ha, hb, hc, hd, hrest⟩ := h
    obtain ⟨bytes, hread, hbytes, hbits⟩ := ih (by simpa [Nat.mul_add] using hlength) hrest
      (offset + 4) ((joinGroup (alphabet.idxOf a) (alphabet.idxOf b) (alphabet.idxOf c)
        (alphabet.idxOf d)).reverse ++ before)
    refine ⟨joinGroup (alphabet.idxOf a) (alphabet.idxOf b) (alphabet.idxOf c)
      (alphabet.idxOf d) ++ bytes, ?_, ?_, ?_⟩
    · rw [decodeFrom_group _ _ _ (value?_of_mem ha) (value?_of_mem hb) (value?_of_mem hc)
        (value?_of_mem hd), hread, List.reverse_append, List.reverse_reverse, List.append_assoc]
    · rw [List.length_append, hbytes, joinGroup]
      simp only [List.length_cons, List.length_nil]
      omega
    · have hspelled : spelledBits (a :: b :: c :: d :: rest) =
          byteBits (joinGroup (alphabet.idxOf a) (alphabet.idxOf b) (alphabet.idxOf c)
            (alphabet.idxOf d)) ++ spelledBits rest := by
        rw [byteBits_joinGroup (idxOf_lt hb) (idxOf_lt hc) (idxOf_lt hd)]
        simp only [spelledBits, List.map_cons, List.flatMap_cons, List.append_assoc]
      have hcount : 8 * (3 * (count + 1) + 2) =
          (byteBits (joinGroup (alphabet.idxOf a) (alphabet.idxOf b) (alphabet.idxOf c)
            (alphabet.idxOf d))).length + 8 * (3 * count + 2) := by
        rw [length_byteBits]
        show _ = 8 * 3 + _
        omega
      rw [byteBits_append, hbits, hspelled, hcount, List.take_length_add_append]

/-- A last group of three bytes gives two only if none of the three is a pad. -/
theorem pads_of_finish {offset : Nat} {group : LastGroup} {bytes : List UInt8}
    (hlength : group.values.length + group.pads = 3)
    (hfinish : group.finish .lenient offset = .ok bytes) (hbytes : bytes.length = 2) :
    group.pads = 0 := by
  obtain ⟨values, pads⟩ := group
  simp only [LastGroup.finish, Rules.lenient, Bool.false_and] at hfinish
  rcases values with _ | ⟨z, _ | ⟨y, _ | ⟨x, more⟩⟩⟩
  · cases hfinish
  · cases hfinish
  · cases hfinish
    cases hbytes
  · simp only [List.length_cons] at hlength
    show pads = 0
    omega

/-- The reader takes nothing else for as many bytes. -/
theorem symbols_of_decodeFrom (count : Nat) {offset : Nat} {before input bytes : List UInt8}
    (hlength : input.length = 4 * count + 3)
    (hread : decodeFrom .lenient offset before input = .ok bytes)
    (hbytes : bytes.length = before.length + (3 * count + 2)) :
    ∀ byte ∈ input, byte ∈ alphabet := by
  induction count generalizing input offset before with
  | zero =>
    obtain ⟨a, b, c, rfl⟩ := List.length_eq_three.mp hlength
    obtain ⟨group, hgroup, hread⟩ := bind_eq_ok_iff.mp hread
    obtain ⟨tail, hfinish, hread⟩ := bind_eq_ok_iff.mp hread
    cases hread
    have hspelled := Spelled.nil.foldlM hgroup
    have hinput := hspelled.bytes_eq
    have hcount : group.values.length + group.pads = 3 := by
      simpa using (congrArg List.length hinput).symm
    have hpads : group.pads = 0 := by
      apply pads_of_finish hcount hfinish
      rw [List.length_append, List.length_reverse] at hbytes
      omega
    rw [hpads, List.replicate_zero, List.append_nil, List.nil_append] at hinput
    intro byte hbyte
    rw [hinput, List.mem_map] at hbyte
    obtain ⟨entry, hentry, rfl⟩ := hbyte
    exact mem_alphabet_of_value? (hspelled.value_eq entry (List.mem_reverse.mp hentry))
  | succ count ih =>
    obtain ⟨a, b, c, d, more, rfl⟩ := exists_four (show 4 ≤ input.length by omega)
    have hmore : more.length = 4 * count + 3 := by simpa [Nat.mul_add] using hlength
    obtain ⟨e, rest, rfl⟩ := List.exists_cons_of_length_pos (show 0 < more.length by omega)
    obtain ⟨va, ha, hread⟩ := bind_eq_ok_iff.mp hread
    obtain ⟨vb, hb, hread⟩ := bind_eq_ok_iff.mp hread
    obtain ⟨vc, hc, hread⟩ := bind_eq_ok_iff.mp hread
    obtain ⟨vd, hd, hread⟩ := bind_eq_ok_iff.mp hread
    rw [valueAt_eq_ok_iff] at ha hb hc hd
    have hrest : ∀ byte ∈ e :: rest, byte ∈ alphabet := by
      refine ih hmore hread ?_
      rw [hbytes, List.length_append, List.length_reverse, joinGroup]
      simp only [List.length_cons, List.length_nil]
      omega
    simp only [List.forall_mem_cons] at hrest ⊢
    exact ⟨mem_alphabet_of_value? ha, mem_alphabet_of_value? hb, mem_alphabet_of_value? hc,
      mem_alphabet_of_value? hd, hrest⟩

/-- No byte stands alone at the end of groups of four and a group of three. -/
theorem decode_eq_decodeFrom (rules : Rules) (count : Nat) {input : List UInt8}
    (hlength : input.length = 4 * count + 3) :
    decode rules input = decodeFrom rules 0 [] input := by
  have hstray : strayLast? input = none := by
    rw [strayLast?, if_neg]
    omega
  rw [decode, hstray]

/-- A symbol stands in the place of its value. -/
theorem symbol_mem {v : Nat} (h : v < 64) :
    symbol v ∈ alphabet ∧ alphabet.idxOf (symbol v) = v := by
  have hvalue := value?_symbol v h
  have hmem := mem_alphabet_of_value? hvalue
  exact ⟨hmem, Option.some.inj ((value?_of_mem hmem).symm.trans hvalue)⟩

/-- What is written without pads is symbols that spell the bytes. -/
theorem spelledBits_encodeUnpadded (count : Nat) {bytes : List UInt8}
    (hlength : bytes.length = 3 * count + 2) :
    (encodeUnpadded bytes).length = 4 * count + 3 ∧
      (∀ byte ∈ encodeUnpadded bytes, byte ∈ alphabet) ∧
      (spelledBits (encodeUnpadded bytes)).take (8 * bytes.length) = byteBits bytes := by
  induction count generalizing bytes with
  | zero =>
    obtain ⟨x, y, rfl⟩ := List.length_eq_two.mp hlength
    have hx := x.toNat_lt
    have hy := y.toNat_lt
    obtain ⟨ha, hva⟩ := symbol_mem (show x.toNat / 4 < 64 by omega)
    obtain ⟨hb, hvb⟩ := symbol_mem (show x.toNat % 4 * 16 + y.toNat / 16 < 64 by omega)
    obtain ⟨hc, hvc⟩ := symbol_mem (show y.toNat % 16 * 4 < 64 by omega)
    refine ⟨rfl, ?_, ?_⟩
    · simp only [encodeUnpadded, List.forall_mem_cons]
      exact ⟨ha, hb, hc, List.forall_mem_nil _⟩
    · rw [← take_two_of_bytes x y, byteBits_joinGroup_take (by omega) (by omega),
        take_two_of_bytes]
      simp only [encodeUnpadded, spelledBits, List.map_cons, List.map_nil, List.flatMap_cons,
        List.flatMap_nil, hva, hvb, hvc, List.append_nil, List.append_assoc]
      rfl
  | succ count ih =>
    obtain ⟨x, y, z, rest, rfl⟩ := exists_three (show 3 ≤ bytes.length by omega)
    obtain ⟨hrestlength, hrest, hspelled⟩ :=
      ih (show rest.length = 3 * count + 2 by simpa [Nat.mul_add] using hlength)
    have hx := x.toNat_lt
    have hy := y.toNat_lt
    have hz := z.toNat_lt
    obtain ⟨ha, hva⟩ := symbol_mem (show x.toNat / 4 < 64 by omega)
    obtain ⟨hb, hvb⟩ := symbol_mem (show x.toNat % 4 * 16 + y.toNat / 16 < 64 by omega)
    obtain ⟨hc, hvc⟩ := symbol_mem (show y.toNat % 16 * 4 + z.toNat / 64 < 64 by omega)
    obtain ⟨hd, hvd⟩ := symbol_mem (show z.toNat % 64 < 64 by omega)
    refine ⟨?_, ?_, ?_⟩
    · rw [encodeUnpadded]
      simp only [List.length_cons, hrestlength]
      omega
    · simp only [encodeUnpadded, List.forall_mem_cons]
      exact ⟨ha, hb, hc, hd, hrest⟩
    · have hgroup : spelledBits (encodeUnpadded (x :: y :: z :: rest)) =
          byteBits [x, y, z] ++ spelledBits (encodeUnpadded rest) := by
        rw [← joinGroup_of_bytes x y z, byteBits_joinGroup (by omega) (by omega) (by omega)]
        simp only [encodeUnpadded, spelledBits, List.map_cons, List.flatMap_cons, hva, hvb, hvc,
          hvd, List.append_assoc]
      have hcount : 8 * (x :: y :: z :: rest).length =
          (byteBits [x, y, z]).length + 8 * rest.length := by
        rw [length_byteBits]
        simp only [List.length_cons, List.length_nil]
        omega
      rw [hgroup, hcount, List.take_length_add_append, hspelled, ← byteBits_append]
      rfl

end Bytes.Base64

/-! ## Keys -/

namespace Key

open Bytes.Base64 (alphabet spelledBits)

/-- The key that a text encodes is the one whose bytes its symbols spell. -/
theorem ofEncoded_eq_ok_iff {text : String} {key : Key} :
    ofEncoded text = .ok key ↔
      (Text.Utf8.bytes (Text.trim text)).length = encodedLength ∧
        Bytes.Base64.decode .lenient (Text.Utf8.bytes (Text.trim text)) = .ok key.bytes := by
  unfold ofEncoded
  dsimp only
  by_cases hlength : (Text.Utf8.bytes (Text.trim text)).length = encodedLength
  · rw [if_neg (not_not_intro hlength)]
    cases hdecode : Bytes.Base64.decode .lenient (Text.Utf8.bytes (Text.trim text)) with
    | error fault => simp
    | ok bytes =>
      dsimp only [ofBytes?]
      by_cases hbytes : bytes.length = 32
      · rw [dif_pos hbytes]
        simp only [Except.ok.injEq, hlength, true_and]
        constructor
        · intro h
          rw [← h]
        · intro h
          cases key
          cases h
          rfl
      · rw [dif_neg hbytes]
        refine iff_of_false (by simp) ?_
        rintro ⟨-, h⟩
        rw [Except.ok.inj h] at hbytes
        exact hbytes key.length_eq
  · rw [if_pos hlength]
    exact iff_of_false (by simp) fun h => hlength h.1

/-- White space around a key does not count. -/
theorem ofEncoded_trim (text : String) : ofEncoded (Text.trim text) = ofEncoded text := by
  rw [ofEncoded, Text.trim_trim, ← ofEncoded]

theorem ext {key key' : Key} (h : key.bytes = key'.bytes) : key = key' := by
  cases key
  cases key'
  cases h
  rfl

/-- A text is, between white space, the forty-three symbols of a key. -/
structure Spells (text : String) (symbols : List UInt8) : Prop where
  trimmed : ∃ core, Text.IsTrimmed core text ∧ Text.Utf8.bytes core = symbols
  length : symbols.length = 43
  symbols : ∀ byte ∈ symbols, byte ∈ alphabet

theorem spells_iff {text : String} {symbols : List UInt8} :
    Spells text symbols ↔ Text.Utf8.bytes (Text.trim text) = symbols ∧ symbols.length = 43 ∧
      ∀ byte ∈ symbols, byte ∈ alphabet := by
  constructor
  · rintro ⟨⟨core, hcore, hbytes⟩, hlength, hsymbols⟩
    rw [Text.isTrimmed_iff] at hcore
    exact ⟨hcore ▸ hbytes, hlength, hsymbols⟩
  · rintro ⟨hbytes, hlength, hsymbols⟩
    exact ⟨⟨_, Text.isTrimmed_iff.mpr rfl, hbytes⟩, hlength, hsymbols⟩

/-- The symbols of a key are read as the first 256 of the bits that they spell. -/
theorem Spells.ofEncoded {text : String} {symbols : List UInt8} (h : Spells text symbols) :
    ∃ key, Key.ofEncoded text = .ok key ∧ byteBits key.bytes = (spelledBits symbols).take 256 := by
  obtain ⟨rfl, hlength, hsymbols⟩ := spells_iff.mp h
  obtain ⟨bytes, hread, hbytes, hbits⟩ :=
    Bytes.Base64.decodeFrom_symbols 10 hlength hsymbols 0 []
  refine ⟨⟨bytes, hbytes⟩, ofEncoded_eq_ok_iff.mpr ⟨hlength, ?_⟩, hbits⟩
  rw [Bytes.Base64.decode_eq_decodeFrom _ 10 hlength, hread]
  rfl

/-- Nothing else is read as a key. -/
theorem spells_of_ofEncoded {text : String} {key : Key} (h : ofEncoded text = .ok key) :
    Spells text (Text.Utf8.bytes (Text.trim text)) := by
  obtain ⟨hlength, hread⟩ := ofEncoded_eq_ok_iff.mp h
  rw [Bytes.Base64.decode_eq_decodeFrom _ 10 hlength] at hread
  exact spells_iff.mpr
    ⟨rfl, hlength, Bytes.Base64.symbols_of_decodeFrom 10 hlength hread key.length_eq⟩

theorem Spells.unique {text : String} {symbols others : List UInt8} (h : Spells text symbols)
    (h' : Spells text others) : symbols = others :=
  (spells_iff.mp h).1.symm.trans (spells_iff.mp h').1

/-- Symbols are visible characters of ASCII. -/
private theorem visible_of_mem : ∀ byte ∈ alphabet, byte.toNat < 128 ∧
    Text.isBlank (Char.ofNat byte.toNat) = false := by
  decide +kernel

/-- The text of a key spells its bytes. -/
theorem spells_encoded (key : Key) :
    ∃ symbols, Spells key.encoded symbols ∧
      (spelledBits symbols).take 256 = byteBits key.bytes := by
  obtain ⟨hlength, hsymbols, hbits⟩ :=
    Bytes.Base64.spelledBits_encodeUnpadded 10 key.length_eq
  rw [key.length_eq] at hbits
  have hbytes : Text.Utf8.bytes key.encoded = Bytes.Base64.encodeUnpadded key.bytes :=
    Text.Utf8.bytes_ofList_ascii fun byte hbyte => (visible_of_mem byte (hsymbols byte hbyte)).1
  have htrim : Text.trim key.encoded = key.encoded := by
    rw [Text.trim, Text.strip_of_none, String.ofList_toList]
    intro c hc
    rw [encoded, String.toList_ofList, List.mem_map] at hc
    obtain ⟨byte, hbyte, rfl⟩ := hc
    exact (visible_of_mem byte (hsymbols byte hbyte)).2
  exact ⟨_, spells_iff.mpr ⟨by rw [htrim, hbytes], hlength, hsymbols⟩, hbits⟩

/-- The last two of the bits of forty-three symbols belong to the last symbol. -/
theorem take_spelledBits {symbols : List UInt8} (hlength : symbols.length = 43) :
    (spelledBits symbols).take 256 =
      spelledBits (symbols.take 42) ++ (spelledBits (symbols.drop 42)).take 4 := by
  have hfirst : (spelledBits (symbols.take 42)).length = 252 := by
    rw [Bytes.Base64.length_spelledBits, List.length_take, hlength]
    rfl
  conv_lhs => rw [← List.take_append_drop 42 symbols, Bytes.Base64.spelledBits_append]
  rw [show 256 = (spelledBits (symbols.take 42)).length + 4 by rw [hfirst],
    List.take_length_add_append]

/-- The symbols of two keys: the last two bits do not count. -/
theorem take_spelledBits_eq_iff {symbols others : List UInt8}
    (hlength : symbols.length = 43) (hlength' : others.length = 43)
    (hsymbols : ∀ byte ∈ symbols, byte ∈ alphabet) (hothers : ∀ byte ∈ others, byte ∈ alphabet) :
    (spelledBits symbols).take 256 = (spelledBits others).take 256 ↔
      symbols.take 42 = others.take 42 ∧
        (spelledBits (symbols.drop 42)).take 4 = (spelledBits (others.drop 42)).take 4 := by
  rw [take_spelledBits hlength, take_spelledBits hlength']
  have hcount : (symbols.take 42).length = (others.take 42).length := by
    rw [List.length_take, List.length_take, hlength, hlength']
  constructor
  · intro h
    obtain ⟨hfirst, hlast⟩ := List.append_inj h (by
      rw [Bytes.Base64.length_spelledBits, Bytes.Base64.length_spelledBits, hcount])
    refine ⟨Bytes.Base64.spelledBits_inj ?_ ?_ hcount hfirst, hlast⟩
    · exact fun byte hbyte => hsymbols byte (List.mem_of_mem_take hbyte)
    · exact fun byte hbyte => hothers byte (List.mem_of_mem_take hbyte)
  · rintro ⟨hfirst, hlast⟩
    rw [hfirst, hlast]

/-- No text with a pad is symbols: trimming leaves the pad. -/
theorem not_spells_of_pad {text : String} (hpad : '=' ∈ text.toList) {symbols : List UInt8} :
    ¬Spells text symbols := by
  rintro ⟨⟨core, ⟨⟨before, after, htext, hbefore, hafter⟩, -, -⟩, rfl⟩, -, hsymbols⟩
  have hcore : '=' ∈ core.toList := by
    rw [htext, List.mem_append, List.mem_append] at hpad
    obtain (hmem | hmem) | hmem := hpad
    · exact absurd (hbefore _ hmem) (by decide)
    · exact hmem
    · exact absurd (hafter _ hmem) (by decide)
  have hbyte : Bytes.Base64.pad ∈ Text.Utf8.bytes core :=
    List.mem_flatMap.mpr ⟨'=', hcore, by decide⟩
  exact Bytes.Base64.ne_pad_of_mem (hsymbols _ hbyte) rfl

/-- A key is read from its symbols between white space, and from nothing else. -/
theorem ofEncoded_eq_ok_iff_spells {text : String} {key : Key} :
    ofEncoded text = .ok key ↔
      ∃ symbols, Spells text symbols ∧ byteBits key.bytes = (spelledBits symbols).take 256 := by
  constructor
  · intro h
    have hspells := spells_of_ofEncoded h
    obtain ⟨key', hkey', hbits⟩ := hspells.ofEncoded
    rw [h] at hkey'
    cases hkey'
    exact ⟨_, hspells, hbits⟩
  · rintro ⟨symbols, hspells, hbits⟩
    obtain ⟨key', hkey', hbits'⟩ := hspells.ofEncoded
    rw [hkey', ext (byteBits_inj (by rw [key.length_eq, key'.length_eq]) (hbits.trans hbits'.symm))]

/-- A text encodes a key exactly if it is forty-three symbols between white space, and the
key is then the first 256 of the 258 bits that they spell; any other text is refused, among
them each text with a pad.  Two texts encode the same key exactly if they have the same
symbols up to the last two bits.  Each key has a text. -/
theorem ofEncoded_spells :
    (∀ text key, ofEncoded text = .ok key ↔
      ∃ symbols, Spells text symbols ∧ byteBits key.bytes = (spelledBits symbols).take 256) ∧
    (∀ text, (∃ key, ofEncoded text = .ok key) ↔ ∃ symbols, Spells text symbols) ∧
    (∀ text, (∃ fault, ofEncoded text = .error fault) ↔ ¬∃ symbols, Spells text symbols) ∧
    (∀ text, '=' ∈ text.toList → ∃ fault, ofEncoded text = .error fault) ∧
    (∀ text other symbols others key key', Spells text symbols → Spells other others →
      ofEncoded text = .ok key → ofEncoded other = .ok key' →
      (key = key' ↔ symbols.take 42 = others.take 42 ∧
        (spelledBits (symbols.drop 42)).take 4 = (spelledBits (others.drop 42)).take 4)) ∧
    ∀ key, ofEncoded key.encoded = .ok key := by
  have htaken (text : String) :
      (∃ key, ofEncoded text = .ok key) ↔ ∃ symbols, Spells text symbols :=
    ⟨fun ⟨_, h⟩ => ⟨_, spells_of_ofEncoded h⟩,
      fun ⟨_, h⟩ => h.ofEncoded.imp fun _ hkey => hkey.1⟩
  have hrefused (text : String) :
      (∃ fault, ofEncoded text = .error fault) ↔ ¬∃ symbols, Spells text symbols := by
    rw [← htaken]
    cases ofEncoded text with
    | error fault => exact iff_of_true ⟨fault, rfl⟩ nofun
    | ok key => exact iff_of_false nofun (not_not_intro ⟨key, rfl⟩)
  refine ⟨fun _ _ => ofEncoded_eq_ok_iff_spells, htaken, hrefused, ?pads, ?same, ?written⟩
  case pads =>
    intro text hpad
    exact (hrefused text).mpr fun ⟨_, h⟩ => not_spells_of_pad hpad h
  case same =>
    intro text other symbols others key key' htext hother hkey hkey'
    obtain ⟨_, hkeybits, hkeyspells⟩ := ofEncoded_eq_ok_iff_spells.mp hkey
    obtain ⟨_, hkeybits', hkeyspells'⟩ := ofEncoded_eq_ok_iff_spells.mp hkey'
    rw [htext.unique hkeybits, hother.unique hkeybits',
      ← take_spelledBits_eq_iff hkeybits.length hkeybits'.length hkeybits.symbols
        hkeybits'.symbols, ← hkeyspells, ← hkeyspells']
    exact ⟨fun h => by rw [h],
      fun h => ext (byteBits_inj (by rw [key.length_eq, key'.length_eq]) h)⟩
  case written =>
    intro key
    obtain ⟨symbols, hspells, hbits⟩ := spells_encoded key
    exact ofEncoded_eq_ok_iff_spells.mpr ⟨symbols, hspells, hbits.symm⟩

end Key

end CallbackGate
