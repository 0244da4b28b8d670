import CallbackGate.Text.Utf8
import Mathlib.Tactic.SplitIfs

/-!
# What UTF-8 writes, it reads

The reader of UTF-8 is a machine that takes one byte at a time.  This module
runs it over the bytes of a character and finds that character.

There are three groups.

* The first byte of a sequence.  `ofLead?_two`, `ofLead?_three` and
  `ofLead?_four` say which sequence it begins.
* The bytes of one character.  `foldl_read_utf8EncodeChar` leaves the machine
  between sequences with one more piece, the character.
* The bytes of a text.  `decode_bytes` is the round trip, and `bytes_inj`
  follows from it: two texts with the same bytes are the same text.
-/

namespace CallbackGate.Text.Utf8

/-! ## The first byte of a sequence -/

theorem ofLead?_two : ∀ m < 32, 2 ≤ m →
    Partial.ofLead? (m % 32 + 0xC0) = some ⟨m, 1, 1, 0x80, 0xBF⟩ := by
  decide

/-- A first byte of three leaves out overlong forms and surrogates. -/
theorem ofLead?_three : ∀ m < 16,
    Partial.ofLead? (m % 16 + 0xE0) =
      some ⟨m, 2, 1, if m = 0 then 0xA0 else 0x80,
        if m = 13 then 0x9F else 0xBF⟩ := by
  decide

/-- A first byte of four leaves out overlong forms and what lies above
`10FFFF`. -/
theorem ofLead?_four : ∀ m < 5,
    Partial.ofLead? (m % 8 + 0xF0) =
      some ⟨m, 3, 1, if m = 0 then 0x90 else 0x80,
        if m = 4 then 0x8F else 0xBF⟩ := by
  decide

/-! ## The bytes of one character -/

theorem read_ascii (found : List Piece) {n : Nat} (h : n < 0x80) :
    Machine.read ⟨found, none⟩ (UInt8.ofNat n) =
      ⟨.char (Char.ofNat n) 1 :: found, none⟩ := by
  have hn : (UInt8.ofNat n).toNat = n := by
    rw [UInt8.toNat_ofNat']
    omega
  simp only [Machine.read, Machine.start, hn, if_pos h]

/-- A first byte of several begins its sequence. -/
theorem read_lead (found : List Piece) {n : Nat} {sequence : Partial}
    (hn : n < 256) (hlead : Partial.ofLead? n = some sequence) :
    Machine.read ⟨found, none⟩ (UInt8.ofNat n) = ⟨found, some sequence⟩ := by
  have hbyte : (UInt8.ofNat n).toNat = n := by
    rw [UInt8.toNat_ofNat']
    omega
  have hhigh : ¬ n < 0x80 := by
    intro h
    have hnone : Partial.ofLead? n = none := by
      unfold Partial.ofLead?
      repeat rw [if_neg (by omega)]
    rw [hnone] at hlead
    cases hlead
  simp only [Machine.read, Machine.start, hbyte, if_neg hhigh, hlead]

/-- A byte within the bounds is taken into a sequence that is not over with
it. -/
theorem read_inner (found : List Piece) (value due length low high k : Nat)
    (hdue : 2 ≤ due) (hlow : low ≤ k % 64 + 0x80) (hhigh : k % 64 + 0x80 ≤ high) :
    Machine.read ⟨found, some ⟨value, due, length, low, high⟩⟩
        (UInt8.ofNat (k % 64 + 0x80)) =
      ⟨found, some ⟨value * 64 + k % 64, due - 1, length + 1, 0x80, 0xBF⟩⟩ := by
  have hbyte : (UInt8.ofNat (k % 64 + 0x80)).toNat = k % 64 + 0x80 := by
    rw [UInt8.toNat_ofNat']
    omega
  have hdue' : ¬ due ≤ 1 := by omega
  simp only [Machine.read, hbyte, hlow, hhigh, and_self, if_true, if_neg hdue',
    Nat.add_sub_cancel]

/-- The last byte of a sequence within the bounds completes its character. -/
theorem read_last (found : List Piece) (value length k : Nat)
    (low high : Nat) (hlow : low ≤ k % 64 + 0x80) (hhigh : k % 64 + 0x80 ≤ high) :
    Machine.read ⟨found, some ⟨value, 1, length, low, high⟩⟩
        (UInt8.ofNat (k % 64 + 0x80)) =
      ⟨.char (Char.ofNat (value * 64 + k % 64)) (length + 1) :: found, none⟩ := by
  have hbyte : (UInt8.ofNat (k % 64 + 0x80)).toNat = k % 64 + 0x80 := by
    rw [UInt8.toNat_ofNat']
    omega
  simp only [Machine.read, hbyte, hlow, hhigh, and_self, if_true, Nat.le_refl,
    Nat.add_sub_cancel]

/-- The code point of a character is no surrogate and at most `10FFFF`. -/
theorem toNat_isValidChar (c : Char) :
    c.toNat < 0xD800 ∨ 0xDFFF < c.toNat ∧ c.toNat < 0x110000 :=
  c.valid

/-- The machine reads the bytes of a character as that character. -/
theorem foldl_read_utf8EncodeChar (found : List Piece) (c : Char) :
    (String.utf8EncodeChar c).foldl Machine.read ⟨found, none⟩ =
      ⟨.char c (String.utf8EncodeChar c).length :: found, none⟩ := by
  have hvalid := toNat_isValidChar c
  have hc : Char.ofNat c.toNat = c := Char.ofNat_toNat c
  have hval : c.val.toNat = c.toNat := rfl
  unfold String.utf8EncodeChar
  rw [hval]
  generalize c.toNat = n at hvalid hc
  dsimp only
  split_ifs with h1 h2 h3
  · rw [List.foldl_cons, List.foldl_nil, read_ascii found (by omega), hc]
    rfl
  · have hlead := ofLead?_two (n / 64) (by omega) (by omega)
    have hn : n / 64 * 64 + n % 64 = n := Nat.div_add_mod' n 64
    simp only [List.foldl_cons, List.foldl_nil]
    rw [read_lead found (by omega) hlead,
      read_last _ _ _ n _ _ (by omega) (by omega), hn, hc]
    rfl
  · have hlead := ofLead?_three (n / 4096) (by omega)
    have hn : (n / 4096 * 64 + n / 64 % 64) * 64 + n % 64 = n := by omega
    simp only [List.foldl_cons, List.foldl_nil]
    rw [read_lead found (by omega) hlead,
      read_inner _ _ _ _ _ _ (n / 64) (by omega) (by split_ifs <;> omega)
        (by split_ifs <;> omega),
      read_last _ _ _ n _ _ (by omega) (by omega), hn, hc]
    rfl
  · have hlead := ofLead?_four (n / 262144) (by omega)
    have hn : ((n / 262144 * 64 + n / 4096 % 64) * 64 + n / 64 % 64) * 64 +
        n % 64 = n := by omega
    simp only [List.foldl_cons, List.foldl_nil]
    rw [read_lead found (by omega) hlead,
      read_inner _ _ _ _ _ _ (n / 4096) (by omega) (by split_ifs <;> omega)
        (by split_ifs <;> omega),
      read_inner _ _ _ _ _ _ (n / 64) (by omega) (by omega) (by omega),
      read_last _ _ _ n _ _ (by omega) (by omega), hn, hc]
    rfl

/-! ## The bytes of a text -/

private theorem foldl_read_flatMap (characters : List Char) (found : List Piece) :
    (characters.flatMap String.utf8EncodeChar).foldl Machine.read ⟨found, none⟩ =
      ⟨(characters.map fun c =>
        Piece.char c (String.utf8EncodeChar c).length).reverse ++ found, none⟩ := by
  induction characters generalizing found with
  | nil => rfl
  | cons c rest ih =>
    rw [List.flatMap_cons, List.foldl_append, foldl_read_utf8EncodeChar, ih]
    simp

/-- The pieces of what a text writes are its characters. -/
theorem pieces_bytes (text : String) :
    pieces (bytes text) =
      text.toList.map fun c => .char c (String.utf8EncodeChar c).length := by
  unfold pieces bytes
  rw [show ({} : Machine) = ⟨[], none⟩ from rfl, foldl_read_flatMap]
  simp [Machine.finish]

private theorem decodeFrom_map_char (characters before : List Char) (index : Nat)
    (width : Char → Nat) :
    decodeFrom index before (characters.map fun c => .char c (width c)) =
      .ok (before.reverse ++ characters) := by
  induction characters generalizing before index with
  | nil => simp [decodeFrom]
  | cons c rest ih =>
    rw [List.map_cons, decodeFrom, ih]
    simp

/-- Reading undoes writing. -/
theorem decode_bytes (text : String) : decode (bytes text) = .ok text := by
  rw [decode, pieces_bytes, decodeFrom_map_char]
  simp [Except.map]

/-- Texts with the same bytes are the same. -/
theorem bytes_inj {left right : String} (h : bytes left = bytes right) :
    left = right := by
  have hdecode := congrArg decode h
  rw [decode_bytes, decode_bytes] at hdecode
  exact Except.ok.inj hdecode

/-- Bytes below 128 are the UTF-8 of the characters with their values. -/
theorem bytes_ofList_ascii {input : List UInt8}
    (h : ∀ byte ∈ input, byte.toNat < 128) :
    bytes (String.ofList (input.map fun byte => Char.ofNat byte.toNat)) = input := by
  unfold bytes
  rw [String.toList_ofList]
  induction input with
  | nil => rfl
  | cons byte rest ih =>
    have hbyte := h byte (by simp)
    have hnat : (Char.ofNat byte.toNat).val.toNat = byte.toNat := by
      rw [Char.ofNat, dif_pos (Or.inl (by omega))]
      rfl
    rw [List.map_cons, List.flatMap_cons, ih fun b hb => h b (by simp [hb])]
    simp only [String.utf8EncodeChar, hnat]
    rw [if_pos (by omega), UInt8.ofNat_toNat]
    rfl

end CallbackGate.Text.Utf8
