import CallbackGate.Bytes.Base64
import CallbackGate.Proofs.Outcomes
import Mathlib.Tactic.SplitIfs

/-!
# Base64 has one spelling for each list of bytes

The strict reader of Base64 takes exactly what the writer produces, so every
list of bytes has one spelling (`decode_strict_eq_ok_iff`).

There are four groups.

* The alphabet.  `symbol_of_value?` turns a symbol back into its value.
* Groups of four symbols.  `encode_joinGroup` writes three bytes as four
  symbols, and `decodeFrom_group` reads four symbols as three bytes, whether
  or not more follows.
* What is written is read.  `decode_encode` is the induction over groups of
  three bytes.
* What is read was written.  `Spelled` says which bytes a last group has been
  read from.  One byte keeps it (`Spelled.read`), so a whole group does
  (`Spelled.foldlM`).  `finish_cases` lists the shapes that the strict rules
  leave, and `encode_of_finish` finds the only spelling of each.
-/

namespace CallbackGate.Bytes.Base64

/-! ## The alphabet -/

private theorem value?_ofNat : ∀ n < 256, ∀ v ∈ value? (UInt8.ofNat n),
    v < 64 ∧ symbol v = UInt8.ofNat n := by
  decide +kernel

/-- A symbol has a value below sixty-four, and is the symbol of its value. -/
theorem symbol_of_value? {byte : UInt8} {v : Nat} (h : value? byte = some v) :
    v < 64 ∧ symbol v = byte := by
  have hbyte := value?_ofNat byte.toNat byte.toNat_lt v
  rw [UInt8.ofNat_toNat] at hbyte
  exact hbyte h

/-- A symbol is an ASCII character and not the pad. -/
theorem symbol_ascii : ∀ v < 64, (symbol v).toNat < 128 ∧ symbol v ≠ pad := by
  decide

/-! ## Groups of four symbols -/

/-- The number of bytes from the value of a first and a second symbol. -/
private theorem toNat_byte {n : Nat} (h : n < 256) : (UInt8.ofNat n).toNat = n := by
  rw [UInt8.toNat_ofNat']
  omega

/-- Three bytes are what their four symbols join to. -/
theorem joinGroup_of_bytes (x y z : UInt8) :
    joinGroup (x.toNat / 4) (x.toNat % 4 * 16 + y.toNat / 16)
      (y.toNat % 16 * 4 + z.toNat / 64) (z.toNat % 64) = [x, y, z] := by
  have hx := x.toNat_lt
  have hy := y.toNat_lt
  have hz := z.toNat_lt
  have h1 : x.toNat / 4 * 4 + (x.toNat % 4 * 16 + y.toNat / 16) / 16 = x.toNat := by
    omega
  have h2 : (x.toNat % 4 * 16 + y.toNat / 16) % 16 * 16 +
      (y.toNat % 16 * 4 + z.toNat / 64) / 4 = y.toNat := by omega
  have h3 : (y.toNat % 16 * 4 + z.toNat / 64) % 4 * 64 + z.toNat % 64 = z.toNat := by
    omega
  rw [joinGroup, h1, h2, h3, UInt8.ofNat_toNat, UInt8.ofNat_toNat, UInt8.ofNat_toNat]

/-- Three bytes and more are written as four symbols and more. -/
theorem encode_cons_cons_cons (x y z : UInt8) (rest : List UInt8) :
    encode (x :: y :: z :: rest) =
      symbol (x.toNat / 4) :: symbol (x.toNat % 4 * 16 + y.toNat / 16) ::
        symbol (y.toNat % 16 * 4 + z.toNat / 64) :: symbol (z.toNat % 64) ::
          encode rest := by
  have hlength : (x :: y :: z :: rest).length % 3 = rest.length % 3 := by
    simp only [List.length_cons]
    omega
  simp only [encode, encodeUnpadded, hlength, List.cons_append]

/-- The bytes that four values join to are written as the symbols of these
values. -/
theorem encode_joinGroup {a b c d : Nat} (ha : a < 64) (hb : b < 64) (hc : c < 64)
    (hd : d < 64) (rest : List UInt8) :
    encode (joinGroup a b c d ++ rest) =
      symbol a :: symbol b :: symbol c :: symbol d :: encode rest := by
  have h1 : (a * 4 + b / 16) / 4 = a := by omega
  have h2 : (a * 4 + b / 16) % 4 * 16 + (b % 16 * 16 + c / 4) / 16 = b := by omega
  have h3 : (b % 16 * 16 + c / 4) % 16 * 4 + (c % 4 * 64 + d) / 64 = c := by omega
  have h4 : (c % 4 * 64 + d) % 64 = d := by omega
  simp only [joinGroup, List.cons_append, List.nil_append, encode_cons_cons_cons,
    toNat_byte (show a * 4 + b / 16 < 256 by omega),
    toNat_byte (show b % 16 * 16 + c / 4 < 256 by omega),
    toNat_byte (show c % 4 * 64 + d < 256 by omega), h1, h2, h3, h4]

/-- Four symbols are read as three bytes, at the end of the input as
elsewhere. -/
theorem decodeFrom_group (rules : Rules) (offset : Nat) (before : List UInt8)
    {a b c d : UInt8} {va vb vc vd : Nat} (ha : value? a = some va)
    (hb : value? b = some vb) (hc : value? c = some vc) (hd : value? d = some vd)
    (rest : List UInt8) :
    decodeFrom rules offset before (a :: b :: c :: d :: rest) =
      decodeFrom rules (offset + 4) ((joinGroup va vb vc vd).reverse ++ before)
        rest := by
  have hpad : ∀ byte v, value? byte = some v → byte ≠ pad := by
    intro byte v h h0
    subst h0
    cases h
  cases rest with
  | cons e rest =>
    simp only [decodeFrom, valueAt, ha, hb, hc, hd]
    rfl
  | nil =>
    simp only [decodeFrom, List.foldlM_cons, List.foldlM_nil, LastGroup.read,
      hpad a va ha, hpad b vb hb, hpad c vc hc, hpad d vd hd, ha, hb, hc, hd, if_false,
      Nat.lt_irrefl, bind, Except.bind, pure, Except.pure, LastGroup.finish,
      List.length_cons, List.length_nil]
    simp

/-! ## The last group with pads -/

/-- One byte is what its two symbols join to. -/
theorem take_one_of_byte (x : UInt8) :
    (joinGroup (x.toNat / 4) (x.toNat % 4 * 16) 0 0).take 1 = [x] := by
  have hx : x.toNat / 4 * 4 + x.toNat % 4 * 16 / 16 = x.toNat := by omega
  rw [joinGroup, hx, UInt8.ofNat_toNat]
  rfl

/-- Two bytes are what their three symbols join to. -/
theorem take_two_of_bytes (x y : UInt8) :
    (joinGroup (x.toNat / 4) (x.toNat % 4 * 16 + y.toNat / 16)
      (y.toNat % 16 * 4) 0).take 2 = [x, y] := by
  have hy := y.toNat_lt
  have h1 : x.toNat / 4 * 4 + (x.toNat % 4 * 16 + y.toNat / 16) / 16 = x.toNat := by
    omega
  have h2 : (x.toNat % 4 * 16 + y.toNat / 16) % 16 * 16 + y.toNat % 16 * 4 / 4 =
      y.toNat := by omega
  rw [joinGroup, h1, h2, UInt8.ofNat_toNat, UInt8.ofNat_toNat]
  rfl

/-- The byte of two values without stray bits is written as two symbols and two
pads. -/
theorem encode_take_one {a b : Nat} (ha : a < 64) (hb : b < 64) (hstray : b % 16 = 0) :
    encode ((joinGroup a b 0 0).take 1) = [symbol a, symbol b, pad, pad] := by
  have hbyte := toNat_byte (show a * 4 + b / 16 < 256 by omega)
  have h1 : (a * 4 + b / 16) / 4 = a := by omega
  have h2 : (a * 4 + b / 16) % 4 * 16 = b := by omega
  simp only [joinGroup, List.take_succ_cons, List.take_zero, encode, encodeUnpadded, hbyte,
    h1, h2]
  rfl

/-- The bytes of three values without stray bits are written as three symbols
and a pad. -/
theorem encode_take_two {a b c : Nat} (ha : a < 64) (hb : b < 64) (hc : c < 64)
    (hstray : c % 4 = 0) :
    encode ((joinGroup a b c 0).take 2) = [symbol a, symbol b, symbol c, pad] := by
  have hbyte1 := toNat_byte (show a * 4 + b / 16 < 256 by omega)
  have hbyte2 := toNat_byte (show b % 16 * 16 + c / 4 < 256 by omega)
  have h1 : (a * 4 + b / 16) / 4 = a := by omega
  have h2 : (a * 4 + b / 16) % 4 * 16 + (b % 16 * 16 + c / 4) / 16 = b := by omega
  have h3 : (b % 16 * 16 + c / 4) % 16 * 4 = c := by omega
  simp only [joinGroup, List.take_succ_cons, List.take_zero, encode, encodeUnpadded, hbyte1,
    hbyte2, h1, h2, h3]
  rfl

/-- Two symbols and two pads end an input. -/
theorem decodeFrom_two (offset : Nat) (before : List UInt8) {a b : Nat} (ha : a < 64)
    (hb : b < 64) (hstray : b % 16 = 0) :
    decodeFrom .strict offset before [symbol a, symbol b, pad, pad] =
      .ok (before.reverse ++ (joinGroup a b 0 0).take 1) := by
  simp [decodeFrom, LastGroup.read, value?_symbol a ha, value?_symbol b hb,
    (symbol_ascii a ha).2, (symbol_ascii b hb).2, bind, Except.bind, pure, Except.pure,
    LastGroup.finish, Rules.strict, hstray]

/-- Three symbols and a pad end an input. -/
theorem decodeFrom_three (offset : Nat) (before : List UInt8) {a b c : Nat} (ha : a < 64)
    (hb : b < 64) (hc : c < 64) (hstray : c % 4 = 0) :
    decodeFrom .strict offset before [symbol a, symbol b, symbol c, pad] =
      .ok (before.reverse ++ (joinGroup a b c 0).take 2) := by
  simp [decodeFrom, LastGroup.read, value?_symbol a ha, value?_symbol b hb,
    value?_symbol c hc, (symbol_ascii a ha).2, (symbol_ascii b hb).2,
    (symbol_ascii c hc).2, bind, Except.bind, pure, Except.pure, LastGroup.finish,
    Rules.strict, hstray]

/-! ## What is written is read -/

private theorem decodeFrom_encode (offset : Nat) (before bytes : List UInt8) :
    decodeFrom .strict offset before (encode bytes) = .ok (before.reverse ++ bytes) := by
  match bytes with
  | [] => simp [encode, encodeUnpadded, decodeFrom]
  | [x] =>
    have hx := x.toNat_lt
    rw [← take_one_of_byte x, encode_take_one (by omega) (by omega) (by omega),
      decodeFrom_two _ _ (by omega) (by omega) (by omega)]
  | [x, y] =>
    have hx := x.toNat_lt
    have hy := y.toNat_lt
    rw [← take_two_of_bytes x y,
      encode_take_two (by omega) (by omega) (by omega) (by omega),
      decodeFrom_three _ _ (by omega) (by omega) (by omega) (by omega)]
  | x :: y :: z :: rest =>
    have hx := x.toNat_lt
    have hy := y.toNat_lt
    have hz := z.toNat_lt
    rw [encode_cons_cons_cons,
      decodeFrom_group _ _ _ (value?_symbol _ (by omega)) (value?_symbol _ (by omega))
        (value?_symbol _ (by omega)) (value?_symbol _ (by omega)),
      decodeFrom_encode, joinGroup_of_bytes]
    simp

theorem length_encode_mod (bytes : List UInt8) : (encode bytes).length % 4 = 0 := by
  match bytes with
  | [] => rfl
  | [_] => simp [encode, encodeUnpadded]
  | [_, _] => simp [encode, encodeUnpadded]
  | x :: y :: z :: rest =>
    rw [encode_cons_cons_cons]
    have ih := length_encode_mod rest
    simp only [List.length_cons]
    omega

/-- The strict reader gives back what was written. -/
theorem decode_encode (bytes : List UInt8) :
    decode .strict (encode bytes) = .ok bytes := by
  have hlast : strayLast? (encode bytes) = none := by
    rw [strayLast?, if_neg]
    rw [length_encode_mod]
    omega
  rw [decode, hlast]
  exact decodeFrom_encode 0 [] bytes

/-- Everything that is written is ASCII. -/
theorem encode_ascii (bytes : List UInt8) : ∀ byte ∈ encode bytes, byte.toNat < 128 := by
  match bytes with
  | [] => simp [encode, encodeUnpadded]
  | [x] =>
    have hx := x.toNat_lt
    have h1 := (symbol_ascii (x.toNat / 4) (by omega)).1
    have h2 := (symbol_ascii (x.toNat % 4 * 16) (by omega)).1
    simp [encode, encodeUnpadded, pad, h1, h2]
  | [x, y] =>
    have hx := x.toNat_lt
    have hy := y.toNat_lt
    have h1 := (symbol_ascii (x.toNat / 4) (by omega)).1
    have h2 := (symbol_ascii (x.toNat % 4 * 16 + y.toNat / 16) (by omega)).1
    have h3 := (symbol_ascii (y.toNat % 16 * 4) (by omega)).1
    simp [encode, encodeUnpadded, pad, h1, h2, h3]
  | x :: y :: z :: rest =>
    have hx := x.toNat_lt
    have hy := y.toNat_lt
    have hz := z.toNat_lt
    have h1 := (symbol_ascii (x.toNat / 4) (by omega)).1
    have h2 := (symbol_ascii (x.toNat % 4 * 16 + y.toNat / 16) (by omega)).1
    have h3 := (symbol_ascii (y.toNat % 16 * 4 + z.toNat / 64) (by omega)).1
    have h4 := (symbol_ascii (z.toNat % 64) (by omega)).1
    rw [encode_cons_cons_cons]
    simpa [h1, h2, h3, h4] using encode_ascii rest

/-! ## What is read was written -/

/-- The bytes that a last group has been read from: symbols with their values,
then pads, of which there are none unless two symbols stand before them. -/
structure Spelled (group : LastGroup) (input : List UInt8) : Prop where
  bytes_eq : input =
    group.values.reverse.map Prod.snd ++ List.replicate group.pads pad
  value_eq : ∀ entry ∈ group.values, value? entry.2 = some entry.1
  two_symbols : 0 < group.pads → 2 ≤ group.values.length

theorem Spelled.nil : Spelled {} [] := ⟨rfl, by simp, by simp⟩

/-- Reading one byte keeps track of the bytes read. -/
theorem Spelled.read {offset : Nat} {group next : LastGroup} {input : List UInt8}
    {byte : UInt8} (h : Spelled group input)
    (hread : LastGroup.read offset group byte = .ok next) :
    Spelled next (input ++ [byte]) := by
  unfold LastGroup.read at hread
  dsimp only at hread
  split_ifs at hread with hpad hplace hpads
  · cases hread
    have hreplicate : List.replicate (group.pads + 1) pad =
        List.replicate group.pads pad ++ [pad] := List.replicate_succ'
    refine ⟨?_, h.value_eq, ?_⟩
    · dsimp only
      rw [h.bytes_eq, hpad, hreplicate, List.append_assoc]
    · intro _
      have := h.two_symbols
      dsimp only
      omega
  · have hzero : group.pads = 0 := by omega
    split at hread
    · cases hread
    · next v hv =>
      cases hread
      refine ⟨?_, ?_, ?_⟩
      · rw [h.bytes_eq]
        simp [hzero]
      · intro entry hentry
        rcases List.mem_cons.1 hentry with rfl | hentry
        · exact hv
        · exact h.value_eq entry hentry
      · intro hpos
        exact absurd hpos hpads

/-- Reading a whole group keeps track of its bytes. -/
theorem Spelled.foldlM {offset : Nat} {group last : LastGroup} {before input : List UInt8}
    (h : Spelled group before)
    (hread : input.foldlM (LastGroup.read offset) group = .ok last) :
    Spelled last (before ++ input) := by
  induction input generalizing group before with
  | nil =>
    cases hread
    simpa using h
  | cons byte rest ih =>
    rw [List.foldlM_cons] at hread
    cases hnext : LastGroup.read offset group byte with
    | error fault =>
      rw [hnext] at hread
      cases hread
    | ok next =>
      rw [hnext] at hread
      have hspelled := ih (h.read hnext) hread
      rwa [List.append_assoc] at hspelled

theorem valueAt_eq_ok_iff {offset : Nat} {byte : UInt8} {v : Nat} :
    valueAt offset byte = .ok v ↔ value? byte = some v := by
  unfold valueAt
  cases value? byte with
  | none => exact iff_of_false (by rintro ⟨⟩) (by rintro ⟨⟩)
  | some value => rw [Except.ok.injEq, Option.some.injEq]

/-- The strict rules leave three shapes of a last group: two, three or four
symbols with pads up to four, and no bits that do not count. -/
theorem finish_cases {offset : Nat} {group : LastGroup} {bytes : List UInt8}
    (hlength : group.values.length + group.pads ≤ 4)
    (hfinish : group.finish .strict offset = .ok bytes) :
    (∃ x y, group = ⟨[y, x], 2⟩ ∧ y.1 % 16 = 0 ∧ bytes = (joinGroup x.1 y.1 0 0).take 1) ∨
    (∃ x y z, group = ⟨[z, y, x], 1⟩ ∧ z.1 % 4 = 0 ∧
      bytes = (joinGroup x.1 y.1 z.1 0).take 2) ∨
    (∃ x y z w, group = ⟨[w, z, y, x], 0⟩ ∧ bytes = joinGroup x.1 y.1 z.1 w.1) := by
  obtain ⟨values, pads⟩ := group
  dsimp only at hlength
  unfold LastGroup.finish at hfinish
  simp only [Rules.strict, Bool.true_and] at hfinish
  split_ifs at hfinish with htwo hpadded
  have hfull : values.length + pads = 4 := by
    have hmod : (values.length + pads) % 4 = 0 := by simpa using hpadded
    omega
  match values, hfull, hfinish with
  | [], _, _ => exact absurd (by simp) htwo
  | [_], _, _ => exact absurd (by simp) htwo
  | [y, x], hfull, hfinish =>
    have hpads : pads = 2 := by
      simp only [List.length_cons, List.length_nil] at hfull
      omega
    simp only [List.reverse_cons, List.reverse_nil, List.nil_append,
      List.cons_append] at hfinish
    split_ifs at hfinish with hstray
    cases hfinish
    exact Or.inl ⟨x, y, by rw [hpads], by simpa using hstray, rfl⟩
  | [z, y, x], hfull, hfinish =>
    have hpads : pads = 1 := by
      simp only [List.length_cons, List.length_nil] at hfull
      omega
    simp only [List.reverse_cons, List.reverse_nil, List.nil_append,
      List.cons_append] at hfinish
    split_ifs at hfinish with hstray
    cases hfinish
    exact Or.inr (Or.inl ⟨x, y, z, by rw [hpads], by simpa using hstray, rfl⟩)
  | [w, z, y, x], hfull, hfinish =>
    have hpads : pads = 0 := by
      simp only [List.length_cons, List.length_nil] at hfull
      omega
    cases hfinish
    exact Or.inr (Or.inr ⟨x, y, z, w, by rw [hpads], rfl⟩)
  | _ :: _ :: _ :: _ :: _ :: _, hfull, _ =>
    simp only [List.length_cons] at hfull
    omega

/-- Under the strict rules the bytes of a last group are written as the bytes
that it was read from. -/
theorem encode_of_finish {offset : Nat} {group : LastGroup} {input bytes : List UInt8}
    (h : Spelled group input) (hlength : input.length ≤ 4)
    (hfinish : group.finish .strict offset = .ok bytes) : encode bytes = input := by
  have hbytes := h.bytes_eq
  have hsymbol : ∀ entry ∈ group.values, entry.1 < 64 ∧ symbol entry.1 = entry.2 := by
    intro entry hentry
    exact symbol_of_value? (h.value_eq entry hentry)
  have hcount : group.values.length + group.pads = input.length := by
    rw [hbytes]
    simp
  rcases finish_cases (by omega) hfinish with
    ⟨x, y, rfl, hstray, rfl⟩ | ⟨x, y, z, rfl, hstray, rfl⟩ | ⟨x, y, z, w, rfl, rfl⟩
  · obtain ⟨hx, hxbyte⟩ := hsymbol x (by simp)
    obtain ⟨hy, hybyte⟩ := hsymbol y (by simp)
    rw [encode_take_one hx hy hstray, hbytes, hxbyte, hybyte]
    rfl
  · obtain ⟨hx, hxbyte⟩ := hsymbol x (by simp)
    obtain ⟨hy, hybyte⟩ := hsymbol y (by simp)
    obtain ⟨hz, hzbyte⟩ := hsymbol z (by simp)
    rw [encode_take_two hx hy hz hstray, hbytes, hxbyte, hybyte, hzbyte]
    rfl
  · obtain ⟨hx, hxbyte⟩ := hsymbol x (by simp)
    obtain ⟨hy, hybyte⟩ := hsymbol y (by simp)
    obtain ⟨hz, hzbyte⟩ := hsymbol z (by simp)
    obtain ⟨hw, hwbyte⟩ := hsymbol w (by simp)
    have hjoin := encode_joinGroup hx hy hz hw []
    rw [List.append_nil] at hjoin
    rw [hjoin, hbytes, hxbyte, hybyte, hzbyte, hwbyte]
    rfl

private theorem eq_encode_of_decodeFrom {offset : Nat} {before input bytes : List UInt8}
    (h : decodeFrom .strict offset before input = .ok bytes) :
    ∃ tail, bytes = before.reverse ++ tail ∧ input = encode tail := by
  fun_induction decodeFrom .strict offset before input with
  | case1 offset before a b c d e rest ih =>
    obtain ⟨va, ha, h⟩ := bind_eq_ok_iff.mp h
    obtain ⟨vb, hb, h⟩ := bind_eq_ok_iff.mp h
    obtain ⟨vc, hc, h⟩ := bind_eq_ok_iff.mp h
    obtain ⟨vd, hd, h⟩ := bind_eq_ok_iff.mp h
    rw [valueAt_eq_ok_iff] at ha hb hc hd
    obtain ⟨tail, rfl, hrest⟩ := ih va vb vc vd h
    obtain ⟨ha64, rfl⟩ := symbol_of_value? ha
    obtain ⟨hb64, rfl⟩ := symbol_of_value? hb
    obtain ⟨hc64, rfl⟩ := symbol_of_value? hc
    obtain ⟨hd64, rfl⟩ := symbol_of_value? hd
    refine ⟨joinGroup va vb vc vd ++ tail, by simp, ?_⟩
    rw [encode_joinGroup ha64 hb64 hc64 hd64, hrest]
  | case2 offset before =>
    cases h
    exact ⟨[], by simp, rfl⟩
  | case3 offset before last hlong hne =>
    have hlength : last.length ≤ 4 := by
      match last, hlong with
      | a :: b :: c :: d :: e :: rest, hlong => exact absurd rfl (hlong a b c d e rest)
      | [], _ | [_], _ | [_, _], _ | [_, _, _], _ | [_, _, _, _], _ => simp
    obtain ⟨group, hgroup, h⟩ := bind_eq_ok_iff.mp h
    obtain ⟨tail, hfinish, h⟩ := bind_eq_ok_iff.mp h
    cases h
    have hspelled : Spelled group last := Spelled.nil.foldlM hgroup
    exact ⟨tail, rfl, (encode_of_finish hspelled hlength hfinish).symm⟩

/-- The strict reader takes the spelling of bytes and nothing else. -/
theorem decode_strict_eq_ok_iff {input bytes : List UInt8} :
    decode .strict input = .ok bytes ↔ input = encode bytes := by
  constructor
  · intro h
    unfold decode at h
    split at h
    · cases h
    · obtain ⟨tail, rfl, hinput⟩ := eq_encode_of_decodeFrom h
      exact hinput
  · intro h
    subst h
    exact decode_encode bytes

end CallbackGate.Bytes.Base64
