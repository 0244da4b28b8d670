import CallbackGate.Proofs.Decryption

/-!
# Sealing what was opened

Opening a frame looks at the last byte of its pad only.  So a message that was opened
can be sealed again to another ciphertext, which differs in what the other bytes of the
pad are encrypted to and in nothing else.

There are three groups.

* Pads.  The bytes of a pad before its last one are its filler.  `framed_iff_filler`
  says that they are free, and `length_filler` that their number is not.
* Ciphertexts.  `decrypt_eq_ok_iff_filler` lists the ciphertexts that open to a
  message, one for each filler.
* Resealing.  `encrypt_of_decrypt` compares one of them with the one that sealing
  makes.
-/

namespace CallbackGate.Cipher

/-! ## Pads -/

/-- A pad with the given bytes before its last one, which tells the length of the
pad. -/
def padWith (filler : List UInt8) : List UInt8 :=
  filler ++ [UInt8.ofNat (filler.length + 1)]

@[simp] theorem length_padWith (filler : List UInt8) :
    (padWith filler).length = filler.length + 1 := by
  rw [padWith, List.length_append, List.length_singleton]

/-- A frame is a content and a pad with any filler of less than a unit. -/
theorem framed_iff_filler {salt : Salt} {message frame : List UInt8} {account : String} :
    Framed salt message account frame ↔
      message.length < 2 ^ 32 ∧ ∃ filler : List UInt8, filler.length < 32 ∧
        frame = frameContent salt message account ++ padWith filler := by
  constructor
  · intro h
    obtain ⟨hlt, tail, hframe, hpos, hle, hlast⟩ := h
    have hlength : tail.dropLast.length + 1 = tail.length := by
      rw [List.length_dropLast]
      omega
    refine ⟨hlt, tail.dropLast, by omega, ?_⟩
    rw [hframe, padWith, hlength, List.dropLast_append_getLast? _ hlast]
  · intro h
    obtain ⟨hlt, filler, hfiller, hframe⟩ := h
    refine ⟨hlt, padWith filler, hframe, ?_, ?_, ?_⟩
    · rw [length_padWith]
      omega
    · rw [length_padWith]
      omega
    · rw [length_padWith, padWith, List.getLast?_concat]

/-- The pad that padding adds is one with a filler too. -/
theorem exists_padWith_eq_replicate (content : List UInt8) :
    ∃ filler : List UInt8, filler.length + 1 = padLength content.length ∧
      padWith filler =
        List.replicate (padLength content.length) (UInt8.ofNat (padLength content.length)) := by
  have hbounds := padLength_bounds content.length
  have hlength : padLength content.length - 1 + 1 = padLength content.length := by omega
  refine ⟨List.replicate (padLength content.length - 1)
    (UInt8.ofNat (padLength content.length)), ?_, ?_⟩
  · rw [List.length_replicate, hlength]
  · rw [padWith, List.length_replicate, hlength, ← List.replicate_succ', hlength]

/-- The content determines how many bytes of filler a frame has. -/
theorem length_filler {content filler : List UInt8} (hfiller : filler.length < 32)
    (hdvd : 32 ∣ (content ++ padWith filler).length) :
    filler.length + 1 = padLength content.length := by
  rw [List.length_append, length_padWith] at hdvd
  unfold padLength frameUnit
  omega

/-- A pad of this length completes a content. -/
theorem dvd_length_of_filler {content filler : List UInt8}
    (h : filler.length + 1 = padLength content.length) :
    32 ∣ (content ++ padWith filler).length := by
  have hpadded := length_padded_mod content
  rw [length_padded, ← h] at hpadded
  rw [List.length_append, length_padWith]
  omega

/-! ## Ciphertexts -/

variable {salt : Salt} {message ciphertext : List UInt8} {account : String} {key : Key}

/-- What opens is a whole number of units. -/
theorem whole_of_decrypt_eq_ok {decrypted : Decrypted}
    (h : decrypt ciphertext account key = .ok decrypted) :
    0 < ciphertext.length ∧ 32 ∣ ciphertext.length := by
  by_contra hwhole
  have hragged : ciphertext.length = 0 ∨ ¬32 ∣ ciphertext.length := by omega
  rw [decrypt_eq_map, decryptInPlace_of_ragged hragged] at h
  cases h

/-- The ciphertexts that open to a message are the encryptions of its frames, one for
each filler of the length that completes the frame. -/
theorem decrypt_eq_ok_iff_filler :
    decrypt ciphertext account key = .ok ⟨salt, message⟩ ↔
      message.length < 2 ^ 32 ∧ ∃ filler : List UInt8,
        filler.length + 1 = padLength (frameContent salt message account).length ∧
        ciphertext = cbcEncrypt key (frameContent salt message account ++ padWith filler) := by
  constructor
  · intro h
    obtain ⟨hpos, hdvd⟩ := whole_of_decrypt_eq_ok h
    have hframed := (decrypt_eq_ok_iff_framed hpos hdvd account key salt message).mp h
    obtain ⟨hlt, filler, hfiller, hframe⟩ := framed_iff_filler.mp hframed
    have hlength := length_cbcPlaintext key hdvd
    refine ⟨hlt, filler, length_filler hfiller (by rw [← hframe, hlength]; exact hdvd), ?_⟩
    rw [← hframe, ← cbcDecrypt_eq_cbcPlaintext, cbcEncrypt_cbcDecrypt key (by omega)]
  · intro h
    obtain ⟨hlt, filler, hfiller, rfl⟩ := h
    have hdvd := dvd_length_of_filler hfiller
    have hbounds := padLength_bounds (frameContent salt message account).length
    have hmod : (frameContent salt message account ++ padWith filler).length % 16 = 0 := by
      omega
    have hlength := length_cbcEncrypt key hmod
    have hpos : 0 < (frameContent salt message account ++ padWith filler).length := by
      rw [List.length_append, length_padWith]
      omega
    rw [decrypt_eq_ok_iff_framed (by omega) (by omega), cbcPlaintext_cbcEncrypt key hmod,
      framed_iff_filler]
    exact ⟨hlt, filler, by omega, rfl⟩

/-! ## Resealing -/

/-- A pad is filled with its length if all its bytes are its length. -/
theorem padWith_eq_replicate_iff {filler : List UInt8} (h : filler.length < 32) :
    padWith filler = List.replicate (filler.length + 1) (UInt8.ofNat (filler.length + 1)) ↔
      ∀ byte ∈ padWith filler, byte.toNat = filler.length + 1 := by
  rw [List.eq_replicate_iff, length_padWith, and_iff_right rfl]
  refine forall₂_congr fun byte _ => ?_
  rw [← UInt8.toNat_inj, UInt8.toNat_ofNat', Nat.mod_eq_of_lt (by omega)]

/-- The last byte of a pad tells its length. -/
theorem declaredPad_append_padWith (content : List UInt8) {filler : List UInt8}
    (h : filler.length < 32) : declaredPad (content ++ padWith filler) = filler.length + 1 := by
  rw [padWith, declaredPad, ← List.append_assoc, List.getLastD_concat, UInt8.toNat_ofNat',
    Nat.mod_eq_of_lt (by omega)]

/-- The bytes that the last one declares as the pad are the pad. -/
theorem drop_append_padWith (content : List UInt8) {filler : List UInt8}
    (h : filler.length < 32) :
    (content ++ padWith filler).drop
        ((content ++ padWith filler).length - declaredPad (content ++ padWith filler)) =
      padWith filler := by
  rw [declaredPad_append_padWith content h, List.length_append, length_padWith,
    Nat.add_sub_cancel, List.drop_left]

/-- Frames of one content are encrypted to the same bytes but for the last unit. -/
theorem take_cbcEncrypt_of_filler (key : Key) {content first second : List UInt8}
    (hfirst : first.length + 1 = padLength content.length)
    (hsecond : second.length + 1 = padLength content.length) :
    (cbcEncrypt key (content ++ padWith first)).take
        ((content ++ padWith first).length - 32) =
      (cbcEncrypt key (content ++ padWith second)).take
        ((content ++ padWith first).length - 32) := by
  have hbounds := padLength_bounds content.length
  have hdvd := dvd_length_of_filler hfirst
  have hlength : (content ++ padWith first).length = content.length + padLength content.length := by
    rw [List.length_append, length_padWith, hfirst]
  have hsame : (content ++ padWith second).length = (content ++ padWith first).length := by
    rw [List.length_append, length_padWith, hsecond, hlength]
  rw [take_cbcEncrypt key (by omega) (by omega), take_cbcEncrypt key (by omega) (by omega),
    List.take_append_of_le_length (by omega), List.take_append_of_le_length (by omega)]

/-- What a message is sealed to again differs from what was opened in the last unit
only, and there because of the filler only: it is the same if each byte of the pad is the
length of the pad.  That length follows from the content, and the ciphertexts that
open to the message are those of its content with a pad of this length, whatever the
filler. -/
theorem encrypt_of_decrypt (h : decrypt ciphertext account key = .ok ⟨salt, message⟩) :
    let frame := cbcPlaintext key ciphertext
    let pad := declaredPad frame
    ∃ resealed, encrypt salt message account key = .ok resealed ∧
      resealed.length = ciphertext.length ∧
      resealed.take (ciphertext.length - 32) = ciphertext.take (ciphertext.length - 32) ∧
      (resealed = ciphertext ↔
        ∀ byte ∈ frame.drop (frame.length - pad), byte.toNat = pad) ∧
      pad = padLength (frameContent salt message account).length ∧ pad ≤ 32 ∧
      ∀ other, decrypt other account key = .ok ⟨salt, message⟩ ↔
        ∃ filler : List UInt8, filler.length + 1 = pad ∧
          other = cbcEncrypt key
            (frameContent salt message account ++ filler ++ [UInt8.ofNat pad]) := by
  intro frame pad
  obtain ⟨hlt, filler, hfiller, hciphertext⟩ := decrypt_eq_ok_iff_filler.mp h
  set content := frameContent salt message account
  have hbounds := padLength_bounds content.length
  obtain ⟨own, hown, hreplicate⟩ := exists_padWith_eq_replicate content
  have hmod : (content ++ padWith filler).length % 16 = 0 := by
    have hdvd := dvd_length_of_filler hfiller
    omega
  have hmodOwn : (content ++ padWith own).length % 16 = 0 := by
    have hdvd := dvd_length_of_filler hown
    omega
  have hframe : frame = content ++ padWith filler := by
    rw [show frame = cbcPlaintext key ciphertext from rfl, hciphertext,
      cbcPlaintext_cbcEncrypt key hmod]
  have hpad : pad = filler.length + 1 := by
    rw [show pad = declaredPad frame from rfl, hframe,
      declaredPad_append_padWith content (by omega)]
  have hlength : ciphertext.length = (content ++ padWith filler).length := by
    rw [hciphertext, length_cbcEncrypt key hmod]
  have hdrop : frame.drop (frame.length - pad) = padWith filler := by
    rw [show pad = declaredPad frame from rfl, hframe, drop_append_padWith content (by omega)]
  refine ⟨cbcEncrypt key (content ++ padWith own), ?seals, ?length, ?front, ?same, ?pad,
    by omega, fun other => ?others⟩
  case seals =>
    rw [encrypt_eq_ok hlt, padded, ← hreplicate]
  case length =>
    rw [length_cbcEncrypt key hmodOwn, hlength, List.length_append, List.length_append,
      length_padWith, length_padWith, hown, hfiller]
  case front =>
    rw [hlength, hciphertext, take_cbcEncrypt_of_filler key hfiller hown]
  case same =>
    rw [hciphertext, cbcEncrypt_inj key hmodOwn hmod, List.append_right_inj, hdrop, hpad,
      ← padWith_eq_replicate_iff (by omega), hreplicate, hfiller, eq_comm]
  case pad => rw [hpad, hfiller]
  case others =>
    rw [decrypt_eq_ok_iff_filler, and_iff_right hlt, hpad, hfiller]
    refine exists_congr fun filler => and_congr_right fun hother => ?_
    rw [padWith, hother, List.append_assoc]

/-- A frame whose pad of twenty-three bytes is all zero but for the last one opens, and
its message is sealed to another ciphertext. -/
theorem encrypt_of_decrypt_zeros :
    let salt : Salt := ⟨List.replicate 16 2, rfl⟩
    let message : List UInt8 := List.replicate 20 1
    let ciphertext := cbcEncrypt Key.zero
      (frameContent salt message "a" ++ List.replicate 22 0 ++ [23])
    decrypt ciphertext "a" Key.zero = .ok ⟨salt, message⟩ ∧
      ∃ resealed, encrypt salt message "a" Key.zero = .ok resealed ∧
        resealed.length = 64 ∧ resealed.take 32 = ciphertext.take 32 ∧
        resealed ≠ ciphertext := by
  intro salt message ciphertext
  let content := frameContent salt message "a"
  let zeros : List UInt8 := List.replicate 22 0
  have hcontent : content.length = 41 := by
    rw [length_frameContent]
    decide
  have hplain : (content ++ padWith zeros).length = 64 := by
    rw [List.length_append, hcontent]
    rfl
  have hciphertext : ciphertext = cbcEncrypt Key.zero (content ++ padWith zeros) := by
    rw [padWith, ← List.append_assoc]
    rfl
  have hlength : ciphertext.length = 64 := by
    rw [hciphertext, length_cbcEncrypt Key.zero (by rw [hplain]), hplain]
  have hopens : decrypt ciphertext "a" Key.zero = .ok ⟨salt, message⟩ :=
    decrypt_eq_ok_iff_filler.mpr ⟨by decide, zeros, by rw [hcontent]; rfl, hciphertext⟩
  obtain ⟨resealed, hsealed, hsame, hfront, huniform, -⟩ := encrypt_of_decrypt hopens
  rw [hlength] at hsame hfront
  refine ⟨hopens, resealed, hsealed, hsame, hfront, fun h => ?_⟩
  -- The first byte of the pad is zero, and so not its length.
  have hall := huniform.mp h
  rw [hciphertext, cbcPlaintext_cbcEncrypt Key.zero (by rw [hplain]),
    drop_append_padWith content (by decide),
    declaredPad_append_padWith content (by decide)] at hall
  exact absurd (hall 0 (by decide)) (by decide)

end CallbackGate.Cipher
