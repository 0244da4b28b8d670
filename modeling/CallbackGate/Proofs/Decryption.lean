import CallbackGate.Proofs.Framing

/-!
# Opening any ciphertext

A sealed message opens for the account it was sealed for and for no other.  What
becomes of any other ciphertext depends on the bytes it decrypts to, and no byte
outside the buffer is read to find out.

There are four groups.

* Checked reading.  `openFrame?`, `decryptInPlace?` and `decrypt?` fail where a
  byte outside the buffer would be read; they never do.
* Whole buffers.  `decrypt_cases` carries the case analysis of a frame over to
  ciphertexts.
* Sealed messages.  `decrypt_of_encrypt` is the round trip.
* Any ciphertext.  `decrypt_verdict` says what becomes of it.
-/

namespace CallbackGate.Cipher

/-! ## Checked reading -/

/-- The bytes of a range, if the range lies in the buffer. -/
def slice? (bytes : List UInt8) (first stop : Nat) : Option (List UInt8) :=
  if first ≤ stop ∧ stop ≤ bytes.length then some (slice bytes first stop) else none

theorem slice?_eq {bytes : List UInt8} {first stop : Nat} (hfirst : first ≤ stop)
    (hstop : stop ≤ bytes.length) :
    slice? bytes first stop = some (slice bytes first stop) :=
  if_pos ⟨hfirst, hstop⟩

/-- What is left of a length, if that is not negative. -/
def difference? (length taken : Nat) : Option Nat :=
  if taken ≤ length then some (length - taken) else none

/-- Check a decrypted frame for an account; nothing where the check would read
a byte that is not in the buffer, or leave a negative length. -/
def openFrame? (frame : List UInt8) (account : String) :
    Option (Except CryptoError Opening) := do
  let last ← frame[frame.length - 1]?
  let pad := last.toNat
  if ¬(1 ≤ pad ∧ pad ≤ frameUnit) then
    return .error .invalidPadding
  let contentLength ← difference? frame.length pad
  if contentLength < headerLength then
    return .error .corruptEnvelope
  let declared ← slice? frame 16 headerLength
  let stop := headerLength + Bytes.BigEndian.toNat declared
  if contentLength < stop then
    return .error .corruptEnvelope
  let identifier ← slice? frame stop contentLength
  if identifier ≠ Text.Utf8.bytes account then
    return .error .accountMismatch
  let salt ← (slice? frame 0 16).bind Salt.ofBytes?
  return .ok ⟨salt, headerLength, stop⟩

/-- Decrypt a buffer where it stands, reading inside it only. -/
def decryptInPlace? (buffer : List UInt8) (account : String) (key : Key) :
    Option (List UInt8 × Except CryptoError Opening) := do
  if buffer.length = 0 ∨ buffer.length % frameUnit ≠ 0 then
    return (buffer, .error (.invalidLength buffer.length))
  let frame := cbcDecrypt key buffer
  return (frame, ← openFrame? frame account)

/-- Open a ciphertext, reading inside the decrypted buffer only. -/
def decrypt? (ciphertext : List UInt8) (account : String) (key : Key) :
    Option (Except CryptoError Decrypted) := do
  match ← decryptInPlace? ciphertext account key with
  | (buffer, .ok opening) =>
    return .ok ⟨opening.salt, ← slice? buffer opening.first opening.stop⟩
  | (_, .error error) => return .error error

theorem getElem?_length_sub_one {frame : List UInt8} (h : 1 ≤ frame.length) :
    frame[frame.length - 1]? = some (frame.getLastD 0) := by
  have hne : frame ≠ [] := List.ne_nil_of_length_pos h
  rw [← List.getLast?_eq_getElem?, List.getLastD_eq_getLast?, List.getLast?_eq_some_getLast hne]
  rfl

theorem openFrame?_eq_bind {frame : List UInt8} (h : 1 ≤ frame.length) (account : String) :
    openFrame? frame account =
      if ¬(1 ≤ declaredPad frame ∧ declaredPad frame ≤ 32) then
        some (.error .invalidPadding)
      else (difference? frame.length (declaredPad frame)).bind fun length =>
        if length < 20 then some (.error .corruptEnvelope)
        else (slice? frame 16 20).bind fun declared =>
          if length < 20 + Bytes.BigEndian.toNat declared then
            some (.error .corruptEnvelope)
          else (slice? frame (20 + Bytes.BigEndian.toNat declared) length).bind
              fun identifier =>
            if identifier ≠ Text.Utf8.bytes account then some (.error .accountMismatch)
            else ((slice? frame 0 16).bind Salt.ofBytes?).bind fun salt =>
              some (.ok ⟨salt, 20, 20 + Bytes.BigEndian.toNat declared⟩) := by
  rw [openFrame?, getElem?_length_sub_one h]
  rfl

/-- No check of a buffer of at least one unit reads outside it. -/
theorem openFrame?_eq {frame : List UInt8} (h : 32 ≤ frame.length) (account : String) :
    openFrame? frame account = some (openFrame frame account) := by
  have hsalt : (slice frame 0 16).length = 16 := by
    rw [length_slice]
    omega
  rw [openFrame?_eq_bind (by omega), openFrame_eq]
  by_cases hpad : 1 ≤ declaredPad frame ∧ declaredPad frame ≤ 32
  · rw [if_neg (not_not.mpr hpad), if_neg (not_not.mpr hpad), difference?, if_pos (by omega),
      Option.bind_some]
    by_cases hshort : frame.length - declaredPad frame < 20
    · rw [if_pos hshort, if_pos hshort]
    · rw [if_neg hshort, if_neg hshort, slice?_eq (by omega) (by omega), Option.bind_some]
      show (if frame.length - declaredPad frame < 20 + declaredLength frame then _ else _) = _
      by_cases hlength : frame.length - declaredPad frame < 20 + declaredLength frame
      · rw [if_pos hlength, if_pos hlength]
      · rw [if_neg hlength, if_neg hlength]
        show (slice? frame (20 + declaredLength frame) _).bind _ = _
        rw [slice?_eq (by omega) (by omega), Option.bind_some]
        by_cases haccount : slice frame (20 + declaredLength frame)
            (frame.length - declaredPad frame) = Text.Utf8.bytes account
        · rw [if_neg (not_not.mpr haccount), if_neg (not_not.mpr haccount),
            slice?_eq (by omega) (by omega), Option.bind_some, Salt.ofBytes?, dif_pos hsalt]
          rfl
        · rw [if_pos haccount, if_pos haccount]
  · rw [if_pos hpad, if_pos hpad]

/-! ## Whole buffers -/

/-- A buffer of another length than a whole number of units is left alone. -/
theorem decryptInPlace_of_ragged {buffer : List UInt8}
    (h : buffer.length = 0 ∨ ¬32 ∣ buffer.length) (account : String) (key : Key) :
    decryptInPlace buffer account key = (buffer, .error (.invalidLength buffer.length)) := by
  have hmod : buffer.length = 0 ∨ buffer.length % frameUnit ≠ 0 := by
    rw [frameUnit]
    omega
  rw [decryptInPlace, if_pos hmod]

/-- Any other buffer is decrypted and then opened. -/
theorem decryptInPlace_of_whole {buffer : List UInt8} (hpos : 0 < buffer.length)
    (hdvd : 32 ∣ buffer.length) (account : String) (key : Key) :
    decryptInPlace buffer account key =
      (cbcPlaintext key buffer, openFrame (cbcPlaintext key buffer) account) := by
  have hmod : ¬(buffer.length = 0 ∨ buffer.length % frameUnit ≠ 0) := by
    rw [frameUnit]
    omega
  rw [decryptInPlace, if_neg hmod, cbcDecrypt_eq_cbcPlaintext]

theorem length_cbcPlaintext (key : Key) {sealed : List UInt8} (h : 32 ∣ sealed.length) :
    (cbcPlaintext key sealed).length = sealed.length := by
  rw [← cbcDecrypt_eq_cbcPlaintext, length_cbcDecrypt key (by omega)]

/-- Opening a ciphertext takes the message out of the buffer decrypted in
place. -/
theorem decrypt_eq_map (ciphertext : List UInt8) (account : String) (key : Key) :
    decrypt ciphertext account key =
      (decryptInPlace ciphertext account key).2.map fun opening =>
        ⟨opening.salt, slice (decryptInPlace ciphertext account key).1
          opening.first opening.stop⟩ := by
  unfold decrypt
  rcases decryptInPlace ciphertext account key with ⟨buffer, error | opening⟩
  · rfl
  · rfl

/-- No buffer makes the decryption in place read outside it. -/
theorem decryptInPlace?_eq (buffer : List UInt8) (account : String) (key : Key) :
    decryptInPlace? buffer account key = some (decryptInPlace buffer account key) := by
  unfold decryptInPlace? decryptInPlace
  by_cases h : buffer.length = 0 ∨ buffer.length % frameUnit ≠ 0
  · rw [if_pos h, if_pos h]
    rfl
  · have hmod : buffer.length % 32 = 0 := by
      rw [frameUnit] at h
      omega
    have hlength := length_cbcDecrypt key (show buffer.length % 16 = 0 by omega)
    rw [if_neg h, if_neg h]
    show (openFrame? (cbcDecrypt key buffer) account).bind _ = _
    rw [openFrame?_eq (by omega)]
    rfl

/-- No ciphertext makes its decryption read outside the buffer. -/
theorem decrypt?_eq (ciphertext : List UInt8) (account : String) (key : Key) :
    decrypt? ciphertext account key = some (decrypt ciphertext account key) := by
  rw [decrypt?, decryptInPlace?_eq, Option.bind_eq_bind, Option.bind_some, decrypt]
  by_cases h : ciphertext.length = 0 ∨ ¬32 ∣ ciphertext.length
  · rw [decryptInPlace_of_ragged h]
    rfl
  · rw [decryptInPlace_of_whole (by omega) (by omega)]
    cases hopen : openFrame (cbcPlaintext key ciphertext) account with
    | error error => rfl
    | ok opening =>
      -- The message of a frame ends before its pad, and so inside the buffer.
      obtain ⟨hfirst, hstop, hframed⟩ := framed_of_openFrame hopen
      have hpad := hframed.declaredPad_eq.2.2
      have hlength := hframed.declaredLength_eq
      show (slice? _ opening.first opening.stop).bind _ = _
      rw [slice?_eq (by omega) (by omega)]
      rfl

/-- What opening a whole number of units can come to, each with its cause. -/
theorem decrypt_cases {ciphertext : List UInt8} (hpos : 0 < ciphertext.length)
    (hdvd : 32 ∣ ciphertext.length) (account : String) (key : Key) :
    let frame := cbcPlaintext key ciphertext
    (¬(1 ≤ declaredPad frame ∧ declaredPad frame ≤ 32) ∧
      decrypt ciphertext account key = .error .invalidPadding) ∨
    (1 ≤ declaredPad frame ∧ declaredPad frame ≤ 32 ∧
      ciphertext.length - declaredPad frame < 20 + declaredLength frame ∧
      decrypt ciphertext account key = .error .corruptEnvelope) ∨
    (1 ≤ declaredPad frame ∧ declaredPad frame ≤ 32 ∧
      20 + declaredLength frame ≤ ciphertext.length - declaredPad frame ∧
      slice frame (20 + declaredLength frame) (ciphertext.length - declaredPad frame) ≠
        Text.Utf8.bytes account ∧
      decrypt ciphertext account key = .error .accountMismatch) ∨
    (1 ≤ declaredPad frame ∧ declaredPad frame ≤ 32 ∧
      20 + declaredLength frame ≤ ciphertext.length - declaredPad frame ∧
      slice frame (20 + declaredLength frame) (ciphertext.length - declaredPad frame) =
        Text.Utf8.bytes account ∧
      ∃ salt : Salt, salt.bytes = slice frame 0 16 ∧
        decrypt ciphertext account key =
          .ok ⟨salt, slice frame 20 (20 + declaredLength frame)⟩) := by
  intro frame
  have hdecrypt : decrypt ciphertext account key =
      (openFrame frame account).map fun opening =>
        ⟨opening.salt, slice frame opening.first opening.stop⟩ := by
    rw [decrypt_eq_map, decryptInPlace_of_whole hpos hdvd]
  rw [← length_cbcPlaintext key hdvd, hdecrypt]
  rcases openFrame_cases frame account with
    ⟨hpad, hopen⟩ | ⟨hlow, hhigh, hlt, hopen⟩ | ⟨hlow, hhigh, hfit, hne, hopen⟩ |
      ⟨hlow, hhigh, hfit, heq, salt, hsalt, hopen⟩
  · exact Or.inl ⟨hpad, by rw [hopen]; rfl⟩
  · exact Or.inr (Or.inl ⟨hlow, hhigh, hlt, by rw [hopen]; rfl⟩)
  · exact Or.inr (Or.inr (Or.inl ⟨hlow, hhigh, hfit, hne, by rw [hopen]; rfl⟩))
  · exact Or.inr (Or.inr (Or.inr
      ⟨hlow, hhigh, hfit, heq, salt, hsalt, by rw [hopen]; rfl⟩))

/-- A whole number of units opens to a message exactly if it decrypts to a frame
of this message. -/
theorem decrypt_eq_ok_iff_framed {ciphertext : List UInt8} (hpos : 0 < ciphertext.length)
    (hdvd : 32 ∣ ciphertext.length) (account : String) (key : Key) (salt : Salt)
    (message : List UInt8) :
    decrypt ciphertext account key = .ok ⟨salt, message⟩ ↔
      Framed salt message account (cbcPlaintext key ciphertext) := by
  rw [decrypt_eq_map, decryptInPlace_of_whole hpos hdvd]
  constructor
  · intro h
    cases hopen : openFrame (cbcPlaintext key ciphertext) account with
    | error error =>
      rw [hopen] at h
      cases h
    | ok opening =>
      rw [hopen] at h
      cases h
      exact (framed_of_openFrame hopen).2.2
  · intro h
    rw [openFrame_of_framed h account, if_pos rfl, Except.map, h.slice_message]

/-! ## Sealed messages -/

/-- Sealing a message succeeds if its length fits the header. -/
theorem encrypt_eq_ok {message : List UInt8} (h : message.length < 2 ^ 32) (salt : Salt)
    (account : String) (key : Key) :
    encrypt salt message account key =
      .ok (cbcEncrypt key (padded (frameContent salt message account))) :=
  if_pos h

/-- It fails if not. -/
theorem encrypt_of_long {message : List UInt8} (h : 2 ^ 32 ≤ message.length) (salt : Salt)
    (account : String) (key : Key) :
    encrypt salt message account key = .error (.invalidLength message.length) :=
  if_neg (Nat.not_lt.mpr h)

/-- Sealing makes as many bytes as the padded frame has. -/
theorem length_sealed (salt : Salt) (message : List UInt8) (account : String) (key : Key) :
    (cbcEncrypt key (padded (frameContent salt message account))).length =
      (padded (frameContent salt message account)).length := by
  have hmod := length_padded_mod (frameContent salt message account)
  exact length_cbcEncrypt key (by omega)

/-- A sealed message opens for its own account and for no other. -/
theorem decrypt_sealed {message : List UInt8} (h : message.length < 2 ^ 32) (salt : Salt)
    (account reader : String) (key : Key) :
    decrypt (cbcEncrypt key (padded (frameContent salt message account))) reader key =
      if reader = account then .ok ⟨salt, message⟩ else .error .accountMismatch := by
  have hframed := framed_padded salt account h
  have hmod := length_padded_mod (frameContent salt message account)
  have hpos : (padded (frameContent salt message account)).length ≠ 0 := by
    rw [length_padded, length_frameContent]
    omega
  have hlength := length_sealed salt message account key
  rw [decrypt_eq_map, decryptInPlace_of_whole (by omega) (by omega),
    ← cbcDecrypt_eq_cbcPlaintext, cbcDecrypt_cbcEncrypt key (by omega),
    openFrame_of_framed hframed]
  by_cases hreader : reader = account
  · rw [if_pos hreader, if_pos hreader, Except.map, hframed.slice_message]
  · rw [if_neg hreader, if_neg hreader, Except.map]

/-- A message that is short enough can be sealed, and opens again. -/
theorem exists_sealed {message : List UInt8} (h : message.length < 2 ^ 32) (salt : Salt)
    (account : String) (key : Key) :
    ∃ ciphertext, encrypt salt message account key = .ok ciphertext ∧
      decrypt ciphertext account key = .ok ⟨salt, message⟩ :=
  ⟨_, encrypt_eq_ok h salt account key,
    (decrypt_sealed h salt account account key).trans (if_pos rfl)⟩

/-- Sealing takes the least whole number of units with room for a pad, and
opening gives the message back to the account it was sealed for and to no
other. -/
theorem decrypt_of_encrypt (salt : Salt) (message : List UInt8) (account reader : String)
    (key : Key) (h : message.length < 2 ^ 32) :
    ∃ ciphertext, encrypt salt message account key = .ok ciphertext ∧
      IsLeast {n | 32 ∣ n ∧ 20 + message.length + (Text.Utf8.bytes account).length < n}
        ciphertext.length ∧
      (reader = account → decrypt ciphertext reader key = .ok ⟨salt, message⟩) ∧
      (reader ≠ account → decrypt ciphertext reader key = .error .accountMismatch) := by
  refine ⟨_, encrypt_eq_ok h salt account key, ?_, ?_, ?_⟩
  · rw [length_sealed, ← length_frameContent]
    exact isLeast_length_padded (frameContent salt message account)
  · intro hreader
    rw [decrypt_sealed h, if_pos hreader]
  · intro hreader
    rw [decrypt_sealed h, if_neg hreader]

/-- A message that looks like a pad, for an account that does too, with a
content that is aligned: its pad is a whole unit, and the account of one byte
less cannot open it. -/
theorem decrypt_of_encrypt_aligned :
    let salt : Salt := ⟨List.replicate 16 2, rfl⟩
    let message : List UInt8 := List.replicate 10 2
    message.length < 2 ^ 32 ∧
      ∃ ciphertext, encrypt salt message "\x02\x02" Key.zero = .ok ciphertext ∧
        ciphertext.length = 64 ∧
        decrypt ciphertext "\x02\x02" Key.zero = .ok ⟨salt, message⟩ ∧
        decrypt ciphertext "\x02" Key.zero = .error .accountMismatch := by
  intro salt message
  have hlength : message.length < 2 ^ 32 := by decide
  have hbytes : (Text.Utf8.bytes "\x02\x02").length = 2 := by decide
  obtain ⟨ciphertext, hsealed, hleast, hown, -⟩ :=
    decrypt_of_encrypt salt message "\x02\x02" "\x02\x02" Key.zero hlength
  obtain ⟨again, hagain, -, -, hother⟩ :=
    decrypt_of_encrypt salt message "\x02\x02" "\x02" Key.zero hlength
  rw [hsealed, Except.ok.injEq] at hagain
  rw [← hagain] at hother
  refine ⟨hlength, ciphertext, hsealed, ?_, hown rfl, hother (by decide)⟩
  obtain ⟨⟨hdvd, hlt⟩, hmin⟩ := hleast
  have hten : message.length = 10 := rfl
  have hle : ciphertext.length ≤ 64 := hmin ⟨by decide, by omega⟩
  omega

/-! ## Any ciphertext -/

section Verdict

variable {ciphertext : List UInt8} (hpos : 0 < ciphertext.length)
  (hdvd : 32 ∣ ciphertext.length) (account : String) (key : Key)
include hpos hdvd

theorem decrypt_eq_invalidPadding_iff :
    decrypt ciphertext account key = .error .invalidPadding ↔
      ¬(1 ≤ declaredPad (cbcPlaintext key ciphertext) ∧
        declaredPad (cbcPlaintext key ciphertext) ≤ 32) := by
  rcases decrypt_cases hpos hdvd account key with
    ⟨hpad, h⟩ | ⟨hlow, hhigh, hlt, h⟩ | ⟨hlow, hhigh, hfit, hne, h⟩ |
      ⟨hlow, hhigh, hfit, heq, salt, hsalt, h⟩
  · exact iff_of_true h hpad
  · exact iff_of_false (by rw [h]; simp) (by omega)
  · exact iff_of_false (by rw [h]; simp) (by omega)
  · exact iff_of_false (by rw [h]; simp) (by omega)

theorem decrypt_eq_corruptEnvelope_iff :
    decrypt ciphertext account key = .error .corruptEnvelope ↔
      (1 ≤ declaredPad (cbcPlaintext key ciphertext) ∧
        declaredPad (cbcPlaintext key ciphertext) ≤ 32) ∧
      ciphertext.length - declaredPad (cbcPlaintext key ciphertext) <
        20 + declaredLength (cbcPlaintext key ciphertext) := by
  rcases decrypt_cases hpos hdvd account key with
    ⟨hpad, h⟩ | ⟨hlow, hhigh, hlt, h⟩ | ⟨hlow, hhigh, hfit, hne, h⟩ |
      ⟨hlow, hhigh, hfit, heq, salt, hsalt, h⟩
  · exact iff_of_false (by rw [h]; simp) (fun hall => hpad hall.1)
  · exact iff_of_true h ⟨⟨hlow, hhigh⟩, hlt⟩
  · exact iff_of_false (by rw [h]; simp) (by omega)
  · exact iff_of_false (by rw [h]; simp) (by omega)

theorem decrypt_eq_accountMismatch_iff :
    decrypt ciphertext account key = .error .accountMismatch ↔
      (1 ≤ declaredPad (cbcPlaintext key ciphertext) ∧
        declaredPad (cbcPlaintext key ciphertext) ≤ 32) ∧
      20 + declaredLength (cbcPlaintext key ciphertext) ≤
        ciphertext.length - declaredPad (cbcPlaintext key ciphertext) ∧
      slice (cbcPlaintext key ciphertext)
        (20 + declaredLength (cbcPlaintext key ciphertext))
        (ciphertext.length - declaredPad (cbcPlaintext key ciphertext)) ≠
          Text.Utf8.bytes account := by
  rcases decrypt_cases hpos hdvd account key with
    ⟨hpad, h⟩ | ⟨hlow, hhigh, hlt, h⟩ | ⟨hlow, hhigh, hfit, hne, h⟩ |
      ⟨hlow, hhigh, hfit, heq, salt, hsalt, h⟩
  · exact iff_of_false (by rw [h]; simp) (fun hall => hpad hall.1)
  · exact iff_of_false (by rw [h]; simp) (by omega)
  · exact iff_of_true h ⟨⟨hlow, hhigh⟩, hfit, hne⟩
  · exact iff_of_false (by rw [h]; simp) (fun hall => hall.2.2 heq)

theorem decrypt_eq_ok_iff (salt : Salt) (message : List UInt8) :
    decrypt ciphertext account key = .ok ⟨salt, message⟩ ↔
      (1 ≤ declaredPad (cbcPlaintext key ciphertext) ∧
        declaredPad (cbcPlaintext key ciphertext) ≤ 32) ∧
      20 + declaredLength (cbcPlaintext key ciphertext) ≤
        ciphertext.length - declaredPad (cbcPlaintext key ciphertext) ∧
      slice (cbcPlaintext key ciphertext)
        (20 + declaredLength (cbcPlaintext key ciphertext))
        (ciphertext.length - declaredPad (cbcPlaintext key ciphertext)) =
          Text.Utf8.bytes account ∧
      salt.bytes = slice (cbcPlaintext key ciphertext) 0 16 ∧
      message = slice (cbcPlaintext key ciphertext) 20
        (20 + declaredLength (cbcPlaintext key ciphertext)) := by
  rcases decrypt_cases hpos hdvd account key with
    ⟨hpad, h⟩ | ⟨hlow, hhigh, hlt, h⟩ | ⟨hlow, hhigh, hfit, hne, h⟩ |
      ⟨hlow, hhigh, hfit, heq, found, hfound, h⟩
  · exact iff_of_false (by rw [h]; simp) (fun hall => hpad hall.1)
  · exact iff_of_false (by rw [h]; simp) (by omega)
  · exact iff_of_false (by rw [h]; simp) (fun hall => hne hall.2.2.1)
  · rw [h, Except.ok.injEq, Decrypted.mk.injEq]
    constructor
    · intro h
      obtain ⟨rfl, rfl⟩ := h
      exact ⟨⟨hlow, hhigh⟩, hfit, heq, hfound, rfl⟩
    · intro h
      obtain ⟨-, -, -, hsalt, hmessage⟩ := h
      exact ⟨Salt.eq_of_bytes (hfound.trans hsalt.symm), hmessage.symm⟩

/-- Decrypting in place leaves the decrypted bytes in the buffer, and says of
the message where it lies and otherwise the same as opening a copy. -/
theorem decryptInPlace_eq_map :
    decryptInPlace ciphertext account key =
      (cbcPlaintext key ciphertext, (decrypt ciphertext account key).map fun decrypted =>
        ⟨decrypted.salt, 20, 20 + declaredLength (cbcPlaintext key ciphertext)⟩) := by
  rw [decrypt_eq_map, decryptInPlace_of_whole hpos hdvd]
  cases hopen : openFrame (cbcPlaintext key ciphertext) account with
  | error error => rfl
  | ok opening =>
    obtain ⟨hfirst, hstop, -⟩ := framed_of_openFrame hopen
    rw [Except.map, Except.map, ← hstop, ← hfirst]

end Verdict

/-- What becomes of any ciphertext, said of the bytes it decrypts to, of the pad
that their last byte declares and of the length that their header declares.
Nothing outside the buffer is read on the way. -/
theorem decrypt_verdict (ciphertext : List UInt8) (account : String) (key : Key) :
    let frame := cbcPlaintext key ciphertext
    let pad := declaredPad frame
    let length := declaredLength frame
    let answer := decrypt ciphertext account key
    let inPlace := decryptInPlace ciphertext account key
    decrypt? ciphertext account key = some answer ∧
    decryptInPlace? ciphertext account key = some inPlace ∧
    (ciphertext.length = 0 ∨ ¬32 ∣ ciphertext.length →
      answer = .error (.invalidLength ciphertext.length) ∧
      inPlace = (ciphertext, .error (.invalidLength ciphertext.length))) ∧
    (0 < ciphertext.length → 32 ∣ ciphertext.length →
      frame.length = ciphertext.length ∧ length < 2 ^ 32 ∧
      (answer = .error .invalidPadding ↔ ¬(1 ≤ pad ∧ pad ≤ 32)) ∧
      (answer = .error .corruptEnvelope ↔ (1 ≤ pad ∧ pad ≤ 32) ∧
        (ciphertext.length - pad < 20 ∨ ciphertext.length - pad < 20 + length)) ∧
      (answer = .error .accountMismatch ↔ (1 ≤ pad ∧ pad ≤ 32) ∧
        20 + length ≤ ciphertext.length - pad ∧
        slice frame (20 + length) (ciphertext.length - pad) ≠ Text.Utf8.bytes account) ∧
      (∀ salt message, answer = .ok ⟨salt, message⟩ ↔ (1 ≤ pad ∧ pad ≤ 32) ∧
        20 + length ≤ ciphertext.length - pad ∧
        slice frame (20 + length) (ciphertext.length - pad) = Text.Utf8.bytes account ∧
        salt.bytes = slice frame 0 16 ∧ message = slice frame 20 (20 + length)) ∧
      (∀ salt message, answer = .ok ⟨salt, message⟩ ↔ Framed salt message account frame) ∧
      inPlace = (frame, answer.map fun decrypted => ⟨decrypted.salt, 20, 20 + length⟩)) := by
  intro frame pad length answer inPlace
  refine ⟨decrypt?_eq ciphertext account key, decryptInPlace?_eq ciphertext account key,
    ?_, ?_⟩
  · intro hragged
    refine ⟨?_, decryptInPlace_of_ragged hragged account key⟩
    show decrypt ciphertext account key = _
    rw [decrypt_eq_map, decryptInPlace_of_ragged hragged]
    rfl
  · intro hpos hdvd
    refine ⟨length_cbcPlaintext key hdvd, declaredLength_lt frame,
      decrypt_eq_invalidPadding_iff hpos hdvd account key, ?_,
      decrypt_eq_accountMismatch_iff hpos hdvd account key,
      decrypt_eq_ok_iff hpos hdvd account key,
      decrypt_eq_ok_iff_framed hpos hdvd account key,
      decryptInPlace_eq_map hpos hdvd account key⟩
    -- A header that does not fit declares a message that does not fit either.
    have hshort : (ciphertext.length - pad < 20 ∨ ciphertext.length - pad < 20 + length) ↔
        ciphertext.length - pad < 20 + length := by
      omega
    rw [hshort]
    exact decrypt_eq_corruptEnvelope_iff hpos hdvd account key

end CallbackGate.Cipher
