import CallbackGate.Proofs.SealedReplies

/-!
# Messages in borrowed buffers

A secure delivery is decrypted where its ciphertext was copied to, for one key
after the other in one work buffer, and its message is handed on as a range of
that buffer.  This comes to the same as opening a copy of the ciphertext that
nobody else has: the same error, or the same opening with a range that lies in
the buffer and holds the message.  A first attempt that fails leaves its bytes in
the work buffer, and earlier loans left theirs in all of them; neither shows.

There are two groups.

* Ranges.  The state after an attempt that unlocks is the buffer of that attempt
  (`unlock_state_of_ok`), and the range that is told lies in it (`stage_range`).
* Deliveries.  `Refines` relates what the two ways of opening come to, and
  `openSecure_refines` says that it holds.
-/

namespace CallbackGate

/-! ## Ranges -/

/-- What is told of a buffer that was decrypted in place lies in it. -/
theorem Cipher.range_of_decryptInPlace {ciphertext buffer : List UInt8} {account : String}
    {key : Key} {opening : Opening}
    (h : decryptInPlace ciphertext account key = (buffer, .ok opening)) :
    opening.first ≤ opening.stop ∧ opening.stop ≤ buffer.length := by
  by_cases hragged : ciphertext.length = 0 ∨ ¬32 ∣ ciphertext.length
  · rw [decryptInPlace_of_ragged hragged] at h
    cases h
  · rw [decryptInPlace_of_whole (by omega) (by omega), Prod.mk.injEq] at h
    obtain ⟨rfl, hopen⟩ := h
    obtain ⟨hfirst, hstop, hframed⟩ := framed_of_openFrame hopen
    have hlength := hframed.declaredPad_eq.2.2
    rw [← hframed.declaredLength_eq] at hlength
    omega

/-- Where a ring unlocks, the last attempt was the one with the key that is told,
and the state is the one that it left. -/
theorem KeyRing.unlock_state_of_ok {σ ε α : Type} {ring : KeyRing}
    {attempt : Key → σ → σ × Except ε α} {state : σ} {unlocked : Unlocked α}
    (h : (ring.unlock attempt state).outcome = .ok unlocked) :
    ∃ before, attempt unlocked.key before =
      ((ring.unlock attempt state).state, .ok unlocked.value) := by
  rcases hfirst : attempt ring.current state with ⟨after, error | value⟩
  · cases hfallback : ring.fallback with
    | none =>
      rw [unlock_of_error hfirst hfallback] at h
      cases h
    | some key =>
      rcases hlast : attempt key after with ⟨last, error' | value⟩
      · rw [unlock_of_fallback hfirst hfallback hlast] at h
        cases h
      · rw [unlock_of_fallback hfirst hfallback hlast] at h ⊢
        cases h
        exact ⟨after, hlast⟩
  · rw [unlock_of_ok hfirst] at h ⊢
    cases h
    exact ⟨state, hfirst⟩

/-- The range of a staged message lies in the buffer, whatever pool the buffer
came from. -/
theorem stage_range {appId encrypt : String} {ring : KeyRing} {pool : Pool}
    {buffer : List UInt8} {unlocked : Unlocked Cipher.Opening}
    (h : (stage appId ring pool encrypt).outcome = .ok (buffer, unlocked)) :
    unlocked.value.first ≤ unlocked.value.stop ∧ unlocked.value.stop ≤ buffer.length := by
  cases hdecode : Bytes.Base64.decode .strict (Text.Utf8.bytes encrypt) with
  | error fault =>
    rw [stage_of_error hdecode] at h
    cases h
  | ok decoded =>
    rw [stage_of_ok hdecode rfl] at h
    dsimp only at h
    cases hunlock : (ring.unlock (attempt appId (pool.borrow.1 ++ decoded))
        pool.borrow.2.borrow.1).outcome with
    | error error =>
      rw [hunlock] at h
      cases h
    | ok found =>
      rw [hunlock] at h
      cases h
      obtain ⟨before, hattempt⟩ := KeyRing.unlock_state_of_ok hunlock
      rw [attempt_eq] at hattempt
      exact Cipher.range_of_decryptInPlace hattempt

/-! ## Deliveries -/

/-- A delivery opened in borrowed buffers refines what opening a copy of its
ciphertext comes to. -/
inductive Refines (timestamp nonce : String) :
    Except CryptoError (Unlocked Cipher.Decrypted) → Except CallbackError Opened → Prop
  /-- Both fail for the same reason. -/
  | refused (error : CryptoError) :
    Refines timestamp nonce (.error error) (.error (.crypto error))
  /-- The range lies in the buffer and selects the message.  The random bytes, the
  generation and the key are the same. -/
  | opened (unlocked : Unlocked Cipher.Decrypted) {buffer : List UInt8} {first stop : Nat}
    (hfirst : first ≤ stop) (hstop : stop ≤ buffer.length)
    (hmessage : (Plaintext.staged buffer first stop).bytes = unlocked.value.message) :
    Refines timestamp nonce (.ok unlocked)
      (.ok ⟨.staged buffer first stop, some (securityOf timestamp nonce unlocked)⟩)

/-- A signed delivery whose ciphertext is Base64 is opened in borrowed buffers to
what the ring opens a copy of the ciphertext to, whatever the pool was used for
before. -/
theorem openSecure_refines (account : Account) (ring : KeyRing) (bound : Nat)
    (steps : List Loans.Step) {query : Query} {body ciphertext : List UInt8}
    {timestamp nonce : String} {request : SealedRequest}
    (hsigned : SignedSecure account query body timestamp nonce request)
    (hdecode : Bytes.Base64.decode .strict (Text.Utf8.bytes request.encrypt) =
      .ok ciphertext) :
    let pool := ((Loans.start (Pool.new bound)).run steps).pool
    Refines timestamp nonce
      (ring.unlockPure (Cipher.decrypt ciphertext account.appId)).outcome
      (openSecure account ring pool query body).outcome := by
  intro pool
  have hpool : pool.Clean := Loans.clean_run (Pool.clean_new bound) steps
  have hunwrap : unwrap account query body = .ok ⟨timestamp, nonce, request.encrypt⟩ :=
    unwrap_eq_ok_iff.mpr ⟨request, hsigned, rfl⟩
  have hstage := stage_outcome hpool account.appId ring request.encrypt
  rw [openEncrypted, hdecode] at hstage
  rw [openSecure, hunwrap]
  dsimp only at hstage ⊢
  cases hstaged : (stage account.appId ring pool request.encrypt).outcome with
  | error error =>
    rw [hstaged] at hstage
    cases howned : (ring.unlockPure (Cipher.decrypt ciphertext account.appId)).outcome with
    | error reason =>
      rw [howned] at hstage
      cases hstage
      exact .refused reason
    | ok unlocked =>
      rw [howned] at hstage
      cases hstage
  | ok staged =>
    have hrange := stage_range hstaged
    rw [hstaged] at hstage
    cases howned : (ring.unlockPure (Cipher.decrypt ciphertext account.appId)).outcome with
    | error reason =>
      rw [howned] at hstage
      cases hstage
    | ok unlocked =>
      rw [howned] at hstage
      cases hstage
      exact .opened (takeOut staged) hrange.1 hrange.2 rfl

/-- A delivery that was sealed under the previous key.  The attempt with the
current key fails and leaves other bytes in the work buffer, and both buffers were
written to before. -/
theorem openSecure_refines_second_attempt :
    let account : Account := ⟨"token", "app", "gh"⟩
    let key : Key := ⟨List.replicate 32 7, rfl⟩
    let next : Key := ⟨List.replicate 32 9, rfl⟩
    let steps : List Loans.Step :=
      [.borrow, .borrow, .write 0 [1, 2], .write 1 [3], .giveBack 1, .giveBack 0]
    let pool := ((Loans.start (Pool.new 2)).run steps).pool
    let salt : Salt := ⟨List.replicate 16 3, rfl⟩
    let message := Text.Utf8.bytes "<xml/>"
    ∃ ciphertext, Cipher.encrypt salt message "app" key = .ok ciphertext ∧
      (attempt "app" ciphertext next []).2 = .error .invalidPadding ∧
      (attempt "app" ciphertext next []).1 ≠ ciphertext ∧
      let request : SealedRequest := ⟨none, base64Text ciphertext⟩
      let query := secureQuery account "1" "2" request.encrypt
      SignedSecure account query request.toBody "1" "2" request ∧
        Bytes.Base64.decode .strict (Text.Utf8.bytes request.encrypt) = .ok ciphertext ∧
        Refines "1" "2" (.ok ⟨⟨salt, message⟩, .previous, key⟩)
          (openSecure account ⟨next, some key⟩ pool query request.toBody).outcome := by
  intro account key next steps pool salt message
  have hlength : message.length < 2 ^ 32 := by decide
  obtain ⟨ciphertext, hsealed, hopen⟩ := Cipher.exists_sealed hlength salt "app" key
  have hciphertext := Cipher.encrypt_eq_ok hlength salt "app" key
  rw [hsealed, Except.ok.injEq] at hciphertext
  have hattempt : (attempt "app" ciphertext next []).2 = .error .invalidPadding ∧
      (attempt "app" ciphertext next []).1 ≠ ciphertext := by
    rw [hciphertext]
    decide +kernel
  have hfails : Cipher.decrypt ciphertext "app" next = .error .invalidPadding := by
    rw [Cipher.decrypt_eq_map, ← attempt_eq "app" ciphertext next [], hattempt.1]
    rfl
  refine ⟨ciphertext, hsealed, hattempt.1, hattempt.2, ?_⟩
  intro request query
  have hdecode : Bytes.Base64.decode .strict (Text.Utf8.bytes request.encrypt) =
      .ok ciphertext :=
    Bytes.Base64.decode_strict_eq_ok_iff.mpr (bytes_base64Text ciphertext)
  obtain ⟨-, htimestamp, hnonce, hsignature⟩ : CarriesSecure account "1" "2"
      request.encrypt query :=
    carriesSecure_secureQuery (by decide) (by decide) account request.encrypt
  have hsigned : SignedSecure account query request.toBody "1" "2" request :=
    ⟨htimestamp, hnonce, request.ofBody_toBody, hsignature, Or.inl rfl⟩
  have howned : ((⟨next, some key⟩ : KeyRing).unlockPure
      (Cipher.decrypt ciphertext "app")).outcome =
        .ok ⟨⟨salt, message⟩, .previous, key⟩ :=
    (KeyRing.unlockPure_eq_ok_iff _).mpr
      (Or.inr ⟨⟨_, hfails⟩, rfl, by decide, hopen, rfl⟩)
  have hrefines := openSecure_refines account ⟨next, some key⟩ 2 steps hsigned hdecode
  rw [howned] at hrefines
  exact ⟨hsigned, hdecode, hrefines⟩

end CallbackGate
