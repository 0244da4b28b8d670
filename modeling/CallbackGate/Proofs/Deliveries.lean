import CallbackGate.Endpoint.Serve
import CallbackGate.Proofs.Base64
import CallbackGate.Proofs.Outcomes
import CallbackGate.Proofs.Registrations
import CallbackGate.Proofs.Staging

/-!
# Deliveries, step by step

Which deliveries can be opened, plain and secure, said of the parts they are
made of, and how a delivery is put together from its opening, its message and
its answer.

There are four groups.

* Parameters and words of the query.
* Openings.  Each step of opening succeeds exactly if its part of the delivery
  is right; `opensTo_of_aes` takes the buffers out of secure openings, and
  `opensTo_aes_eq_ok_iff` says which of them succeed.
* Dispatch.  One handler runs, and its reply is the one that is sent.
* Serving.  A delivery comes to what `Endpoint.deliver` says
  (`delivery_shows`).
-/

namespace CallbackGate

/-! ## Parameters and words -/

/-- A query has a parameter with this value, which is not empty. -/
def Query.Gives (query : Query) (parameter : Parameter) (value : String) : Prop :=
  query.value? parameter = some value ∧ value ≠ ""

theorem Query.require_eq_ok_iff {query : Query} {parameter : Parameter} {value : String} :
    query.require parameter = .ok value ↔ query.Gives parameter value := by
  unfold Query.require Query.Gives
  cases query.value? parameter with
  | none =>
    refine iff_of_false (by simp) ?_
    intro h
    obtain ⟨⟨⟩, -⟩ := h
  | some found =>
    show (if found.isEmpty = true then _ else _) = _ ↔ _
    by_cases hempty : found.isEmpty = true
    · rw [if_pos hempty]
      refine iff_of_false (by simp) ?_
      intro h
      obtain ⟨hfound, hne⟩ := h
      rw [Option.some.injEq] at hfound
      rw [← hfound] at hne
      exact hne (String.isEmpty_iff.mp hempty)
    · rw [if_neg hempty, Except.ok.injEq, Option.some.injEq]
      constructor
      · intro h
        subst h
        exact ⟨rfl, fun h => hempty (String.isEmpty_iff.mpr h)⟩
      · exact fun h => h.1

/-- Two words agree up to the case of ASCII letters. -/
def SameWord (left right : String) : Prop :=
  Text.folded left = Text.folded right

theorem sameLetters_iff_sameWord {left right : String} :
    Text.sameLetters left right = true ↔ SameWord left right :=
  Text.sameLetters_iff

/-- An encryption type names plain deliveries: it is absent, blank or the word
for them.  `same` says when two words are the same. -/
def NamesRaw (same : String → String → Prop) (encryptType : Option String) : Prop :=
  encryptType = none ∨
    ∃ value, encryptType = some value ∧ (Text.trim value = "" ∨ same (Text.trim value) "raw")

/-- An encryption type names secure deliveries: it is the word for them. -/
def NamesAes (same : String → String → Prop) (encryptType : Option String) : Prop :=
  ∃ value, encryptType = some value ∧ same (Text.trim value) "aes"

namespace EncryptMode

theorem parse_some (value : String) :
    parse (some value) =
      if (Text.trim value).isEmpty then .ok .raw
      else if Text.sameLetters (Text.trim value) "raw" then .ok .raw
      else if Text.sameLetters (Text.trim value) "aes" then .ok .aes
      else .error (.unsupportedEncryptType (Text.trim value)) :=
  rfl

theorem parse_eq_raw_iff {value : Option String} :
    parse value = .ok .raw ↔ NamesRaw SameWord value := by
  cases value with
  | none => exact iff_of_true rfl (Or.inl rfl)
  | some value =>
    have hiff : NamesRaw SameWord (some value) ↔
        (Text.trim value).isEmpty = true ∨ Text.sameLetters (Text.trim value) "raw" = true := by
      rw [sameLetters_iff_sameWord, String.isEmpty_iff]
      constructor
      · intro h
        rcases h with hnone | ⟨found, hfound, h⟩
        · cases hnone
        · cases hfound
          exact h
      · intro h
        exact Or.inr ⟨value, rfl, h⟩
    rw [hiff, parse_some]
    by_cases hempty : (Text.trim value).isEmpty = true
    · rw [if_pos hempty]
      exact iff_of_true rfl (Or.inl hempty)
    · rw [if_neg hempty]
      by_cases hraw : Text.sameLetters (Text.trim value) "raw" = true
      · rw [if_pos hraw]
        exact iff_of_true rfl (Or.inr hraw)
      · rw [if_neg hraw]
        refine iff_of_false ?_ (fun h => h.elim hempty hraw)
        by_cases haes : Text.sameLetters (Text.trim value) "aes" = true
        · rw [if_pos haes]
          intro h
          cases h
        · rw [if_neg haes]
          intro h
          cases h

theorem parse_eq_aes_iff {value : Option String} :
    parse value = .ok .aes ↔ NamesAes SameWord value := by
  cases value with
  | none =>
    refine iff_of_false (by simp [parse]) ?_
    intro h
    obtain ⟨value, ⟨⟩, -⟩ := h
  | some value =>
    have hiff : NamesAes SameWord (some value) ↔
        Text.sameLetters (Text.trim value) "aes" = true := by
      rw [sameLetters_iff_sameWord]
      constructor
      · intro h
        obtain ⟨found, hfound, h⟩ := h
        cases hfound
        exact h
      · intro h
        exact ⟨value, rfl, h⟩
    rw [hiff, parse_some]
    by_cases haes : Text.sameLetters (Text.trim value) "aes" = true
    · -- The word for secure deliveries is neither blank nor the other word.
      have hfolded := Text.sameLetters_iff.mp haes
      have hempty : ¬(Text.trim value).isEmpty = true := by
        intro h
        rw [String.isEmpty_iff.mp h] at hfolded
        exact absurd hfolded (by decide)
      have hraw : ¬Text.sameLetters (Text.trim value) "raw" = true := by
        intro h
        rw [Text.sameLetters_iff.mp h] at hfolded
        exact absurd hfolded (by decide)
      rw [if_neg hempty, if_neg hraw, if_pos haes]
      exact iff_of_true rfl haes
    · rw [if_neg haes]
      refine iff_of_false ?_ haes
      split_ifs
      · intro h
        cases h
      · intro h
        cases h
      · intro h
        cases h

end EncryptMode

theorem Flow.ofMethod_eq_delivery_iff {method : String} :
    Flow.ofMethod method = .ok .delivery ↔ SameWord method "POST" := by
  rw [← sameLetters_iff_sameWord]
  unfold Flow.ofMethod
  by_cases hpost : Text.sameLetters method "POST" = true
  · have hget : ¬Text.sameLetters method "GET" = true := by
      intro h
      have hfolded := (Text.sameLetters_iff.mp h).symm.trans (Text.sameLetters_iff.mp hpost)
      exact absurd hfolded (by decide)
    rw [if_neg hget, if_pos hpost]
    exact iff_of_true rfl hpost
  · rw [if_neg hpost]
    refine iff_of_false ?_ hpost
    split_ifs
    · intro h
      cases h
    · intro h
      cases h

/-! ## Openings -/

/-- The signature of a handshake or a plain delivery is right. -/
def SignedPlain (token : String) (query : Query) : Prop :=
  ∃ timestamp nonce, query.Gives .timestamp timestamp ∧ query.Gives .nonce nonce ∧
    query.Gives .signature (Signature.handshake token timestamp nonce)

theorem openPlain_eq_ok_iff {account : Account} {query : Query} {body : List UInt8}
    {opened : Opened} :
    openPlain account query body = .ok opened ↔
      SignedPlain account.token query ∧ opened = ⟨.body body, none⟩ := by
  unfold openPlain checkHandshakeSignature SignedPlain
  simp only [bind_eq_ok_iff, Query.require_eq_ok_iff]
  constructor
  · intro h
    obtain ⟨signature, hsignature, _, ⟨timestamp, htimestamp, nonce, hnonce, hverify⟩,
      hopened⟩ := h
    refine ⟨⟨timestamp, nonce, htimestamp, hnonce, ?_⟩, (Except.ok.inj hopened).symm⟩
    by_cases h : Signature.verify signature
        (Signature.handshake account.token timestamp nonce) = true
    · rw [Signature.verify, beq_iff_eq] at h
      rw [← h]
      exact hsignature
    · rw [if_neg h] at hverify
      cases hverify
  · intro h
    obtain ⟨⟨timestamp, nonce, htimestamp, hnonce, hsignature⟩, rfl⟩ := h
    refine ⟨_, hsignature, (), ⟨timestamp, htimestamp, nonce, hnonce, ?_⟩, rfl⟩
    rw [Signature.verify, beq_self_eq_true, if_pos rfl]

/-- A wrapper may leave out the recipient, or leave it empty. -/
def NamesRecipient (account : Account) (recipient : Option String) : Prop :=
  recipient = none ∨ recipient = some "" ∨ recipient = some account.recipientId

theorem checkOuterRecipient_eq_ok_iff {account : Account} {recipient : Option String} :
    checkOuterRecipient account recipient = .ok () ↔ NamesRecipient account recipient := by
  unfold checkOuterRecipient NamesRecipient
  cases recipient with
  | none => exact iff_of_true rfl (Or.inl rfl)
  | some actual =>
    show (if _ then _ else _) = _ ↔ _
    by_cases h : (actual.isEmpty || actual == account.recipientId) = true
    · rw [if_pos h]
      rw [Bool.or_eq_true, String.isEmpty_iff, beq_iff_eq] at h
      refine iff_of_true rfl (Or.inr ?_)
      rw [Option.some.injEq, Option.some.injEq]
      exact h
    · rw [if_neg h]
      rw [Bool.or_eq_true, String.isEmpty_iff, beq_iff_eq] at h
      refine iff_of_false (by simp) ?_
      intro h
      rcases h with hnone | hempty | hsame
      · cases hnone
      · exact h (Or.inl (Option.some.inj hempty))
      · exact h (Or.inr (Option.some.inj hsame))

/-- The signature and the outer recipient of a secure delivery are right.  The
request is the wrapper in its body. -/
def SignedSecure (account : Account) (query : Query) (body : List UInt8)
    (timestamp nonce : String) (request : SealedRequest) : Prop :=
  query.Gives .timestamp timestamp ∧ query.Gives .nonce nonce ∧
    SealedRequest.ofBody body = .ok request ∧
    query.Gives .msgSignature
      (Signature.message account.token timestamp nonce request.encrypt) ∧
    NamesRecipient account request.toUserName

theorem unwrap_eq_ok_iff {account : Account} {query : Query} {body : List UInt8}
    {wrapped : Wrapped} :
    unwrap account query body = .ok wrapped ↔
      ∃ request, SignedSecure account query body wrapped.timestamp wrapped.nonce request ∧
        request.encrypt = wrapped.encrypt := by
  unfold unwrap SignedSecure
  simp only [bind_eq_ok_iff, mapError_eq_ok_iff, Query.require_eq_ok_iff]
  constructor
  · intro h
    obtain ⟨signature, hsignature, timestamp, htimestamp, nonce, hnonce, request, hrequest,
      h⟩ := h
    by_cases hverify : Signature.verify signature
        (Signature.message account.token timestamp nonce request.encrypt) = true
    · rw [if_pos hverify, bind_eq_ok_iff] at h
      obtain ⟨_, hrecipient, hwrapped⟩ := h
      rw [mapError_eq_ok_iff, checkOuterRecipient_eq_ok_iff] at hrecipient
      cases hwrapped
      rw [Signature.verify, beq_iff_eq] at hverify
      rw [hverify] at hsignature
      exact ⟨request, ⟨htimestamp, hnonce, hrequest, hsignature, hrecipient⟩, rfl⟩
    · rw [if_neg hverify] at h
      cases h
  · intro h
    obtain ⟨request, ⟨htimestamp, hnonce, hrequest, hsignature, hrecipient⟩, hencrypt⟩ := h
    refine ⟨_, hsignature, _, htimestamp, _, hnonce, request, hrequest, ?_⟩
    rw [Signature.verify, beq_self_eq_true, if_pos rfl, bind_eq_ok_iff]
    refine ⟨(), ?_, ?_⟩
    · rw [mapError_eq_ok_iff, checkOuterRecipient_eq_ok_iff]
      exact hrecipient
    · rw [hencrypt]

/-- What is unwrapped is the ciphertext in the body. -/
theorem encrypt_of_unwrap {account : Account} {query : Query} {body : List UInt8}
    {request : SealedRequest} {wrapped : Wrapped} (hbody : SealedRequest.ofBody body = .ok request)
    (hunwrap : unwrap account query body = .ok wrapped) :
    wrapped.encrypt = request.encrypt := by
  obtain ⟨found, ⟨-, -, hfound, -⟩, hencrypt⟩ := unwrap_eq_ok_iff.mp hunwrap
  rw [hbody, Except.ok.injEq] at hfound
  rw [hfound, hencrypt]

/-- A ring opens a ciphertext with its current key, or with a different previous
one where the current one fails. -/
def KeyRing.Opens (ring : KeyRing) (appId : String) (ciphertext : List UInt8)
    (unlocked : Unlocked Cipher.Decrypted) : Prop :=
  (Cipher.decrypt ciphertext appId ring.current = .ok unlocked.value ∧
    unlocked.generation = .current ∧ unlocked.key = ring.current) ∨
  ((∃ error, Cipher.decrypt ciphertext appId ring.current = .error error) ∧
    ring.previous = some unlocked.key ∧ unlocked.key ≠ ring.current ∧
    Cipher.decrypt ciphertext appId unlocked.key = .ok unlocked.value ∧
    unlocked.generation = .previous)

/-- A ring opens what its current key opens. -/
theorem KeyRing.opens_current {ring : KeyRing} {appId : String} {ciphertext : List UInt8}
    {opened : Cipher.Decrypted}
    (hopen : Cipher.decrypt ciphertext appId ring.current = .ok opened) :
    ring.Opens appId ciphertext ⟨opened, .current, ring.current⟩ :=
  Or.inl ⟨hopen, rfl, rfl⟩

theorem openEncrypted_eq_ok_iff {appId : String} {ring : KeyRing} {encrypt : String}
    {unlocked : Unlocked Cipher.Decrypted} :
    openEncrypted appId ring encrypt = .ok unlocked ↔
      ∃ ciphertext, Text.Utf8.bytes encrypt = Bytes.Base64.encode ciphertext ∧
        ring.Opens appId ciphertext unlocked := by
  unfold openEncrypted KeyRing.Opens
  cases hdecode : Bytes.Base64.decode .strict (Text.Utf8.bytes encrypt) with
  | error fault =>
    refine iff_of_false (by simp) ?_
    intro h
    obtain ⟨ciphertext, hencode, -⟩ := h
    rw [Bytes.Base64.decode_strict_eq_ok_iff.mpr hencode] at hdecode
    cases hdecode
  | ok ciphertext =>
    have hencode := Bytes.Base64.decode_strict_eq_ok_iff.mp hdecode
    show Except.mapError _ _ = _ ↔ _
    rw [mapError_eq_ok_iff, KeyRing.unlockPure_eq_ok_iff]
    constructor
    · intro h
      exact ⟨ciphertext, hencode, h⟩
    · intro h
      obtain ⟨other, hother, h⟩ := h
      rw [Bytes.Base64.decode_strict_eq_ok_iff.mpr hother, Except.ok.injEq] at hdecode
      rw [← hdecode]
      exact h

/-- What the handler of a secure delivery is told beside the message. -/
def securityOf (timestamp nonce : String) (unlocked : Unlocked Cipher.Decrypted) :
    SecurityContext :=
  ⟨unlocked.value.salt, unlocked.generation, timestamp, nonce, unlocked.key⟩

namespace Endpoint

/-- The message of a delivery and what is known about its opening. -/
def opensTo (endpoint : Endpoint) (query : Query) (body : List UInt8) :
    Except CallbackError (List UInt8 × Option SecurityContext) :=
  (endpoint.openDelivery query body).outcome.map fun opened =>
    (opened.plaintext.bytes, opened.security)

variable {endpoint : Endpoint} {query : Query} {body : List UInt8}

/-- What a plain delivery opens to. -/
theorem opensTo_of_raw (h : EncryptMode.parse query.encryptType = .ok .raw) :
    endpoint.opensTo query body =
      ((openPlain endpoint.account query body).mapError .protocol).map
        fun opened => (opened.plaintext.bytes, opened.security) := by
  rw [opensTo, openDelivery, h]

/-- What a secure delivery opens to with a clean pool. -/
theorem opensTo_of_aes {ring : KeyRing}
    (h : EncryptMode.parse query.encryptType = .ok .aes) (hring : endpoint.ring = some ring)
    (hpool : endpoint.pool.Clean) :
    endpoint.opensTo query body =
      (unwrap endpoint.account query body).bind fun wrapped =>
        (openEncrypted endpoint.account.appId ring wrapped.encrypt).map fun unlocked =>
          (unlocked.value.message,
            some (securityOf wrapped.timestamp wrapped.nonce unlocked)) := by
  rw [opensTo, openDelivery, h, hring]
  show (openSecure endpoint.account ring endpoint.pool query body).outcome.map _ = _
  rw [openSecure]
  cases unwrap endpoint.account query body with
  | error error => rfl
  | ok wrapped =>
    have hstage := stage_outcome hpool endpoint.account.appId ring wrapped.encrypt
    show Except.map _ (Except.map _ (stage endpoint.account.appId ring endpoint.pool
      wrapped.encrypt).outcome) = Except.map _ _
    rw [← hstage]
    cases (stage endpoint.account.appId ring endpoint.pool wrapped.encrypt).outcome with
    | error error => rfl
    | ok staged => rfl

/-- Where the ring opens the ciphertext in the wrapper, the delivery opens if it
can be unwrapped. -/
theorem opensTo_of_opens {ring : KeyRing} {request : SealedRequest}
    {ciphertext : List UInt8} {unlocked : Unlocked Cipher.Decrypted}
    (h : EncryptMode.parse query.encryptType = .ok .aes) (hring : endpoint.ring = some ring)
    (hpool : endpoint.pool.Clean) (hbody : SealedRequest.ofBody body = .ok request)
    (hencode : Text.Utf8.bytes request.encrypt = Bytes.Base64.encode ciphertext)
    (hopens : ring.Opens endpoint.account.appId ciphertext unlocked) :
    endpoint.opensTo query body =
      (unwrap endpoint.account query body).map fun wrapped =>
        (unlocked.value.message,
          some (securityOf wrapped.timestamp wrapped.nonce unlocked)) := by
  rw [opensTo_of_aes h hring hpool]
  cases hunwrap : unwrap endpoint.account query body with
  | error error => rfl
  | ok wrapped =>
    rw [← encrypt_of_unwrap hbody hunwrap] at hencode
    show (openEncrypted endpoint.account.appId ring wrapped.encrypt).map _ = _
    rw [openEncrypted_eq_ok_iff.mpr ⟨ciphertext, hencode, hopens⟩]
    rfl

/-- A secure delivery opens exactly if it is signed, and its ciphertext is Base64
that the ring opens. -/
theorem opensTo_aes_eq_ok_iff {ring : KeyRing}
    (h : EncryptMode.parse query.encryptType = .ok .aes) (hring : endpoint.ring = some ring)
    (hpool : endpoint.pool.Clean) {opened : List UInt8 × Option SecurityContext} :
    endpoint.opensTo query body = .ok opened ↔
      ∃ timestamp nonce request ciphertext unlocked,
        SignedSecure endpoint.account query body timestamp nonce request ∧
        Text.Utf8.bytes request.encrypt = Bytes.Base64.encode ciphertext ∧
        ring.Opens endpoint.account.appId ciphertext unlocked ∧
        opened = (unlocked.value.message, some (securityOf timestamp nonce unlocked)) := by
  constructor
  · intro hopen
    rw [opensTo_of_aes h hring hpool] at hopen
    obtain ⟨wrapped, hunwrap, hopen⟩ := bind_eq_ok_iff.mp hopen
    obtain ⟨request, hsigned, hencrypt⟩ := unwrap_eq_ok_iff.mp hunwrap
    cases hunlock : openEncrypted endpoint.account.appId ring wrapped.encrypt with
    | error error =>
      rw [hunlock] at hopen
      cases hopen
    | ok unlocked =>
      obtain ⟨ciphertext, hencode, hopens⟩ := openEncrypted_eq_ok_iff.mp hunlock
      rw [hunlock] at hopen
      cases hopen
      rw [← hencrypt] at hencode
      exact ⟨_, _, request, ciphertext, unlocked, hsigned, hencode, hopens, rfl⟩
  · intro hopen
    obtain ⟨timestamp, nonce, request, ciphertext, unlocked, hsigned, hencode, hopens,
      hopened⟩ := hopen
    have hunwrap : unwrap endpoint.account query body = .ok ⟨timestamp, nonce, request.encrypt⟩ :=
      unwrap_eq_ok_iff.mpr ⟨request, hsigned, rfl⟩
    rw [opensTo_of_opens h hring hpool hsigned.2.2.1 hencode hopens, hunwrap, hopened]
    rfl

end Endpoint

/-! ## Dispatch -/

/-- The call of the handler that a table has for an envelope. -/
def Table.callFor (table : Table) (envelope : Envelope) (security : Option SecurityContext) :
    Call :=
  let route := (classify envelope).toOption
  ⟨(route.bind table.find?).map (·.number),
    ⟨envelope, route, route.map (Payload.ofRoute · envelope), security⟩⟩

/-- What the handler that a table has for a context answers. -/
def Table.replyTo (table : Table) (context : Context) : Reply :=
  match context.route.bind table.find? with
  | some entry => entry.handler context
  | none => table.unknown context

section

variable {table : Table} {envelope : Envelope} {terminal : Terminal} {number : Option Nat}
  {handler : Handler}

theorem Table.Answers.callFor_eq (h : table.Answers envelope terminal number handler)
    (security : Option SecurityContext) :
    table.callFor envelope security = ⟨number, Context.ofEnvelope envelope security⟩ := by
  unfold Table.callFor Context.ofEnvelope
  cases h with
  | registered hroute hfind => simp [hroute, Except.toOption, hfind]
  | unregistered hroute hfind => simp [hroute, Except.toOption, hfind]
  | unclassified hmiss => simp [hmiss, Except.toOption]

theorem Table.Answers.replyTo_eq (h : table.Answers envelope terminal number handler)
    (security : Option SecurityContext) :
    table.replyTo (Context.ofEnvelope envelope security) =
      handler (Context.ofEnvelope envelope security) := by
  unfold Table.replyTo Context.ofEnvelope
  cases h with
  | registered hroute hfind => simp [hroute, Except.toOption, hfind]
  | unregistered hroute hfind => simp [hroute, Except.toOption, hfind]
  | unclassified hmiss => simp [hmiss, Except.toOption]

end

/-- Dispatch runs one handler and answers with its reply. -/
theorem dispatch_eq_callFor (table : Table) (envelope : Envelope)
    (security : Option SecurityContext) :
    (dispatch table envelope security).calls = [table.callFor envelope security] ∧
      (dispatch table envelope security).reply =
        table.replyTo (table.callFor envelope security).context := by
  obtain ⟨terminal, number, handler, hanswers, hdispatch⟩ :=
    dispatch_answers table envelope security
  rw [hdispatch, hanswers.callFor_eq, hanswers.replyTo_eq]
  exact ⟨Progress.calls_whole number handler _ terminal.stage, rfl⟩

/-! ## Serving -/

namespace Endpoint

/-- What is done with an opened message. -/
def process (endpoint : Endpoint) (moment : Moment) (message : List UInt8)
    (security : Option SecurityContext) : List Call × Except CallbackError Response :=
  match endpoint.readMessage message with
  | .error error => ([], .error error)
  | .ok envelope => endpoint.answer moment envelope security

/-- The calls of a delivery and what it comes to. -/
def deliver (endpoint : Endpoint) (moment : Moment) (query : Query) (body : List UInt8) :
    List Call × Except CallbackError Response :=
  match endpoint.opensTo query body with
  | .error error => ([], .error error)
  | .ok (message, security) => endpoint.process moment message security

end Endpoint

/-- A served request ran these handlers and came to this: it was answered, or
refused with an error. -/
def Served.Shows (served : Served) (refusal : RefusalHandler)
    (shown : List Call × Except CallbackError Response) : Prop :=
  served.calls = shown.1 ∧
    match shown.2 with
    | .ok response => served.response = response ∧ served.refused = none
    | .error error => served.response = refusal error ∧ served.refused = some error

namespace Endpoint

/-- A delivery is opened, its message read and answered, and nothing else comes
of it. -/
theorem delivery_shows (endpoint : Endpoint) (moment : Moment) (query : Query)
    (body : List UInt8) :
    (endpoint.delivery moment query body).Shows endpoint.refusal
      (endpoint.deliver moment query body) := by
  unfold delivery deliver opensTo
  rcases endpoint.openDelivery query body with ⟨pool, borrowed, tried, error | opened⟩
  · exact ⟨rfl, rfl, rfl⟩
  · show Served.Shows _ _ (endpoint.process moment opened.plaintext.bytes opened.security)
    unfold process
    dsimp only
    cases endpoint.readMessage opened.plaintext.bytes with
    | error error => exact ⟨rfl, rfl, rfl⟩
    | ok envelope =>
      dsimp only
      rcases endpoint.answer moment envelope opened.security with ⟨calls, error | response⟩
      · exact ⟨rfl, rfl, rfl⟩
      · exact ⟨rfl, rfl, rfl⟩

end Endpoint

end CallbackGate
