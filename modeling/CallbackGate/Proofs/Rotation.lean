import CallbackGate.Proofs.SealedReplies

/-!
# Deliveries in flight survive a rotation

A delivery that was sealed before the key of the ring was replaced arrives after
it.  The ring still has the old key as its previous one, so the delivery is
handled as it would have been: the same handler runs on the same envelope, and
the reply is sealed under the old key.  Only the generation that the handler is
told is another.

There are three groups.

* Rings.  A rotated ring opens what its old key opens (`rotate_opens`).
* The key stays.  To make the current key current again changes nothing
  (`delivery_rotate_current`).
* The key changes.  `Survives` compares a delivery with the same delivery before
  the rotation, and `rotate_keeps_delivery` says that it holds.
-/

namespace CallbackGate

/-! ## Rings -/

/-- After a rotation a ring still opens what its current key opened before, unless
the new key opens it too. -/
theorem KeyRing.rotate_opens {ring : KeyRing} {key : Key} {appId : String}
    {ciphertext : List UInt8} {opened : Cipher.Decrypted} (hcurrent : ring.current ≠ Key.zero)
    (hfails : ∃ error, Cipher.decrypt ciphertext appId key = .error error)
    (hopen : Cipher.decrypt ciphertext appId ring.current = .ok opened) :
    (ring.rotate key).Opens appId ciphertext ⟨opened, .previous, ring.current⟩ := by
  have hprevious : (ring.rotate key).previous = some ring.current := by
    rw [rotate, keep, Key.isZero, if_neg (by rwa [beq_iff_eq])]
  have hkey : ring.current ≠ key := by
    intro h
    obtain ⟨error, herror⟩ := hfails
    rw [← h, hopen] at herror
    cases herror
  exact Or.inr ⟨hfails, hprevious, hkey, hopen, rfl⟩

/-! ## The key stays -/

/-- Where the current key opens, the rest of the ring does not matter. -/
theorem KeyRing.unlock_congr {σ ε α : Type} {ring other : KeyRing}
    (hcurrent : other.current = ring.current) {attempt : Key → σ → σ × Except ε α}
    {state after : σ} {value : α}
    (h : attempt ring.current state = (after, .ok value)) :
    other.unlock attempt state = ring.unlock attempt state := by
  rw [unlock_of_ok h]
  rw [← hcurrent] at h ⊢
  exact unlock_of_ok h

/-- The same of opening in buffers. -/
theorem stage_congr {pool : Pool} {ring other : KeyRing} {appId encrypt : String}
    {ciphertext : List UInt8} {opened : Cipher.Decrypted} (hpool : pool.Clean)
    (hcurrent : other.current = ring.current)
    (hencode : Text.Utf8.bytes encrypt = Bytes.Base64.encode ciphertext)
    (hopen : Cipher.decrypt ciphertext appId ring.current = .ok opened) :
    stage appId other pool encrypt = stage appId ring pool encrypt := by
  have hbuffer := hpool.borrow_fst
  have hunlock : ∀ work, other.unlock (attempt appId ciphertext) work =
      ring.unlock (attempt appId ciphertext) work := by
    intro work
    rw [Cipher.decrypt_eq_map, ← attempt_eq appId ciphertext ring.current work] at hopen
    rcases hattempt : attempt appId ciphertext ring.current work with ⟨after, error | opening⟩
    · rw [hattempt] at hopen
      cases hopen
    · exact KeyRing.unlock_congr hcurrent hattempt
  have hdecode := Bytes.Base64.decode_strict_eq_ok_iff.mpr hencode
  rw [stage_of_ok hdecode rfl, stage_of_ok hdecode rfl, hbuffer, List.nil_append, hunlock]

namespace Endpoint

/-- A rotation changes the ring and nothing else. -/
theorem account_rotate (endpoint : Endpoint) (key : Key) :
    (endpoint.rotate key).account = endpoint.account := rfl

theorem refusal_rotate (endpoint : Endpoint) (key : Key) :
    (endpoint.rotate key).refusal = endpoint.refusal := rfl

variable {endpoint : Endpoint} {ring : KeyRing} {query : Query} {body ciphertext : List UInt8}
  {request : SealedRequest} {opened : Cipher.Decrypted}

/-- To make the current key current again changes nothing for a delivery that
the key opens. -/
theorem delivery_rotate_current (hring : endpoint.ring = some ring)
    (hpool : endpoint.pool.Clean) (hmode : NamesAes SameWord query.encryptType)
    (hbody : SealedRequest.ofBody body = .ok request)
    (hencode : Text.Utf8.bytes request.encrypt = Bytes.Base64.encode ciphertext)
    (hopen : Cipher.decrypt ciphertext endpoint.account.appId ring.current = .ok opened)
    (moment : Moment) :
    (endpoint.rotate ring.current).delivery moment query body =
      endpoint.delivery moment query body := by
  have hopening : (endpoint.rotate ring.current).openDelivery query body =
      endpoint.openDelivery query body := by
    unfold openDelivery rotate
    rw [EncryptMode.parse_eq_aes_iff.mpr hmode, hring]
    show openSecure endpoint.account (ring.rotate ring.current) endpoint.pool query body =
      openSecure endpoint.account ring endpoint.pool query body
    unfold openSecure
    cases hunwrap : unwrap endpoint.account query body with
    | error error => rfl
    | ok wrapped =>
      rw [← encrypt_of_unwrap hbody hunwrap] at hencode
      have hstage : stage endpoint.account.appId (ring.rotate ring.current) endpoint.pool
          wrapped.encrypt = stage endpoint.account.appId ring endpoint.pool wrapped.encrypt :=
        stage_congr hpool rfl hencode hopen
      dsimp only
      rw [hstage]
  unfold delivery
  rw [hopening]
  rfl

end Endpoint

/-! ## The key changes -/

/-- What a handler is told of a secure delivery with this query. -/
def Query.securityOf (query : Query) (unlocked : Unlocked Cipher.Decrypted) :
    SecurityContext :=
  CallbackGate.securityOf (query.timestamp.getD "") (query.nonce.getD "") unlocked

theorem Query.securityOf_eq {query : Query} {timestamp nonce : String}
    {unlocked : Unlocked Cipher.Decrypted} (htimestamp : query.Gives .timestamp timestamp)
    (hnonce : query.Gives .nonce nonce) :
    query.securityOf unlocked = CallbackGate.securityOf timestamp nonce unlocked := by
  rw [securityOf, show query.timestamp = some timestamp from htimestamp.1,
    show query.nonce = some nonce from hnonce.1]
  rfl

/-- What is known about an opening, had a key of this generation done it. -/
def SecurityContext.openedBy (generation : Generation) (security : SecurityContext) :
    SecurityContext :=
  { security with generation }

/-- A call, had a key of this generation opened the delivery. -/
def Call.openedBy (generation : Generation) (call : Call) : Call :=
  { call with
    context :=
      { call.context with security := call.context.security.map (·.openedBy generation) } }

/-- What a delivery comes to after a rotation, beside what it would have come to
before.  The handler is told `security` before the rotation.  The two replies are
made at the same time, and each is sealed with a salt of its own. -/
structure Survives (endpoint : Endpoint) (security : SecurityContext) (clock : Int64)
    (drawn drawn' : Salt) (before after : Served) : Prop where
  /-- Before the rotation a handler is told this. -/
  told : ∀ call ∈ before.calls, call.context.security = some security
  /-- The same handler runs on the same envelope, route and payload, or none.  It
  is told the same but for the generation. -/
  calls : after.calls = before.calls.map (Call.openedBy .previous)
  /-- Where no handler runs, both are refused for the same reason. -/
  refused : before.calls = [] → ∃ error, before.refused = some error ∧
    after.refused = some error ∧ after.response = before.response
  /-- The reply is sealed under the key that was current before. -/
  answered : ∀ call ∈ after.calls,
    AnswersSealed endpoint.account endpoint.refusal ⟨clock, drawn'⟩ call.context.envelope
      (security.openedBy .previous) (endpoint.table.replyTo call.context) after
  /-- A handler that gives the same reply is answered for with the same document,
  under the same key. -/
  document : ∀ call ∈ before.calls,
    endpoint.table.replyTo (call.openedBy .previous).context =
        endpoint.table.replyTo call.context →
      ∀ document, after.Carries endpoint.account drawn' (security.openedBy .previous) document ↔
        before.Carries endpoint.account drawn security document

/-- A handler is told how the message was opened. -/
theorem Endpoint.process_told {endpoint : Endpoint} {moment : Moment} {message : List UInt8}
    {security : SecurityContext} {served : Served} {call : Call}
    (hshows : served.Shows endpoint.refusal (endpoint.process moment message (some security)))
    (hcall : call ∈ served.calls) : call.context.security = some security := by
  cases hread : endpoint.readMessage message with
  | error error =>
    unfold process at hshows
    rw [hread] at hshows
    rw [hshows.1] at hcall
    cases hcall
  | ok envelope =>
    obtain ⟨hran, -⟩ := process_secure hread hshows
    rw [hran, List.mem_singleton] at hcall
    rw [hcall]
    rfl

namespace Survives

variable {endpoint : Endpoint} {security : SecurityContext} {clock : Int64}
  {drawn drawn' : Salt} {before after : Served}

/-- Two deliveries that the same error refuses. -/
theorem of_error {error : CallbackError}
    (hbefore : before.Shows endpoint.refusal ([], .error error))
    (hafter : after.Shows endpoint.refusal ([], .error error)) :
    Survives endpoint security clock drawn drawn' before after := by
  obtain ⟨hran, hresponse, hrefused⟩ := hbefore
  obtain ⟨hran', hresponse', hrefused'⟩ := hafter
  refine ⟨?_, ?_, ?_, ?_, ?_⟩
  · intro call hcall
    rw [hran] at hcall
    cases hcall
  · rw [hran, hran']
    rfl
  · intro _
    exact ⟨error, hrefused, hrefused', hresponse'.trans hresponse.symm⟩
  · intro call hcall
    rw [hran'] at hcall
    cases hcall
  · intro call hcall
    rw [hran] at hcall
    cases hcall

/-- One message that both deliveries open to. -/
theorem of_shows {message : List UInt8}
    (hbefore : before.Shows endpoint.refusal
      (endpoint.process ⟨clock, drawn⟩ message (some security)))
    (hafter : after.Shows endpoint.refusal
      (endpoint.process ⟨clock, drawn'⟩ message (some (security.openedBy .previous)))) :
    Survives endpoint security clock drawn drawn' before after := by
  cases hread : endpoint.readMessage message with
  | error error =>
    unfold Endpoint.process at hbefore hafter
    rw [hread] at hbefore hafter
    exact of_error hbefore hafter
  | ok envelope =>
    obtain ⟨hran, hanswers⟩ := Endpoint.process_secure hread hbefore
    obtain ⟨hran', hanswers'⟩ := Endpoint.process_secure hread hafter
    have hsame : endpoint.table.callFor envelope (some (security.openedBy .previous)) =
        (endpoint.table.callFor envelope (some security)).openedBy .previous := rfl
    refine ⟨?_, ?_, ?_, ?_, ?_⟩
    · intro call hcall
      exact Endpoint.process_told hbefore hcall
    · rw [hran, hran', hsame]
      rfl
    · intro hnone
      rw [hran] at hnone
      cases hnone
    · intro call hcall
      rw [hran', List.mem_singleton] at hcall
      rw [hcall]
      exact hanswers'
    · intro call hcall hreply document
      rw [hran, List.mem_singleton] at hcall
      rw [hcall, ← hsame] at hreply
      rw [hanswers.carries_iff, hanswers'.carries_iff, hreply]

end Survives

namespace Endpoint

variable {endpoint : Endpoint} {ring : KeyRing} {query : Query} {body ciphertext : List UInt8}
  {request : SealedRequest} {opened : Cipher.Decrypted}

/-- What a secure delivery comes to if the ring opens the ciphertext in its
wrapper.  The wrapper is checked before a key is looked at. -/
theorem delivery_shows_of_opens {unlocked : Unlocked Cipher.Decrypted}
    (hring : endpoint.ring = some ring) (hpool : endpoint.pool.Clean)
    (hmode : NamesAes SameWord query.encryptType)
    (hbody : SealedRequest.ofBody body = .ok request)
    (hencode : Text.Utf8.bytes request.encrypt = Bytes.Base64.encode ciphertext)
    (hopens : ring.Opens endpoint.account.appId ciphertext unlocked) (moment : Moment) :
    (endpoint.delivery moment query body).Shows endpoint.refusal
      (match unwrap endpoint.account query body with
      | .error error => ([], .error error)
      | .ok _ =>
        endpoint.process moment unlocked.value.message (some (query.securityOf unlocked))) := by
  have hshows := endpoint.delivery_shows moment query body
  rw [deliver,
    opensTo_of_opens (EncryptMode.parse_eq_aes_iff.mpr hmode) hring hpool hbody hencode hopens]
    at hshows
  cases hunwrap : unwrap endpoint.account query body with
  | error error =>
    rw [hunwrap] at hshows
    exact hshows
  | ok wrapped =>
    obtain ⟨-, ⟨htimestamp, hnonce, -⟩, -⟩ := unwrap_eq_ok_iff.mp hunwrap
    rw [hunwrap] at hshows
    rw [Query.securityOf_eq htimestamp hnonce]
    exact hshows

/-- A delivery that the current key opens is handled after a rotation as it would
have been before. -/
theorem delivery_rotate {key : Key} (hring : endpoint.ring = some ring)
    (hpool : endpoint.pool.Clean) (hmode : NamesAes SameWord query.encryptType)
    (hbody : SealedRequest.ofBody body = .ok request)
    (hencode : Text.Utf8.bytes request.encrypt = Bytes.Base64.encode ciphertext)
    (hopen : Cipher.decrypt ciphertext endpoint.account.appId ring.current = .ok opened)
    (hcurrent : ring.current ≠ Key.zero)
    (hfails : ∃ error, Cipher.decrypt ciphertext endpoint.account.appId key = .error error)
    (clock : Int64) (drawn drawn' : Salt) :
    Survives endpoint (query.securityOf ⟨opened, .current, ring.current⟩) clock drawn drawn'
      (endpoint.delivery ⟨clock, drawn⟩ query body)
      ((endpoint.rotate key).delivery ⟨clock, drawn'⟩ query body) := by
  have hring' : (endpoint.rotate key).ring = some (ring.rotate key) := by
    rw [rotate, hring]
    rfl
  have hbefore := delivery_shows_of_opens hring hpool hmode hbody hencode
    (KeyRing.opens_current hopen) ⟨clock, drawn⟩
  have hafter := delivery_shows_of_opens hring' hpool hmode hbody hencode
    (KeyRing.rotate_opens hcurrent hfails hopen) ⟨clock, drawn'⟩
  rw [account_rotate, refusal_rotate] at hafter
  cases hunwrap : unwrap endpoint.account query body with
  | error error =>
    rw [hunwrap] at hbefore hafter
    exact Survives.of_error hbefore hafter
  | ok wrapped =>
    rw [hunwrap] at hbefore hafter
    exact Survives.of_shows hbefore hafter

/-- What a handler is told of a delivery that the current key opens. -/
theorem security_of_mem_calls {moment : Moment} {call : Call} (hring : endpoint.ring = some ring)
    (hpool : endpoint.pool.Clean) (hmode : NamesAes SameWord query.encryptType)
    (hbody : SealedRequest.ofBody body = .ok request)
    (hencode : Text.Utf8.bytes request.encrypt = Bytes.Base64.encode ciphertext)
    (hopen : Cipher.decrypt ciphertext endpoint.account.appId ring.current = .ok opened)
    (hcall : call ∈ (endpoint.delivery moment query body).calls) :
    call.context.security = some (query.securityOf ⟨opened, .current, ring.current⟩) := by
  have hshows := delivery_shows_of_opens hring hpool hmode hbody hencode
    (KeyRing.opens_current hopen) moment
  cases hunwrap : unwrap endpoint.account query body with
  | error error =>
    rw [hunwrap] at hshows
    rw [hshows.1] at hcall
    cases hcall
  | ok wrapped =>
    rw [hunwrap] at hshows
    exact process_told hshows hcall

/-- A signed delivery that the current key opens to a message for the account
runs the handler of its envelope. -/
theorem delivery_calls {timestamp nonce : String} {envelope : Envelope}
    (hring : endpoint.ring = some ring) (hpool : endpoint.pool.Clean)
    (hmode : NamesAes SameWord query.encryptType)
    (hsigned : SignedSecure endpoint.account query body timestamp nonce request)
    (hencode : Text.Utf8.bytes request.encrypt = Bytes.Base64.encode ciphertext)
    (hopen : Cipher.decrypt ciphertext endpoint.account.appId ring.current = .ok opened)
    (hmessage : MessageFor endpoint.account opened.message envelope) (moment : Moment) :
    (endpoint.delivery moment query body).calls = [endpoint.table.callFor envelope
      (some (query.securityOf ⟨opened, .current, ring.current⟩))] := by
  have hunseals : endpoint.Unseals query body opened.message
      (securityOf timestamp nonce ⟨opened, .current, ring.current⟩) :=
    ⟨ring, request, ciphertext, hring, hsigned, hencode, KeyRing.opens_current hopen⟩
  rw [Query.securityOf_eq hsigned.1 hsigned.2.1]
  exact (delivery_of_unseals hmode hpool hunseals hmessage moment).1

/-- A delivery in flight survives one rotation.  A message that was sealed under
the current key and signed runs its handler; if the new key does not open it, the
delivery is handled after the rotation as it would have been before, and its reply
is sealed under the key that sealed the message.  If the new key is the current
one, the delivery comes to the same. -/
theorem rotate_keeps_delivery (account : Account) (ring : KeyRing) (table : Table)
    (refusal : RefusalHandler) (bound : Nat) (steps : List Loans.Step) (salt : Salt)
    (message : List UInt8) (hcurrent : ring.current ≠ Key.zero)
    (hlength : message.length < 2 ^ 32) :
    let pool := ((Loans.start (Pool.new bound)).run steps).pool
    let endpoint : Endpoint := ⟨account, some ring, table, refusal, pool⟩
    ∃ ciphertext, Cipher.encrypt salt message account.appId ring.current = .ok ciphertext ∧
      ∀ query body request key, NamesAes SameWord query.encryptType →
        SealedRequest.ofBody body = .ok request → request.encrypt = base64Text ciphertext →
        let security := query.securityOf ⟨⟨salt, message⟩, .current, ring.current⟩
        (∀ timestamp nonce envelope,
          SignedSecure account query body timestamp nonce request →
          MessageFor account message envelope →
          ∀ moment, (endpoint.delivery moment query body).calls =
            [table.callFor envelope (some security)]) ∧
        ((∃ error, Cipher.decrypt ciphertext account.appId key = .error error) →
          ∀ clock drawn drawn', Survives endpoint security clock drawn drawn'
            (endpoint.delivery ⟨clock, drawn⟩ query body)
            ((endpoint.rotate key).delivery ⟨clock, drawn'⟩ query body)) ∧
        (key = ring.current →
          ∀ moment, (endpoint.rotate key).delivery moment query body =
              endpoint.delivery moment query body ∧
            ∀ call ∈ (endpoint.delivery moment query body).calls,
              call.context.security = some security) := by
  intro pool endpoint
  have hpool : endpoint.pool.Clean := Loans.clean_run (Pool.clean_new bound) steps
  obtain ⟨ciphertext, hsealed, hopen⟩ :=
    Cipher.exists_sealed hlength salt account.appId ring.current
  refine ⟨ciphertext, hsealed, ?_⟩
  intro query body request key hmode hbody hencrypt security
  have hencode : Text.Utf8.bytes request.encrypt = Bytes.Base64.encode ciphertext := by
    rw [hencrypt, bytes_base64Text]
  refine ⟨?_, ?_, ?_⟩
  · intro timestamp nonce envelope hsigned hmessage moment
    exact delivery_calls rfl hpool hmode hsigned hencode hopen hmessage moment
  · intro hfails clock drawn drawn'
    exact delivery_rotate rfl hpool hmode hbody hencode hopen hcurrent hfails clock drawn drawn'
  · intro hkey moment
    rw [hkey]
    refine ⟨delivery_rotate_current rfl hpool hmode hbody hencode hopen moment, ?_⟩
    intro call hcall
    exact security_of_mem_calls rfl hpool hmode hbody hencode hopen hcall

/-- A message with nothing in it, a handler that answers, and a new key that does
not open the message. -/
theorem rotate_keeps_delivery_empty :
    let account : Account := ⟨"token", "app", ""⟩
    let key : Key := ⟨List.replicate 32 7, rfl⟩
    let next : Key := ⟨List.replicate 32 9, rfl⟩
    let ring : KeyRing := ⟨key, none⟩
    let table : Table := { unknown := fun _ => .text "pong" }
    let steps : List Loans.Step := [.borrow, .write 0 [1, 2], .giveBack 0]
    let pool := ((Loans.start (Pool.new 1)).run steps).pool
    let endpoint : Endpoint := ⟨account, some ring, table, RefusalMode.reject.handler, pool⟩
    let message := Text.Utf8.bytes "<xml/>"
    let security : SecurityContext := ⟨⟨List.replicate 16 3, rfl⟩, .current, "1", "2", key⟩
    key ≠ Key.zero ∧ message.length < 2 ^ 32 ∧
      ∃ ciphertext, Cipher.encrypt security.salt message "app" key = .ok ciphertext ∧
        (∃ error, Cipher.decrypt ciphertext "app" next = .error error) ∧
        let request : SealedRequest := ⟨none, base64Text ciphertext⟩
        let query := secureQuery account "1" "2" request.encrypt
        ∀ moment, (endpoint.delivery moment query request.toBody).calls =
            [table.callFor {} (some security)] ∧
          (∀ drawn, Survives endpoint security moment.clock moment.salt drawn
            (endpoint.delivery moment query request.toBody)
            ((endpoint.rotate next).delivery ⟨moment.clock, drawn⟩ query request.toBody)) ∧
          (endpoint.rotate key).delivery moment query request.toBody =
            endpoint.delivery moment query request.toBody := by
  intro account key next ring table steps pool endpoint message security
  have hkey : key ≠ Key.zero := by decide
  have hlength : message.length < 2 ^ 32 := by decide
  have hmessage : MessageFor account message {} := ⟨by decide +kernel, rfl⟩
  obtain ⟨ciphertext, hsealed, hkeeps⟩ := rotate_keeps_delivery account ring table
    RefusalMode.reject.handler 1 steps security.salt message hkey hlength
  have hciphertext := Cipher.encrypt_eq_ok hlength security.salt "app" key
  rw [hsealed, Except.ok.injEq] at hciphertext
  have hfails : ∃ error, Cipher.decrypt ciphertext "app" next = .error error := by
    rw [hciphertext]
    exact ⟨.invalidPadding, by decide +kernel⟩
  refine ⟨hkey, hlength, ciphertext, hsealed, hfails, ?_⟩
  intro request query moment
  obtain ⟨hmode, htimestamp, hnonce, hsignature⟩ : CarriesSecure account "1" "2"
      request.encrypt query :=
    carriesSecure_secureQuery (by decide) (by decide) account request.encrypt
  have hbody : SealedRequest.ofBody request.toBody = .ok request := request.ofBody_toBody
  have hsigned : SignedSecure account query request.toBody "1" "2" request :=
    ⟨htimestamp, hnonce, hbody, hsignature, Or.inl rfl⟩
  obtain ⟨hruns, hsurvives, -⟩ := hkeeps query request.toBody request next hmode hbody rfl
  obtain ⟨-, -, hstays⟩ := hkeeps query request.toBody request key hmode hbody rfl
  exact ⟨hruns "1" "2" {} hsigned hmessage moment,
    hsurvives hfails moment.clock moment.salt, (hstays rfl moment).1⟩

end Endpoint

end CallbackGate
