import CallbackGate.Proofs.Gate

/-!
# Sealed replies can be opened

The reply to a secure delivery is sealed under the key that opened the delivery,
whichever of the ring it was, and signed for the timestamp and the nonce of the
delivery.  Who sent the delivery can read it back and open it.

There are three groups.

* Openings.  `opensTo_eq_ok_iff_unseals` says which secure deliveries the ring
  opens, to which message and with which key.
* Seals.  What `sealReply` makes is read back as a reply that opens to the
  document (`sealReply_seals`).
* Answers.  `process_secure` says what a message comes to that was sealed, and
  `serveMethod_seals_reply` what a request comes to that delivers it.
-/

namespace CallbackGate

/-! ## Openings -/

/-- A query of a secure delivery, signed for a timestamp, a nonce and a
ciphertext. -/
def CarriesSecure (account : Account) (timestamp nonce encrypt : String)
    (query : Query) : Prop :=
  NamesAes SameWord query.encryptType ∧
    query.Gives .timestamp timestamp ∧ query.Gives .nonce nonce ∧
    query.Gives .msgSignature (Signature.message account.token timestamp nonce encrypt)

/-- The query of a secure delivery. -/
def secureQuery (account : Account) (timestamp nonce encrypt : String) : Query :=
  { msgSignature := some (Signature.message account.token timestamp nonce encrypt)
    timestamp := some timestamp
    nonce := some nonce
    encryptType := some "aes" }

theorem carriesSecure_secureQuery {timestamp nonce : String} (htimestamp : timestamp ≠ "")
    (hnonce : nonce ≠ "") (account : Account) (encrypt : String) :
    CarriesSecure account timestamp nonce encrypt
      (secureQuery account timestamp nonce encrypt) := by
  refine ⟨⟨"aes", rfl, ?_⟩, ⟨rfl, htimestamp⟩, ⟨rfl, hnonce⟩, rfl, Signature.sign_ne_empty _⟩
  show Text.folded (Text.trim "aes") = Text.folded "aes"
  decide

namespace Endpoint

/-- The key ring of an endpoint opens a secure delivery to a message.  The
delivery is signed for the account, and `security` says which key opened it. -/
def Unseals (endpoint : Endpoint) (query : Query) (body message : List UInt8)
    (security : SecurityContext) : Prop :=
  ∃ ring request ciphertext, endpoint.ring = some ring ∧
    SignedSecure endpoint.account query body security.timestamp security.nonce request ∧
    Text.Utf8.bytes request.encrypt = Bytes.Base64.encode ciphertext ∧
    ring.Opens endpoint.account.appId ciphertext
      ⟨⟨security.salt, message⟩, security.generation, security.key⟩

variable {endpoint : Endpoint}

/-- A secure delivery opens to the message that the ring opens it to. -/
theorem opensTo_eq_ok_iff_unseals {query : Query} {body message : List UInt8}
    {security : Option SecurityContext} (hmode : NamesAes SameWord query.encryptType)
    (hpool : endpoint.pool.Clean) :
    endpoint.opensTo query body = .ok (message, security) ↔
      ∃ known, security = some known ∧ endpoint.Unseals query body message known := by
  have haes := EncryptMode.parse_eq_aes_iff.mpr hmode
  cases hring : endpoint.ring with
  | none =>
    rw [opensTo, openDelivery, haes, hring]
    refine iff_of_false ?_ ?_
    · intro h
      cases h
    · intro h
      obtain ⟨known, -, ring, request, ciphertext, hsome, -⟩ := h
      rw [hring] at hsome
      cases hsome
  | some ring =>
    rw [opensTo_aes_eq_ok_iff haes hring hpool]
    constructor
    · intro h
      obtain ⟨timestamp, nonce, request, ciphertext, unlocked, hsigned, hencode, hopens,
        hopened⟩ := h
      cases hopened
      exact ⟨securityOf timestamp nonce unlocked, rfl, ring, request, ciphertext, hring,
        hsigned, hencode, hopens⟩
    · intro h
      obtain ⟨known, hknown, other, request, ciphertext, hother, hsigned, hencode, hopens⟩ := h
      rw [hring, Option.some.injEq] at hother
      rw [← hother] at hopens
      rw [hknown]
      exact ⟨known.timestamp, known.nonce, request, ciphertext, _, hsigned, hencode, hopens,
        rfl⟩

end Endpoint

/-- A signed delivery is opened by the ring if its ciphertext is. -/
theorem CarriesSecure.unseals {endpoint : Endpoint} {ring : KeyRing}
    {timestamp nonce : String} {query : Query} {body ciphertext : List UInt8}
    {request : SealedRequest} {unlocked : Unlocked Cipher.Decrypted}
    (hring : endpoint.ring = some ring)
    (hquery : CarriesSecure endpoint.account timestamp nonce request.encrypt query)
    (hbody : SealedRequest.ofBody body = .ok request)
    (hrecipient : NamesRecipient endpoint.account request.toUserName)
    (hencode : Text.Utf8.bytes request.encrypt = Bytes.Base64.encode ciphertext)
    (hopens : ring.Opens endpoint.account.appId ciphertext unlocked) :
    endpoint.Unseals query body unlocked.value.message (securityOf timestamp nonce unlocked) := by
  obtain ⟨-, htimestamp, hnonce, hsignature⟩ := hquery
  exact ⟨ring, request, ciphertext, hring,
    ⟨htimestamp, hnonce, hbody, hsignature, hrecipient⟩, hencode, hopens⟩

/-! ## Seals -/

/-- The text of bytes in Base64 spells them. -/
theorem bytes_base64Text (bytes : List UInt8) :
    Text.Utf8.bytes (base64Text bytes) = Bytes.Base64.encode bytes :=
  Text.Utf8.bytes_ofList_ascii (Bytes.Base64.encode_ascii bytes)

/-- A body is read as a sealed reply to a delivery: its ciphertext opens to this
document under the key of the delivery, its nonce is that of the delivery, and
it is signed for the delivery. -/
def SealsReply (account : Account) (salt : Salt) (security : SecurityContext)
    (document body : List UInt8) : Prop :=
  ∃ reply ciphertext, SealedReply.ofBody body = .ok reply ∧
    Bytes.Base64.decode .strict (Text.Utf8.bytes reply.encrypt) = .ok ciphertext ∧
    Cipher.decrypt ciphertext account.appId security.key = .ok ⟨salt, document⟩ ∧
    reply.nonce = security.nonce ∧
    reply.msgSignature =
      Signature.message account.token security.timestamp security.nonce reply.encrypt

/-- What `sealReply` makes of a document is read back as its sealed reply. -/
theorem sealReply_seals {document : List UInt8} (h : document.length < 2 ^ 32)
    (account : Account) (salt : Salt) (security : SecurityContext) :
    ∃ reply, sealReply account salt security document = .ok reply ∧
      SealsReply account salt security document reply.toBody := by
  obtain ⟨ciphertext, hsealed, hopen⟩ :=
    Cipher.exists_sealed h salt account.appId security.key
  rw [sealReply, hsealed]
  refine ⟨_, rfl, _, ciphertext, SealedReply.ofBody_toBody _, ?_, hopen, rfl, rfl⟩
  show Bytes.Base64.decode .strict (Text.Utf8.bytes (base64Text ciphertext)) = _
  rw [bytes_base64Text, Bytes.Base64.decode_encode]

/-- A reply that is too long cannot be sealed. -/
theorem sealReply_of_long {document : List UInt8} (h : 2 ^ 32 ≤ document.length)
    (account : Account) (salt : Salt) (security : SecurityContext) :
    sealReply account salt security document = .error (.invalidLength document.length) := by
  rw [sealReply, Cipher.encrypt_of_long h]
  rfl

/-- A body is read as the sealed reply with one document only. -/
theorem SealsReply.unique {account : Account} {salt : Salt} {security : SecurityContext}
    {document other body : List UInt8} (h : SealsReply account salt security document body)
    (hother : SealsReply account salt security other body) : other = document := by
  obtain ⟨reply, ciphertext, hread, hdecode, hopen, -⟩ := h
  obtain ⟨reply', ciphertext', hread', hdecode', hopen', -⟩ := hother
  rw [hread, Except.ok.injEq] at hread'
  rw [← hread', hdecode, Except.ok.injEq] at hdecode'
  rw [← hdecode', hopen, Except.ok.injEq, Cipher.Decrypted.mk.injEq] at hopen'
  exact hopen'.2.symm

/-! ## Answers -/

/-- A request was answered with this document, sealed for a delivery. -/
def Served.Carries (served : Served) (account : Account) (salt : Salt)
    (security : SecurityContext) (document : List UInt8) : Prop :=
  served.refused = none ∧
    ∃ body, served.response = .document body ∧ SealsReply account salt security document body

/-- A secure delivery came to a reply: to nothing, to the document of the reply,
sealed for the delivery, or to an error if the document is too long for that. -/
structure AnswersSealed (account : Account) (refusal : RefusalHandler) (moment : Moment)
    (envelope : Envelope) (security : SecurityContext) (reply : Reply)
    (served : Served) : Prop where
  /-- The empty reply has no document, and nothing is sealed. -/
  empty : reply.encode? envelope moment.clock = none →
    served.refused = none ∧ served.response = .empty
  /-- A document is sealed under the key of the delivery. -/
  document : ∀ document, reply.encode? envelope moment.clock = some document →
    document.length < 2 ^ 32 → served.Carries account moment.salt security document
  /-- A document that is too long is refused. -/
  tooLong : ∀ document, reply.encode? envelope moment.clock = some document →
    2 ^ 32 ≤ document.length →
      served.refused = some (.crypto (.invalidLength document.length)) ∧
        served.response = refusal (.crypto (.invalidLength document.length))

namespace AnswersSealed

variable {account : Account} {refusal : RefusalHandler} {moment : Moment}
  {envelope : Envelope} {security : SecurityContext} {reply : Reply} {served : Served}

/-- A request that shows the document of a reply, sealed, came to that reply. -/
theorem of_shows {calls : List Call}
    (hshows : served.Shows refusal (calls,
      match reply.encode? envelope moment.clock with
      | none => .ok .empty
      | some document =>
        ((sealReply account moment.salt security document).map
          (Response.document ∘ SealedReply.toBody)).mapError .crypto)) :
    AnswersSealed account refusal moment envelope security reply served := by
  obtain ⟨-, houtcome⟩ := hshows
  refine ⟨?_, ?_, ?_⟩
  · intro hnone
    rw [hnone] at houtcome
    exact houtcome.symm
  · intro document hsome hlength
    obtain ⟨sealed, hseal, hseals⟩ := sealReply_seals hlength account moment.salt security
    rw [hsome] at houtcome
    dsimp only at houtcome
    rw [hseal] at houtcome
    exact ⟨houtcome.2, sealed.toBody, houtcome.1, hseals⟩
  · intro document hsome hlength
    rw [hsome] at houtcome
    dsimp only at houtcome
    rw [sealReply_of_long hlength] at houtcome
    exact houtcome.symm

/-- The answer carries the document of the reply, if it can be sealed, and no
other. -/
theorem carries_iff (h : AnswersSealed account refusal moment envelope security reply served)
    (document : List UInt8) :
    served.Carries account moment.salt security document ↔
      reply.encode? envelope moment.clock = some document ∧ document.length < 2 ^ 32 := by
  constructor
  · intro hcarries
    obtain ⟨hnone, body, hbody, hseals⟩ := hcarries
    cases hencode : reply.encode? envelope moment.clock with
    | none =>
      rw [(h.empty hencode).2] at hbody
      cases hbody
    | some written =>
      by_cases hlength : written.length < 2 ^ 32
      · obtain ⟨-, body', hbody', hseals'⟩ := h.document written hencode hlength
        rw [hbody, Response.document.injEq] at hbody'
        rw [← hbody'] at hseals'
        have hsame : written = document := hseals.unique hseals'
        rw [hsame] at hlength ⊢
        exact ⟨rfl, hlength⟩
      · have hsome := (h.tooLong written hencode (by omega)).1
        rw [hnone] at hsome
        cases hsome
  · intro hencode
    exact h.document document hencode.1 hencode.2

end AnswersSealed

namespace Endpoint

variable {endpoint : Endpoint}

/-- A sealed message is answered with the empty reply or the document of the
reply, sealed. -/
theorem answer_secure (endpoint : Endpoint) (moment : Moment) (envelope : Envelope)
    (security : SecurityContext) :
    let call := endpoint.table.callFor envelope (some security)
    endpoint.answer moment envelope (some security) =
      ([call],
        match (endpoint.table.replyTo call.context).encode? envelope moment.clock with
        | none => .ok .empty
        | some document =>
          ((sealReply endpoint.account moment.salt security document).map
            (Response.document ∘ SealedReply.toBody)).mapError .crypto) := by
  intro call
  obtain ⟨hcalls, hreply⟩ := dispatch_eq_callFor endpoint.table envelope (some security)
  unfold answer
  dsimp only
  rw [hcalls, hreply]
  cases (endpoint.table.replyTo call.context).encode? envelope moment.clock with
  | none => rfl
  | some document =>
    unfold responseBody
    dsimp only
    cases sealReply endpoint.account moment.salt security document with
    | error error => rfl
    | ok reply => rfl

/-- What a sealed message comes to that is for the account: one handler runs and
its reply is sealed. -/
theorem process_secure {moment : Moment} {message : List UInt8} {envelope : Envelope}
    {security : SecurityContext} {served : Served}
    (hread : endpoint.readMessage message = .ok envelope)
    (hshows : served.Shows endpoint.refusal
      (endpoint.process moment message (some security))) :
    let call := endpoint.table.callFor envelope (some security)
    served.calls = [call] ∧
      AnswersSealed endpoint.account endpoint.refusal moment envelope security
        (endpoint.table.replyTo call.context) served := by
  intro call
  unfold process at hshows
  rw [hread] at hshows
  dsimp only at hshows
  rw [answer_secure] at hshows
  exact ⟨hshows.1, AnswersSealed.of_shows hshows⟩

/-- What a secure delivery comes to that the ring opens to a message for the
account. -/
theorem delivery_of_unseals {query : Query} {body message : List UInt8}
    {security : SecurityContext} {envelope : Envelope}
    (hmode : NamesAes SameWord query.encryptType) (hpool : endpoint.pool.Clean)
    (hunseals : endpoint.Unseals query body message security)
    (hmessage : MessageFor endpoint.account message envelope) (moment : Moment) :
    let call := endpoint.table.callFor envelope (some security)
    (endpoint.delivery moment query body).calls = [call] ∧
      AnswersSealed endpoint.account endpoint.refusal moment envelope security
        (endpoint.table.replyTo call.context) (endpoint.delivery moment query body) := by
  have hshows := endpoint.delivery_shows moment query body
  have hopen := (opensTo_eq_ok_iff_unseals hmode hpool).mpr ⟨security, rfl, hunseals⟩
  rw [deliver, hopen] at hshows
  exact process_secure (readMessage_eq_ok_iff.mpr hmessage) hshows

/-- A secure delivery runs a handler only if the ring opens it to a message for
the account. -/
theorem unseals_of_mem_calls {query : Query} {body : List UInt8} {moment : Moment}
    {call : Call} (hmode : NamesAes SameWord query.encryptType) (hpool : endpoint.pool.Clean)
    (hcall : call ∈ (endpoint.delivery moment query body).calls) :
    ∃ message security, endpoint.Unseals query body message security ∧
      MessageFor endpoint.account message call.context.envelope := by
  rw [(endpoint.delivery_shows moment query body).1] at hcall
  rcases endpoint.deliver_calls moment query body with
    ⟨hnone, -⟩ | ⟨ran, message, opened, hone, hopen, hmessage⟩
  · rw [hnone] at hcall
    cases hcall
  · rw [hone, List.mem_singleton] at hcall
    obtain ⟨security, -, hunseals⟩ := (opensTo_eq_ok_iff_unseals hmode hpool).mp hopen
    rw [hcall]
    exact ⟨message, security, hunseals, hmessage⟩

/-- Every sealed reply can be opened by who sent the delivery.  Whatever the
endpoint is and wherever its pool stands, a secure delivery runs a handler exactly
if the ring opens it to a message for the account, and the document of the
handler's reply is sealed under the key that opened it. -/
theorem serveMethod_seals_reply (account : Account) (ring : Option KeyRing) (table : Table)
    (refusal : RefusalHandler) (bound : Nat) (steps : List Loans.Step) (moment : Moment)
    (method : String) (query : Query) (body : List UInt8)
    (hmode : NamesAes SameWord query.encryptType) :
    let pool := ((Loans.start (Pool.new bound)).run steps).pool
    let endpoint : Endpoint := ⟨account, ring, table, refusal, pool⟩
    let served := endpoint.serveMethod moment method query body
    (served.calls ≠ [] ↔ SameWord method "POST" ∧ ∃ message security envelope,
      endpoint.Unseals query body message security ∧ MessageFor account message envelope) ∧
    ∀ call ∈ served.calls, ∃ message security,
      endpoint.Unseals query body message security ∧
      MessageFor account message call.context.envelope ∧
      call = table.callFor call.context.envelope (some security) ∧
      AnswersSealed account refusal moment call.context.envelope security
        (table.replyTo call.context) served := by
  intro pool endpoint served
  have hpool : endpoint.pool.Clean := Loans.clean_run (Pool.clean_new bound) steps
  by_cases hpost : SameWord method "POST"
  · have hserved : served = endpoint.delivery moment query body :=
      serveMethod_of_post hpost endpoint moment query body
    rw [hserved]
    refine ⟨⟨?_, ?_⟩, ?_⟩
    · intro hran
      obtain ⟨call, hcall⟩ := List.exists_mem_of_ne_nil _ hran
      obtain ⟨message, security, hunseals, hmessage⟩ := unseals_of_mem_calls hmode hpool hcall
      exact ⟨hpost, message, security, _, hunseals, hmessage⟩
    · intro h
      obtain ⟨-, message, security, envelope, hunseals, hmessage⟩ := h
      rw [(delivery_of_unseals hmode hpool hunseals hmessage moment).1]
      exact List.cons_ne_nil _ _
    · intro call hcall
      obtain ⟨message, security, hunseals, hmessage⟩ := unseals_of_mem_calls hmode hpool hcall
      obtain ⟨hcalls, hanswers⟩ := delivery_of_unseals hmode hpool hunseals hmessage moment
      have hone : call = table.callFor call.context.envelope (some security) :=
        List.mem_singleton.mp (hcalls ▸ hcall)
      rw [← hone] at hanswers
      exact ⟨message, security, hunseals, hmessage, hone, hanswers⟩
  · have hnone : served.calls = [] := calls_of_not_post hpost endpoint moment query body
    rw [hnone]
    refine ⟨iff_of_false (fun h => h rfl) (fun h => hpost h.1), ?_⟩
    intro call hcall
    cases hcall

/-- A reply with the end mark of a section, to a delivery whose nonce has that
mark, markup and white space around it. -/
theorem serveMethod_seals_reply_hostile :
    let account : Account := ⟨"token", "app", "gh"⟩
    let key : Key := ⟨List.replicate 32 7, rfl⟩
    let ring : KeyRing := ⟨key, none⟩
    let table : Table := { unknown := fun _ => .text "]]>" }
    let steps : List Loans.Step := [.borrow, .write 0 [1, 2], .giveBack 0]
    let pool := ((Loans.start (Pool.new 1)).run steps).pool
    let endpoint : Endpoint := ⟨account, some ring, table, RefusalMode.reject.handler, pool⟩
    let moment : Moment := ⟨1700000000, ⟨List.replicate 16 5, rfl⟩⟩
    let security : SecurityContext :=
      ⟨⟨List.replicate 16 3, rfl⟩, .current, "1", " ]]><a> ", key⟩
    ∃ ciphertext, Cipher.encrypt security.salt bareMessage "app" key = .ok ciphertext ∧
      let request : SealedRequest := ⟨none, base64Text ciphertext⟩
      let query := secureQuery account "1" " ]]><a> " request.encrypt
      let served := endpoint.serveMethod moment "POST" query request.toBody
      NamesAes SameWord query.encryptType ∧
        served.calls = [table.callFor { toUserName := "gh" } (some security)] ∧
        ∃ document, (Reply.text "]]>").encode? { toUserName := "gh" } moment.clock =
            some document ∧
          served.Carries account moment.salt security document := by
  intro account key ring table steps pool endpoint moment security
  obtain ⟨ciphertext, hencrypt, hopen⟩ :=
    Cipher.exists_sealed (show bareMessage.length < 2 ^ 32 by decide) security.salt "app" key
  refine ⟨ciphertext, hencrypt, ?_⟩
  intro request query served
  have hpool : endpoint.pool.Clean := Loans.clean_run (Pool.clean_new 1) steps
  have hquery : CarriesSecure account "1" " ]]><a> " request.encrypt query :=
    carriesSecure_secureQuery (by decide) (by decide) account request.encrypt
  have hring : endpoint.ring = some ring := rfl
  have hunseals := hquery.unseals hring request.ofBody_toBody (Or.inl rfl)
    (bytes_base64Text ciphertext) (KeyRing.opens_current hopen)
  have hcalls : served.calls = [table.callFor { toUserName := "gh" } (some security)] :=
    (delivery_of_unseals hquery.1 hpool hunseals ⟨ofBody_bareMessage, rfl⟩ moment).1
  have hmem : table.callFor { toUserName := "gh" } (some security) ∈ served.calls := by
    rw [hcalls]
    exact List.mem_singleton_self _
  obtain ⟨message, other, -, -, hcall, hanswers⟩ := (serveMethod_seals_reply account
    (some ring) table RefusalMode.reject.handler 1 steps moment "POST" query _ hquery.1).2 _ hmem
  have hother : some security = some other :=
    congrArg (fun call : Call => call.context.security) hcall
  cases hother
  exact ⟨hquery.1, hcalls, _, rfl, hanswers.document _ rfl (by decide +kernel)⟩

end Endpoint

end CallbackGate
