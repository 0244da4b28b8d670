import CallbackGate.Proofs.SealedReplies

/-!
# The secure path agrees with the plain path

A message that is delivered sealed is handled as if it had been delivered plain:
the same handler runs on the same envelope, and the reply is the same but for
its seal.  Only a reply that is too long to be sealed tells the two apart.

There are two groups.

* Handlers that do not read the security context.
* Two deliveries.  `opensTo_sealed` opens the sealed delivery to the message,
  and `secure_agrees_with_plain` compares the two.
-/

namespace CallbackGate

/-! ## Handlers -/

/-- A handler that does not read the security context. -/
def IgnoresSecurity (handler : Handler) : Prop :=
  ∀ context security, handler { context with security } = handler context

/-- No handler of a table reads the security context. -/
def Table.IgnoresSecurity (table : Table) : Prop :=
  (∀ entry ∈ table.registrations, CallbackGate.IgnoresSecurity entry.handler) ∧
    CallbackGate.IgnoresSecurity table.unknown

/-- A call without what is known about the opening. -/
def Call.withoutSecurity (call : Call) : Call :=
  { call with context := { call.context with security := none } }

/-- Such a table answers the same in any security context. -/
theorem Table.IgnoresSecurity.replyTo {table : Table} (h : table.IgnoresSecurity)
    (context : Context) (security : Option SecurityContext) :
    table.replyTo { context with security } = table.replyTo context := by
  unfold Table.replyTo
  dsimp only
  cases hfind : context.route.bind table.find? with
  | none => exact h.2 context security
  | some entry =>
    obtain ⟨route, -, hentry⟩ := Option.bind_eq_some_iff.mp hfind
    exact h.1 entry (List.mem_of_find?_eq_some hentry) context security

/-! ## Two deliveries -/

/-- A query of a plain delivery, signed for a timestamp and a nonce. -/
def CarriesPlain (account : Account) (timestamp nonce : String) (query : Query) : Prop :=
  NamesRaw SameWord query.encryptType ∧
    query.Gives .timestamp timestamp ∧ query.Gives .nonce nonce ∧
    query.Gives .signature (Signature.handshake account.token timestamp nonce)

/-- What a secure delivery has in common with the plain delivery of the same
message.  The key is the one that sealed the message, and the salt the one that
seals the reply. -/
structure Agrees (account : Account) (salt : Salt) (key : Key)
    (plain secure : Served) : Prop where
  /-- The same handler runs on the same envelope, route and payload, or none. -/
  calls : secure.calls.map Call.withoutSecurity = plain.calls
  /-- What refuses the one refuses the other. -/
  refused : ∀ error, plain.refused = some error →
    secure.refused = some error ∧ secure.response = plain.response
  /-- One answers with the empty reply if the other does. -/
  empty : secure.refused = none ∧ secure.response = .empty ↔
    plain.refused = none ∧ plain.response = .empty
  /-- A document that answers the one is sealed in the answer to the other. -/
  document : ∀ document, plain.refused = none → plain.response = .document document →
    document.length < 2 ^ 32 →
      secure.refused = none ∧ ∃ body reply ciphertext, secure.response = .document body ∧
        SealedReply.ofBody body = .ok reply ∧
        Bytes.Base64.decode .strict (Text.Utf8.bytes reply.encrypt) = .ok ciphertext ∧
        Cipher.decrypt ciphertext account.appId key = .ok ⟨salt, document⟩
  /-- A document that is too long is an error of the sealed delivery alone. -/
  tooLong : ∀ document, plain.refused = none → plain.response = .document document →
    2 ^ 32 ≤ document.length →
      secure.refused = some (.crypto (.invalidLength document.length))
  /-- A plain delivery is answered with the empty reply or with a document. -/
  answered : plain.refused = none →
    plain.response = .empty ∨ ∃ document, plain.response = .document document

namespace Agrees

variable {account : Account} {salt : Salt} {key : Key} {refusal : RefusalHandler}
  {plain secure : Served} {calls calls' : List Call}

/-- Two deliveries that the same error refuses. -/
theorem of_error {error : CallbackError} (hcalls : calls'.map Call.withoutSecurity = calls)
    (hplain : plain.Shows refusal (calls, .error error))
    (hsecure : secure.Shows refusal (calls', .error error)) :
    Agrees account salt key plain secure := by
  obtain ⟨hran, hresponse, hrefused⟩ := hplain
  obtain ⟨hran', hresponse', hrefused'⟩ := hsecure
  have hsome : plain.refused ≠ none := by
    rw [hrefused]
    intro h
    cases h
  refine ⟨?_, ?_, ?_, ?_, ?_, ?_⟩
  · rw [hran, hran', hcalls]
  · intro other hother
    rw [hrefused', ← hrefused, hresponse, hresponse']
    exact ⟨hother, rfl⟩
  · rw [hrefused', ← hrefused]
    exact iff_of_false (fun h => hsome h.1) (fun h => hsome h.1)
  · intro document hnone
    exact absurd hnone hsome
  · intro document hnone
    exact absurd hnone hsome
  · intro hnone
    exact absurd hnone hsome

/-- Two deliveries that are answered with the empty reply. -/
theorem of_empty (hcalls : secure.calls.map Call.withoutSecurity = calls)
    (hplain : plain.Shows refusal (calls, .ok .empty))
    (hsecure : secure.refused = none ∧ secure.response = .empty) :
    Agrees account salt key plain secure := by
  obtain ⟨hran, hresponse, hrefused⟩ := hplain
  have hdocument : ∀ document, plain.response ≠ .document document := by
    intro document h
    rw [hresponse] at h
    cases h
  refine ⟨?_, ?_, ?_, ?_, ?_, ?_⟩
  · rw [hran, hcalls]
  · intro error herror
    rw [hrefused] at herror
    cases herror
  · exact iff_of_true hsecure ⟨hrefused, hresponse⟩
  · intro document _ h
    exact absurd h (hdocument document)
  · intro document _ h
    exact absurd h (hdocument document)
  · intro _
    exact Or.inl hresponse

/-- A document, and the same document sealed. -/
theorem of_document {moment : Moment} {envelope : Envelope} {security : SecurityContext}
    {reply : Reply} {document : List UInt8}
    (hencode : reply.encode? envelope moment.clock = some document)
    (hcalls : secure.calls.map Call.withoutSecurity = calls)
    (hplain : plain.Shows refusal (calls, .ok (.document document)))
    (hsecure : AnswersSealed account refusal moment envelope security reply secure) :
    Agrees account moment.salt security.key plain secure := by
  obtain ⟨hran, hresponse, hrefused⟩ := hplain
  have hsame : ∀ other, plain.response = .document other → other = document := by
    intro other h
    rw [hresponse, Response.document.injEq] at h
    exact h.symm
  refine ⟨?_, ?_, ?_, ?_, ?_, ?_⟩
  · rw [hran, hcalls]
  · intro error herror
    rw [hrefused] at herror
    cases herror
  · -- A sealed reply is a document, and a reply that cannot be sealed is refused.
    refine iff_of_false ?_ ?_
    · intro h
      obtain ⟨hnone, hempty⟩ := h
      by_cases hlength : document.length < 2 ^ 32
      · obtain ⟨-, body, hbody, -⟩ := hsecure.document document hencode hlength
        rw [hempty] at hbody
        cases hbody
      · have hsome := (hsecure.tooLong document hencode (by omega)).1
        rw [hnone] at hsome
        cases hsome
    · intro h
      obtain ⟨-, hempty⟩ := h
      rw [hresponse] at hempty
      cases hempty
  · intro other _ hother hlength
    rw [hsame other hother] at hlength ⊢
    obtain ⟨hnone, body, hbody, read, ciphertext, hread, hdecode, hopen, -⟩ :=
      hsecure.document document hencode hlength
    exact ⟨hnone, body, read, ciphertext, hbody, hread, hdecode, hopen⟩
  · intro other _ hother hlength
    rw [hsame other hother] at hlength ⊢
    exact (hsecure.tooLong document hencode hlength).1
  · intro _
    exact Or.inr ⟨document, hresponse⟩

end Agrees

namespace Endpoint

/-- A plain message is answered with the empty reply or the document of the
reply. -/
theorem answer_plain (endpoint : Endpoint) (moment : Moment) (envelope : Envelope) :
    let call := endpoint.table.callFor envelope none
    endpoint.answer moment envelope none =
      ([call],
        match (endpoint.table.replyTo call.context).encode? envelope moment.clock with
        | none => .ok .empty
        | some document => .ok (.document document)) := by
  intro call
  obtain ⟨hcalls, hreply⟩ := dispatch_eq_callFor endpoint.table envelope none
  unfold answer
  dsimp only
  rw [hcalls, hreply]
  cases (endpoint.table.replyTo call.context).encode? envelope moment.clock with
  | none => rfl
  | some document => rfl

/-- What is done with a message, opened plain and opened sealed. -/
theorem process_agrees {endpoint : Endpoint} (htable : endpoint.table.IgnoresSecurity)
    (moment : Moment) (message : List UInt8) (security : SecurityContext)
    {plain secure : Served}
    (hplain : plain.Shows endpoint.refusal (endpoint.process moment message none))
    (hsecure : secure.Shows endpoint.refusal
      (endpoint.process moment message (some security))) :
    Agrees endpoint.account moment.salt security.key plain secure := by
  cases hread : endpoint.readMessage message with
  | error error =>
    -- The message is refused before anything looks at how it was opened.
    unfold process at hplain hsecure
    rw [hread] at hplain hsecure
    exact Agrees.of_error rfl hplain hsecure
  | ok envelope =>
    obtain ⟨hcalls, hanswers⟩ := process_secure hread hsecure
    have hreply : endpoint.table.replyTo
        (endpoint.table.callFor envelope (some security)).context =
        endpoint.table.replyTo (endpoint.table.callFor envelope none).context :=
      htable.replyTo (endpoint.table.callFor envelope none).context (some security)
    have hsame : secure.calls.map Call.withoutSecurity =
        [endpoint.table.callFor envelope none] := by
      rw [hcalls]
      rfl
    unfold process at hplain
    rw [hread] at hplain
    dsimp only at hplain
    rw [answer_plain] at hplain
    rw [hreply] at hanswers
    cases hencode : (endpoint.table.replyTo
        (endpoint.table.callFor envelope none).context).encode? envelope moment.clock with
    | none =>
      rw [hencode] at hplain
      exact Agrees.of_empty hsame hplain (hanswers.empty hencode)
    | some document =>
      rw [hencode] at hplain
      exact Agrees.of_document hencode hsame hplain hanswers

/-- A signed plain delivery opens to its body. -/
theorem opensTo_signedPlain {endpoint : Endpoint} {timestamp nonce : String} {query : Query}
    (h : CarriesPlain endpoint.account timestamp nonce query) (message : List UInt8) :
    endpoint.opensTo query message = .ok (message, none) := by
  obtain ⟨hmode, htimestamp, hnonce, hsignature⟩ := h
  have hsigned : SignedPlain endpoint.account.token query :=
    ⟨timestamp, nonce, htimestamp, hnonce, hsignature⟩
  rw [opensTo_of_raw (EncryptMode.parse_eq_raw_iff.mpr hmode),
    openPlain_eq_ok_iff.mpr ⟨hsigned, rfl⟩]
  rfl

/-- A signed secure delivery of a sealed message opens to the message. -/
theorem opensTo_sealed {endpoint : Endpoint} {ring : KeyRing} {timestamp nonce : String}
    {query : Query} {body message ciphertext : List UInt8} {request : SealedRequest}
    {salt : Salt} (hring : endpoint.ring = some ring) (hpool : endpoint.pool.Clean)
    (hquery : CarriesSecure endpoint.account timestamp nonce request.encrypt query)
    (hbody : SealedRequest.ofBody body = .ok request)
    (hrecipient : NamesRecipient endpoint.account request.toUserName)
    (hencrypt : request.encrypt = base64Text ciphertext)
    (hopen : Cipher.decrypt ciphertext endpoint.account.appId ring.current =
      .ok ⟨salt, message⟩) :
    endpoint.opensTo query body =
      .ok (message, some ⟨salt, .current, timestamp, nonce, ring.current⟩) := by
  have hencode : Text.Utf8.bytes request.encrypt = Bytes.Base64.encode ciphertext := by
    rw [hencrypt, bytes_base64Text]
  have hunseals :=
    hquery.unseals hring hbody hrecipient hencode (KeyRing.opens_current hopen)
  exact (opensTo_eq_ok_iff_unseals hquery.1 hpool).mpr ⟨_, rfl, hunseals⟩

/-- A message that is delivered sealed is handled as if it had been delivered
plain. -/
theorem deliveries_agree {endpoint : Endpoint} {ring : KeyRing} {timestamp nonce : String}
    {plainQuery secureQuery : Query} {body message ciphertext : List UInt8}
    {request : SealedRequest} {salt : Salt} (hring : endpoint.ring = some ring)
    (hpool : endpoint.pool.Clean) (htable : endpoint.table.IgnoresSecurity)
    (hplainQuery : CarriesPlain endpoint.account timestamp nonce plainQuery)
    (hsecureQuery : CarriesSecure endpoint.account timestamp nonce request.encrypt secureQuery)
    (hbody : SealedRequest.ofBody body = .ok request)
    (hrecipient : NamesRecipient endpoint.account request.toUserName)
    (hencrypt : request.encrypt = base64Text ciphertext)
    (hopen : Cipher.decrypt ciphertext endpoint.account.appId ring.current =
      .ok ⟨salt, message⟩) (moment : Moment) :
    Agrees endpoint.account moment.salt ring.current
      (endpoint.delivery moment plainQuery message)
      (endpoint.delivery moment secureQuery body) := by
  have hplain := endpoint.delivery_shows moment plainQuery message
  have hsecure := endpoint.delivery_shows moment secureQuery body
  rw [deliver, opensTo_signedPlain hplainQuery] at hplain
  rw [deliver, opensTo_sealed hring hpool hsecureQuery hbody hrecipient hencrypt hopen]
    at hsecure
  exact process_agrees htable moment message _ hplain hsecure

/-- Whatever the message is, delivering it sealed under the current key of the
ring comes to the same as delivering it plain.  The wrapper may name the
recipient, leave it out or leave it empty; written as a document it is read
back, and any other body that is read as the same wrapper does as well. -/
theorem secure_agrees_with_plain (account : Account) (ring : KeyRing) (table : Table)
    (refusal : RefusalHandler) (bound : Nat) (steps : List Loans.Step) (moment : Moment)
    (salt : Salt) (message : List UInt8) (htable : table.IgnoresSecurity)
    (hlength : message.length < 2 ^ 32) :
    let pool := ((Loans.start (Pool.new bound)).run steps).pool
    let endpoint : Endpoint := ⟨account, some ring, table, refusal, pool⟩
    ∃ ciphertext, Cipher.encrypt salt message account.appId ring.current = .ok ciphertext ∧
      ∀ recipient, NamesRecipient account recipient →
        let request : SealedRequest := ⟨recipient, base64Text ciphertext⟩
        SealedRequest.ofBody request.toBody = .ok request ∧
        ∀ timestamp nonce plainQuery secureQuery body,
          SealedRequest.ofBody body = .ok request →
          CarriesPlain account timestamp nonce plainQuery →
          CarriesSecure account timestamp nonce request.encrypt secureQuery →
          Agrees account moment.salt ring.current
            (endpoint.delivery moment plainQuery message)
            (endpoint.delivery moment secureQuery body) := by
  intro pool endpoint
  have hpool : endpoint.pool.Clean := Loans.clean_run (Pool.clean_new bound) steps
  have hopen := Cipher.decrypt_sealed hlength salt account.appId account.appId ring.current
  have hencrypt := Cipher.encrypt_eq_ok hlength salt account.appId ring.current
  rw [if_pos rfl] at hopen
  refine ⟨_, hencrypt, ?_⟩
  intro recipient hrecipient request
  refine ⟨SealedRequest.ofBody_toBody request, ?_⟩
  intro timestamp nonce plainQuery secureQuery body hbody hplainQuery hsecureQuery
  exact deliveries_agree rfl hpool htable hplainQuery hsecureQuery hbody hrecipient rfl hopen
    moment

/-- A handler that answers with the sender, a ring with a previous key, a pool
that two buffers went back to, and a wrapper without a recipient. -/
theorem secure_agrees_with_plain_bare :
    let account : Account := ⟨"token", "app", "gh"⟩
    let ring : KeyRing := ⟨⟨List.replicate 32 7, rfl⟩, some ⟨List.replicate 32 9, rfl⟩⟩
    let table : Table := { unknown := fun context => .text context.envelope.fromUserName }
    let steps : List Loans.Step :=
      [.borrow, .borrow, .write 0 [1, 2], .giveBack 0, .giveBack 1]
    let pool := ((Loans.start (Pool.new 1)).run steps).pool
    let endpoint : Endpoint :=
      ⟨account, some ring, table, RefusalMode.reject.handler, pool⟩
    let salt : Salt := ⟨List.replicate 16 3, rfl⟩
    let moment : Moment := ⟨1700000000, ⟨List.replicate 16 5, rfl⟩⟩
    table.IgnoresSecurity ∧ bareMessage.length < 2 ^ 32 ∧
      ∃ ciphertext, Cipher.encrypt salt bareMessage "app" ring.current = .ok ciphertext ∧
        let encrypt := base64Text ciphertext
        let secureQuery : Query :=
          { msgSignature := some (Signature.message "token" "1" "2" encrypt)
            timestamp := some "1"
            nonce := some "2"
            encryptType := some " AES " }
        Agrees account moment.salt ring.current
          (endpoint.delivery moment capitalsQuery bareMessage)
          (endpoint.delivery moment secureQuery (SealedRequest.toBody ⟨none, encrypt⟩)) := by
  intro account ring table steps pool endpoint salt moment
  have htable : table.IgnoresSecurity :=
    ⟨(fun _ hentry => nomatch hentry), fun _ _ => rfl⟩
  have hlength : bareMessage.length < 2 ^ 32 := by decide
  obtain ⟨ciphertext, hencrypt, hagree⟩ := secure_agrees_with_plain account ring table
    RefusalMode.reject.handler 1 steps moment salt bareMessage htable hlength
  obtain ⟨hbody, hdeliveries⟩ := hagree none (Or.inl rfl)
  refine ⟨htable, hlength, ciphertext, hencrypt, ?_⟩
  have hone : "1" ≠ "" := by decide
  have htwo : "2" ≠ "" := by decide
  refine hdeliveries "1" "2" capitalsQuery _ _ hbody ⟨?_, ⟨rfl, hone⟩, ⟨rfl, htwo⟩, ?_⟩
    ⟨?_, ⟨rfl, hone⟩, ⟨rfl, htwo⟩, ?_⟩
  · refine Or.inr ⟨"RAW", rfl, Or.inr ?_⟩
    show Text.folded (Text.trim "RAW") = Text.folded "raw"
    decide
  · exact ⟨rfl, Signature.sign_ne_empty _⟩
  · refine ⟨" AES ", rfl, ?_⟩
    show Text.folded (Text.trim " AES ") = Text.folded "aes"
    decide
  · exact ⟨rfl, Signature.sign_ne_empty _⟩

end Endpoint

end CallbackGate
