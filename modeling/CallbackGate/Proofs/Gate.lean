import CallbackGate.Proofs.Deliveries
import CallbackGate.Proofs.SealedDocuments

/-!
# What reaches a handler

A handler runs for a delivery that is signed, that can be opened, and whose
message is for the account; it runs once, and for nothing else.  `Admitted`
says this of a request without the steps of serving it, and `serveMethod_gate`
is the gate.
-/

namespace CallbackGate

/-! ## Admission -/

/-- A message is for an account and holds this envelope. -/
def MessageFor (account : Account) (message : List UInt8) (envelope : Envelope) : Prop :=
  Envelope.ofBody message = .ok envelope ∧ envelope.toUserName = account.recipientId

theorem readMessage_eq_ok_iff {endpoint : Endpoint} {message : List UInt8}
    {envelope : Envelope} :
    endpoint.readMessage message = .ok envelope ↔
      MessageFor endpoint.account message envelope := by
  unfold Endpoint.readMessage MessageFor
  rw [bind_eq_ok_iff]
  simp only [mapError_eq_ok_iff]
  constructor
  · intro h
    obtain ⟨found, hfound, h⟩ := h
    by_cases hrecipient : found.toUserName = endpoint.account.recipientId
    · rw [if_pos hrecipient, Except.ok.injEq] at h
      rw [← h]
      exact ⟨hfound, hrecipient⟩
    · rw [if_neg hrecipient] at h
      cases h
  · intro h
    obtain ⟨hfound, hrecipient⟩ := h
    refine ⟨envelope, hfound, ?_⟩
    rw [if_pos hrecipient]

/-- A plain delivery is signed, and its body is a message for the account. -/
def AdmittedPlain (account : Account) (query : Query) (body : List UInt8)
    (envelope : Envelope) : Prop :=
  SignedPlain account.token query ∧ MessageFor account body envelope

/-- A secure delivery is signed, its ciphertext is Base64 that the ring opens,
and what comes out is a message for the account. -/
def AdmittedSecure (account : Account) (ring : KeyRing) (query : Query)
    (body : List UInt8) (envelope : Envelope) : Prop :=
  ∃ timestamp nonce request ciphertext unlocked,
    SignedSecure account query body timestamp nonce request ∧
    Text.Utf8.bytes request.encrypt = Bytes.Base64.encode ciphertext ∧
    ring.Opens account.appId ciphertext unlocked ∧
    MessageFor account unlocked.value.message envelope

/-- A request is a delivery that is admitted in the mode that its query names.
`same` says when two words of the query are the same. -/
def Admitted (same : String → String → Prop) (endpoint : Endpoint) (method : String)
    (query : Query) (body : List UInt8) (envelope : Envelope) : Prop :=
  SameWord method "POST" ∧
    ((NamesRaw same query.encryptType ∧
        AdmittedPlain endpoint.account query body envelope) ∨
      (NamesAes same query.encryptType ∧
        ∃ ring, endpoint.ring = some ring ∧
          AdmittedSecure endpoint.account ring query body envelope))

namespace Endpoint

variable {endpoint : Endpoint} {query : Query} {body : List UInt8}

theorem exists_opensTo_raw_iff (h : EncryptMode.parse query.encryptType = .ok .raw)
    (envelope : Envelope) :
    (∃ message security, endpoint.opensTo query body = .ok (message, security) ∧
        MessageFor endpoint.account message envelope) ↔
      AdmittedPlain endpoint.account query body envelope := by
  rw [opensTo_of_raw h]
  constructor
  · intro h
    obtain ⟨message, security, hopen, hmessage⟩ := h
    cases hplain : openPlain endpoint.account query body with
    | error error =>
      rw [hplain] at hopen
      cases hopen
    | ok opened =>
      obtain ⟨hsigned, rfl⟩ := openPlain_eq_ok_iff.mp hplain
      rw [hplain] at hopen
      cases hopen
      exact ⟨hsigned, hmessage⟩
  · intro h
    obtain ⟨hsigned, hmessage⟩ := h
    refine ⟨body, none, ?_, hmessage⟩
    rw [openPlain_eq_ok_iff.mpr ⟨hsigned, rfl⟩]
    rfl

theorem exists_opensTo_aes_iff {ring : KeyRing}
    (h : EncryptMode.parse query.encryptType = .ok .aes) (hring : endpoint.ring = some ring)
    (hpool : endpoint.pool.Clean) (envelope : Envelope) :
    (∃ message security, endpoint.opensTo query body = .ok (message, security) ∧
        MessageFor endpoint.account message envelope) ↔
      AdmittedSecure endpoint.account ring query body envelope := by
  constructor
  · intro hread
    obtain ⟨message, security, hopen, hmessage⟩ := hread
    obtain ⟨timestamp, nonce, request, ciphertext, unlocked, hsigned, hencode, hopens,
      hopened⟩ := (opensTo_aes_eq_ok_iff h hring hpool).mp hopen
    cases hopened
    exact ⟨timestamp, nonce, request, ciphertext, unlocked, hsigned, hencode, hopens, hmessage⟩
  · intro hadmitted
    obtain ⟨timestamp, nonce, request, ciphertext, unlocked, hsigned, hencode, hopens,
      hmessage⟩ := hadmitted
    refine ⟨unlocked.value.message, some (securityOf timestamp nonce unlocked), ?_, hmessage⟩
    exact (opensTo_aes_eq_ok_iff h hring hpool).mpr
      ⟨timestamp, nonce, request, ciphertext, unlocked, hsigned, hencode, hopens, rfl⟩

/-- Some message for the account comes out of a delivery exactly if the
delivery is admitted. -/
theorem exists_opensTo_iff (hpool : endpoint.pool.Clean) (envelope : Envelope) :
    (∃ message security, endpoint.opensTo query body = .ok (message, security) ∧
        MessageFor endpoint.account message envelope) ↔
      (NamesRaw SameWord query.encryptType ∧
        AdmittedPlain endpoint.account query body envelope) ∨
      (NamesAes SameWord query.encryptType ∧
        ∃ ring, endpoint.ring = some ring ∧
          AdmittedSecure endpoint.account ring query body envelope) := by
  rw [← EncryptMode.parse_eq_raw_iff, ← EncryptMode.parse_eq_aes_iff]
  rcases hmode : EncryptMode.parse query.encryptType with error | _ | _
  · have hopen : endpoint.opensTo query body = .error (.protocol error) := by
      rw [opensTo, openDelivery, hmode]
      rfl
    rw [hopen]
    refine iff_of_false ?_ ?_
    · intro h
      obtain ⟨_, _, ⟨⟩, -⟩ := h
    · intro h
      rcases h with ⟨⟨⟩, -⟩ | ⟨⟨⟩, -⟩
  · rw [exists_opensTo_raw_iff hmode]
    constructor
    · intro hplain
      exact Or.inl ⟨rfl, hplain⟩
    · intro h
      rcases h with ⟨-, hplain⟩ | ⟨⟨⟩, -⟩
      exact hplain
  · cases hring : endpoint.ring with
    | none =>
      have hopen : endpoint.opensTo query body =
          .error (.protocol (.unsupportedEncryptType EncryptMode.aes.word)) := by
        rw [opensTo, openDelivery, hmode, hring]
        rfl
      rw [hopen]
      refine iff_of_false ?_ ?_
      · intro h
        obtain ⟨_, _, ⟨⟩, -⟩ := h
      · intro h
        obtain ⟨⟨⟩, -⟩ | ⟨-, ring, ⟨⟩, -⟩ := h
    | some ring =>
      rw [exists_opensTo_aes_iff hmode hring hpool]
      constructor
      · intro hsecure
        exact Or.inr ⟨rfl, ring, rfl, hsecure⟩
      · intro h
        rcases h with ⟨⟨⟩, -⟩ | ⟨-, other, hother, hsecure⟩
        cases hother
        exact hsecure

/-- A delivery runs a handler on an envelope exactly if this envelope is in the
message that it opens to, and no other handler. -/
theorem deliver_calls (endpoint : Endpoint) (moment : Moment) (query : Query)
    (body : List UInt8) :
    ((endpoint.deliver moment query body).1 = [] ∧
      ∀ envelope message security, endpoint.opensTo query body = .ok (message, security) →
        ¬MessageFor endpoint.account message envelope) ∨
    ∃ call message security, (endpoint.deliver moment query body).1 = [call] ∧
      endpoint.opensTo query body = .ok (message, security) ∧
      MessageFor endpoint.account message call.context.envelope := by
  unfold deliver
  cases hopen : endpoint.opensTo query body with
  | error error =>
    refine Or.inl ⟨rfl, ?_⟩
    intro envelope message security h
    cases h
  | ok opened =>
    obtain ⟨message, security⟩ := opened
    dsimp only
    unfold process
    cases hread : endpoint.readMessage message with
    | error error =>
      refine Or.inl ⟨rfl, ?_⟩
      intro envelope _ _ h hmessage
      cases h
      rw [readMessage_eq_ok_iff.mpr hmessage] at hread
      cases hread
    | ok envelope =>
      exact Or.inr ⟨endpoint.table.callFor envelope security, message, security,
        (dispatch_eq_callFor endpoint.table envelope security).1, rfl,
        readMessage_eq_ok_iff.mp hread⟩

/-- A posted request is a delivery. -/
theorem serveMethod_of_post {method : String} (h : SameWord method "POST")
    (endpoint : Endpoint) (moment : Moment) (query : Query) (body : List UInt8) :
    endpoint.serveMethod moment method query body = endpoint.delivery moment query body := by
  rw [serveMethod, Flow.ofMethod_eq_delivery_iff.mpr h]
  rfl

/-- Any other request runs no handler. -/
theorem calls_of_not_post {method : String} (h : ¬SameWord method "POST")
    (endpoint : Endpoint) (moment : Moment) (query : Query) (body : List UInt8) :
    (endpoint.serveMethod moment method query body).calls = [] := by
  rw [← Flow.ofMethod_eq_delivery_iff] at h
  unfold serveMethod
  rcases hflow : Flow.ofMethod method with error | _ | _
  · rfl
  · show (endpoint.serve moment .handshake query body).calls = []
    unfold serve
    cases endpoint.handshake query with
    | error error => rfl
    | ok response => rfl
  · exact absurd hflow h

/-- A request runs a handler on an envelope exactly if it is admitted with it,
and no other handler. -/
theorem serveMethod_calls (hpool : endpoint.pool.Clean) (moment : Moment) (method : String)
    (query : Query) (body : List UInt8) :
    ((endpoint.serveMethod moment method query body).calls = [] ∧
      ∀ envelope, ¬Admitted SameWord endpoint method query body envelope) ∨
    ∃ call, (endpoint.serveMethod moment method query body).calls = [call] ∧
      Admitted SameWord endpoint method query body call.context.envelope := by
  by_cases hpost : SameWord method "POST"
  · have hcalls := (endpoint.delivery_shows moment query body).1
    rw [serveMethod_of_post hpost]
    rcases endpoint.deliver_calls moment query body with
      ⟨hnone, hnot⟩ | ⟨call, message, security, hone, hopen, hmessage⟩
    · refine Or.inl ⟨hcalls.trans hnone, ?_⟩
      intro envelope h
      obtain ⟨-, hadmitted⟩ := h
      obtain ⟨message, security, hopen, hmessage⟩ :=
        (exists_opensTo_iff hpool envelope).mpr hadmitted
      exact hnot envelope message security hopen hmessage
    · refine Or.inr ⟨call, hcalls.trans hone, hpost, ?_⟩
      exact (exists_opensTo_iff hpool _).mp ⟨message, security, hopen, hmessage⟩
  · refine Or.inl ⟨calls_of_not_post hpost endpoint moment query body, ?_⟩
    intro envelope h
    exact hpost h.1

/-- The gate: whatever the endpoint is and wherever its pool stands, a request
runs a handler exactly if it is admitted.  There is never a second one, and the
handler sees the envelope that the request was admitted with. -/
theorem serveMethod_gate (account : Account) (ring : Option KeyRing) (table : Table)
    (refusal : RefusalHandler) (bound : Nat) (steps : List Loans.Step) (moment : Moment)
    (method : String) (query : Query) (body : List UInt8) :
    let pool := ((Loans.start (Pool.new bound)).run steps).pool
    let endpoint : Endpoint := ⟨account, ring, table, refusal, pool⟩
    let calls := (endpoint.serveMethod moment method query body).calls
    (calls ≠ [] ↔ ∃ envelope, Admitted SameWord endpoint method query body envelope) ∧
      calls.length ≤ 1 ∧
      ∀ call ∈ calls, Admitted SameWord endpoint method query body call.context.envelope := by
  intro pool endpoint calls
  have hpool : endpoint.pool.Clean := Loans.clean_run (Pool.clean_new bound) steps
  rcases serveMethod_calls hpool moment method query body with
    ⟨hnone, hnot⟩ | ⟨call, hone, hadmitted⟩
  · have hcalls : calls = [] := hnone
    rw [hcalls]
    refine ⟨iff_of_false (fun h => h rfl) ?_, Nat.zero_le 1, ?_⟩
    · intro h
      obtain ⟨envelope, h⟩ := h
      exact hnot envelope h
    · intro call h
      cases h
  · have hcalls : calls = [call] := hone
    rw [hcalls]
    refine ⟨iff_of_true (List.cons_ne_nil _ _) ⟨_, hadmitted⟩, Nat.le_refl 1, ?_⟩
    intro other hother
    rw [List.mem_singleton.mp hother]
    exact hadmitted

end Endpoint

/-! ## Words in capitals -/

namespace Signature

/-- A signature is never empty. -/
theorem sign_ne_empty (texts : List String) : sign texts ≠ "" := by
  intro h
  have hdecode := Bytes.Hex.decode?_encode (Bytes.Sha1.digest (signedBytes texts))
  have hlength := Bytes.Sha1.length_digest (signedBytes texts)
  have hempty : Bytes.Hex.decode? "" = some [] := rfl
  rw [← sign, h, hempty, Option.some.injEq] at hdecode
  rw [← hdecode] at hlength
  cases hlength

end Signature

/-- A plain delivery with this encryption type, signed for the account, and its
message. -/
def capitalsQuery : Query :=
  { signature := some (Signature.handshake "token" "1" "2")
    timestamp := some "1"
    nonce := some "2"
    encryptType := some "RAW" }

/-- A message with nothing but a recipient. -/
def bareMessage : List UInt8 :=
  Text.Utf8.bytes (Markup.Draft.document [.cdata "ToUserName" "gh"])

theorem ofBody_bareMessage : Envelope.ofBody bareMessage = .ok { toUserName := "gh" } := by
  rw [Envelope.ofBody, bareMessage, Markup.Record.ofBody_document rfl, Envelope.reader]
  apply Markup.Record.read_of_readChildren
  · show Markup.Record.readChildren _ _ _
      [.element "ToUserName" [] [.text (Markup.Draft.sectionRun "gh")]] = _
    rw [Markup.Record.readChildren_text rfl rfl
      (Markup.Record.contentText_sectionRun "gh")]
    rfl
  · rfl

/-- The word for plain deliveries opens the gate in capitals too. -/
theorem not_gate_of_equal_words :
    ¬∀ (account : Account) (ring : Option KeyRing) (table : Table)
      (refusal : RefusalHandler) (bound : Nat) (steps : List Loans.Step) (moment : Moment)
      (method : String) (query : Query) (body : List UInt8),
      let pool := ((Loans.start (Pool.new bound)).run steps).pool
      let endpoint : Endpoint := ⟨account, ring, table, refusal, pool⟩
      (endpoint.serveMethod moment method query body).calls ≠ [] ↔
        ∃ envelope, Admitted (· = ·) endpoint method query body envelope := by
  intro hall
  let endpoint : Endpoint :=
    ⟨⟨"token", "app", "gh"⟩, none, {}, RefusalMode.reject.handler, Pool.new 0⟩
  let moment : Moment := ⟨0, ⟨List.replicate 16 0, rfl⟩⟩
  have hiff : (endpoint.serveMethod moment "POST" capitalsQuery bareMessage).calls ≠ [] ↔
      ∃ envelope, Admitted (· = ·) endpoint "POST" capitalsQuery bareMessage envelope :=
    hall _ _ _ _ 0 [] moment "POST" capitalsQuery bareMessage
  have hadmitted : Admitted SameWord endpoint "POST" capitalsQuery bareMessage
      { toUserName := "gh" } := by
    refine ⟨rfl, Or.inl ⟨Or.inr ⟨"RAW", rfl, Or.inr ?_⟩, ?_, ofBody_bareMessage, rfl⟩⟩
    · show Text.folded (Text.trim "RAW") = Text.folded "raw"
      decide
    · exact ⟨"1", "2", ⟨rfl, by decide⟩, ⟨rfl, by decide⟩, rfl, Signature.sign_ne_empty _⟩
  rcases Endpoint.serveMethod_calls (show endpoint.pool.Clean from Pool.clean_new 0)
    moment "POST" capitalsQuery bareMessage with ⟨-, hnot⟩ | ⟨call, hcalls, -⟩
  · exact hnot _ hadmitted
  · -- The handler ran, but no comparison of equal words admits the request.
    have hran : (endpoint.serveMethod moment "POST" capitalsQuery bareMessage).calls ≠ [] := by
      rw [hcalls]
      exact List.cons_ne_nil call []
    obtain ⟨envelope, -, ⟨hraw, -⟩ | ⟨haes, -⟩⟩ := hiff.mp hran
    · rcases hraw with hnone | ⟨value, hvalue, hword⟩
      · cases hnone
      · cases hvalue
        exact absurd hword (by decide)
    · obtain ⟨value, hvalue, hword⟩ := haes
      cases hvalue
      exact absurd hword (by decide)

end CallbackGate
