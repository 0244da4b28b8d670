import CallbackGate.Proofs.Isolation
import CallbackGate.Proofs.Queries
import CallbackGate.Proofs.Resealing
import CallbackGate.Proofs.RotationRequests
import CallbackGate.Proofs.SealedReplies

/-!
# Refused requests are answered alike

A request for the callback that is not accepted is answered by the handler of refused
requests, wherever it failed.  The two ways to answer do not look at the error, so that
the answer does not tell which check refused the request, and in silence it is the
answer to a delivery that is accepted and has no reply.

There are four groups.

* Acceptance.  `Service.Accepts` says which requests are accepted, without the steps of
  serving them.
* Endpoints.  `handshake_eq_ok_iff` and `receives_iff` say what the two flows accept, and
  `answer_cases` which replies can be sent.
* Services at work.  `Becomes` is what a service can become while it serves, and
  `Becomes.keeps` what stays of it.
* Answers.  `CallsBack.response_of_not_accepts` and `Accepts.response` say what a request
  for the callback is answered with, and `refusals_alike` compares two of them.
-/

namespace CallbackGate

/-! ## Acceptance -/

namespace Endpoint

/-- A delivery is received: it is signed in the mode that its query names and for the
account, the ring opens it if it is sealed, and its message is for the account. -/
inductive Receives (endpoint : Endpoint) (query : Query) (body : List UInt8)
    (envelope : Envelope) : Option SecurityContext → Prop
  | plain (hmode : NamesRaw SameWord query.encryptType)
    (hsigned : SignedPlain endpoint.account.token query)
    (hmessage : MessageFor endpoint.account body envelope) :
    endpoint.Receives query body envelope none
  | secure {message : List UInt8} {security : SecurityContext}
    (hmode : NamesAes SameWord query.encryptType)
    (hunseals : endpoint.Unseals query body message security)
    (hmessage : MessageFor endpoint.account message envelope) :
    endpoint.Receives query body envelope (some security)

/-- What is replied to a message. -/
def replyFor (endpoint : Endpoint) (envelope : Envelope)
    (security : Option SecurityContext) : Reply :=
  endpoint.table.replyTo (endpoint.table.callFor envelope security).context

/-- The reply to a message can be sent: it need not be sealed, or its document, if it has
one, is short enough for that. -/
def Sends (endpoint : Endpoint) (moment : Moment) (envelope : Envelope)
    (security : Option SecurityContext) : Prop :=
  security = none ∨ ∀ document,
    (endpoint.replyFor envelope security).encode? envelope moment.clock = some document →
      document.length < 2 ^ 32

end Endpoint

namespace Service

/-- A request for the callback, by one of the methods of the platform and with a body
within the limit. -/
structure CallsBack (service : Service) (request : Request) : Prop where
  method : request.method = "GET" ∨ request.method = "POST"
  site : service.site? request.path = some .callback
  body : request.body.length ≤ service.bodyLimit

/-- A request delivers a message: no known parameter is given twice, and the endpoint
receives the delivery. -/
def Delivers (service : Service) (request : Request) (envelope : Envelope)
    (security : Option SecurityContext) : Prop :=
  request.method = "POST" ∧ ∃ query, Query.Spells (Bytes.Form.fields request.query) query ∧
    service.endpoint.Receives query request.body envelope security

/-- A request for the callback is accepted: it is a handshake that is signed and has a
challenge, or it delivers a message whose reply can be sent. -/
inductive Accepts (service : Service) (moment : Moment) (request : Request) : Prop
  | handshake {query : Query} {challenge : String} (hmethod : request.method = "GET")
    (hquery : Query.Spells (Bytes.Form.fields request.query) query)
    (hsigned : SignedPlain service.endpoint.account.token query)
    (hchallenge : query.Gives .echostr challenge)
  | delivery {envelope : Envelope} {security : Option SecurityContext}
    (hdelivers : service.Delivers request envelope security)
    (hsends : service.endpoint.Sends moment envelope security)

end Service

/-! ## Endpoints -/

theorem checkHandshakeSignature_eq_ok_iff {token signature : String} {query : Query}
    {done : Unit} :
    checkHandshakeSignature token query signature = .ok done ↔
      ∃ timestamp nonce, query.Gives .timestamp timestamp ∧ query.Gives .nonce nonce ∧
        signature = Signature.handshake token timestamp nonce := by
  unfold checkHandshakeSignature
  simp only [bind_eq_ok_iff, Query.require_eq_ok_iff]
  have hverify (timestamp nonce : String) :
      (if Signature.verify signature (Signature.handshake token timestamp nonce) then .ok ()
        else .error .signatureMismatch : Except ProtocolError Unit) = .ok () ↔
        signature = Signature.handshake token timestamp nonce := by
    simp [Signature.verify]
  simp only [hverify, exists_and_left]

namespace Endpoint

variable {endpoint : Endpoint} {query : Query} {body : List UInt8} {moment : Moment}
  {envelope : Envelope} {security : Option SecurityContext}

/-- A handshake that is signed and has a challenge is answered with it, and no other is. -/
theorem handshake_eq_ok_iff {response : Response} :
    endpoint.handshake query = .ok response ↔
      SignedPlain endpoint.account.token query ∧
        ∃ challenge, query.Gives .echostr challenge ∧ response = .echo challenge := by
  unfold handshake SignedPlain
  simp only [bind_eq_ok_iff, Query.require_eq_ok_iff, checkHandshakeSignature_eq_ok_iff]
  constructor
  · intro h
    obtain ⟨signature, hsignature, challenge, hchallenge, -,
      ⟨timestamp, nonce, htimestamp, hnonce, rfl⟩, hresponse⟩ := h
    exact ⟨⟨timestamp, nonce, htimestamp, hnonce, hsignature⟩, challenge, hchallenge,
      (Except.ok.inj hresponse).symm⟩
  · intro h
    obtain ⟨⟨timestamp, nonce, htimestamp, hnonce, hsignature⟩, challenge, hchallenge, rfl⟩ := h
    exact ⟨_, hsignature, challenge, hchallenge, (), ⟨timestamp, nonce, htimestamp, hnonce, rfl⟩,
      rfl⟩

/-- A plain delivery opens to its body if it is signed. -/
theorem opensTo_eq_ok_iff_signedPlain {message : List UInt8}
    (hmode : NamesRaw SameWord query.encryptType) :
    endpoint.opensTo query body = .ok (message, security) ↔
      SignedPlain endpoint.account.token query ∧ message = body ∧ security = none := by
  rw [opensTo_of_raw (EncryptMode.parse_eq_raw_iff.mpr hmode)]
  constructor
  · intro hopen
    cases hplain : openPlain endpoint.account query body with
    | error error =>
      rw [hplain] at hopen
      cases hopen
    | ok opened =>
      obtain ⟨hsigned, rfl⟩ := openPlain_eq_ok_iff.mp hplain
      rw [hplain] at hopen
      cases hopen
      exact ⟨hsigned, rfl, rfl⟩
  · intro h
    obtain ⟨hsigned, rfl, rfl⟩ := h
    rw [openPlain_eq_ok_iff.mpr ⟨hsigned, rfl⟩]
    rfl

/-- A delivery is received if it opens to a message for the account. -/
theorem receives_iff (hpool : endpoint.pool.Clean) :
    endpoint.Receives query body envelope security ↔
      ∃ message, endpoint.opensTo query body = .ok (message, security) ∧
        MessageFor endpoint.account message envelope := by
  constructor
  · intro h
    rcases h with ⟨hmode, hsigned, hmessage⟩ | ⟨hmode, hunseals, hmessage⟩
    · exact ⟨body, (opensTo_eq_ok_iff_signedPlain hmode).mpr ⟨hsigned, rfl, rfl⟩, hmessage⟩
    · exact ⟨_, (opensTo_eq_ok_iff_unseals hmode hpool).mpr ⟨_, rfl, hunseals⟩, hmessage⟩
  · intro h
    obtain ⟨message, hopen, hmessage⟩ := h
    rcases hparse : EncryptMode.parse query.encryptType with error | _ | _
    · rw [opensTo, openDelivery, hparse] at hopen
      cases hopen
    · have hmode := EncryptMode.parse_eq_raw_iff.mp hparse
      obtain ⟨hsigned, rfl, rfl⟩ := (opensTo_eq_ok_iff_signedPlain hmode).mp hopen
      exact .plain hmode hsigned hmessage
    · have hmode := EncryptMode.parse_eq_aes_iff.mp hparse
      obtain ⟨known, rfl, hunseals⟩ := (opensTo_eq_ok_iff_unseals hmode hpool).mp hopen
      exact .secure hmode hunseals hmessage

/-- A secure delivery is not received if its ciphertext is no whole number of units. -/
theorem not_receives_of_ragged {wrapper : SealedRequest} {ciphertext : List UInt8}
    (hmode : ¬NamesRaw SameWord query.encryptType)
    (hdecode : Bytes.Base64.decode .strict (Text.Utf8.bytes wrapper.encrypt) = .ok ciphertext)
    (hragged : ¬32 ∣ ciphertext.length) :
    ¬endpoint.Receives query wrapper.toBody envelope security := by
  intro h
  rcases h with ⟨hraw, -, -⟩ | ⟨-, hunseals, -⟩
  · exact hmode hraw
  · obtain ⟨ring, request, opened, -, hsigned, hencode, hopens⟩ := hunseals
    have hrequest := hsigned.2.2.1
    rw [wrapper.ofBody_toBody, Except.ok.injEq] at hrequest
    rw [← hrequest, ← Bytes.Base64.decode_strict_eq_ok_iff, hdecode, Except.ok.injEq] at hencode
    rw [hencode] at hragged
    rcases hopens with ⟨hopen, -⟩ | ⟨-, -, -, hopen, -⟩
    · exact hragged (Cipher.whole_of_decrypt_eq_ok hopen).2
    · exact hragged (Cipher.whole_of_decrypt_eq_ok hopen).2

/-- An answer to a message carries the document of the reply, if it has one. -/
theorem answer_response (endpoint : Endpoint) (moment : Moment) (envelope : Envelope)
    (security : Option SecurityContext) :
    (endpoint.answer moment envelope security).2 =
      match (endpoint.replyFor envelope security).encode? envelope moment.clock with
      | none => .ok .empty
      | some document =>
        ((responseBody endpoint.account moment.salt security document).map
          Response.document).mapError .crypto := by
  rw [replyFor, ← (dispatch_eq_callFor endpoint.table envelope security).2]
  rfl

/-- An answer to a message is the empty reply or a document if the reply can be sent, and
else an error. -/
theorem answer_cases (endpoint : Endpoint) (moment : Moment) (envelope : Envelope)
    (security : Option SecurityContext) :
    (endpoint.Sends moment envelope security ∧ ∃ response,
        (endpoint.answer moment envelope security).2 = .ok response ∧
        (response = .empty ∨ ∃ document, response = .document document)) ∨
      ¬endpoint.Sends moment envelope security ∧ ∃ error,
        (endpoint.answer moment envelope security).2 = .error error := by
  rw [answer_response]
  unfold Sends
  cases hencode : (endpoint.replyFor envelope security).encode? envelope moment.clock with
  | none =>
    refine Or.inl ⟨Or.inr ?_, .empty, rfl, Or.inl rfl⟩
    intro document h
    cases h
  | some document =>
    cases security with
    | none => exact Or.inl ⟨Or.inl rfl, .document document, rfl, Or.inr ⟨document, rfl⟩⟩
    | some known =>
      by_cases hlength : document.length < 2 ^ 32
      · obtain ⟨sealed, hseal, -⟩ :=
          sealReply_seals hlength endpoint.account moment.salt known
        refine Or.inl ⟨Or.inr ?_, .document sealed.toBody, ?_, Or.inr ⟨_, rfl⟩⟩
        · intro other h
          cases h
          exact hlength
        · show Except.mapError _ (Except.map _ (Except.map _ _)) = _
          rw [hseal]
          rfl
      · refine Or.inr ⟨?_, .crypto (.invalidLength document.length), ?_⟩
        · intro h
          rcases h with ⟨⟨⟩⟩ | hshort
          exact hlength (hshort document rfl)
        · show Except.mapError _ (Except.map _ (Except.map _ _)) = _
          rw [sealReply_of_long (by omega)]
          rfl

/-- A delivery that is received comes to the answer to its message. -/
theorem delivery_of_receives (hpool : endpoint.pool.Clean)
    (h : endpoint.Receives query body envelope security) (moment : Moment) :
    (endpoint.delivery moment query body).Shows endpoint.refusal
      (endpoint.answer moment envelope security) := by
  obtain ⟨message, hopen, hmessage⟩ := (receives_iff hpool).mp h
  have hshows := endpoint.delivery_shows moment query body
  rw [deliver, hopen] at hshows
  dsimp only at hshows
  rw [process, readMessage_eq_ok_iff.mpr hmessage] at hshows
  exact hshows

/-- A delivery that is not received is refused. -/
theorem delivery_of_not_receives (hpool : endpoint.pool.Clean)
    (h : ∀ envelope security, ¬endpoint.Receives query body envelope security)
    (moment : Moment) :
    ∃ error, (endpoint.delivery moment query body).response = endpoint.refusal error := by
  have hshows := endpoint.delivery_shows moment query body
  unfold deliver at hshows
  cases hopen : endpoint.opensTo query body with
  | error error =>
    rw [hopen] at hshows
    exact ⟨error, hshows.2.1⟩
  | ok opened =>
    obtain ⟨message, security⟩ := opened
    rw [hopen] at hshows
    dsimp only at hshows
    unfold process at hshows
    cases hread : endpoint.readMessage message with
    | error error =>
      rw [hread] at hshows
      exact ⟨error, hshows.2.1⟩
    | ok envelope =>
      exact absurd ((receives_iff hpool).mpr ⟨message, hopen, readMessage_eq_ok_iff.mp hread⟩)
        (h envelope security)

/-- A request by GET is a handshake. -/
theorem respond_get (endpoint : Endpoint) (moment : Moment) (query : Query)
    (body : List UInt8) :
    (endpoint.respond moment (.method "GET" query body)).response =
      match endpoint.handshake query with
      | .ok response => response
      | .error error => endpoint.refusal (.protocol error) := by
  show (endpoint.serve moment .handshake query body).response = _
  unfold serve
  cases endpoint.handshake query with
  | error error => rfl
  | ok response => rfl

/-- A request by POST is a delivery. -/
theorem respond_post (endpoint : Endpoint) (moment : Moment) (query : Query)
    (body : List UInt8) :
    endpoint.respond moment (.method "POST" query body) =
      endpoint.delivery moment query body :=
  serveMethod_of_post rfl endpoint moment query body

end Endpoint

/-! ## Services at work -/

/-- What the endpoint is asked by a request for the callback. -/
def Request.ask (request : Request) : Ask :=
  match Query.ofFields (Bytes.Form.fields request.query) with
  | .error error => .refused (.protocol error)
  | .ok query => .method request.method query request.body

namespace Service

/-- A callback is answered with what the endpoint responds. -/
theorem callback_eq (service : Service) (moment : Moment) (request : Request) :
    service.callback moment request =
      (.ofResponse (service.endpoint.respond moment request.ask).response,
        { service with endpoint :=
          { service.endpoint with
            pool := (service.endpoint.respond moment request.ask).pool } }) := by
  rw [callback, Request.ask]
  cases Query.ofFields (Bytes.Form.fields request.query) with
  | error error => rfl
  | ok query => rfl

/-- What a service can become: it answers requests, its keys are replaced, and other
requests that are under way borrow buffers and give them back. -/
inductive Becomes (service : Service) : Service → Prop
  | start : service.Becomes service
  | request {now : Service} (h : service.Becomes now) (moment : Moment) (request : Request) :
    service.Becomes (now.handle moment request).2
  | keys {now : Service} (h : service.Becomes now) (ring : Option KeyRing) :
    service.Becomes { now with endpoint := { now.endpoint with ring } }
  | loans {now : Service} (h : service.Becomes now) (steps : List Loans.Step) :
    service.Becomes { now with
      endpoint := { now.endpoint with pool := ((Loans.start now.endpoint.pool).run steps).pool } }

/-- Two services are the same but for their keys and their pools, and the second pool is
sound. -/
def Keeps (service now : Service) : Prop :=
  now.endpoint.pool.Sound ∧ ∃ ring pool,
    now = { service with endpoint := { service.endpoint with ring, pool } }

theorem Keeps.trans {service now after : Service} (h : service.Keeps now)
    (hafter : now.Keeps after) : service.Keeps after := by
  obtain ⟨-, ring, pool, rfl⟩ := h
  obtain ⟨hsound, ring', pool', rfl⟩ := hafter
  exact ⟨hsound, ring', pool', rfl⟩

theorem keeps_with (service : Service) (ring : Option KeyRing) {pool : Pool} (h : pool.Sound) :
    service.Keeps { service with endpoint := { service.endpoint with ring, pool } } :=
  ⟨h, ring, pool, rfl⟩

theorem keeps_self {service : Service} (h : service.endpoint.pool.Sound) :
    service.Keeps service :=
  service.keeps_with service.endpoint.ring h

/-- A visit to a site keeps a service. -/
theorem keeps_visit {service : Service} (h : service.endpoint.pool.Sound) (moment : Moment)
    (request : Request) (site : Site) :
    service.Keeps (service.visit moment request site).2 := by
  cases site with
  | health => exact keeps_self h
  | callback =>
    rw [visit]
    split_ifs
    · exact keeps_self h
    · obtain ⟨hlends, -⟩ := service.endpoint.respond_lends moment request.ask
      rw [callback_eq]
      exact service.keeps_with service.endpoint.ring (hlends.sound h).1
  | rotation =>
    rcases service.visit_rotation_cases moment request with
      ⟨key, -, hvisit⟩ | ⟨answer, -, hvisit⟩
    · rw [hvisit]
      exact service.keeps_with (service.endpoint.ring.map (·.rotate key)) h
    · rw [hvisit]
      exact keeps_self h

/-- Answering a request keeps a service. -/
theorem keeps_handle {service : Service} (h : service.endpoint.pool.Sound) (moment : Moment)
    (request : Request) : service.Keeps (service.handle moment request).2 := by
  cases hsite : service.site? request.path with
  | none =>
    rw [handle_of_none moment hsite]
    exact keeps_self h
  | some site =>
    by_cases hmethod : request.method ∈ site.methods
    · rw [(handle_of_mem moment hsite hmethod).2]
      exact keeps_visit h moment request site
    · rw [handle_of_not_mem moment hsite hmethod]
      exact keeps_self h

theorem Becomes.keeps {service now : Service} (h : service.Becomes now)
    (hsound : service.endpoint.pool.Sound) : service.Keeps now := by
  induction h with
  | start => exact keeps_self hsound
  | request _ moment request ih => exact ih.trans (keeps_handle ih.1 moment request)
  | keys _ ring ih => exact ih.trans (keeps_with _ ring ih.1)
  | loans _ steps ih =>
    have hstart : (Loans.start _).pool.Sound := ih.1
    exact ih.trans (keeps_with _ _ (Loans.sound_run hstart steps).1)

end Service

/-! ## Answers -/

/-- What a refused request is answered with. -/
def RefusalMode.answer : RefusalMode → Answer
  | .silent => { status := 200 }
  | .reject => { status := 400 }

namespace Service

variable {service : Service} {request : Request} {moment : Moment}

/-- A request for the callback is answered with what the endpoint responds. -/
theorem CallsBack.handle_eq (h : service.CallsBack request) (moment : Moment) :
    (service.handle moment request).1 =
      .ofResponse (service.endpoint.respond moment request.ask).response := by
  have hmem : Site.callback.methods.contains request.method = true := by
    rcases h.method with hmethod | hmethod <;> rw [hmethod] <;> decide
  have hhead : request.method ≠ "HEAD" := by
    rcases h.method with hmethod | hmethod <;> rw [hmethod] <;> decide
  rw [handle, h.site]
  dsimp only
  rw [if_pos hmem, if_neg hhead, visit, if_neg (Nat.not_lt.mpr h.body), callback_eq]

/-- A query that the fields of a request spell is what the endpoint is asked with. -/
theorem ask_of_spells {query : Query}
    (h : Query.Spells (Bytes.Form.fields request.query) query) :
    request.ask = .method request.method query request.body := by
  rw [Request.ask, Query.ofFields_eq_ok_iff.mpr h]

/-- A delivery of a message comes to the answer to this message. -/
theorem Delivers.shows {envelope : Envelope} {security : Option SecurityContext}
    (h : service.Delivers request envelope security) (hpool : service.endpoint.pool.Clean)
    (moment : Moment) :
    (service.endpoint.respond moment request.ask).Shows service.endpoint.refusal
      (service.endpoint.answer moment envelope security) := by
  obtain ⟨hmethod, query, hquery, hreceives⟩ := h
  rw [ask_of_spells hquery, hmethod, Endpoint.respond_post]
  exact Endpoint.delivery_of_receives hpool hreceives moment

/-- A delivery of a message with the empty reply is answered with the empty reply. -/
theorem Delivers.response_of_empty {envelope : Envelope} {security : Option SecurityContext}
    (h : service.Delivers request envelope security) (hpool : service.endpoint.pool.Clean)
    (hempty : service.endpoint.replyFor envelope security = .empty) (moment : Moment) :
    (service.endpoint.respond moment request.ask).response = .empty := by
  obtain ⟨-, hshows⟩ := h.shows hpool moment
  rw [Endpoint.answer_response, hempty] at hshows
  exact hshows.1

/-- An accepted request is answered with a challenge, a document or nothing. -/
theorem Accepts.response (h : service.Accepts moment request)
    (hpool : service.endpoint.pool.Clean) :
    (service.endpoint.respond moment request.ask).response ≠ .rejected := by
  cases h with
  | handshake hmethod hquery hsigned hchallenge =>
    rw [ask_of_spells hquery, hmethod, Endpoint.respond_get,
      Endpoint.handshake_eq_ok_iff.mpr ⟨hsigned, _, hchallenge, rfl⟩]
    intro h
    cases h
  | @delivery envelope security hdelivers hsends =>
    obtain ⟨-, hshows⟩ := hdelivers.shows hpool moment
    rcases service.endpoint.answer_cases moment envelope security with
      ⟨-, response, hanswer, hresponse⟩ | ⟨hnot, -⟩
    · rw [hanswer] at hshows
      rw [hshows.1]
      rcases hresponse with rfl | ⟨document, rfl⟩
      · intro h
        cases h
      · intro h
        cases h
    · exact absurd hsends hnot

/-- A request for the callback that is not accepted is answered by the handler of refused
requests. -/
theorem CallsBack.response_of_not_accepts (hcalls : service.CallsBack request)
    (h : ¬service.Accepts moment request) (hpool : service.endpoint.pool.Clean) :
    ∃ error, (service.endpoint.respond moment request.ask).response =
      service.endpoint.refusal error := by
  cases hfields : Query.ofFields (Bytes.Form.fields request.query) with
  | error error =>
    rw [Request.ask, hfields]
    exact ⟨.protocol error, rfl⟩
  | ok query =>
    have hquery := Query.ofFields_eq_ok_iff.mp hfields
    rw [ask_of_spells hquery]
    rcases hcalls.method with hmethod | hmethod
    · rw [hmethod, Endpoint.respond_get]
      cases hhandshake : service.endpoint.handshake query with
      | error error => exact ⟨.protocol error, rfl⟩
      | ok response =>
        obtain ⟨hsigned, challenge, hchallenge, -⟩ := Endpoint.handshake_eq_ok_iff.mp hhandshake
        exact absurd (.handshake hmethod hquery hsigned hchallenge) h
    · rw [hmethod, Endpoint.respond_post]
      by_cases hreceives : ∃ envelope security,
          service.endpoint.Receives query request.body envelope security
      · obtain ⟨envelope, security, hreceives⟩ := hreceives
        obtain ⟨-, hshows⟩ := Endpoint.delivery_of_receives hpool hreceives moment
        rcases service.endpoint.answer_cases moment envelope security with
          ⟨hsends, -⟩ | ⟨-, error, hanswer⟩
        · exact absurd (.delivery ⟨hmethod, query, hquery, hreceives⟩ hsends) h
        · rw [hanswer] at hshows
          exact ⟨error, hshows.1⟩
      · push Not at hreceives
        exact Endpoint.delivery_of_not_receives hpool hreceives moment

theorem Keeps.callsBack {now : Service} (h : service.Keeps now)
    (hcalls : service.CallsBack request) : now.CallsBack request := by
  obtain ⟨-, ring, pool, rfl⟩ := h
  exact ⟨hcalls.method, hcalls.site, hcalls.body⟩

/-- A service that settings describe refuses requests in their way, and its pool is
sound. -/
theorem endpoint_of_ofSettings {settings : Settings} (h : ofSettings settings = .ok service) :
    service.endpoint.refusal = settings.refusalMode.handler ∧ service.endpoint.pool.Sound := by
  obtain ⟨endpoint, hendpoint, h⟩ := bind_eq_ok_iff.mp h
  cases h
  obtain ⟨account, -, hendpoint⟩ := bind_eq_ok_iff.mp hendpoint
  obtain ⟨ring, -, hendpoint⟩ := bind_eq_ok_iff.mp hendpoint
  cases hendpoint
  exact ⟨rfl, Pool.sound_new _⟩

section Refusals

variable {settings : Settings} {now : Service}
  (hservice : ofSettings settings = .ok service) (hnow : service.Becomes now)
  (hcalls : service.CallsBack request)
include hservice hnow hcalls

/-- A request for the callback that is not accepted is answered as the settings say. -/
theorem Becomes.answer_of_not_accepts (h : ¬now.Accepts moment request) :
    (now.handle moment request).1 = settings.refusalMode.answer := by
  obtain ⟨hrefusal, hsound⟩ := endpoint_of_ofSettings hservice
  have hkeeps := hnow.keeps hsound
  obtain ⟨error, hresponse⟩ :=
    (hkeeps.callsBack hcalls).response_of_not_accepts h hkeeps.1.clean
  have hnowRefusal : now.endpoint.refusal = settings.refusalMode.handler := by
    obtain ⟨-, ring, pool, rfl⟩ := hkeeps
    exact hrefusal
  rw [(hkeeps.callsBack hcalls).handle_eq, hresponse, hnowRefusal]
  cases settings.refusalMode with
  | silent => rfl
  | reject => rfl

/-- A delivery of a message with the empty reply is answered with success and no body. -/
theorem Becomes.answer_of_empty {envelope : Envelope} {security : Option SecurityContext}
    (hdelivers : now.Delivers request envelope security)
    (hempty : now.endpoint.replyFor envelope security = .empty) (moment : Moment) :
    (now.handle moment request).1 = { status := 200 } := by
  have hkeeps := hnow.keeps (endpoint_of_ofSettings hservice).2
  rw [(hkeeps.callsBack hcalls).handle_eq,
    hdelivers.response_of_empty hkeeps.1.clean hempty]
  rfl

/-- An accepted request is answered with success. -/
theorem Becomes.status_of_accepts (h : now.Accepts moment request) :
    (now.handle moment request).1.status = 200 := by
  have hkeeps := hnow.keeps (endpoint_of_ofSettings hservice).2
  have hresponse := h.response hkeeps.1.clean
  rw [(hkeeps.callsBack hcalls).handle_eq]
  cases hkind : (now.endpoint.respond moment request.ask).response with
  | echo challenge => rfl
  | document body => rfl
  | empty => rfl
  | rejected => exact absurd hkind hresponse

end Refusals

/-- Two requests for the callback that are not accepted are answered alike, whichever
check refused them and whatever the service became before.  In silence the answer is
also that to any accepted delivery with the empty reply; otherwise it is that to no
accepted request. -/
theorem refusals_alike {settings : Settings} {service first second : Service}
    {request request' : Request} {moment moment' : Moment}
    (hservice : ofSettings settings = .ok service)
    (hfirst : service.Becomes first) (hsecond : service.Becomes second)
    (hrequest : service.CallsBack request) (hrequest' : service.CallsBack request')
    (hfails : ¬first.Accepts moment request) (hfails' : ¬second.Accepts moment' request') :
    (first.handle moment request).1 = (second.handle moment' request').1 ∧
      (settings.refusalMode = .silent →
        ∀ third moment'' request'' envelope security, service.Becomes third →
          service.CallsBack request'' → third.Delivers request'' envelope security →
          third.endpoint.replyFor envelope security = .empty →
          (third.handle moment'' request'').1 = (first.handle moment request).1) ∧
      (settings.refusalMode = .reject →
        ∀ third moment'' request'', service.Becomes third → service.CallsBack request'' →
          third.Accepts moment'' request'' →
          (third.handle moment'' request'').1 ≠ (first.handle moment request).1) := by
  rw [hfirst.answer_of_not_accepts hservice hrequest hfails,
    hsecond.answer_of_not_accepts hservice hrequest' hfails']
  refine ⟨rfl, ?silent, ?reject⟩
  case silent =>
    intro hmode third moment'' request'' envelope security hthird hcalls hdelivers hempty
    rw [hthird.answer_of_empty hservice hcalls hdelivers hempty, hmode]
    rfl
  case reject =>
    intro hmode third moment'' request'' hthird hcalls haccepts hsame
    have hstatus := hthird.status_of_accepts hservice hcalls haccepts
    rw [hsame, hmode] at hstatus
    cases hstatus

/-- A handshake with a nonce given twice, and, when the keys have been replaced, a signed
delivery whose ciphertext is not a whole number of units. -/
theorem refusals_alike_replaced :
    let key : Key := ⟨List.replicate 32 5, rfl⟩
    let settings : Settings :=
      { token := some "token", appId := some "app", recipientId := some "gh"
        encodedKey := some key.encoded, refusalMode := .reject }
    let moment : Moment := ⟨0, ⟨List.replicate 16 3, rfl⟩⟩
    let repeated : Request := { method := "GET", target := "/wx/callback?nonce=1&nonce=2" }
    let wrapper : SealedRequest := ⟨none, "AAAA"⟩
    let short : Request :=
      { method := "POST"
        target := "/wx/callback?encrypt_type=aes&timestamp=1&nonce=2&" ++
          "msg_signature=25bc7c61c43280eb39e2a21230a5f2955a98782a"
        body := wrapper.toBody }
    ∃ service, ofSettings settings = .ok service ∧
      let before := (service.handle moment repeated).2
      let ring := some (.new ⟨List.replicate 32 7, rfl⟩)
      let second := { before with endpoint := { before.endpoint with ring } }
      service.Becomes second ∧ service.CallsBack repeated ∧ service.CallsBack short ∧
        ¬service.Accepts moment repeated ∧ ¬second.Accepts moment short ∧
        (service.handle moment repeated).1 = (second.handle moment short).1 := by
  intro key settings moment repeated wrapper short
  let service : Service :=
    { endpoint :=
        { account := ⟨"token", "app", "gh"⟩
          ring := some (.new key)
          table := (AutoReply.ofSettings settings).table
          refusal := settings.refusalMode.handler
          pool := .new settings.scratchPoolSize.toNat }
      adminToken := settings.adminToken
      exactSites := [(healthPath, .health)]
      callbackPaths := PathPattern.ofText? settings.callbackPath
      bodyLimit := settings.maxBodyBytes.toNat }
  have hkey : Key.ofEncoded key.encoded = .ok key := by decide +kernel
  have hservice : ofSettings settings = .ok service := by
    simp only [ofSettings, endpointOf, Settings.ring, Settings.decodeKey, settings, hkey]
    rfl
  refine ⟨service, hservice, ?_⟩
  intro before ring second
  have hsecond : service.Becomes second := .keys (.request .start moment repeated) ring
  have hrepeated : service.CallsBack repeated :=
    ⟨Or.inl rfl, by decide +kernel, by decide +kernel⟩
  have hshort : service.CallsBack short :=
    ⟨Or.inr rfl, by decide +kernel, by decide +kernel⟩
  have hfails : ¬service.Accepts moment repeated := by
    -- A query has one nonce at most.
    have htwo : (Query.valuesOf (Bytes.Form.fields repeated.query) "nonce").length = 2 := by
      decide +kernel
    have hspells (query : Query) : ¬Query.Spells (Bytes.Form.fields repeated.query) query := by
      intro hquery
      have hnonce : Query.valuesOf (Bytes.Form.fields repeated.query) "nonce" =
          query.nonce.toList := hquery ("nonce", Query.nonce) (by simp [Query.parts])
      have hone : query.nonce.toList.length ≤ 1 := Option.length_toList_le
      rw [hnonce] at htwo
      omega
    intro h
    rcases h with ⟨-, hquery, -, -⟩ | ⟨⟨-, query, hquery, -⟩, -⟩
    · exact hspells _ hquery
    · exact hspells _ hquery
  have hfails' : ¬second.Accepts moment short := by
    have hvalues : Query.valuesOf (Bytes.Form.fields short.query) "encrypt_type" = ["aes"] := by
      decide +kernel
    intro h
    rcases h with ⟨hmethod, -, -, -⟩ | ⟨⟨-, query, hquery, hreceives⟩, -⟩
    · exact absurd hmethod (by decide)
    · have htype : Query.valuesOf (Bytes.Form.fields short.query) "encrypt_type" =
          query.encryptType.toList :=
        hquery ("encrypt_type", Query.encryptType) (by simp [Query.parts])
      rw [hvalues, eq_comm, Option.toList_eq_singleton_iff] at htype
      have hraw : ¬NamesRaw SameWord query.encryptType := by
        rw [← EncryptMode.parse_eq_raw_iff, htype]
        decide
      have hdecode : Bytes.Base64.decode .strict (Text.Utf8.bytes wrapper.encrypt) =
          .ok [0, 0, 0] := by decide +kernel
      have hbody : short.body = wrapper.toBody := by dsimp only [short]
      rw [hbody] at hreceives
      exact Endpoint.not_receives_of_ragged hraw hdecode (by decide) hreceives
  exact ⟨hsecond, hrepeated, hshort, hfails, hfails',
    (refusals_alike hservice .start hsecond hrepeated hshort hfails hfails').1⟩

end Service

end CallbackGate
