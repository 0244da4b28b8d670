import CallbackGate.Proofs.Gate
import CallbackGate.Proofs.Lending

/-!
# Requests do not meet in the pool

An endpoint serves one request after the other from one pool of buffers.  What a
request comes to does not depend on what was served before, as long as the ring is
the same, and the request gives back every buffer that it borrowed, wherever it
fails.

There are four groups.

* Requests.  `Ask` is what an endpoint is asked, and `Takes` how many buffers that
  takes.
* Pools.  `respond_lends` says that a request gives back what it borrowed, and that it
  borrowed what it takes.
* Answers.  `respond_agrees` compares two endpoints that differ in their pools.
* Runs.  `sound_receiveAll` is what a run of requests and rotations keeps, and
  `requests_are_isolated` is the assembly.
-/

namespace CallbackGate

/-! ## Requests -/

/-- What an endpoint is asked. -/
inductive Ask
  /-- A request of a known flow. -/
  | flow (flow : Flow) (query : Query) (body : List UInt8)
  /-- A request whose flow follows from its method. -/
  | method (method : String) (query : Query) (body : List UInt8)
  /-- A request that was refused before it came to the endpoint. -/
  | refused (error : CallbackError)

/-- A request is a delivery of a body with a query. -/
def Ask.Delivers : Ask → Query → List UInt8 → Prop
  | .flow kind query body, query', body' => kind = .delivery ∧ query = query' ∧ body = body'
  | .method word query body, query', body' =>
    SameWord word "POST" ∧ query = query' ∧ body = body'
  | .refused _, _, _ => False

/-- An endpoint decodes the ciphertext of a request: it has a ring, the request is a
secure delivery, and its signature and its outer recipient are right. -/
def Endpoint.Decodes (endpoint : Endpoint) (ask : Ask) (encrypt : String) : Prop :=
  ∃ query body, ask.Delivers query body ∧ NamesAes SameWord query.encryptType ∧
    endpoint.ring.isSome = true ∧
    ∃ timestamp nonce request,
      SignedSecure endpoint.account query body timestamp nonce request ∧
        request.encrypt = encrypt

/-- The number of buffers that a request takes. -/
inductive Endpoint.Takes (endpoint : Endpoint) (ask : Ask) : Nat → Prop
  /-- It is no secure delivery, or it is refused before its ciphertext is decoded. -/
  | nothing (h : ∀ encrypt, ¬endpoint.Decodes ask encrypt) : endpoint.Takes ask 0
  /-- Its ciphertext is not Base64. -/
  | one {encrypt : String} (h : endpoint.Decodes ask encrypt)
    (hbase64 : ∀ ciphertext, Text.Utf8.bytes encrypt ≠ Bytes.Base64.encode ciphertext) :
    endpoint.Takes ask 1
  /-- Its ciphertext is Base64, whatever comes of it. -/
  | two {encrypt : String} {ciphertext : List UInt8} (h : endpoint.Decodes ask encrypt)
    (hbase64 : Text.Utf8.bytes encrypt = Bytes.Base64.encode ciphertext) :
    endpoint.Takes ask 2

/-- A request is one delivery at most. -/
theorem Ask.Delivers.unique {ask : Ask} {query query' : Query} {body body' : List UInt8}
    (h : ask.Delivers query body) (h' : ask.Delivers query' body') :
    query = query' ∧ body = body' := by
  cases ask with
  | flow kind query₀ body₀ =>
    obtain ⟨-, rfl, rfl⟩ := h
    exact h'.2
  | method word query₀ body₀ =>
    obtain ⟨-, rfl, rfl⟩ := h
    exact h'.2
  | refused error => exact absurd h id

theorem Endpoint.Decodes.unique {endpoint : Endpoint} {ask : Ask} {encrypt encrypt' : String}
    (h : endpoint.Decodes ask encrypt) (h' : endpoint.Decodes ask encrypt') :
    encrypt = encrypt' := by
  obtain ⟨query, body, hdelivers, -, -, timestamp, nonce, request, hsigned, rfl⟩ := h
  obtain ⟨query', body', hdelivers', -, -, timestamp', nonce', request', hsigned', rfl⟩ := h'
  obtain ⟨rfl, rfl⟩ := hdelivers.unique hdelivers'
  have hrequest := hsigned.2.2.1
  rw [hsigned'.2.2.1, Except.ok.injEq] at hrequest
  rw [hrequest]

/-- The number of buffers that a request takes is one number. -/
theorem Endpoint.Takes.unique {endpoint : Endpoint} {ask : Ask} {count count' : Nat}
    (h : endpoint.Takes ask count) (h' : endpoint.Takes ask count') : count = count' := by
  cases h with
  | nothing hnone =>
    cases h' with
    | nothing _ => rfl
    | one h _ => exact absurd h (hnone _)
    | two h _ => exact absurd h (hnone _)
  | one hdecodes hbase64 =>
    cases h' with
    | nothing hnone => exact absurd hdecodes (hnone _)
    | one _ _ => rfl
    | two h hbase64' =>
      rw [h.unique hdecodes] at hbase64'
      exact absurd hbase64' (hbase64 _)
  | two hdecodes hbase64 =>
    cases h' with
    | nothing hnone => exact absurd hdecodes (hnone _)
    | one h hbase64' =>
      rw [← h.unique hdecodes] at hbase64
      exact absurd hbase64 (hbase64' _)
    | two _ _ => rfl

/-! ## Pools -/

/-- The pool when the buffer of a message that was opened has gone back. -/
def Borrowing.settled (opening : Borrowing Opened) : Pool :=
  match opening.outcome with
  | .error _ => opening.pool
  | .ok opened =>
    match opened.plaintext.loan? with
    | some buffer => opening.pool.giveBack buffer
    | none => opening.pool

/-- Opening a secure delivery borrows nothing if it cannot be unwrapped, and otherwise
one buffer if the ciphertext is not Base64 and two if it is. -/
theorem openSecure_lends (account : Account) (ring : KeyRing) (pool : Pool) (query : Query)
    (body : List UInt8) :
    let opening := openSecure account ring pool query body
    pool.Lends opening.borrowed opening.settled ∧
      match unwrap account query body with
      | .error _ => opening.borrowed = 0
      | .ok wrapped =>
        match Bytes.Base64.decode .strict (Text.Utf8.bytes wrapped.encrypt) with
        | .error _ => opening.borrowed = 1
        | .ok _ => opening.borrowed = 2 := by
  unfold openSecure Borrowing.settled
  cases unwrap account query body with
  | error error => exact ⟨pool.lends_zero, rfl⟩
  | ok wrapped =>
    dsimp only
    cases hdecode : Bytes.Base64.decode .strict (Text.Utf8.bytes wrapped.encrypt) with
    | error fault =>
      rw [stage_of_error hdecode]
      exact ⟨pool.lends_one _, rfl⟩
    | ok decoded =>
      rw [stage_of_ok hdecode rfl]
      dsimp only
      cases (ring.unlock (attempt account.appId (pool.borrow.1 ++ decoded))
          pool.borrow.2.borrow.1).outcome with
      | error error => exact ⟨pool.lends_two _ _, rfl⟩
      | ok unlocked => exact ⟨pool.lends_two _ _, rfl⟩

namespace Endpoint

variable {endpoint : Endpoint}

/-- A delivery gives back the buffer of its message, whatever comes of the message. -/
theorem delivery_pool (endpoint : Endpoint) (moment : Moment) (query : Query)
    (body : List UInt8) :
    let opening := endpoint.openDelivery query body
    (endpoint.delivery moment query body).pool = opening.settled ∧
      (endpoint.delivery moment query body).borrowed = opening.borrowed := by
  unfold delivery Borrowing.settled
  rcases endpoint.openDelivery query body with ⟨pool, borrowed, tried, error | opened⟩
  · exact ⟨rfl, rfl⟩
  · dsimp only
    cases endpoint.readMessage opened.plaintext.bytes with
    | error error => exact ⟨rfl, rfl⟩
    | ok envelope =>
      dsimp only
      rcases endpoint.answer moment envelope opened.security with ⟨calls, error | response⟩
      · exact ⟨rfl, rfl⟩
      · exact ⟨rfl, rfl⟩

/-- A delivery whose ciphertext is decoded is secure and can be unwrapped. -/
theorem Decodes.unwraps {ask : Ask} {encrypt : String} {query : Query} {body : List UInt8}
    (h : endpoint.Decodes ask encrypt) (hdelivers : ask.Delivers query body) :
    EncryptMode.parse query.encryptType = .ok .aes ∧ endpoint.ring.isSome = true ∧
      ∃ wrapped, unwrap endpoint.account query body = .ok wrapped := by
  obtain ⟨query', body', hdelivers', hmode, hring, timestamp, nonce, request, hsigned, -⟩ := h
  obtain ⟨rfl, rfl⟩ := hdelivers.unique hdelivers'
  exact ⟨EncryptMode.parse_eq_aes_iff.mpr hmode, hring, ⟨timestamp, nonce, request.encrypt⟩,
    unwrap_eq_ok_iff.mpr ⟨request, hsigned, rfl⟩⟩

/-- A secure delivery to an endpoint with a ring borrows as many buffers as it takes. -/
theorem openSecure_takes {ask : Ask} {query : Query} {body : List UInt8} {ring : KeyRing}
    (hdelivers : ask.Delivers query body)
    (hmode : EncryptMode.parse query.encryptType = .ok .aes) (hring : endpoint.ring = some ring) :
    endpoint.Takes ask (openSecure endpoint.account ring endpoint.pool query body).borrowed := by
  obtain ⟨-, hborrowed⟩ := openSecure_lends endpoint.account ring endpoint.pool query body
  cases hunwrap : unwrap endpoint.account query body with
  | error error =>
    rw [hunwrap] at hborrowed
    rw [hborrowed]
    refine .nothing fun encrypt h => ?_
    obtain ⟨-, -, wrapped, hwrapped⟩ := h.unwraps hdelivers
    cases hunwrap.symm.trans hwrapped
  | ok wrapped =>
    obtain ⟨request, hsigned, hencrypt⟩ := unwrap_eq_ok_iff.mp hunwrap
    have hdecodes : endpoint.Decodes ask wrapped.encrypt :=
      ⟨query, body, hdelivers, EncryptMode.parse_eq_aes_iff.mp hmode,
        Option.isSome_of_eq_some hring, _, _, request, hsigned, hencrypt⟩
    rw [hunwrap] at hborrowed
    dsimp only at hborrowed
    cases hdecode : Bytes.Base64.decode .strict (Text.Utf8.bytes wrapped.encrypt) with
    | error fault =>
      rw [hdecode] at hborrowed
      rw [hborrowed]
      refine .one hdecodes fun ciphertext hencode => ?_
      rw [← Bytes.Base64.decode_strict_eq_ok_iff, hdecode] at hencode
      cases hencode
    | ok ciphertext =>
      rw [hdecode] at hborrowed
      rw [hborrowed]
      exact .two hdecodes (Bytes.Base64.decode_strict_eq_ok_iff.mp hdecode)

/-- Opening a delivery borrows as many buffers as the delivery takes, and all are back
when the message has been read. -/
theorem openDelivery_lends {ask : Ask} {query : Query} {body : List UInt8}
    (hdelivers : ask.Delivers query body) :
    let opening := endpoint.openDelivery query body
    endpoint.pool.Lends opening.borrowed opening.settled ∧
      endpoint.Takes ask opening.borrowed := by
  have hnothing (h : ∀ encrypt, ¬endpoint.Decodes ask encrypt) :
      endpoint.pool.Lends 0 endpoint.pool ∧ endpoint.Takes ask 0 :=
    ⟨endpoint.pool.lends_zero, .nothing h⟩
  unfold openDelivery
  rcases hmode : EncryptMode.parse query.encryptType with error | _ | _
  · exact hnothing fun encrypt h => by cases hmode.symm.trans (h.unwraps hdelivers).1
  · have hplain := hnothing fun encrypt h => by cases hmode.symm.trans (h.unwraps hdelivers).1
    unfold Borrowing.settled
    cases hopen : openPlain endpoint.account query body with
    | error error => exact hplain
    | ok opened =>
      obtain ⟨-, rfl⟩ := openPlain_eq_ok_iff.mp hopen
      exact hplain
  · cases hring : endpoint.ring with
    | none =>
      refine hnothing fun encrypt h => ?_
      have hsome := (h.unwraps hdelivers).2.1
      rw [hring] at hsome
      cases hsome
    | some ring =>
      exact ⟨(openSecure_lends endpoint.account ring endpoint.pool query body).1,
        openSecure_takes hdelivers hmode hring⟩

/-- Answer what is asked. -/
def respond (endpoint : Endpoint) (moment : Moment) : Ask → Served
  | .flow kind query body => endpoint.serve moment kind query body
  | .method word query body => endpoint.serveMethod moment word query body
  | .refused error => endpoint.refuse error

/-- A delivery is served as one, whichever way it is asked for. -/
theorem respond_of_delivers {ask : Ask} {query : Query} {body : List UInt8}
    (h : ask.Delivers query body) (endpoint : Endpoint) (moment : Moment) :
    endpoint.respond moment ask = endpoint.delivery moment query body := by
  cases ask with
  | flow kind query₀ body₀ =>
    obtain ⟨rfl, rfl, rfl⟩ := h
    rfl
  | method word query₀ body₀ =>
    obtain ⟨hpost, rfl, rfl⟩ := h
    exact serveMethod_of_post hpost endpoint moment query₀ body₀
  | refused error => exact absurd h id

/-- A handshake neither looks at the pool nor changes it. -/
theorem serve_handshake (endpoint : Endpoint) (moment : Moment) (query : Query)
    (body : List UInt8) :
    ∃ response refused, ∀ pool, ({ endpoint with pool } : Endpoint).serve moment .handshake
      query body = ⟨response, refused, [], 0, pool⟩ := by
  cases hhandshake : endpoint.handshake query with
  | error error =>
    refine ⟨endpoint.refusal (.protocol error), some (.protocol error), fun pool => ?_⟩
    rw [serve, show ({ endpoint with pool } : Endpoint).handshake query = _ from hhandshake]
    rfl
  | ok response =>
    refine ⟨response, none, fun pool => ?_⟩
    rw [serve, show ({ endpoint with pool } : Endpoint).handshake query = _ from hhandshake]

/-- What is no delivery neither looks at the pool nor changes it. -/
theorem respond_of_not_delivers {ask : Ask} (h : ∀ query body, ¬ask.Delivers query body)
    (endpoint : Endpoint) (moment : Moment) :
    ∃ response refused, ∀ pool, ({ endpoint with pool } : Endpoint).respond moment ask =
      ⟨response, refused, [], 0, pool⟩ := by
  cases ask with
  | flow kind query body =>
    cases kind with
    | handshake => exact endpoint.serve_handshake moment query body
    | delivery => exact absurd ⟨rfl, rfl, rfl⟩ (h query body)
  | method word query body =>
    unfold respond
    dsimp only
    unfold serveMethod
    rcases hflow : Flow.ofMethod word with error | _ | _
    · exact ⟨_, _, fun pool => rfl⟩
    · exact endpoint.serve_handshake moment query body
    · exact absurd ⟨Flow.ofMethod_eq_delivery_iff.mp hflow, rfl, rfl⟩ (h query body)
  | refused error => exact ⟨_, _, fun pool => rfl⟩

/-- A request gives back every buffer that it borrowed, and those are as many as it
takes. -/
theorem respond_lends (endpoint : Endpoint) (moment : Moment) (ask : Ask) :
    let served := endpoint.respond moment ask
    endpoint.pool.Lends served.borrowed served.pool ∧ endpoint.Takes ask served.borrowed := by
  intro served
  by_cases hdelivers : ∃ query body, ask.Delivers query body
  · obtain ⟨query, body, hdelivers⟩ := hdelivers
    obtain ⟨hpool, hborrowed⟩ := endpoint.delivery_pool moment query body
    have hserved : served = endpoint.delivery moment query body :=
      respond_of_delivers hdelivers endpoint moment
    rw [hserved, hpool, hborrowed]
    exact openDelivery_lends hdelivers
  · have hnone : ∀ query body, ¬ask.Delivers query body :=
      fun query body h => hdelivers ⟨query, body, h⟩
    obtain ⟨response, refused, hrespond⟩ := respond_of_not_delivers hnone endpoint moment
    have hserved : served = ⟨response, refused, [], 0, endpoint.pool⟩ := hrespond endpoint.pool
    rw [hserved]
    refine ⟨endpoint.pool.lends_zero, .nothing fun encrypt h => ?_⟩
    obtain ⟨query, body, h, -⟩ := h
    exact hnone query body h

end Endpoint

/-! ## Answers -/

/-- Two requests came to the same: they were answered alike, refused for the same error
if at all, and the same handlers ran. -/
structure Served.Agrees (served other : Served) : Prop where
  response : served.response = other.response
  refused : served.refused = other.refused
  calls : served.calls = other.calls

/-- What is shown of a request determines what it came to. -/
theorem Served.Shows.agrees {served other : Served} {refusal : RefusalHandler}
    {shown : List Call × Except CallbackError Response} (h : served.Shows refusal shown)
    (h' : other.Shows refusal shown) : served.Agrees other := by
  obtain ⟨hcalls, h⟩ := h
  obtain ⟨hcalls', h'⟩ := h'
  rcases shown with ⟨calls, error | response⟩
  · exact ⟨h.1.trans h'.1.symm, h.2.trans h'.2.symm, hcalls.trans hcalls'.symm⟩
  · exact ⟨h.1.trans h'.1.symm, h.2.trans h'.2.symm, hcalls.trans hcalls'.symm⟩

namespace Endpoint

variable {endpoint : Endpoint}

/-- What a delivery opens to does not depend on the pool, as long as it is clean. -/
theorem opensTo_withPool (hpool : endpoint.pool.Clean) {pool : Pool} (hclean : pool.Clean)
    (query : Query) (body : List UInt8) :
    ({ endpoint with pool } : Endpoint).opensTo query body = endpoint.opensTo query body := by
  rcases hmode : EncryptMode.parse query.encryptType with error | _ | _
  · rw [opensTo, opensTo, openDelivery, openDelivery, hmode]
  · rw [opensTo_of_raw hmode, opensTo_of_raw hmode]
  · rcases Option.eq_none_or_eq_some endpoint.ring with hring | ⟨ring, hring⟩
    · rw [opensTo, opensTo, openDelivery, openDelivery, hmode, hring]
    · rw [opensTo_of_aes hmode hring hpool]
      exact opensTo_of_aes hmode hring hclean

/-- What a request comes to does not depend on the pool, as long as it is clean. -/
theorem respond_agrees (hpool : endpoint.pool.Clean) {pool : Pool} (hclean : pool.Clean)
    (moment : Moment) (ask : Ask) :
    (endpoint.respond moment ask).Agrees
      (({ endpoint with pool } : Endpoint).respond moment ask) := by
  by_cases hdelivers : ∃ query body, ask.Delivers query body
  · obtain ⟨query, body, hdelivers⟩ := hdelivers
    rw [respond_of_delivers hdelivers, respond_of_delivers hdelivers]
    have hshows := endpoint.delivery_shows moment query body
    have hshows' := ({ endpoint with pool } : Endpoint).delivery_shows moment query body
    rw [deliver, opensTo_withPool hpool hclean] at hshows'
    exact hshows.agrees hshows'
  · obtain ⟨response, refused, hrespond⟩ := respond_of_not_delivers
      (fun query body h => hdelivers ⟨query, body, h⟩) endpoint moment
    have hserved : endpoint.respond moment ask = ⟨response, refused, [], 0, endpoint.pool⟩ :=
      hrespond endpoint.pool
    rw [hserved, hrespond pool]
    exact ⟨rfl, rfl, rfl⟩

end Endpoint

/-! ## Runs -/

/-- What happens to an endpoint. -/
inductive Visit
  /-- It is asked something, at a moment. -/
  | request (moment : Moment) (ask : Ask)
  /-- A key becomes current in its ring. -/
  | rotation (key : Key)

namespace Endpoint

/-- The endpoint after a visit. -/
def receive (endpoint : Endpoint) : Visit → Endpoint
  | .request moment ask => { endpoint with pool := (endpoint.respond moment ask).pool }
  | .rotation key => endpoint.rotate key

/-- The endpoint after visits, one after the other. -/
def receiveAll (endpoint : Endpoint) (visits : List Visit) : Endpoint :=
  visits.foldl receive endpoint

variable {endpoint : Endpoint}

/-- A visit leaves a sound pool, with the same bound. -/
theorem sound_receive (h : endpoint.pool.Sound) (visit : Visit) :
    (endpoint.receive visit).pool.Sound ∧
      (endpoint.receive visit).pool.bound = endpoint.pool.bound := by
  cases visit with
  | request moment ask => exact (endpoint.respond_lends moment ask).1.sound h
  | rotation key => exact ⟨h, rfl⟩

/-- Any number of visits do. -/
theorem sound_receiveAll (h : endpoint.pool.Sound) (visits : List Visit) :
    (endpoint.receiveAll visits).pool.Sound ∧
      (endpoint.receiveAll visits).pool.bound = endpoint.pool.bound := by
  induction visits generalizing endpoint with
  | nil => exact ⟨h, rfl⟩
  | cons visit visits ih =>
    obtain ⟨hsound, hbound⟩ := sound_receive h visit
    obtain ⟨hsound', hbound'⟩ := ih hsound
    exact ⟨hsound', hbound'.trans hbound⟩

/-- Requests do not influence one another through the pool.  Whatever the endpoint is,
wherever its pool stood at first and whatever happened to it since, a request comes to
the same as it would with a new pool.  It gives back all buffers that it borrowed, as
many as it takes, and then as many are idle as before, or as it borrowed if those are
more and may be kept. -/
theorem requests_are_isolated (account : Account) (ring : Option KeyRing) (table : Table)
    (refusal : RefusalHandler) (bound : Nat) (steps : List Loans.Step) (visits : List Visit)
    (moment : Moment) (ask : Ask) (other : Nat) :
    let pool := ((Loans.start (Pool.new bound)).run steps).pool
    let endpoint : Endpoint := ⟨account, ring, table, refusal, pool⟩
    let now := endpoint.receiveAll visits
    let fresh : Endpoint := { now with pool := Pool.new other }
    let served := now.respond moment ask
    served.Agrees (fresh.respond moment ask) ∧
      now.Takes ask served.borrowed ∧
      now.pool.Lends served.borrowed served.pool ∧
      served.pool.idle.length = max now.pool.idle.length (min bound served.borrowed) ∧
      served.pool.idle.length ≤ bound := by
  intro pool endpoint now fresh served
  obtain ⟨hsound, hbound⟩ :=
    Loans.sound_run (show (Loans.start (Pool.new bound)).pool.Sound from Pool.sound_new bound)
      steps
  obtain ⟨hnow, hnow_bound⟩ :=
    sound_receiveAll (show endpoint.pool.Sound from hsound) visits
  have hnow_bound : now.pool.bound = bound := hnow_bound.trans hbound
  obtain ⟨hlends, htakes⟩ := now.respond_lends moment ask
  obtain ⟨hafter, hafter_bound⟩ := hlends.sound hnow
  refine ⟨respond_agrees hnow.clean (Pool.clean_new other) moment ask, htakes, hlends, ?_, ?_⟩
  · rw [hlends.length_idle hnow, hnow_bound]
  · rw [← hnow_bound, ← hafter_bound]
    exact hafter.within

end Endpoint

end CallbackGate
