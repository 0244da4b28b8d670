import CallbackGate.Proofs.Configuration
import CallbackGate.Proofs.Generations
import CallbackGate.Proofs.Refusals
import CallbackGate.Proofs.ReplySignatures

/-!
# Uses of the zero key

The zero key stands for no key, and a ring does not keep it as its previous key.  Nothing
keeps it from being current: settings may encode it, and so may the body of a rotation.
While it is the latest key, every secure delivery is tried with it, and the reply to one that
it opens is sealed under it.  There is no other use of it.

There are four groups.

* Attempts.  `stage_tried_cases` says which keys of a ring are tried on a ciphertext, and
  `Endpoint.tried_cases` which are tried on a delivery.
* Seals.  `Served.SealedUnder` is what an answer that is sealed under a key looks like;
  `Receives.sealedUnder` and `receives_of_sealedUnder` say which deliveries come to one.
* The zero key.  `ZeroOnlyCurrent` lists the uses of the zero key, and `zeroOnlyCurrent` says
  that there are no others unless it is the previous key.
* Runs.  `Renewals` lists the keys that requests made current, and `handleAll_renewals` that
  the ring was rotated by these.  From that `zero_key_in_use_iff` is assembled.
-/

namespace CallbackGate

/-! ## Attempts -/

/-- A delivery can be tried: it is secure and signed for the account, and its ciphertext is
Base64. -/
def CanBeTried (account : Account) (query : Query) (body : List UInt8) : Prop :=
  NamesAes SameWord query.encryptType ∧
    ∃ timestamp nonce request ciphertext,
      SignedSecure account query body timestamp nonce request ∧
        Text.Utf8.bytes request.encrypt = Bytes.Base64.encode ciphertext

/-- The keys that are tried on a ciphertext in Base64 are the current one of the ring and then
perhaps the previous one; none is tried on anything else. -/
theorem stage_tried_cases (appId : String) (ring : KeyRing) (pool : Pool) (encrypt : String) :
    ((∃ ciphertext, Text.Utf8.bytes encrypt = Bytes.Base64.encode ciphertext) ∧
        ∃ rest, (stage appId ring pool encrypt).tried = ring.current :: rest ∧
          ∀ key ∈ rest, ring.previous = some key) ∨
      (∀ ciphertext, Text.Utf8.bytes encrypt ≠ Bytes.Base64.encode ciphertext) ∧
        (stage appId ring pool encrypt).tried = [] := by
  cases hdecode : Bytes.Base64.decode .strict (Text.Utf8.bytes encrypt) with
  | error fault =>
    rw [stage_of_error hdecode]
    refine Or.inr ⟨fun ciphertext hencode => ?_, rfl⟩
    cases hdecode.symm.trans (Bytes.Base64.decode_strict_eq_ok_iff.mpr hencode)
  | ok decoded =>
    have hencode := Bytes.Base64.decode_strict_eq_ok_iff.mp hdecode
    obtain ⟨rest, htried, hrest⟩ := ring.tried_eq_cons
      (attempt appId (pool.borrow.1 ++ decoded)) pool.borrow.2.borrow.1
    rw [stage_of_ok hdecode rfl]
    exact Or.inl ⟨⟨decoded, hencode⟩, rest, htried, hrest⟩

namespace Endpoint

/-- The keys that attempts to open a delivery are given, in order. -/
def tried (endpoint : Endpoint) (query : Query) (body : List UInt8) : List Key :=
  (endpoint.openDelivery query body).tried

variable {endpoint : Endpoint} {query : Query} {body : List UInt8}

/-- A delivery that can be tried is tried with the current key of the ring first, and then with
no key but the previous one; no other delivery is tried. -/
theorem tried_cases (endpoint : Endpoint) (query : Query) (body : List UInt8) :
    (CanBeTried endpoint.account query body ∧ ∃ ring rest, endpoint.ring = some ring ∧
        endpoint.tried query body = ring.current :: rest ∧
          ∀ key ∈ rest, ring.previous = some key) ∨
      ¬(endpoint.ring.isSome = true ∧ CanBeTried endpoint.account query body) ∧
        endpoint.tried query body = [] := by
  unfold tried openDelivery CanBeTried
  rw [← EncryptMode.parse_eq_aes_iff]
  rcases hmode : EncryptMode.parse query.encryptType with error | _ | _
  · exact Or.inr ⟨nofun, rfl⟩
  · exact Or.inr ⟨nofun, rfl⟩
  · cases hring : endpoint.ring with
    | none => exact Or.inr ⟨nofun, rfl⟩
    | some ring =>
      dsimp only
      unfold openSecure
      cases hunwrap : unwrap endpoint.account query body with
      | error error =>
        refine Or.inr ⟨?_, rfl⟩
        rintro ⟨-, -, timestamp, nonce, request, ciphertext, hsigned, -⟩
        have hwrapped : unwrap endpoint.account query body =
            .ok ⟨timestamp, nonce, request.encrypt⟩ :=
          unwrap_eq_ok_iff.mpr ⟨request, hsigned, rfl⟩
        cases hunwrap.symm.trans hwrapped
      | ok wrapped =>
        obtain ⟨request, hsigned, hencrypt⟩ := unwrap_eq_ok_iff.mp hunwrap
        rcases stage_tried_cases endpoint.account.appId ring endpoint.pool wrapped.encrypt with
          ⟨⟨ciphertext, hencode⟩, rest, htried, hrest⟩ | ⟨hnone, htried⟩
        · rw [← hencrypt] at hencode
          exact Or.inl ⟨⟨rfl, _, _, request, ciphertext, hsigned, hencode⟩, ring, rest, rfl,
            htried, hrest⟩
        · refine Or.inr ⟨?_, htried⟩
          rintro ⟨-, -, timestamp, nonce, other, ciphertext, hother, hencode⟩
          rw [← encrypt_of_unwrap hother.2.2.1 hunwrap] at hencode
          exact hnone ciphertext hencode

end Endpoint

/-! ## Seals -/

/-- A request was answered with a document that is sealed under a key.  The handler that ran
was told of the key. -/
def Served.SealedUnder (served : Served) (account : Account) (salt : Salt) (key : Key) : Prop :=
  served.refused = none ∧
    ∃ call security document reply, served.calls = [call] ∧
      call.context.security = some security ∧ security.key = key ∧
      sealReply account salt security document = .ok reply ∧
      served.response = .document reply.toBody

namespace Endpoint

/-- The reply to a message has this document, which is short enough to be sealed. -/
def RepliesWith (endpoint : Endpoint) (moment : Moment) (envelope : Envelope)
    (security : SecurityContext) (document : List UInt8) : Prop :=
  (endpoint.replyFor envelope (some security)).encode? envelope moment.clock = some document ∧
    document.length < 2 ^ 32

variable {endpoint : Endpoint} {query : Query} {body : List UInt8} {envelope : Envelope}
  {security : SecurityContext} {moment : Moment}

/-- A secure delivery whose reply has a document is answered with the document, sealed under
the key that opened the delivery. -/
theorem Receives.sealedUnder {document : List UInt8} (hpool : endpoint.pool.Clean)
    (h : endpoint.Receives query body envelope (some security))
    (hreply : endpoint.RepliesWith moment envelope security document) :
    (endpoint.delivery moment query body).SealedUnder endpoint.account moment.salt
      security.key := by
  cases h with
  | secure hmode hunseals hmessage =>
    obtain ⟨hdocument, hlength⟩ := hreply
    obtain ⟨hcalls, -⟩ := delivery_of_unseals hmode hpool hunseals hmessage moment
    obtain ⟨reply, hseal, hrefused, hresponse⟩ :=
      delivery_sealed hmode hpool hunseals hmessage hdocument hlength
    exact ⟨hrefused, _, security, document, reply, hcalls, rfl, rfl, hseal, hresponse⟩

/-- What is answered with a sealed document is a secure delivery that was opened with the key
of the seal and whose reply has a document. -/
theorem receives_of_sealedUnder {key : Key} (hpool : endpoint.pool.Clean)
    (h : (endpoint.delivery moment query body).SealedUnder endpoint.account moment.salt key) :
    ∃ envelope security document, endpoint.Receives query body envelope (some security) ∧
      security.key = key ∧ endpoint.RepliesWith moment envelope security document := by
  obtain ⟨hrefused, call, security, -, reply, hcalls, hsecurity, hkey, -, hresponse⟩ := h
  rcases endpoint.deliver_calls moment query body with
    ⟨hnone, -⟩ | ⟨ran, message, opened, -, hopen, hmessage⟩
  · rw [(endpoint.delivery_shows moment query body).1, hnone] at hcalls
    cases hcalls
  · have hreceives := (receives_iff hpool).mpr ⟨message, hopen, hmessage⟩
    have hshows := delivery_of_receives hpool hreceives moment
    -- The handler was told what the delivery was opened with.
    have hcall : call = endpoint.table.callFor ran.context.envelope opened := by
      have hdispatch := (dispatch_eq_callFor endpoint.table ran.context.envelope opened).1
      exact (List.cons.inj (hcalls.symm.trans (hshows.1.trans hdispatch))).1
    obtain rfl : opened = some security := by
      rw [← hsecurity, hcall]
      rfl
    rw [answer_secure] at hshows
    have hanswers := AnswersSealed.of_shows hshows
    cases hdocument : (endpoint.replyFor ran.context.envelope (some security)).encode?
        ran.context.envelope moment.clock with
    | none => cases hresponse.symm.trans (hanswers.empty hdocument).2
    | some document =>
      by_cases hlength : document.length < 2 ^ 32
      · exact ⟨_, security, document, hreceives, hkey, hdocument, hlength⟩
      · cases hrefused.symm.trans (hanswers.tooLong document hdocument (by omega)).1

/-- A secure delivery is opened with the current key of the ring or with the previous one. -/
theorem Receives.key_cases (h : endpoint.Receives query body envelope (some security)) :
    ∃ ring, endpoint.ring = some ring ∧
      ((security.generation = .current ∧ ring.current = security.key) ∨
        (security.generation = .previous ∧ ring.previous = some security.key)) := by
  cases h with
  | secure hmode hunseals hmessage =>
    obtain ⟨ring, request, ciphertext, hring, -, -, hopens⟩ := hunseals
    refine ⟨ring, hring, ?_⟩
    rcases hopens with ⟨-, hgeneration, hkey⟩ | ⟨-, hprevious, -, -, hgeneration⟩
    · exact Or.inl ⟨hgeneration, hkey.symm⟩
    · exact Or.inr ⟨hgeneration, hprevious⟩

/-! ## The zero key -/

/-- The zero key is the current one. -/
def ZeroCurrent (endpoint : Endpoint) : Prop :=
  ∃ ring, endpoint.ring = some ring ∧ ring.current = Key.zero

/-- The uses that an endpoint makes of the zero key are those of the current key. -/
structure ZeroOnlyCurrent (endpoint : Endpoint) : Prop where
  /-- An attempt is given the zero key if it is current and the delivery can be tried. -/
  tried : ∀ query body, Key.zero ∈ endpoint.tried query body ↔
    endpoint.ZeroCurrent ∧ CanBeTried endpoint.account query body
  /-- No attempt is given the zero key after another one has failed. -/
  retried : ∀ query body, Key.zero ∉ (endpoint.tried query body).tail
  /-- A reply is sealed under the zero key if it is current, the delivery is received and was
  opened with the current key, and the reply has a document. -/
  sealed : ∀ moment query body,
    (endpoint.delivery moment query body).SealedUnder endpoint.account moment.salt Key.zero ↔
      endpoint.ZeroCurrent ∧ ∃ envelope security document,
        endpoint.Receives query body envelope (some security) ∧
          security.generation = .current ∧
          endpoint.RepliesWith moment envelope security document

/-- Where the zero key is not the previous one, it is in use as the current one only. -/
theorem zeroOnlyCurrent (hpool : endpoint.pool.Clean)
    (hprevious : ∀ ring, endpoint.ring = some ring → ring.previous ≠ some Key.zero) :
    endpoint.ZeroOnlyCurrent where
  tried query body := by
    rcases endpoint.tried_cases query body with
      ⟨hcan, ring, rest, hring, htried, hrest⟩ | ⟨hcannot, htried⟩
    · have hzero : endpoint.ZeroCurrent ↔ Key.zero = ring.current := by
        rw [ZeroCurrent, hring, eq_comm]
        simp
      rw [htried, List.mem_cons, or_iff_left fun h => hprevious ring hring (hrest _ h),
        and_iff_left hcan, hzero]
    · rw [htried]
      refine iff_of_false List.not_mem_nil ?_
      rintro ⟨⟨ring, hring, -⟩, hcan⟩
      exact hcannot ⟨Option.isSome_of_eq_some hring, hcan⟩
  retried query body := by
    rcases endpoint.tried_cases query body with
      ⟨-, ring, rest, hring, htried, hrest⟩ | ⟨-, htried⟩
    · rw [htried, List.tail_cons]
      exact fun h => hprevious ring hring (hrest _ h)
    · rw [htried]
      exact List.not_mem_nil
  sealed moment query body := by
    constructor
    · intro hsealed
      obtain ⟨envelope, security, document, hreceives, hkey, hreply⟩ :=
        receives_of_sealedUnder hpool hsealed
      obtain ⟨ring, hring, ⟨hgeneration, hcurrent⟩ | ⟨-, hother⟩⟩ := hreceives.key_cases
      · exact ⟨⟨ring, hring, hcurrent.trans hkey⟩, envelope, security, document, hreceives,
          hgeneration, hreply⟩
      · rw [hkey] at hother
        exact absurd hother (hprevious ring hring)
    · rintro ⟨⟨ring, hring, hzero⟩, envelope, security, document, hreceives, hgeneration, hreply⟩
      obtain ⟨other, hother, ⟨-, hcurrent⟩ | ⟨hretried, -⟩⟩ := hreceives.key_cases
      · cases hring.symm.trans hother
        have hsealed := hreceives.sealedUnder hpool hreply
        rwa [← hcurrent, hzero] at hsealed
      · cases hgeneration.symm.trans hretried

end Endpoint

/-! ## Runs -/

namespace Service

variable {service : Service}

/-- A request makes a key current: it is for the rotation, it is answered with success, and
its body encodes the key. -/
structure Renews (service : Service) (moment : Moment) (request : Request) (key : Key) :
    Prop where
  site : service.site? request.path = some .rotation
  method : request.method = "POST"
  status : (service.handle moment request).1.status = 200
  key : request.EncodesKey key

/-- A request makes a key current, or leaves the ring as it is. -/
theorem handle_renews_or_keeps (service : Service) (moment : Moment) (request : Request) :
    (∃ key, service.Renews moment request key ∧ (service.handle moment request).2.endpoint.ring =
        service.endpoint.ring.map (·.rotate key)) ∨
      (∀ key, ¬service.Renews moment request key) ∧
        (service.handle moment request).2.endpoint.ring = service.endpoint.ring := by
  by_cases hrotation : service.site? request.path = some .rotation ∧ request.method = "POST"
  · obtain ⟨hsite, hmethod⟩ := hrotation
    obtain ⟨hstatus, hafter⟩ := handle_of_mem moment hsite (List.mem_singleton.mpr hmethod)
    rcases service.visit_rotation_cases moment request with
      ⟨key, hkey, hvisit⟩ | ⟨answer, hne, hvisit⟩
    · rw [hvisit] at hstatus hafter
      rw [hafter]
      exact Or.inl ⟨key, ⟨hsite, hmethod, hstatus, hkey⟩, rfl⟩
    · rw [hvisit] at hstatus hafter
      rw [hafter]
      exact Or.inr ⟨fun key h => hne (hstatus.symm.trans h.status), rfl⟩
  · obtain ⟨pool, hafter⟩ := handle_of_not_rotation moment hrotation
    rw [hafter]
    exact Or.inr ⟨fun key h => hrotation ⟨h.site, h.method⟩, rfl⟩

/-- The keys that requests make current when they are answered one after the other, in the
order of the requests. -/
inductive Renewals : Service → List (Moment × Request) → List Key → Prop
  | nil {service : Service} : Renewals service [] []
  | renews {service : Service} {moment : Moment} {request : Request}
    {requests : List (Moment × Request)} {key : Key} {keys : List Key}
    (h : service.Renews moment request key)
    (hrest : Renewals (service.handle moment request).2 requests keys) :
    Renewals service ((moment, request) :: requests) (key :: keys)
  | keeps {service : Service} {moment : Moment} {request : Request}
    {requests : List (Moment × Request)} {keys : List Key}
    (h : ∀ key, ¬service.Renews moment request key)
    (hrest : Renewals (service.handle moment request).2 requests keys) :
    Renewals service ((moment, request) :: requests) keys

/-- A run rotates the ring by the keys that its requests make current. -/
theorem handleAll_renewals (requests : List (Moment × Request)) (service : Service) :
    ∃ keys, Renewals service requests keys ∧
      (service.handleAll requests).2.endpoint.ring =
        service.endpoint.ring.map fun ring => keys.foldl KeyRing.rotate ring := by
  induction requests generalizing service with
  | nil => exact ⟨[], .nil, by simp [handleAll]⟩
  | cons entry requests ih =>
    obtain ⟨moment, request⟩ := entry
    obtain ⟨keys, hkeys, hring⟩ := ih (service.handle moment request).2
    rcases service.handle_renews_or_keeps moment request with
      ⟨key, hrenews, hafter⟩ | ⟨hkeeps, hafter⟩
    · refine ⟨key :: keys, .renews hrenews hkeys, hring.trans ?_⟩
      rw [hafter, Option.map_map]
      rfl
    · exact ⟨keys, .keeps hkeeps hkeys, hring.trans (by rw [hafter])⟩

/-- To answer requests is one of the things that a service can do. -/
theorem Becomes.handleAll {now : Service} (h : service.Becomes now)
    (requests : List (Moment × Request)) : service.Becomes (now.handleAll requests).2 := by
  induction requests generalizing now with
  | nil => exact h
  | cons entry requests ih => exact ih (.request h entry.1 entry.2)

/-- The latest key is the one that settings encode or, once requests made others current, the
last of those. -/
def LatestKey (settings : Settings) (keys : List Key) (key : Key) : Prop :=
  ∃ encoded first, settings.encodedKey = some encoded ∧ Key.ofEncoded encoded = .ok first ∧
    keys.getLast?.getD first = key

/-- A ring that settings describe, rotated by keys, has the latest of them as its current key,
and the previous one is not zero. -/
theorem ring_rotateAll {settings : Settings} {configured after : Option KeyRing}
    {keys : List Key} (h : settings.ring = .ok configured)
    (hafter : after = configured.map fun ring => keys.foldl KeyRing.rotate ring) :
    (∀ key, (∃ ring, after = some ring ∧ ring.current = key) ↔ LatestKey settings keys key) ∧
      ∀ ring, after = some ring → ring.previous ≠ some Key.zero := by
  subst hafter
  cases hencoded : settings.encodedKey with
  | none =>
    cases (Settings.ring_of_none hencoded).symm.trans h
    refine ⟨fun key => iff_of_false nofun ?_, nofun⟩
    rintro ⟨encoded, first, hsome, -⟩
    cases hencoded.symm.trans hsome
  | some encoded =>
    obtain ⟨first, previous, hfirst, -, rfl⟩ := (Settings.ring_eq_ok_iff hencoded).mp h
    have hcurrent := KeyRing.current_rotateAll (.withPrevious first previous) keys
    refine ⟨fun key => ⟨?_, ?_⟩, ?_⟩
    · rintro ⟨ring, ⟨⟩, rfl⟩
      exact ⟨encoded, first, hencoded, hfirst, hcurrent.symm⟩
    · rintro ⟨encoded', first', hencoded', hfirst', hlatest⟩
      cases hencoded.symm.trans hencoded'
      cases hfirst.symm.trans hfirst'
      exact ⟨_, rfl, hcurrent.trans hlatest⟩
    · rintro ring ⟨⟩ hprevious
      have hholds := (KeyRing.holds_withPrevious first previous).rotateAll keys
      exact hholds.previous_ne_zero hprevious rfl

/-- The zero key is in use exactly while it is the latest key, the one that the settings encode
or the last one that a request made current.  A service with the ring of its settings, wherever
its pool stood at first and whatever it was asked since, then gives the zero key to attempts
and to seals as its current key; it never does so in any other way. -/
theorem zero_key_in_use_iff {settings : Settings} {bound : Nat} {steps : List Loans.Step}
    (hring : settings.ring = .ok service.endpoint.ring)
    (hpool : service.endpoint.pool = ((Loans.start (Pool.new bound)).run steps).pool)
    (requests : List (Moment × Request)) :
    let now := (service.handleAll requests).2
    ∃ keys, Renewals service requests keys ∧
      (now.endpoint.ZeroCurrent ↔ LatestKey settings keys Key.zero) ∧
      now.endpoint.ZeroOnlyCurrent := by
  intro now
  have hstart : (Loans.start (Pool.new bound)).pool.Sound := Pool.sound_new bound
  have hsound : service.endpoint.pool.Sound := hpool ▸ (Loans.sound_run hstart steps).1
  obtain ⟨hnow, -⟩ := (Becomes.start.handleAll requests).keeps hsound
  obtain ⟨keys, hkeys, hrotated⟩ := service.handleAll_renewals requests
  obtain ⟨hlatest, hprevious⟩ := ring_rotateAll hring hrotated
  exact ⟨keys, hkeys, hlatest Key.zero, Endpoint.zeroOnlyCurrent hnow.clean hprevious⟩

/-- A ring whose configured key is not zero, a rotation that encodes the zero key, and a
delivery that is sealed under it. -/
theorem zero_key_in_use_iff_rotated :
    let account : Account := ⟨"token", "app", "gh"⟩
    let key : Key := ⟨List.replicate 32 7, rfl⟩
    let settings : Settings := { encodedKey := some key.encoded, adminToken := some "secret" }
    let service : Service :=
      { endpoint :=
          { account, ring := some (.new key), table := { unknown := fun _ => .text "pong" }
            pool := ((Loans.start (Pool.new 1)).run [.borrow, .write 0 [1], .giveBack 0]).pool }
        adminToken := settings.adminToken
        exactSites := [(rotationPath, .rotation)]
        bodyLimit := settings.maxBodyBytes.toNat }
    let moment : Moment := ⟨1700000000, ⟨List.replicate 16 5, rfl⟩⟩
    let rotation : Request :=
      { method := "POST", target := rotationPath
        headers := [("Authorization", Text.Utf8.bytes "Bearer secret")]
        body := Text.Utf8.bytes Key.zero.encoded }
    let answers := (service.handleAll [(moment, rotation)]).1
    let now := (service.handleAll [(moment, rotation)]).2
    settings.ring = .ok service.endpoint.ring ∧ answers.map Answer.status = [200] ∧
      now.endpoint.ring = some ⟨Key.zero, some key⟩ ∧
      (∃ keys, Renewals service [(moment, rotation)] keys ∧ LatestKey settings keys Key.zero) ∧
      ∃ ciphertext, Cipher.encrypt ⟨List.replicate 16 3, rfl⟩ bareMessage "app" Key.zero =
          .ok ciphertext ∧
        let request : SealedRequest := ⟨none, base64Text ciphertext⟩
        let query := secureQuery account "1" "2" request.encrypt
        Key.zero ∈ now.endpoint.tried query request.toBody ∧
          (now.endpoint.delivery moment query request.toBody).SealedUnder account moment.salt
            Key.zero := by
  intro account key settings service moment rotation answers now
  have hkey : Key.ofEncoded key.encoded = .ok key := by decide +kernel
  have hsettings : settings.ring = .ok service.endpoint.ring := by
    simp only [Settings.ring, Settings.decodeKey, settings, hkey]
    rfl
  have hnow : now.endpoint.ring = some ⟨Key.zero, some key⟩ := by decide +kernel
  obtain ⟨keys, hkeys, hlatest, huses⟩ :=
    zero_key_in_use_iff hsettings (show service.endpoint.pool = _ from rfl) [(moment, rotation)]
  have hzero : now.endpoint.ZeroCurrent := ⟨_, hnow, rfl⟩
  have hsound : service.endpoint.pool.Sound :=
    (Loans.sound_run (show (Loans.start (Pool.new 1)).pool.Sound from Pool.sound_new 1) _).1
  have hbecomes : service.Becomes now := Becomes.start.handleAll _
  obtain ⟨-, ring, pool, hkeeps⟩ := hbecomes.keeps hsound
  obtain ⟨ciphertext, hencrypt, hopen⟩ :=
    Cipher.exists_sealed (show bareMessage.length < 2 ^ 32 by decide)
      ⟨List.replicate 16 3, rfl⟩ "app" Key.zero
  refine ⟨hsettings, by decide +kernel, hnow, ⟨keys, hkeys, hlatest.mp hzero⟩, ciphertext,
    hencrypt, ?_⟩
  intro request query
  have hquery : CarriesSecure account "1" "2" request.encrypt query :=
    carriesSecure_secureQuery (by decide) (by decide) account request.encrypt
  have hbody : SealedRequest.ofBody request.toBody = .ok request := request.ofBody_toBody
  have hmessage : MessageFor account bareMessage { toUserName := "gh" } :=
    ⟨ofBody_bareMessage, rfl⟩
  change now.endpoint.ZeroOnlyCurrent at huses
  rw [hkeeps] at hnow hzero huses ⊢
  have hunseals := hquery.unseals hnow hbody (Or.inl rfl) (bytes_base64Text ciphertext)
    (KeyRing.opens_current hopen)
  obtain ⟨hmode, htimestamp, hnonce, hsignature⟩ := hquery
  have hcan : CanBeTried account query request.toBody :=
    ⟨hmode, "1", "2", request, ciphertext, ⟨htimestamp, hnonce, hbody, hsignature, Or.inl rfl⟩,
      bytes_base64Text ciphertext⟩
  obtain ⟨document, hreply⟩ : ∃ document,
      (Reply.text "pong").encode? { toUserName := "gh" } moment.clock = some document ∧
        document.length < 2 ^ 32 :=
    ⟨_, rfl, by decide +kernel⟩
  exact ⟨(huses.tried _ _).mpr ⟨hzero, hcan⟩,
    (huses.sealed moment _ _).mpr
      ⟨hzero, _, _, document, .secure hmode hunseals hmessage, rfl, hreply⟩⟩

end Service

end CallbackGate
