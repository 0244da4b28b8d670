import CallbackGate.Proofs.SealedReplies
import CallbackGate.Proofs.SignatureModes
import CallbackGate.Proofs.Trimming

/-!
# Which sealed replies verify

A sealed reply carries the texts that its signature is over, so that whoever
holds the token can verify it from the document alone.  The signature is over the
texts of the query.  The ciphertext and the nonce are read back from the document
as they were; the timestamp is read back without the white space at its ends.  So
the replies that verify are those to a delivery whose timestamp has none there.

There are three groups.

* Ends of texts.  `ofList_stripped_eq_iff` says which texts are read back as they
  were written.
* Signatures of replies.  `readBack_verifies_iff` is the check of a reply as it is read
  back from its document.
* Answers.  `delivery_sealed` says what a secure delivery is answered with, and
  `sealed_reply_verifies_iff` is the assembly.
-/

namespace CallbackGate

open Markup (Draft)

/-! ## Ends of texts -/

namespace Text

/-- A text neither begins nor ends with white space of markup. -/
def Tight (text : String) : Prop :=
  (∀ c ∈ text.toList.head?, isMarkupSpace c = false) ∧
    ∀ c ∈ text.toList.getLast?, isMarkupSpace c = false

/-- What is read back from a text with escapes is the text itself if it is tight. -/
theorem ofList_stripped_eq_iff {text : String} :
    String.ofList (Draft.stripped text) = text ↔ Tight text := by
  rw [Tight, ← strip_eq_self_iff, ← String.toList_inj, String.toList_ofList, Draft.stripped]

instance : DecidablePred Tight := fun _ => decidable_of_iff _ ofList_stripped_eq_iff

/-- A text that is not tight is read back as a shorter one. -/
theorem length_bytes_stripped_lt {text : String} (h : ¬Tight text) :
    (Utf8.bytes (String.ofList (Draft.stripped text))).length < (Utf8.bytes text).length := by
  obtain ⟨before, after, hparts⟩ := strip_isInfix isMarkupSpace text.toList
  have hlength : (Utf8.bytes text).length = (Utf8.bytes (String.ofList before)).length +
      (Utf8.bytes (String.ofList (Draft.stripped text))).length +
        (Utf8.bytes (String.ofList after)).length := by
    rw [Utf8.bytes, ← hparts]
    simp only [Utf8.bytes, Draft.stripped, String.toList_ofList, List.flatMap_append,
      List.length_append]
  by_cases hbefore : String.ofList before = ""
  · by_cases hafter : String.ofList after = ""
    · rw [← String.toList_inj, String.toList_ofList] at hbefore hafter
      rw [hbefore, hafter, String.toList_empty, List.nil_append, List.append_nil] at hparts
      rw [← ofList_stripped_eq_iff, Draft.stripped, hparts, String.ofList_toList] at h
      exact absurd rfl h
    · have hpos := Signature.length_bytes_pos hafter
      omega
  · have hpos := Signature.length_bytes_pos hbefore
    omega

end Text

/-! ## Signatures of replies -/

open Signature (signedBytes Collide)

/-- A reply carries the signature of a token and of its own other texts. -/
def SealedReply.Verifies (reply : SealedReply) (token : String) : Prop :=
  reply.msgSignature = Signature.message token reply.timestamp reply.nonce reply.encrypt

/-- A reply as it is read back from its document. -/
def SealedReply.readBack (reply : SealedReply) : SealedReply :=
  { reply with timestamp := String.ofList (Draft.stripped reply.timestamp) }

/-- The reply as it is read back verifies if the reply does, unless white space at the
ends of its timestamp is lost. -/
theorem SealedReply.readBack_verifies_iff {reply : SealedReply} {token : String}
    (h : reply.Verifies token) :
    reply.readBack.Verifies token ↔ Text.Tight reply.timestamp ∨
      Collide (signedBytes [token, reply.timestamp, reply.nonce, reply.encrypt])
        (signedBytes [token, reply.readBack.timestamp, reply.nonce, reply.encrypt]) := by
  have hverifies : reply.readBack.Verifies token ↔
      Signature.message token reply.timestamp reply.nonce reply.encrypt =
        Signature.message token reply.readBack.timestamp reply.nonce reply.encrypt := by
    rw [← show reply.msgSignature = _ from h]
    rfl
  rw [hverifies]
  by_cases htight : Text.Tight reply.timestamp
  · have hsame : reply.readBack.timestamp = reply.timestamp :=
      Text.ofList_stripped_eq_iff.mpr htight
    rw [hsame]
    exact iff_of_true rfl (Or.inl htight)
  · have hshort := Text.length_bytes_stripped_lt htight
    have hbytes : signedBytes [token, reply.timestamp, reply.nonce, reply.encrypt] ≠
        signedBytes [token, reply.readBack.timestamp, reply.nonce, reply.encrypt] := by
      intro heq
      have hlength := congrArg List.length heq
      rw [Signature.length_signedBytes, Signature.length_signedBytes] at hlength
      simp only [List.map_cons, List.map_nil, List.sum_cons, List.sum_nil] at hlength
      rw [show reply.readBack.timestamp =
        String.ofList (Draft.stripped reply.timestamp) from rfl] at hlength
      omega
    rw [Signature.message, Signature.message, Signature.sign_eq_iff, Collide]
    constructor
    · intro hdigest
      exact Or.inr ⟨hbytes, hdigest⟩
    · intro hcollide
      rcases hcollide with hno | ⟨-, hdigest⟩
      · exact absurd hno htight
      · exact hdigest

/-- The reply to a delivery verifies before it is written. -/
theorem sealReply_verifies {account : Account} {salt : Salt} {security : SecurityContext}
    {document : List UInt8} {reply : SealedReply}
    (h : sealReply account salt security document = .ok reply) :
    reply.timestamp = security.timestamp ∧ reply.nonce = security.nonce ∧
      reply.Verifies account.token := by
  unfold sealReply at h
  cases hencrypt : Cipher.encrypt salt document account.appId security.key with
  | error error =>
    rw [hencrypt] at h
    cases h
  | ok ciphertext =>
    rw [hencrypt] at h
    cases h
    exact ⟨rfl, rfl, rfl⟩

/-! ## Answers -/

namespace Endpoint

variable {endpoint : Endpoint}

/-- A secure delivery whose reply has a document is answered with the sealed reply. -/
theorem delivery_sealed {query : Query} {body message document : List UInt8}
    {security : SecurityContext} {envelope : Envelope} {moment : Moment}
    (hmode : NamesAes SameWord query.encryptType) (hpool : endpoint.pool.Clean)
    (hunseals : endpoint.Unseals query body message security)
    (hmessage : MessageFor endpoint.account message envelope)
    (hdocument : (endpoint.table.replyTo
      (endpoint.table.callFor envelope (some security)).context).encode? envelope
        moment.clock = some document)
    (hlength : document.length < 2 ^ 32) :
    let served := endpoint.delivery moment query body
    ∃ reply, sealReply endpoint.account moment.salt security document = .ok reply ∧
      served.refused = none ∧ served.response = .document reply.toBody := by
  intro served
  obtain ⟨reply, hseal, -⟩ :=
    sealReply_seals hlength endpoint.account moment.salt security
  obtain ⟨-, houtcome⟩ := endpoint.delivery_shows moment query body
  have hopen := (opensTo_eq_ok_iff_unseals hmode hpool).mpr ⟨security, rfl, hunseals⟩
  have hread := readMessage_eq_ok_iff.mpr hmessage
  rw [deliver, hopen] at houtcome
  dsimp only at houtcome
  rw [process, hread] at houtcome
  dsimp only at houtcome
  rw [answer_secure, hdocument] at houtcome
  dsimp only at houtcome
  rw [hseal] at houtcome
  exact ⟨reply, hseal, houtcome.2, houtcome.1⟩

/-- Which sealed replies verify.  Whatever the endpoint is and wherever its pool stands,
the document that a secure delivery is answered with is read back with the timestamp of
the query without the white space at its ends, and with the nonce of the query.  So it
carries the signature of its own texts if the timestamp has no white space there, and
otherwise only if the digest collides. -/
theorem sealed_reply_verifies_iff (account : Account) (ring : Option KeyRing) (table : Table)
    (refusal : RefusalHandler) (bound : Nat) (steps : List Loans.Step) (moment : Moment)
    (method : String) (query : Query) (body : List UInt8) (timestamp : String)
    (hmode : NamesAes SameWord query.encryptType)
    (htimestamp : query.value? .timestamp = some timestamp) :
    let pool := ((Loans.start (Pool.new bound)).run steps).pool
    let endpoint : Endpoint := ⟨account, ring, table, refusal, pool⟩
    let served := endpoint.serveMethod moment method query body
    ∀ call ∈ served.calls, ∀ document,
      (table.replyTo call.context).encode? call.context.envelope moment.clock = some document →
      document.length < 2 ^ 32 →
      ∃ answer reply, served.refused = none ∧ served.response = .document answer ∧
        SealedReply.ofBody answer = .ok reply ∧
        reply.timestamp = String.ofList (Draft.stripped timestamp) ∧
        query.value? .nonce = some reply.nonce ∧
        (reply.Verifies account.token ↔ Text.Tight timestamp ∨
          Collide (signedBytes [account.token, timestamp, reply.nonce, reply.encrypt])
            (signedBytes [account.token, reply.timestamp, reply.nonce, reply.encrypt])) := by
  intro pool endpoint served call hcall document hdocument hlength
  have hpool : endpoint.pool.Clean := Loans.clean_run (Pool.clean_new bound) steps
  have hpost : SameWord method "POST" := by
    by_contra hother
    rw [calls_of_not_post hother endpoint moment query body] at hcall
    cases hcall
  have hserved : served = endpoint.delivery moment query body :=
    serveMethod_of_post hpost endpoint moment query body
  rw [hserved] at hcall ⊢
  obtain ⟨message, security, hunseals, hmessage⟩ := unseals_of_mem_calls hmode hpool hcall
  have hone : call = table.callFor call.context.envelope (some security) :=
    List.mem_singleton.mp ((delivery_of_unseals hmode hpool hunseals hmessage moment).1 ▸ hcall)
  rw [hone] at hdocument
  obtain ⟨reply, hseal, hrefused, hresponse⟩ :=
    delivery_sealed hmode hpool hunseals hmessage hdocument hlength
  obtain ⟨hreply, hnonce, hverifies⟩ := sealReply_verifies hseal
  obtain ⟨-, request, -, -, ⟨⟨hsecurity, -⟩, ⟨hvalue, -⟩, -⟩, -⟩ := hunseals
  rw [htimestamp, Option.some.injEq] at hsecurity
  rw [← hsecurity] at hreply
  refine ⟨reply.toBody, reply.readBack, hrefused, hresponse, reply.ofBody_toBody, ?_, ?_, ?_⟩
  · rw [← hreply]
    rfl
  · rw [hvalue, ← hnonce]
    rfl
  · rw [← hreply]
    exact reply.readBack_verifies_iff hverifies

/-- A delivery whose timestamp begins with a space is answered for, with a reply that is
read back with another timestamp. -/
theorem sealed_reply_verifies_iff_space :
    let account : Account := ⟨"token", "app", "gh"⟩
    let key : Key := ⟨List.replicate 32 7, rfl⟩
    let ring : KeyRing := ⟨key, none⟩
    let table : Table := { unknown := fun _ => .text "pong" }
    let pool := ((Loans.start (Pool.new 1)).run []).pool
    let endpoint : Endpoint := ⟨account, some ring, table, RefusalMode.reject.handler, pool⟩
    let moment : Moment := ⟨1700000000, ⟨List.replicate 16 5, rfl⟩⟩
    ∃ ciphertext, Cipher.encrypt ⟨List.replicate 16 3, rfl⟩ bareMessage "app" key =
        .ok ciphertext ∧
      let request : SealedRequest := ⟨none, base64Text ciphertext⟩
      let query := secureQuery account " 1" "n" request.encrypt
      let served := endpoint.serveMethod moment "POST" query request.toBody
      ∃ answer reply, served.refused = none ∧ served.response = .document answer ∧
        SealedReply.ofBody answer = .ok reply ∧ reply.timestamp = "1" ∧ reply.nonce = "n" ∧
        (reply.Verifies "token" ↔ Collide (signedBytes ["token", " 1", "n", reply.encrypt])
          (signedBytes ["token", "1", "n", reply.encrypt])) := by
  intro account key ring table pool endpoint moment
  obtain ⟨ciphertext, hencrypt, hopen⟩ :=
    Cipher.exists_sealed (show bareMessage.length < 2 ^ 32 by decide)
      ⟨List.replicate 16 3, rfl⟩ "app" key
  refine ⟨ciphertext, hencrypt, ?_⟩
  intro request query served
  have hpool : endpoint.pool.Clean := Loans.clean_run (Pool.clean_new 1) []
  have hquery : CarriesSecure account " 1" "n" request.encrypt query :=
    carriesSecure_secureQuery (by decide) (by decide) account request.encrypt
  have hring : endpoint.ring = some ring := rfl
  have hunseals := hquery.unseals hring request.ofBody_toBody (Or.inl rfl)
    (bytes_base64Text ciphertext) (KeyRing.opens_current hopen)
  have hcalls := (delivery_of_unseals hquery.1 hpool hunseals
    (show MessageFor account bareMessage { toUserName := "gh" } from ⟨ofBody_bareMessage, rfl⟩)
    moment).1
  obtain ⟨answer, reply, hrefused, hresponse, hread, htimestamp, hnonce, hverifies⟩ :=
    sealed_reply_verifies_iff account (some ring) table RefusalMode.reject.handler 1 [] moment
      "POST" query request.toBody " 1" hquery.1 rfl _ (hcalls ▸ List.mem_singleton_self _) _ rfl
      (by decide +kernel)
  have hone : reply.timestamp = "1" := htimestamp.trans (by decide)
  have hn : reply.nonce = "n" := (Option.some.inj hnonce).symm
  rw [hone, hn] at hverifies
  refine ⟨answer, reply, hrefused, hresponse, hread, hone, hn, hverifies.trans ?_⟩
  exact or_iff_right (by decide)

end Endpoint

end CallbackGate
