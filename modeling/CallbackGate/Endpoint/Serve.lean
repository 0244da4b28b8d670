import CallbackGate.Dispatch.Run
import CallbackGate.Endpoint.Opening
import CallbackGate.Endpoint.Sealing
import CallbackGate.Message.Reading

/-!
# Serving requests

An endpoint answers handshakes and deliveries for one account.  A delivery is
opened, its message read, its recipient checked, its handler run and the reply
sealed.  Whatever goes wrong on the way is given to the endpoint's handler of
refused requests, which decides what is answered.

Serving is a function: the time and the random bytes of a reply are arguments,
and the result holds the answer, the error that was refused if there was one,
the handlers that ran, and the pool afterwards.
-/

namespace CallbackGate

/-- What a request finds that is not in it: the time in seconds and the random
bytes for a sealed reply. -/
structure Moment where
  clock : Int64
  salt : Salt
  deriving DecidableEq

/-- An endpoint for one account. -/
structure Endpoint where
  account : Account
  /-- Without a ring there are no secure deliveries. -/
  ring : Option KeyRing := none
  table : Table := {}
  refusal : RefusalHandler := RefusalMode.silent.handler
  pool : Pool := .standard

/-- The outcome of a request. -/
structure Served where
  response : Response
  /-- The error that the handler of refused requests was given. -/
  refused : Option CallbackError
  /-- The handlers that ran, in order. -/
  calls : List Call
  /-- The number of buffers that were borrowed. -/
  borrowed : Nat
  /-- The pool afterwards. -/
  pool : Pool

namespace Endpoint

/-- Answer a request that is refused before anything was borrowed or run. -/
def refuse (endpoint : Endpoint) (error : CallbackError) : Served :=
  ⟨endpoint.refusal error, some error, [], 0, endpoint.pool⟩

/-- Check a handshake and echo its challenge. -/
def handshake (endpoint : Endpoint) (query : Query) :
    Except ProtocolError Response := do
  let signature ← query.require .signature
  let challenge ← query.require .echostr
  checkHandshakeSignature endpoint.account.token query signature
  .ok (.echo challenge)

/-- Read the message of an opened delivery and check its recipient. -/
def readMessage (endpoint : Endpoint) (message : List UInt8) :
    Except CallbackError Envelope := do
  let envelope ← (Envelope.ofBody message).mapError .malformedBody
  if envelope.toUserName = endpoint.account.recipientId then .ok envelope
  else .error (.protocol (.recipientMismatch envelope.toUserName))

/-- Dispatch a message and encode the reply.  The handlers that ran are told
even if the reply cannot be sealed. -/
def answer (endpoint : Endpoint) (moment : Moment) (envelope : Envelope)
    (security : Option SecurityContext) :
    List Call × Except CallbackError Response :=
  let dispatched := dispatch endpoint.table envelope security
  let response := match dispatched.reply.encode? envelope moment.clock with
    | none => .ok .empty
    | some document =>
      ((responseBody endpoint.account moment.salt security document).map
        Response.document).mapError .crypto
  (dispatched.calls, response)

/-- Open a delivery in the mode that its query names. -/
def openDelivery (endpoint : Endpoint) (query : Query) (body : List UInt8) :
    Borrowing Opened :=
  match EncryptMode.parse query.encryptType with
  | .error error => ⟨endpoint.pool, 0, [], .error (.protocol error)⟩
  | .ok .raw =>
    ⟨endpoint.pool, 0, [],
      (openPlain endpoint.account query body).mapError .protocol⟩
  | .ok .aes =>
    match endpoint.ring with
    | none =>
      ⟨endpoint.pool, 0, [], .error <| .protocol <|
        .unsupportedEncryptType EncryptMode.aes.word⟩
    | some ring => openSecure endpoint.account ring endpoint.pool query body

/-- Serve a delivery. -/
def delivery (endpoint : Endpoint) (moment : Moment) (query : Query)
    (body : List UInt8) : Served :=
  let opening := endpoint.openDelivery query body
  let finish (pool : Pool) (calls : List Call)
      (outcome : Except CallbackError Response) : Served :=
    match outcome with
    | .ok response => ⟨response, none, calls, opening.borrowed, pool⟩
    | .error error =>
      ⟨endpoint.refusal error, some error, calls, opening.borrowed, pool⟩
  match opening.outcome with
  | .error error => finish opening.pool [] (.error error)
  | .ok opened =>
    let message := endpoint.readMessage opened.plaintext.bytes
    let pool := match opened.plaintext.loan? with
      | some buffer => opening.pool.giveBack buffer
      | none => opening.pool
    match message with
    | .error error => finish pool [] (.error error)
    | .ok envelope =>
      let (calls, outcome) := endpoint.answer moment envelope opened.security
      finish pool calls outcome

/-- Serve a request of a known flow. -/
def serve (endpoint : Endpoint) (moment : Moment) (flow : Flow) (query : Query)
    (body : List UInt8) : Served :=
  match flow with
  | .handshake =>
    match endpoint.handshake query with
    | .ok response => ⟨response, none, [], 0, endpoint.pool⟩
    | .error error => endpoint.refuse (.protocol error)
  | .delivery => endpoint.delivery moment query body

/-- Serve a request whose flow follows from its method. -/
def serveMethod (endpoint : Endpoint) (moment : Moment) (method : String)
    (query : Query) (body : List UInt8) : Served :=
  match Flow.ofMethod method with
  | .ok flow => endpoint.serve moment flow query body
  | .error error => endpoint.refuse (.protocol error)

/-- Make a key current in the ring, if there is a ring. -/
def rotate (endpoint : Endpoint) (key : Key) : Endpoint :=
  { endpoint with ring := endpoint.ring.map (·.rotate key) }

end Endpoint

end CallbackGate
