import CallbackGate.Bytes.Form
import CallbackGate.Endpoint.Serve
import CallbackGate.Service.AutoReply
import CallbackGate.Service.PathPattern

/-!
# The HTTP surface

A service listens at up to three sites: a health check, the rotation of keys,
and the callback of the platform.  The first two are found at exact paths, and
the callback at the paths that a pattern describes; each site knows the methods
it takes.  `Service.handle` answers one request and returns the service as it is
afterwards, with the key ring and the pool of buffers that the request left
behind.
-/

namespace CallbackGate

/-! ## Requests and answers -/

/-- A request. -/
structure Request where
  method : String
  /-- The target: a path, perhaps with a query and a fragment. -/
  target : String
  /-- The headers, in the order in which they came. -/
  headers : List (String × List UInt8) := []
  body : List UInt8 := []
  deriving DecidableEq, Repr

/-- An answer. -/
structure Answer where
  status : Nat
  contentType : Option String := none
  /-- The methods that the site takes, told to a request of another method. -/
  allow : Option String := none
  body : List UInt8 := []
  deriving DecidableEq, Repr

namespace Request

/-- The characters of a target without scheme and authority. -/
def localTarget (request : Request) : List Char :=
  let target := request.target.toList
  if target.head? = some '/' then target
  else
    match (target.dropWhile (· != ':')) with
    | ':' :: '/' :: '/' :: rest =>
      rest.dropWhile fun c => c != '/' && c != '?' && c != '#'
    | _ => target

/-- The path of a request, which is a slash if the target has none. -/
def path (request : Request) : String :=
  let path := request.localTarget.takeWhile fun c => c != '?' && c != '#'
  if path.isEmpty then "/" else String.ofList path

/-- The query of a request, empty if there is none. -/
def query (request : Request) : String :=
  let rest := request.localTarget.takeWhile (· != '#')
  String.ofList ((rest.dropWhile (· != '?')).drop 1)

/-- The value of the first header with a name, which compares without regard
to case. -/
def header? (request : Request) (name : String) : Option (List UInt8) :=
  (request.headers.find? fun header => Text.sameLetters header.1 name).map
    Prod.snd

/-- A byte that stands for a visible ASCII character, a space or a tab. -/
def isVisible (byte : UInt8) : Bool :=
  (0x20 ≤ byte && byte ≤ 0x7E) || byte == 0x09

/-- What stands before the token in a header. -/
def bearerMark : List Char := "Bearer ".toList

/-- The token that a request bears, without white space around it. -/
def bearerToken? (request : Request) : Option String :=
  match request.header? "authorization" with
  | none => none
  | some value =>
    let characters := value.map fun byte => Char.ofNat byte.toNat
    if value.all isVisible && bearerMark.isPrefixOf characters then
      some (Text.trim (String.ofList (characters.drop bearerMark.length)))
    else none

end Request

namespace Answer

/-- Text without markup. -/
def plain (status : Nat) (body : List UInt8) : Answer :=
  { status, contentType := some "text/plain; charset=utf-8", body }

/-- A status word in JSON. -/
def word (status : Nat) (word : String) : Answer :=
  { status, contentType := some "application/json"
    body := Text.Utf8.bytes ("\x7b\"status\":\"" ++ word ++ "\"\x7d") }

/-- What answers a body beyond the limit. -/
def tooLarge : Answer :=
  plain 413 <| Text.Utf8.bytes
    "Failed to buffer the request body: length limit exceeded"

/-- What answers a body that has to be UTF-8 and is not. -/
def notUtf8 (fault : Text.Utf8.Fault) : Answer :=
  plain 400 <| Text.Utf8.bytes
    ("Request body didn't contain valid UTF-8: " ++ fault.message)

/-- The answer that carries the response of an endpoint. -/
def ofResponse : Response → Answer
  | .echo challenge => plain 200 (Text.Utf8.bytes challenge)
  | .document body =>
    { status := 200
      contentType := some "application/xml; charset=utf-8"
      body }
  | .empty => { status := 200 }
  | .rejected => { status := 400 }

/-- The answer without its body. -/
def headOnly (answer : Answer) : Answer :=
  { answer with body := [] }

end Answer

/-! ## Sites -/

/-- What can be found at a path. -/
inductive Site
  | health
  | callback
  | rotation
  deriving DecidableEq, Repr

/-- The methods that a site takes. -/
def Site.methods : Site → List String
  | .health => ["GET", "HEAD"]
  | .callback => ["GET", "HEAD", "POST"]
  | .rotation => ["POST"]

/-- The path of the health check. -/
def healthPath : String := "/health"

/-- The path of the rotation of keys. -/
def rotationPath : String := "/admin/keys/rotate"

/-- A service: an endpoint and the sites at which it is reached. -/
structure Service where
  endpoint : Endpoint
  adminToken : Option String := none
  /-- The sites that are found at one path, which come first. -/
  exactSites : List (String × Site) := []
  /-- The paths at which the callback is found. -/
  callbackPaths : Option PathPattern := none
  /-- The greatest number of bytes of a body that is read. -/
  bodyLimit : Nat

namespace Service

/-- The endpoint that settings describe, with automatic replies. -/
def endpointOf (settings : Settings) : Except SettingsError Endpoint := do
  let account ← settings.account
  let ring ← settings.ring
  .ok
    { account
      ring
      table := (AutoReply.ofSettings settings).table
      refusal := settings.refusalMode.handler
      pool := .new settings.scratchPoolSize.toNat }

/-- The service that settings describe.  Keys can be rotated if there is an
administrator and a ring.  The callback is found if its path is a pattern. -/
def ofSettings (settings : Settings) : Except SettingsError Service := do
  let endpoint ← endpointOf settings
  let rotation :=
    if settings.adminToken.isSome && endpoint.ring.isSome then
      [(rotationPath, .rotation)]
    else []
  .ok
    { endpoint
      adminToken := settings.adminToken
      exactSites := (healthPath, .health) :: rotation
      callbackPaths := PathPattern.ofText? settings.callbackPath
      bodyLimit := settings.maxBodyBytes.toNat }

/-- A request to a path is one to the callback. -/
def isCallback (service : Service) (path : String) : Bool :=
  service.callbackPaths.any fun pattern =>
    pattern.accepts path &&
      !service.exactSites.any fun (exact, _) => pattern.strands exact path

/-- The site at a path. -/
def site? (service : Service) (path : String) : Option Site :=
  match service.exactSites.lookup path with
  | some site => some site
  | none => if service.isCallback path then some .callback else none

/-! ## Answering -/

/-- Answer a callback: the response of the endpoint, which also decides about a
query that cannot be read. -/
def callback (service : Service) (moment : Moment) (request : Request) :
    Answer × Service :=
  let served :=
    match Query.ofFields (Bytes.Form.fields request.query) with
    | .error error => service.endpoint.refuse (.protocol error)
    | .ok query =>
      service.endpoint.serveMethod moment request.method query request.body
  (.ofResponse served.response,
    { service with
      endpoint := { service.endpoint with pool := served.pool } })

/-- The request bears the token of the administrator. -/
def isAuthorized (service : Service) (request : Request) : Bool :=
  match service.adminToken, request.bearerToken? with
  | some expected, some presented => Signature.verify presented expected
  | _, _ => false

/-- Answer a request to rotate the keys to the one that its body encodes. -/
def rotateKey (service : Service) (request : Request) : Answer × Service :=
  match Text.Utf8.decode request.body with
  | .error fault => (.notUtf8 fault, service)
  | .ok encoded =>
    if !service.isAuthorized request then (.word 401 "unauthorized", service)
    else if service.endpoint.ring.isNone then
      (.word 409 "secure_mode_disabled", service)
    else match Key.ofEncoded encoded with
      | .error _ => (.word 400 "invalid_key", service)
      | .ok key =>
        (.word 200 "rotated",
          { service with endpoint := service.endpoint.rotate key })

/-- Answer a request at a site that takes its method. -/
def visit (service : Service) (moment : Moment) (request : Request) :
    Site → Answer × Service
  | .health => (.word 200 "ok", service)
  | .callback =>
    if service.bodyLimit < request.body.length then (.tooLarge, service)
    else service.callback moment request
  | .rotation =>
    if service.bodyLimit < request.body.length then (.tooLarge, service)
    else service.rotateKey request

/-- Answer a request. -/
def handle (service : Service) (moment : Moment) (request : Request) :
    Answer × Service :=
  match service.site? request.path with
  | none => ({ status := 404 }, service)
  | some site =>
    if site.methods.contains request.method then
      let (answer, service) := service.visit moment request site
      (if request.method = "HEAD" then answer.headOnly else answer, service)
    else
      ({ status := 405
         allow := some (String.intercalate "," site.methods) }, service)

/-- Answer requests one after the other, each at its moment. -/
def handleAll (service : Service) :
    List (Moment × Request) → List Answer × Service
  | [] => ([], service)
  | (moment, request) :: rest =>
    let (answer, service) := service.handle moment request
    let (answers, service) := service.handleAll rest
    (answer :: answers, service)

end Service

end CallbackGate
