import CallbackGate.Endpoint.Error
import CallbackGate.Text.Letters

/-!
# Queries

The parameters that come with a request, how the body is encoded and what the
request is for.
-/

namespace CallbackGate

/-- The parameters of a request.  All may be absent. -/
structure Query where
  signature : Option String := none
  timestamp : Option String := none
  nonce : Option String := none
  /-- The challenge of a handshake. -/
  echostr : Option String := none
  encryptType : Option String := none
  msgSignature : Option String := none
  /-- The sender, which is not used. -/
  openid : Option String := none
  deriving DecidableEq, Repr

namespace Query

/-- The value of a parameter. -/
def value? (query : Query) : Parameter → Option String
  | .signature => query.signature
  | .timestamp => query.timestamp
  | .nonce => query.nonce
  | .echostr => query.echostr
  | .msgSignature => query.msgSignature

/-- The value of a parameter that must be there and not be empty. -/
def require (query : Query) (parameter : Parameter) :
    Except ProtocolError String :=
  match query.value? parameter with
  | some value =>
    if value.isEmpty then .error (.missingParameter parameter) else .ok value
  | none => .error (.missingParameter parameter)

end Query

/-! ## How a body is encoded -/

/-- How the body of a delivery is encoded. -/
inductive EncryptMode
  /-- As it is. -/
  | raw
  /-- Sealed in a frame. -/
  | aes
  deriving DecidableEq, Repr

namespace EncryptMode

/-- The word for a mode. -/
def word : EncryptMode → String
  | .raw => "raw"
  | .aes => "aes"

/-- The mode that a parameter names.  Absent or blank means raw. -/
def parse (value : Option String) : Except ProtocolError EncryptMode :=
  match value.map Text.trim with
  | none => .ok .raw
  | some word =>
    if word.isEmpty then .ok .raw
    else if Text.sameLetters word raw.word then .ok .raw
    else if Text.sameLetters word aes.word then .ok .aes
    else .error (.unsupportedEncryptType word)

end EncryptMode

/-! ## What a request is for -/

/-- What a request is for. -/
inductive Flow
  /-- The platform checks that the endpoint is there. -/
  | handshake
  /-- The platform delivers a message. -/
  | delivery
  deriving DecidableEq, Repr

/-- The flow of a request with a method. -/
def Flow.ofMethod (method : String) : Except ProtocolError Flow :=
  if Text.sameLetters method "GET" then .ok .handshake
  else if Text.sameLetters method "POST" then .ok .delivery
  else .error (.unsupportedMethod method)

/-! ## Queries as form fields -/

namespace Query

/-- Set the parameter with a name; `none` if it is set already.  A name that is
not known sets nothing. -/
def set? (query : Query) (name value : String) : Option Query :=
  let once (old : Option String) (updated : Query) : Option Query :=
    if old.isSome then none else some updated
  if name = "signature" then
    once query.signature { query with signature := some value }
  else if name = "timestamp" then
    once query.timestamp { query with timestamp := some value }
  else if name = "nonce" then
    once query.nonce { query with nonce := some value }
  else if name = "echostr" then
    once query.echostr { query with echostr := some value }
  else if name = "encrypt_type" then
    once query.encryptType { query with encryptType := some value }
  else if name = "msg_signature" then
    once query.msgSignature { query with msgSignature := some value }
  else if name = "openid" then
    once query.openid { query with openid := some value }
  else some query

/-- The query that form fields give.  A known name that is given twice is an
error. -/
def ofFields (fields : List (String × String)) : Except ProtocolError Query :=
  fields.foldlM (fun query field =>
    match query.set? field.1 field.2 with
    | some updated => .ok updated
    | none =>
      .error (.malformedQuery ("duplicate field `" ++ field.1 ++ "`"))) {}

end Query

end CallbackGate
