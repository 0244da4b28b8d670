import CallbackGate.Cipher.Error
import CallbackGate.Markup.Record

/-!
# Refused requests

Why the endpoint refuses a request: the request is not what the platform would
send, its payload cannot be opened, or its body cannot be read.
-/

namespace CallbackGate

/-- The parameters of a query that a request may have to carry. -/
inductive Parameter
  | signature
  | timestamp
  | nonce
  | echostr
  | msgSignature
  deriving DecidableEq, Repr

/-- The name of a parameter in the query. -/
def Parameter.name : Parameter → String
  | .signature => "signature"
  | .timestamp => "timestamp"
  | .nonce => "nonce"
  | .echostr => "echostr"
  | .msgSignature => "msg_signature"

/-- Why a request is not what the platform would send. -/
inductive ProtocolError
  | missingParameter (parameter : Parameter)
  | signatureMismatch
  | unsupportedEncryptType (value : String)
  | recipientMismatch (actual : String)
  | unsupportedMethod (method : String)
  | malformedQuery (detail : String)
  deriving DecidableEq, Repr

/-- The wording of an error. -/
def ProtocolError.message : ProtocolError → String
  | .missingParameter parameter =>
    "missing required query parameter `" ++ parameter.name ++ "`"
  | .signatureMismatch => "signature mismatch"
  | .unsupportedEncryptType value =>
    "unsupported encrypt_type `" ++ value ++ "`"
  | .recipientMismatch actual =>
    "recipient `" ++ actual ++ "` is not the configured account"
  | .unsupportedMethod method => "unsupported method `" ++ method ++ "`"
  | .malformedQuery detail => "malformed query string: " ++ detail

/-- Why the endpoint refuses a request. -/
inductive CallbackError
  | protocol (error : ProtocolError)
  | crypto (error : CryptoError)
  | malformedBody (error : Markup.BodyError)
  deriving DecidableEq, Repr

/-- The wording of an error. -/
def CallbackError.message : CallbackError → String
  | .protocol error => error.message
  | .crypto error => error.message
  | .malformedBody error => "malformed body: " ++ error.message

end CallbackGate
