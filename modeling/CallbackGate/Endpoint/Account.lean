import CallbackGate.Endpoint.Error
import CallbackGate.Text.Quoted

/-!
# Accounts

The identity that requests are checked against, and what the endpoint answers.
-/

namespace CallbackGate

/-- The identity of an account. -/
structure Account where
  /-- The token that signatures share. -/
  token : String
  /-- The identifier that every frame carries. -/
  appId : String
  /-- The identifier that messages are sent to. -/
  recipientId : String
  deriving DecidableEq, Repr

/-- The text shown for an account, which does not tell the token. -/
def Account.shown (account : Account) : String :=
  "EndpointSettings \x7b token: \"..\", app_id: " ++
    Text.quoted account.appId ++ ", original_id: " ++
    Text.quoted account.recipientId ++ " \x7d"

/-- What the endpoint answers. -/
inductive Response
  /-- The challenge of a handshake. -/
  | echo (challenge : String)
  /-- A document, plain or sealed. -/
  | document (body : List UInt8)
  /-- Success without a body. -/
  | empty
  /-- The request is refused. -/
  | rejected
  deriving DecidableEq, Repr

/-- Decides what is answered to a request that is refused. -/
abbrev RefusalHandler := CallbackError → Response

/-- The two ways to answer a refused request. -/
inductive RefusalMode
  /-- An empty success. -/
  | silent
  /-- A rejection. -/
  | reject
  deriving DecidableEq, Repr

namespace RefusalMode

/-- What a mode answers, whatever the error. -/
def handler : RefusalMode → RefusalHandler
  | .silent => fun _ => .empty
  | .reject => fun _ => .rejected

/-- The name under which a mode is shown. -/
def name : RefusalMode → String
  | .silent => "Silent"
  | .reject => "Reject"

/-- A word that names no mode, without white space around it and in small
letters. -/
structure Unknown where
  word : String
  deriving DecidableEq, Repr

/-- The wording of an unknown word. -/
def Unknown.message (error : Unknown) : String :=
  "unknown invalid request mode `" ++ error.word ++ "`"

/-- The mode that a word names. -/
def parse (value : String) : Except Unknown RefusalMode :=
  let word := Text.lowered (Text.trim value)
  if word = "silent" then .ok .silent
  else if word = "reject" then .ok .reject
  else .error ⟨word⟩

end RefusalMode

end CallbackGate
