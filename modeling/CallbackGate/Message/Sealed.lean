import CallbackGate.Markup.Draft
import CallbackGate.Markup.Record

/-!
# Documents of secure deliveries

A secure delivery wraps its ciphertext in a document (`SealedRequest`) and
carries signature, timestamp and nonce in its query.  A sealed reply has all
four in its document (`SealedReply`).
-/

namespace CallbackGate

open Markup (Draft Reader Record.read BodyError)

/-- The document of a secure delivery. -/
structure SealedRequest where
  /-- The recipient, as far as the wrapper tells. -/
  toUserName : Option String := none
  /-- The ciphertext in Base64. -/
  encrypt : String := ""
  deriving DecidableEq, Repr

namespace SealedRequest

/-- Read the document of a secure delivery, which must have a ciphertext. -/
def reader : Reader SealedRequest :=
  Record.read
    [.text "ToUserName" fun v r => { r with toUserName := some v },
      .text "Encrypt" fun v r => { r with encrypt := v }]
    ["Encrypt"] {}

/-- The wrapper in the body of a delivery. -/
def ofBody (body : List UInt8) : Except BodyError SealedRequest :=
  Markup.Record.ofBody reader body

end SealedRequest

/-- The document of a sealed reply. -/
structure SealedReply where
  /-- The ciphertext in Base64. -/
  encrypt : String := ""
  /-- The signature of token, timestamp, nonce and ciphertext. -/
  msgSignature : String := ""
  timestamp : String := ""
  nonce : String := ""
  deriving DecidableEq, Repr

namespace SealedReply

/-- Read the document of a sealed reply, which must have all four parts. -/
def reader : Reader SealedReply :=
  Record.read
    [.text "Encrypt" fun v r => { r with encrypt := v },
      .text "MsgSignature" fun v r => { r with msgSignature := v },
      .text "TimeStamp" fun v r => { r with timestamp := v },
      .text "Nonce" fun v r => { r with nonce := v }]
    ["Encrypt", "MsgSignature", "TimeStamp", "Nonce"] {}

/-- The sealed reply in a body. -/
def ofBody (body : List UInt8) : Except BodyError SealedReply :=
  Markup.Record.ofBody reader body

/-- The document of a sealed reply.  The timestamp is written as a number. -/
def document (reply : SealedReply) : String :=
  Draft.document
    [.cdata "Encrypt" reply.encrypt,
      .cdata "MsgSignature" reply.msgSignature,
      .text "TimeStamp" reply.timestamp,
      .cdata "Nonce" reply.nonce]

/-- The body that carries a sealed reply. -/
def toBody (reply : SealedReply) : List UInt8 :=
  Text.Utf8.bytes reply.document

end SealedReply

end CallbackGate
