import CallbackGate.Message.Sealed
import CallbackGate.Proofs.Documents

/-!
# Documents of secure deliveries are read back

The wrapper of a secure delivery is read back as it was written, whatever the
recipient and the ciphertext are.  A sealed reply is read back with its
ciphertext, signature and nonce as they were written, and with its timestamp
without the white space of markup at its ends.
-/

namespace CallbackGate

open Markup (Draft Node)
open Markup.Record (contentText_sectionRun contentText_textRuns readChildren_text)

/-! ## Wrappers -/

namespace SealedRequest

/-- The elements of a wrapper. -/
def drafts (request : SealedRequest) : List Draft :=
  request.toUserName.toList.map (Draft.cdata "ToUserName") ++
    [.cdata "Encrypt" request.encrypt]

/-- The body that carries a wrapper. -/
def toBody (request : SealedRequest) : List UInt8 :=
  Text.Utf8.bytes (Draft.document request.drafts)

theorem allWellNamed_drafts (request : SealedRequest) :
    Draft.allWellNamed request.drafts = true := by
  rcases request with ⟨_ | recipient, encrypt⟩
  · show Draft.allWellNamed [.cdata "Encrypt" encrypt] = true
    rfl
  · rfl

/-- A wrapper is read back. -/
theorem ofBody_toBody (request : SealedRequest) : ofBody request.toBody = .ok request := by
  rw [ofBody, toBody, Markup.Record.ofBody_document request.allWellNamed_drafts, reader]
  rcases request with ⟨_ | recipient, encrypt⟩
  · apply Markup.Record.read_of_readChildren
    · show Markup.Record.readChildren _ _ _
        [.element "Encrypt" [] [.text (Draft.sectionRun encrypt)]] = _
      rw [readChildren_text rfl rfl (contentText_sectionRun encrypt)]
      rfl
    · rfl
  · apply Markup.Record.read_of_readChildren
    · show Markup.Record.readChildren _ _ _
        [.element "ToUserName" [] [.text (Draft.sectionRun recipient)],
          .element "Encrypt" [] [.text (Draft.sectionRun encrypt)]] = _
      rw [readChildren_text rfl rfl (contentText_sectionRun recipient),
        readChildren_text rfl rfl (contentText_sectionRun encrypt)]
      rfl
    · rfl

end SealedRequest

/-! ## Replies -/

namespace SealedReply

/-- The elements of a sealed reply. -/
def drafts (reply : SealedReply) : List Draft :=
  [.cdata "Encrypt" reply.encrypt,
    .cdata "MsgSignature" reply.msgSignature,
    .text "TimeStamp" reply.timestamp,
    .cdata "Nonce" reply.nonce]

theorem allWellNamed_drafts (reply : SealedReply) :
    Draft.allWellNamed reply.drafts = true := rfl

/-- A sealed reply is read back, its timestamp without white space at its
ends. -/
theorem ofBody_toBody (reply : SealedReply) :
    ofBody reply.toBody =
      .ok { reply with timestamp := String.ofList (Draft.stripped reply.timestamp) } := by
  have hbody : reply.toBody = Text.Utf8.bytes (Draft.document reply.drafts) := rfl
  rw [ofBody, hbody, Markup.Record.ofBody_document reply.allWellNamed_drafts, reader]
  apply Markup.Record.read_of_readChildren
  · show Markup.Record.readChildren _ _ _
      [.element "Encrypt" [] [.text (Draft.sectionRun reply.encrypt)],
        .element "MsgSignature" [] [.text (Draft.sectionRun reply.msgSignature)],
        .element "TimeStamp" [] ((Draft.textRuns reply.timestamp).map .text),
        .element "Nonce" [] [.text (Draft.sectionRun reply.nonce)]] = _
    rw [readChildren_text rfl rfl (contentText_sectionRun reply.encrypt),
      readChildren_text rfl rfl (contentText_sectionRun reply.msgSignature),
      readChildren_text rfl rfl (contentText_textRuns reply.timestamp),
      readChildren_text rfl rfl (contentText_sectionRun reply.nonce)]
    rfl
  · rfl

end SealedReply

end CallbackGate
