import CallbackGate.Dispatch.Table
import CallbackGate.Endpoint.Account
import CallbackGate.Message.Sealed
import CallbackGate.Signature

/-!
# Sealing replies

The reply to a secure delivery is sealed under the key that opened the
delivery, and signed with the timestamp and the nonce of the delivery.
-/

namespace CallbackGate

/-- The text of bytes in Base64. -/
def base64Text (bytes : List UInt8) : String :=
  String.ofList <| (Bytes.Base64.encode bytes).map fun byte =>
    Char.ofNat byte.toNat

/-- Seal the document of a reply. -/
def sealReply (account : Account) (salt : Salt) (security : SecurityContext)
    (document : List UInt8) : Except CryptoError SealedReply :=
  (Cipher.encrypt salt document account.appId security.key).map
    fun ciphertext =>
      let encrypt := base64Text ciphertext
      { encrypt
        msgSignature :=
          Signature.message account.token security.timestamp security.nonce
            encrypt
        timestamp := security.timestamp
        nonce := security.nonce }

/-- The body that answers a delivery with the document of a reply: the document
itself, or sealed if the delivery was secure. -/
def responseBody (account : Account) (salt : Salt)
    (security : Option SecurityContext) (document : List UInt8) :
    Except CryptoError (List UInt8) :=
  match security with
  | none => .ok document
  | some security =>
    (sealReply account salt security document).map SealedReply.toBody

end CallbackGate
