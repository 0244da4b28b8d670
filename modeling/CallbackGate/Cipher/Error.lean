import CallbackGate.Key

/-!
# Faults of sealed payloads

Why a payload could not be sealed or opened.  They are kept apart from the
faults of a request, since an honest delivery can meet them while keys rotate.
-/

namespace CallbackGate

/-- Why a payload could not be sealed or opened. -/
inductive CryptoError
  /-- The length of the ciphertext, or of a message to seal, is out of range. -/
  | invalidLength (length : Nat)
  /-- The last byte is not the length of a pad. -/
  | invalidPadding
  /-- The frame has no room for its header and the message it declares. -/
  | corruptEnvelope
  /-- The frame belongs to another account. -/
  | accountMismatch
  /-- The ciphertext is not Base64. -/
  | invalidBase64 (fault : Bytes.Base64.Fault)
  /-- The key cannot be used. -/
  | invalidKey (fault : Key.Fault)
  deriving DecidableEq, Repr

/-- The wording of an error. -/
def CryptoError.message : CryptoError → String
  | .invalidLength length =>
    s!"ciphertext length {length} is not a positive multiple of 32"
  | .invalidPadding => "invalid padding"
  | .corruptEnvelope => "corrupt envelope"
  | .accountMismatch => "account mismatch"
  | .invalidBase64 fault => "invalid base64 ciphertext: " ++ fault.message
  | .invalidKey fault => "invalid key: " ++ fault.message

end CallbackGate
