import CallbackGate.Bytes.Hex
import CallbackGate.Bytes.Sha1
import CallbackGate.Text.Utf8

/-!
# Signatures

A signature is the SHA-1 digest, in small hexadecimal digits, of some texts
sorted as byte strings and written one after the other.  Sorting makes it
independent of the order of the texts.  A handshake or a plain delivery signs
the token, the timestamp and the nonce (`handshake`); a secure delivery also
signs the ciphertext (`message`).
-/

namespace CallbackGate.Signature

/-- The order of byte strings, in which a string comes before its
extensions. -/
def precedes (left right : List UInt8) : Bool :=
  decide (left ≤ right)

/-- The bytes that a signature of texts digests. -/
def signedBytes (texts : List String) : List UInt8 :=
  ((texts.map Text.Utf8.bytes).mergeSort precedes).flatten

/-- The signature of texts. -/
def sign (texts : List String) : String :=
  Bytes.Hex.encode (Bytes.Sha1.digest (signedBytes texts))

/-- The signature of a handshake and of a plain delivery. -/
def handshake (token timestamp nonce : String) : String :=
  sign [token, timestamp, nonce]

/-- The signature of a secure delivery and of a sealed reply. -/
def message (token timestamp nonce ciphertext : String) : String :=
  sign [token, timestamp, nonce, ciphertext]

/-- A received signature is the computed one. -/
def verify (candidate computed : String) : Bool :=
  candidate == computed

end CallbackGate.Signature
