import CallbackGate.Bytes.BigEndian
import CallbackGate.Cipher.Cbc
import CallbackGate.Cipher.Error

/-!
# Frames

A message is sealed in a frame.  The frame holds sixteen random bytes, the
length of the message as four bytes, the message, the identifier of the account
it is for, and a pad of one to thirty-two bytes that makes the whole a multiple
of thirty-two.  Each byte of the pad is the length of the pad.  The frame is
encrypted by cipher block chaining.

`encrypt` builds a frame and encrypts it.  `decryptInPlace` decrypts a buffer
and says where in it the message lies; `decrypt` returns the message itself.
Opening a frame reads the last byte of the pad and does not look at the others.
-/

namespace CallbackGate

/-- The random bytes at the head of a frame. -/
structure Salt where
  bytes : List UInt8
  length_eq : bytes.length = 16
  deriving DecidableEq

/-- The salt with the given bytes, if there are sixteen of them. -/
def Salt.ofBytes? (bytes : List UInt8) : Option Salt :=
  if h : bytes.length = 16 then some ⟨bytes, h⟩ else none

namespace Cipher

/-- The bytes from `first` up to and not including `stop`. -/
def slice (bytes : List UInt8) (first stop : Nat) : List UInt8 :=
  (bytes.take stop).drop first

/-- The length of a frame is a multiple of this number. -/
def frameUnit : Nat := 32

/-- The number of bytes before the message. -/
def headerLength : Nat := 20

/-- The length of the pad after the given number of bytes. -/
def padLength (length : Nat) : Nat :=
  frameUnit - length % frameUnit

/-- The bytes of a frame before its pad. -/
def frameContent (salt : Salt) (message : List UInt8) (account : String) :
    List UInt8 :=
  salt.bytes ++ Bytes.BigEndian.ofNat 4 message.length ++ message ++
    Text.Utf8.bytes account

/-- The content and the pad that completes it. -/
def padded (content : List UInt8) : List UInt8 :=
  let pad := padLength content.length
  content ++ List.replicate pad (UInt8.ofNat pad)

/-- Seal a message for an account under a key. -/
def encrypt (salt : Salt) (message : List UInt8) (account : String)
    (key : Key) : Except CryptoError (List UInt8) :=
  if message.length < UInt32.size then
    .ok (cbcEncrypt key (padded (frameContent salt message account)))
  else .error (.invalidLength message.length)

/-- Where the message of an opened frame lies, and the random bytes. -/
structure Opening where
  salt : Salt
  first : Nat
  stop : Nat
  deriving DecidableEq

/-- Check a decrypted frame for an account. -/
def openFrame (frame : List UInt8) (account : String) :
    Except CryptoError Opening :=
  let pad := (frame.getLastD 0).toNat
  if ¬(1 ≤ pad ∧ pad ≤ frameUnit) then .error .invalidPadding
  else if frame.length - pad < headerLength then .error .corruptEnvelope
  else
    let stop := headerLength +
      Bytes.BigEndian.toNat (slice frame 16 headerLength)
    let contentLength := frame.length - pad
    if contentLength < stop then .error .corruptEnvelope
    else if slice frame stop contentLength ≠ Text.Utf8.bytes account then
      .error .accountMismatch
    else match Salt.ofBytes? (slice frame 0 16) with
      | some salt => .ok ⟨salt, headerLength, stop⟩
      | none => .error .corruptEnvelope

/-- Decrypt a buffer where it stands and check its frame.  A buffer whose
length is out of range is left as it is; any other holds the decrypted bytes,
whether or not they are a frame. -/
def decryptInPlace (buffer : List UInt8) (account : String) (key : Key) :
    List UInt8 × Except CryptoError Opening :=
  if buffer.length = 0 ∨ buffer.length % frameUnit ≠ 0 then
    (buffer, .error (.invalidLength buffer.length))
  else
    let frame := cbcDecrypt key buffer
    (frame, openFrame frame account)

/-- A message taken out of its frame. -/
structure Decrypted where
  salt : Salt
  message : List UInt8
  deriving DecidableEq

/-- Open a ciphertext for an account under a key. -/
def decrypt (ciphertext : List UInt8) (account : String) (key : Key) :
    Except CryptoError Decrypted :=
  match decryptInPlace ciphertext account key with
  | (buffer, .ok opening) =>
    .ok ⟨opening.salt, slice buffer opening.first opening.stop⟩
  | (_, .error error) => .error error

end Cipher

end CallbackGate
