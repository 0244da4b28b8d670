import CallbackGate.Dispatch.Table
import CallbackGate.Endpoint.Account
import CallbackGate.Endpoint.Query
import CallbackGate.Message.Sealed
import CallbackGate.Pool
import CallbackGate.Signature

/-!
# Opening deliveries

The body of a delivery is authenticated and opened before anything reads the
message in it.

A plain delivery is signed over its query, and its body is the message
(`openPlain`).

A secure delivery wraps a ciphertext and is signed over its query and the
ciphertext.  The ciphertext is decoded into one borrowed buffer and decrypted
in another, for each key of the ring anew (`stage`).  The message stays in the
second buffer, which goes back to the pool when the message has been read.
-/

namespace CallbackGate

open Cipher (Opening decryptInPlace slice)

/-- Where the message of a delivery lies. -/
inductive Plaintext
  /-- The body is the message. -/
  | body (bytes : List UInt8)
  /-- The message is a part of a borrowed buffer. -/
  | staged (buffer : List UInt8) (first stop : Nat)
  deriving DecidableEq, Repr

/-- The bytes of the message. -/
def Plaintext.bytes : Plaintext → List UInt8
  | .body bytes => bytes
  | .staged buffer first stop => slice buffer first stop

/-- The buffer that is on loan while the message is read, if there is one. -/
def Plaintext.loan? : Plaintext → Option (List UInt8)
  | .body _ => none
  | .staged buffer _ _ => some buffer

/-- A delivery that was opened. -/
structure Opened where
  plaintext : Plaintext
  security : Option SecurityContext
  deriving DecidableEq

/-- The outcome of a step that borrows buffers: the pool after it, how many
buffers it borrowed and the keys that it tried, in order. -/
structure Borrowing (α : Type) where
  pool : Pool
  borrowed : Nat
  tried : List Key
  outcome : Except CallbackError α

/-! ## Plain deliveries -/

/-- Check the signature that a query carries over its own parameters. -/
def checkHandshakeSignature (token : String) (query : Query)
    (signature : String) : Except ProtocolError Unit := do
  let timestamp ← query.require .timestamp
  let nonce ← query.require .nonce
  if Signature.verify signature (Signature.handshake token timestamp nonce) then
    .ok ()
  else .error .signatureMismatch

/-- Open a plain delivery. -/
def openPlain (account : Account) (query : Query) (body : List UInt8) :
    Except ProtocolError Opened := do
  let signature ← query.require .signature
  checkHandshakeSignature account.token query signature
  .ok ⟨.body body, none⟩

/-! ## Secure deliveries -/

/-- The parts of a secure delivery whose signature and outer recipient have
been checked. -/
structure Wrapped where
  timestamp : String
  nonce : String
  /-- The ciphertext in Base64. -/
  encrypt : String
  deriving DecidableEq, Repr

/-- Check the recipient that a wrapper names.  It may leave it out. -/
def checkOuterRecipient (account : Account) (recipient : Option String) :
    Except ProtocolError Unit :=
  match recipient with
  | some actual =>
    if actual.isEmpty || actual == account.recipientId then .ok ()
    else .error (.recipientMismatch actual)
  | none => .ok ()

/-- Check the parameters, the wrapper, the signature and the outer recipient of
a secure delivery, in this order. -/
def unwrap (account : Account) (query : Query) (body : List UInt8) :
    Except CallbackError Wrapped := do
  let signature ← (query.require .msgSignature).mapError .protocol
  let timestamp ← (query.require .timestamp).mapError .protocol
  let nonce ← (query.require .nonce).mapError .protocol
  let request ← (SealedRequest.ofBody body).mapError .malformedBody
  let computed :=
    Signature.message account.token timestamp nonce request.encrypt
  if Signature.verify signature computed then
    (checkOuterRecipient account request.toUserName).mapError .protocol
    .ok ⟨timestamp, nonce, request.encrypt⟩
  else .error (.protocol .signatureMismatch)

/-- Clear a work buffer, copy a ciphertext into it and decrypt it there.  The
buffer may hold what an earlier attempt left. -/
def attempt (appId : String) (ciphertext : List UInt8) (key : Key)
    (work : List UInt8) : List UInt8 × Except CryptoError Opening :=
  let cleared := work.take 0
  let filled := cleared ++ ciphertext
  decryptInPlace filled appId key

/-- Decode a ciphertext and decrypt it with the keys of a ring, in buffers of a
pool.  What was in a buffer before is part of what is decoded into it.  All
buffers go back but the one that holds the message. -/
def stage (appId : String) (ring : KeyRing) (pool : Pool) (encrypt : String) :
    Borrowing (List UInt8 × Unlocked Opening) :=
  let (buffer, pool) := pool.borrow
  match Bytes.Base64.decode .strict (Text.Utf8.bytes encrypt) with
  | .error fault =>
    ⟨pool.giveBack buffer, 1, [], .error (.crypto (.invalidBase64 fault))⟩
  | .ok decoded =>
    let ciphertext := buffer ++ decoded
    let (work, pool) := pool.borrow
    let trial := ring.unlock (attempt appId ciphertext) work
    match trial.outcome with
    | .error error =>
      ⟨(pool.giveBack trial.state).giveBack ciphertext, 2, trial.tried,
        .error (.crypto error)⟩
    | .ok unlocked =>
      ⟨pool.giveBack ciphertext, 2, trial.tried, .ok (trial.state, unlocked)⟩

/-- Open a secure delivery. -/
def openSecure (account : Account) (ring : KeyRing) (pool : Pool)
    (query : Query) (body : List UInt8) : Borrowing Opened :=
  match unwrap account query body with
  | .error error => ⟨pool, 0, [], .error error⟩
  | .ok wrapped =>
    let staged := stage account.appId ring pool wrapped.encrypt
    ⟨staged.pool, staged.borrowed, staged.tried,
      staged.outcome.map fun (buffer, unlocked) =>
        ⟨.staged buffer unlocked.value.first unlocked.value.stop,
          some ⟨unlocked.value.salt, unlocked.generation, wrapped.timestamp,
            wrapped.nonce, unlocked.key⟩⟩⟩

end CallbackGate
