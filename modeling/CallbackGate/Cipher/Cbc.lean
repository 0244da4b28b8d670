import CallbackGate.Cipher.Aes

/-!
# Cipher block chaining

Each block is added to the ciphertext block before it and then encrypted.  The
block before the first one is the first half of the key.  The schedule of the
key is worked out once for all blocks.
-/

namespace CallbackGate.Cipher

/-- The block before the first one. -/
def initialBlock (key : Key) : Block :=
  (Schedule.ofKey key).first

/-- Encrypt blocks after a ciphertext block. -/
def chainBlocks (schedule : Schedule) (previous : Block) :
    List Block → List Block
  | [] => []
  | block :: rest =>
    let sealed := schedule.encrypt (block.add previous)
    sealed :: chainBlocks schedule sealed rest

/-- Decrypt blocks after a ciphertext block. -/
def unchainBlocks (schedule : Schedule) (previous : Block) :
    List Block → List Block
  | [] => []
  | block :: rest =>
    (schedule.decrypt block).add previous :: unchainBlocks schedule block rest

/-- Encrypt a whole number of blocks. -/
def cbcEncrypt (key : Key) (plain : List UInt8) : List UInt8 :=
  Block.join <|
    chainBlocks (Schedule.ofKey key) (initialBlock key) (Block.split plain)

/-- Decrypt a whole number of blocks. -/
def cbcDecrypt (key : Key) (sealed : List UInt8) : List UInt8 :=
  Block.join <|
    unchainBlocks (Schedule.ofKey key) (initialBlock key) (Block.split sealed)

end CallbackGate.Cipher
