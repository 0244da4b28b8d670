import CallbackGate.Cipher.Cbc
import CallbackGate.Proofs.BlockCipher

/-!
# Cipher block chaining can be undone

`cbcPlaintext` says what the chain decrypts to without a recursion: each block
is decrypted and added to the one before it, and the first block to the first
half of the key.

There are three groups.

* Bytes and blocks.  `Block.split_join` and `Block.join_split` move between
  the two views of whole blocks, and the lengths follow.
* The chain.  `unchainBlocks_chainBlocks` undoes it by induction over the
  blocks, and `unchainBlocks_eq_zipWith` takes the recursion out.  A chain begins
  with that of the blocks it begins with (`chainBlocks_prefix`).
* Bytes again.  `cbcDecrypt_cbcEncrypt` and `cbcEncrypt_cbcDecrypt` are the round
  trips, and `cbcDecrypt_eq_cbcPlaintext` relates the decryption to its description.
-/

namespace CallbackGate.Cipher

/-! ## Bytes and blocks -/

namespace Block

@[simp] theorem length_toBytes (block : Block) : block.toBytes.length = 16 := rfl

@[simp] theorem length_join (blocks : List Block) :
    (join blocks).length = 16 * blocks.length := by
  induction blocks with
  | nil => rfl
  | cons block rest ih =>
    simp only [join, List.flatMap_cons, List.length_append, length_toBytes,
      List.length_cons] at ih ⊢
    omega

theorem split_toBytes_append (block : Block) (rest : List UInt8) :
    split (block.toBytes ++ rest) = block :: split rest := rfl

/-- Sixteen bytes are a block. -/
theorem exists_toBytes_eq {bytes : List UInt8} (h : bytes.length = 16) :
    ∃ block : Block, block.toBytes = bytes := by
  match bytes, h with
  | [a0, a1, a2, a3, b0, b1, b2, b3, c0, c1, c2, c3, d0, d1, d2, d3], _ =>
    exact ⟨⟨⟨a0, a1, a2, a3⟩, ⟨b0, b1, b2, b3⟩, ⟨c0, c1, c2, c3⟩, ⟨d0, d1, d2, d3⟩⟩, rfl⟩

/-- Sixteen bytes and more begin with a block. -/
theorem exists_eq_toBytes_append {bytes : List UInt8} (h : 16 ≤ bytes.length) :
    ∃ block : Block, bytes = block.toBytes ++ bytes.drop 16 := by
  have hlength : (bytes.take 16).length = 16 := List.length_take_of_le h
  obtain ⟨block, hblock⟩ := exists_toBytes_eq hlength
  exact ⟨block, by rw [hblock, List.take_append_drop]⟩

/-- Blocks can be read from their bytes. -/
theorem split_join (blocks : List Block) : split (join blocks) = blocks := by
  induction blocks with
  | nil => rfl
  | cons block rest ih =>
    show split (block.toBytes ++ join rest) = block :: rest
    rw [split_toBytes_append, ih]

/-- The blocks of bytes that begin with whole blocks begin with these. -/
theorem split_join_append (blocks : List Block) (rest : List UInt8) :
    split (join blocks ++ rest) = blocks ++ split rest := by
  induction blocks with
  | nil => rfl
  | cons block blocks ih =>
    show split ((block.toBytes ++ join blocks) ++ rest) = _
    rw [List.append_assoc, split_toBytes_append, ih, List.cons_append]

/-- A whole number of blocks can be written from its blocks. -/
theorem join_split {bytes : List UInt8} (h : bytes.length % 16 = 0) :
    join (split bytes) = bytes := by
  generalize hcount : bytes.length / 16 = count
  induction count generalizing bytes with
  | zero =>
    have hnil : bytes = [] := List.eq_nil_of_length_eq_zero (by omega)
    rw [hnil]
    rfl
  | succ count ih =>
    obtain ⟨block, hbytes⟩ := exists_eq_toBytes_append (show 16 ≤ bytes.length by omega)
    have hrest : (bytes.drop 16).length = bytes.length - 16 := List.length_drop
    rw [hbytes, split_toBytes_append]
    show block.toBytes ++ join (split (bytes.drop 16)) = _
    rw [ih (by omega) (by omega)]

theorem length_split {bytes : List UInt8} (h : bytes.length % 16 = 0) :
    16 * (split bytes).length = bytes.length := by
  rw [← length_join, join_split h]

end Block

/-! ## The chain -/

/-- The block before the first one is the first half of the key. -/
theorem split_take_key (key : Key) :
    Block.split (key.bytes.take 16) = [initialBlock key] := by
  have hlength := key.length_eq
  obtain ⟨low, hlow⟩ := Block.exists_eq_toBytes_append
    (show 16 ≤ key.bytes.length by omega)
  obtain ⟨high, hhigh⟩ := Block.exists_toBytes_eq
    (show (key.bytes.drop 16).length = 16 by rw [List.length_drop, hlength])
  have hfirst : initialBlock key = low := by
    rw [initialBlock, Schedule.ofKey, hlow, ← hhigh]
    rfl
  rw [hfirst, hlow]
  rfl

@[simp] theorem length_chainBlocks (schedule : Schedule) (previous : Block)
    (blocks : List Block) :
    (chainBlocks schedule previous blocks).length = blocks.length := by
  induction blocks generalizing previous with
  | nil => rfl
  | cons block rest ih => simp [chainBlocks, ih]

/-- Decrypting the blocks of a chain gives what was chained. -/
theorem unchainBlocks_chainBlocks (schedule : Schedule) (previous : Block)
    (blocks : List Block) :
    unchainBlocks schedule previous (chainBlocks schedule previous blocks) = blocks := by
  induction blocks generalizing previous with
  | nil => rfl
  | cons block rest ih =>
    rw [chainBlocks, unchainBlocks, schedule.decrypt_encrypt, Block.add_add_cancel, ih]

/-- Encrypting what a chain decrypts to gives the chain. -/
theorem chainBlocks_unchainBlocks (schedule : Schedule) (previous : Block)
    (blocks : List Block) :
    chainBlocks schedule previous (unchainBlocks schedule previous blocks) = blocks := by
  induction blocks generalizing previous with
  | nil => rfl
  | cons block rest ih =>
    rw [unchainBlocks, chainBlocks, Block.add_add_cancel, schedule.encrypt_decrypt, ih]

/-- A chain does not depend on the blocks to come. -/
theorem chainBlocks_prefix (schedule : Schedule) (previous : Block)
    (front back : List Block) :
    chainBlocks schedule previous front <+: chainBlocks schedule previous (front ++ back) := by
  induction front generalizing previous with
  | nil => exact List.nil_prefix
  | cons block front ih =>
    rw [List.cons_append, chainBlocks, chainBlocks]
    exact List.prefix_cons_inj _ |>.mpr (ih _)

/-- Each block is decrypted by itself and added to the one before it. -/
theorem unchainBlocks_eq_zipWith (schedule : Schedule) (previous : Block)
    (blocks : List Block) :
    unchainBlocks schedule previous blocks =
      List.zipWith (fun block before => (schedule.decrypt block).add before) blocks
        (previous :: blocks) := by
  induction blocks generalizing previous with
  | nil => rfl
  | cons block rest ih => rw [unchainBlocks, ih, List.zipWith_cons_cons]

/-! ## Whole blocks of bytes -/

/-- What a chain decrypts to: each block is decrypted and added to the block
before it, and the first block to the first half of the key. -/
def cbcPlaintext (key : Key) (sealed : List UInt8) : List UInt8 :=
  let blocks := Block.split sealed
  Block.join <| List.zipWith
    (fun block before => ((Schedule.ofKey key).decrypt block).add before) blocks
    (Block.split (key.bytes.take 16) ++ blocks)

theorem cbcDecrypt_eq_cbcPlaintext (key : Key) (sealed : List UInt8) :
    cbcDecrypt key sealed = cbcPlaintext key sealed := by
  rw [cbcDecrypt, unchainBlocks_eq_zipWith, cbcPlaintext, split_take_key]
  rfl

theorem length_cbcEncrypt (key : Key) {plain : List UInt8} (h : plain.length % 16 = 0) :
    (cbcEncrypt key plain).length = plain.length := by
  rw [cbcEncrypt, Block.length_join, length_chainBlocks, Block.length_split h]

theorem length_cbcDecrypt (key : Key) {sealed : List UInt8} (h : sealed.length % 16 = 0) :
    (cbcDecrypt key sealed).length = sealed.length := by
  rw [cbcDecrypt, Block.length_join, unchainBlocks_eq_zipWith, List.length_zipWith,
    List.length_cons, Nat.min_eq_left (Nat.le_succ _), Block.length_split h]

/-- Decrypting whole blocks gives what was encrypted. -/
theorem cbcDecrypt_cbcEncrypt (key : Key) {plain : List UInt8}
    (h : plain.length % 16 = 0) : cbcDecrypt key (cbcEncrypt key plain) = plain := by
  rw [cbcDecrypt, cbcEncrypt, Block.split_join, unchainBlocks_chainBlocks,
    Block.join_split h]

theorem cbcPlaintext_cbcEncrypt (key : Key) {plain : List UInt8} (h : plain.length % 16 = 0) :
    cbcPlaintext key (cbcEncrypt key plain) = plain := by
  rw [← cbcDecrypt_eq_cbcPlaintext, cbcDecrypt_cbcEncrypt key h]

/-- Two plaintexts of whole blocks that differ are encrypted to different bytes. -/
theorem cbcEncrypt_inj (key : Key) {first second : List UInt8} (hfirst : first.length % 16 = 0)
    (hsecond : second.length % 16 = 0) :
    cbcEncrypt key first = cbcEncrypt key second ↔ first = second := by
  constructor
  · intro h
    rw [← cbcPlaintext_cbcEncrypt key hfirst, h, cbcPlaintext_cbcEncrypt key hsecond]
  · rintro rfl
    rfl

/-- Encrypting what whole blocks decrypt to gives them back. -/
theorem cbcEncrypt_cbcDecrypt (key : Key) {sealed : List UInt8}
    (h : sealed.length % 16 = 0) : cbcEncrypt key (cbcDecrypt key sealed) = sealed := by
  rw [cbcDecrypt, cbcEncrypt, Block.split_join, chainBlocks_unchainBlocks,
    Block.join_split h]

/-- What a whole number of blocks is encrypted to does not depend on the bytes to
come. -/
theorem take_cbcEncrypt (key : Key) {plain : List UInt8} {count : Nat}
    (hcount : count % 16 = 0) (hle : count ≤ plain.length) :
    (cbcEncrypt key plain).take count = cbcEncrypt key (plain.take count) := by
  have hlength : (plain.take count).length = count := List.length_take_of_le hle
  have hsplit : Block.split plain =
      Block.split (plain.take count) ++ Block.split (plain.drop count) := by
    rw [← Block.split_join_append, Block.join_split (by rw [hlength]; exact hcount),
      List.take_append_drop]
  obtain ⟨rest, hrest⟩ := chainBlocks_prefix (Schedule.ofKey key) (initialBlock key)
    (Block.split (plain.take count)) (Block.split (plain.drop count))
  have hwhole : cbcEncrypt key plain = cbcEncrypt key (plain.take count) ++ Block.join rest := by
    rw [cbcEncrypt, cbcEncrypt, hsplit, ← hrest, Block.join, List.flatMap_append]
    rfl
  have hfront : (cbcEncrypt key (plain.take count)).length = count := by
    rw [length_cbcEncrypt key (by rw [hlength]; exact hcount), hlength]
  rw [hwhole, List.take_left' hfront]

end CallbackGate.Cipher
