import CallbackGate.Proofs.SignedTexts
import Mathlib.Algebra.GroupWithZero.Nat

/-!
# What tells the signatures of the two modes apart

A secure delivery signs four texts and a plain delivery or a handshake three,
with nothing between the texts and nothing that says how many there are.  So the
three may be another cut of the bytes of the four, and then one signature is
good for both.  Nothing else makes it so, as long as the digest does not
collide: the three must be as long as the four together, so that the timestamp
and the nonce of the secure delivery itself never do.

There are two groups.

* Cuts.  `cuts_iff` says what `signedBytes` is without sorting anything.
* Modes.  `message_eq_handshake_iff` compares the signatures, `plain_modes_of_gives` is
  the check that one meets where three texts are expected, and
  `modes_apart_unless_cut` is the assembly.
-/

namespace CallbackGate.Signature

/-! ## Cuts -/

/-- A string of bytes can be cut into texts, which then stand in the order of byte
strings. -/
def Cuts (whole : List UInt8) (texts : List String) : Prop :=
  ∃ parts : List (List UInt8), parts.Perm (texts.map Text.Utf8.bytes) ∧
    parts.Pairwise (· ≤ ·) ∧ parts.flatten = whole

/-- The bytes that are digested can be cut into the texts, and no others can. -/
theorem cuts_iff {whole : List UInt8} {texts : List String} :
    Cuts whole texts ↔ whole = signedBytes texts := by
  rw [signedBytes_eq]
  have hsort := List.perm_insertionSort (· ≤ ·) (texts.map Text.Utf8.bytes)
  have hsorted := List.pairwise_insertionSort (· ≤ ·) (texts.map Text.Utf8.bytes)
  constructor
  · rintro ⟨parts, hperm, hordered, rfl⟩
    rw [(hperm.trans hsort.symm).eq_of_pairwise' hordered hsorted]
  · intro hwhole
    exact ⟨_, hsort, hsorted, hwhole.symm⟩

/-- The digested bytes are as long as the texts together. -/
theorem length_signedBytes (texts : List String) :
    (signedBytes texts).length = (texts.map fun text => (Text.Utf8.bytes text).length).sum := by
  rw [signedBytes_eq,
    (List.perm_insertionSort (· ≤ ·) (texts.map Text.Utf8.bytes)).flatten.length_eq,
    List.length_flatten, List.map_map]
  rfl

/-! ## Modes -/

section Modes

variable {token timestamp nonce encrypt timestamp' nonce' : String}

/-- The signature of a secure delivery is that of other parameters too exactly if these
are a cut of what it signs, or the digest collides. -/
theorem message_eq_handshake_iff :
    message token timestamp nonce encrypt = handshake token timestamp' nonce' ↔
      Cuts (signedBytes [token, timestamp, nonce, encrypt]) [token, timestamp', nonce'] ∨
        Collide (signedBytes [token, timestamp, nonce, encrypt])
          (signedBytes [token, timestamp', nonce']) := by
  rw [message, handshake, sign_eq_iff, cuts_iff, Collide]
  by_cases hbytes : signedBytes [token, timestamp, nonce, encrypt] =
      signedBytes [token, timestamp', nonce']
  · exact iff_of_true (congrArg _ hbytes) (Or.inl hbytes)
  · simp only [hbytes, false_or, ne_eq, not_false_eq_true, true_and]

/-- The timestamp and the nonce that are a cut are longer than those that were signed,
by the length of the ciphertext. -/
theorem length_of_signedBytes_eq
    (h : signedBytes [token, timestamp, nonce, encrypt] =
      signedBytes [token, timestamp', nonce']) :
    (Text.Utf8.bytes timestamp').length + (Text.Utf8.bytes nonce').length =
      (Text.Utf8.bytes timestamp).length + (Text.Utf8.bytes nonce).length +
        (Text.Utf8.bytes encrypt).length := by
  have hlength := congrArg List.length h
  rw [length_signedBytes, length_signedBytes] at hlength
  simp only [List.map_cons, List.map_nil, List.sum_cons, List.sum_nil] at hlength
  omega

theorem length_bytes_pos {text : String} (h : text ≠ "") :
    0 < (Text.Utf8.bytes text).length := by
  rw [List.length_pos_iff]
  intro hnil
  exact h (Text.Utf8.bytes_inj (hnil.trans (show [] = Text.Utf8.bytes "" from rfl)))

/-- What the check of a plain signature comes to where the timestamp and the nonce are
given. -/
theorem checkHandshakeSignature_of_gives {query : Query}
    (htimestamp : query.Gives .timestamp timestamp) (hnonce : query.Gives .nonce nonce)
    (token signature : String) :
    checkHandshakeSignature token query signature =
      if signature = handshake token timestamp nonce then .ok ()
      else .error .signatureMismatch := by
  rw [← Query.require_eq_ok_iff] at htimestamp hnonce
  rw [checkHandshakeSignature, htimestamp, hnonce]
  show (if verify signature (handshake token timestamp nonce) = true then _ else _) = _
  simp only [verify, beq_iff_eq]

end Modes

/-- A query that carries a signature passes for a handshake and for a plain delivery if
it is the plain signature of its timestamp and nonce, and is a mismatch otherwise. -/
theorem plain_modes_of_gives {query : Query} {timestamp nonce signature : String}
    (htimestamp : query.Gives .timestamp timestamp) (hnonce : query.Gives .nonce nonce)
    (hsignature : query.Gives .signature signature) (endpoint : Endpoint) :
    (∀ challenge, query.Gives .echostr challenge → endpoint.handshake query =
      if signature = handshake endpoint.account.token timestamp nonce then
        .ok (.echo challenge)
      else .error .signatureMismatch) ∧
    ∀ body, openPlain endpoint.account query body =
      if signature = handshake endpoint.account.token timestamp nonce then
        .ok ⟨.body body, none⟩
      else .error .signatureMismatch := by
  have hcheck :=
    checkHandshakeSignature_of_gives htimestamp hnonce endpoint.account.token signature
  rw [← Query.require_eq_ok_iff] at hsignature
  constructor
  · intro challenge hchallenge
    rw [← Query.require_eq_ok_iff] at hchallenge
    rw [Endpoint.handshake, hsignature, hchallenge]
    show (checkHandshakeSignature _ _ signature >>= _) = _
    rw [hcheck]
    split_ifs <;> rfl
  · intro body
    rw [openPlain, hsignature]
    show (checkHandshakeSignature _ _ signature >>= _) = _
    rw [hcheck]
    split_ifs <;> rfl

/-- The four texts that a secure delivery signs and the three that a handshake or a plain
delivery signs are digested as the same bytes exactly if the three are a cut of the bytes
of the four.  They then are as long as the four together, so that they are never the
texts of the secure delivery itself, nor shorter ones.  In place of a plain signature,
that of a secure delivery is accepted if the given parameters are such a cut, or if the
digest collides; otherwise it is refused as a mismatch. -/
theorem modes_apart_unless_cut (token timestamp nonce encrypt timestamp' nonce' : String) :
    let secure := signedBytes [token, timestamp, nonce, encrypt]
    let plain := signedBytes [token, timestamp', nonce']
    (secure = plain ↔ Cuts secure [token, timestamp', nonce']) ∧
    (secure = plain →
      (Text.Utf8.bytes timestamp').length + (Text.Utf8.bytes nonce').length =
        (Text.Utf8.bytes timestamp).length + (Text.Utf8.bytes nonce).length +
          (Text.Utf8.bytes encrypt).length) ∧
    (encrypt ≠ "" →
      (Text.Utf8.bytes timestamp').length + (Text.Utf8.bytes nonce').length ≤
        (Text.Utf8.bytes timestamp).length + (Text.Utf8.bytes nonce).length →
      secure ≠ plain) ∧
    ∀ (endpoint : Endpoint) (query : Query), endpoint.account.token = token →
      query.Gives .timestamp timestamp' → query.Gives .nonce nonce' →
      query.Gives .signature (message token timestamp nonce encrypt) →
      (Cuts secure [token, timestamp', nonce'] ∨ Collide secure plain →
        (∀ challenge, query.Gives .echostr challenge →
          endpoint.handshake query = .ok (.echo challenge)) ∧
        ∀ body, openPlain endpoint.account query body = .ok ⟨.body body, none⟩) ∧
      (¬(Cuts secure [token, timestamp', nonce'] ∨ Collide secure plain) →
        (∀ challenge, query.Gives .echostr challenge →
          endpoint.handshake query = .error .signatureMismatch) ∧
        ∀ body, openPlain endpoint.account query body = .error .signatureMismatch) := by
  intro secure plain
  refine ⟨cuts_iff.symm, length_of_signedBytes_eq, ?_, ?_⟩
  · intro hencrypt hshort hbytes
    have hlength := length_of_signedBytes_eq hbytes
    have hpos := length_bytes_pos hencrypt
    omega
  · intro endpoint query htoken htimestamp hnonce hsignature
    obtain ⟨hhandshake, hplain⟩ :=
      plain_modes_of_gives htimestamp hnonce hsignature endpoint
    rw [htoken] at hhandshake hplain
    constructor
    · intro hgood
      simp only [if_pos (message_eq_handshake_iff.mpr hgood)] at hhandshake hplain
      exact ⟨hhandshake, hplain⟩
    · intro hbad
      simp only [if_neg fun heq => hbad (message_eq_handshake_iff.mp heq)] at hhandshake hplain
      exact ⟨hhandshake, hplain⟩

/-- The ciphertext written behind the timestamp is no other string of bytes. -/
theorem signedBytes_joined :
    signedBytes ["abc", "1409304348", "xxxxxx", "AAAA"] =
      signedBytes ["abc", "1409304348AAAA", "xxxxxx"] := by
  rw [signedBytes_eq, signedBytes_eq]
  decide +kernel

/-- So it is such a cut, and the signature of the delivery shakes hands. -/
theorem modes_apart_unless_cut_joined :
    let endpoint : Endpoint := { account := ⟨"abc", "wx", "gh"⟩ }
    let query : Query :=
      { signature := some (message "abc" "1409304348" "xxxxxx" "AAAA")
        timestamp := some "1409304348AAAA"
        nonce := some "xxxxxx"
        echostr := some "echo" }
    Cuts (signedBytes ["abc", "1409304348", "xxxxxx", "AAAA"])
        ["abc", "1409304348AAAA", "xxxxxx"] ∧
      endpoint.handshake query = .ok (.echo "echo") ∧
      ∀ body, openPlain endpoint.account query body = .ok ⟨.body body, none⟩ := by
  intro endpoint query
  have hcut : Cuts (signedBytes ["abc", "1409304348", "xxxxxx", "AAAA"])
      ["abc", "1409304348AAAA", "xxxxxx"] :=
    cuts_iff.mpr signedBytes_joined
  obtain ⟨-, -, -, hpasses⟩ := modes_apart_unless_cut "abc" "1409304348" "xxxxxx" "AAAA"
    "1409304348AAAA" "xxxxxx"
  obtain ⟨hhandshake, hplain⟩ := (hpasses endpoint query rfl ⟨rfl, by decide⟩ ⟨rfl, by decide⟩
    ⟨rfl, sign_ne_empty _⟩).1 (Or.inl hcut)
  exact ⟨hcut, hhandshake "echo" ⟨rfl, by decide⟩, hplain⟩

/-- So the bytes that are digested do not tell the modes apart. -/
theorem not_modes_apart :
    ¬∀ token timestamp nonce encrypt timestamp' nonce' : String,
      timestamp ≠ "" → nonce ≠ "" → encrypt ≠ "" → timestamp' ≠ "" → nonce' ≠ "" →
      signedBytes [token, timestamp, nonce, encrypt] ≠
        signedBytes [token, timestamp', nonce'] := by
  intro hapart
  exact hapart "abc" "1409304348" "xxxxxx" "AAAA" "1409304348AAAA" "xxxxxx" (by decide)
    (by decide) (by decide) (by decide) (by decide) signedBytes_joined

end CallbackGate.Signature
