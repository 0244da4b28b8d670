import CallbackGate.Proofs.Gate
import Mathlib.Data.List.Sort

/-!
# What a signature binds

The texts under a signature are sorted and written one after the other, with
nothing between them.  Their order is not bound.  The texts are bound up to
coincidences: another text in the place of one can give the same bytes only if
both are of the same length and some text beside them is at least as long.  A
ciphertext is longer than what is signed beside it, so that its signature is
good for no other ciphertext, as long as the digest does not collide.

There are three groups.

* Sorting.  A signature inserts each text into the sorted rest
  (`signedBytes_cons`).
* Replacing one text.  `exists_length_le` walks along the sorted rest to the
  place where the two strings part, and `signedBytes_replace` is what it means
  for the texts.
* Signatures of ciphertexts.  `collide_of_message_eq` makes a collision of a
  signature that is good for two ciphertexts, and `signature_binds` is the
  assembly.
-/

namespace CallbackGate.Signature

/-! ## Sorting -/

/-- Any way of sorting gives the same bytes. -/
theorem signedBytes_eq (texts : List String) :
    signedBytes texts = ((texts.map Text.Utf8.bytes).insertionSort (· ≤ ·)).flatten :=
  congrArg List.flatten (List.mergeSort_eq_insertionSort (· ≤ ·) _)

/-- The bytes that are digested do not depend on the order of the texts. -/
theorem signedBytes_perm {texts texts' : List String} (h : texts.Perm texts') :
    signedBytes texts = signedBytes texts' := by
  have hparts : (texts.map Text.Utf8.bytes).insertionSort (· ≤ ·) =
      (texts'.map Text.Utf8.bytes).insertionSort (· ≤ ·) := by
    apply List.Perm.eq_of_pairwise' (r := (· ≤ ·))
    · exact List.pairwise_insertionSort (· ≤ ·) _
    · exact List.pairwise_insertionSort (· ≤ ·) _
    · have hsort := List.perm_insertionSort (· ≤ ·) (texts.map Text.Utf8.bytes)
      have hsort' := List.perm_insertionSort (· ≤ ·) (texts'.map Text.Utf8.bytes)
      exact (hsort.trans (h.map _)).trans hsort'.symm
  rw [signedBytes_eq, signedBytes_eq, hparts]

/-- One text is written at its place among the others. -/
theorem signedBytes_cons (text : String) (texts : List String) :
    signedBytes (text :: texts) =
      (((texts.map Text.Utf8.bytes).insertionSort (· ≤ ·)).orderedInsert (· ≤ ·)
        (Text.Utf8.bytes text)).flatten := by
  rw [signedBytes_eq, List.map_cons, List.insertionSort_cons]

theorem length_flatten_orderedInsert (part : List UInt8) (parts : List (List UInt8)) :
    (parts.orderedInsert (· ≤ ·) part).flatten.length =
      part.length + parts.flatten.length := by
  rw [(List.perm_orderedInsert (· ≤ ·) part parts).flatten.length_eq, List.flatten_cons,
    List.length_append]

/-! ## Replacing one text -/

/-- Of two strings that begin the same bytes, the one that comes first in the
order is not the longer one. -/
theorem length_le_of_append_eq {first second rest rest' : List UInt8} (hle : first ≤ second)
    (h : first ++ rest = second ++ rest') : first.length ≤ second.length := by
  by_contra hlt
  have hprefix : second <+: first :=
    List.prefix_of_prefix_length_le (List.prefix_append second rest')
      (h ▸ List.prefix_append first rest) (by omega)
  have heq : first = second := List.le_antisymm hle hprefix.le
  rw [heq] at hlt
  exact hlt (Nat.le_refl _)

/-- Two strings of one length that give the same bytes, each inserted at its
place, have a string of at least this length between their places. -/
theorem exists_length_le {part other : List UInt8} (hne : part ≠ other)
    (hlength : part.length = other.length) (parts : List (List UInt8))
    (h : (parts.orderedInsert (· ≤ ·) part).flatten =
      (parts.orderedInsert (· ≤ ·) other).flatten) :
    ∃ fixed ∈ parts, part.length ≤ fixed.length := by
  induction parts with
  | nil =>
    simp only [List.orderedInsert_nil, List.flatten_cons, List.flatten_nil,
      List.append_nil] at h
    exact absurd h hne
  | cons head parts ih =>
    rw [List.orderedInsert_cons, List.orderedInsert_cons] at h
    by_cases hpart : part ≤ head
    · by_cases hother : other ≤ head
      · -- Both stand at the front, where they can be told apart.
        rw [if_pos hpart, if_pos hother, List.flatten_cons, List.flatten_cons] at h
        exact absurd (List.append_inj_left h hlength) hne
      · rw [if_pos hpart, if_neg hother, List.flatten_cons, List.flatten_cons] at h
        exact ⟨head, List.mem_cons_self, length_le_of_append_eq hpart h⟩
    · by_cases hother : other ≤ head
      · rw [if_neg hpart, if_pos hother, List.flatten_cons, List.flatten_cons] at h
        rw [hlength]
        exact ⟨head, List.mem_cons_self, length_le_of_append_eq hother h.symm⟩
      · rw [if_neg hpart, if_neg hother, List.flatten_cons, List.flatten_cons,
          List.append_cancel_left_eq] at h
        obtain ⟨fixed, hfixed, hle⟩ := ih h
        exact ⟨fixed, List.mem_cons_of_mem _ hfixed, hle⟩

/-- Another text in the place of one gives the same bytes only if both are of
the same length and one of the others is at least as long. -/
theorem signedBytes_replace (before after : List String) {text other : String}
    (hne : text ≠ other)
    (h : signedBytes (before ++ text :: after) = signedBytes (before ++ other :: after)) :
    (Text.Utf8.bytes text).length = (Text.Utf8.bytes other).length ∧
      ∃ fixed ∈ before ++ after,
        (Text.Utf8.bytes text).length ≤ (Text.Utf8.bytes fixed).length := by
  rw [signedBytes_perm List.perm_middle, signedBytes_perm List.perm_middle,
    signedBytes_cons, signedBytes_cons] at h
  have hlength : (Text.Utf8.bytes text).length = (Text.Utf8.bytes other).length := by
    have htotal := congrArg List.length h
    rw [length_flatten_orderedInsert, length_flatten_orderedInsert] at htotal
    omega
  have hbytes : Text.Utf8.bytes text ≠ Text.Utf8.bytes other :=
    fun heq => hne (Text.Utf8.bytes_inj heq)
  obtain ⟨part, hpart, hle⟩ := exists_length_le hbytes hlength _ h
  rw [List.mem_insertionSort] at hpart
  obtain ⟨fixed, hfixed, rfl⟩ := List.mem_map.mp hpart
  exact ⟨hlength, fixed, hfixed, hle⟩

/-! ## Signatures of ciphertexts -/

/-- The digest does not tell two different strings apart. -/
def Collide (first second : List UInt8) : Prop :=
  first ≠ second ∧ Bytes.Sha1.digest first = Bytes.Sha1.digest second

/-- Signatures are equal if the digests are. -/
theorem sign_eq_iff {texts texts' : List String} :
    sign texts = sign texts' ↔
      Bytes.Sha1.digest (signedBytes texts) = Bytes.Sha1.digest (signedBytes texts') := by
  constructor
  · intro h
    have hdecode := congrArg Bytes.Hex.decode? h
    rw [sign, sign, Bytes.Hex.decode?_encode, Bytes.Hex.decode?_encode,
      Option.some.injEq] at hdecode
    exact hdecode
  · intro h
    rw [sign, sign, h]

/-- A signature that is good for two ciphertexts makes the digest collide, unless
some text beside them is as long as the longer one. -/
theorem collide_of_message_eq {token timestamp nonce encrypt other : String}
    (hne : encrypt ≠ other)
    (hshort : ∀ text ∈ [token, timestamp, nonce], (Text.Utf8.bytes text).length <
      max (Text.Utf8.bytes encrypt).length (Text.Utf8.bytes other).length)
    (h : message token timestamp nonce encrypt = message token timestamp nonce other) :
    Collide (signedBytes [token, timestamp, nonce, encrypt])
      (signedBytes [token, timestamp, nonce, other]) := by
  refine ⟨?_, sign_eq_iff.mp h⟩
  intro hbytes
  obtain ⟨hlength, fixed, hfixed, hle⟩ :=
    signedBytes_replace [token, timestamp, nonce] [] hne hbytes
  rw [List.append_nil] at hfixed
  have hlt := hshort fixed hfixed
  rw [← hlength, max_self] at hlt
  omega

/-- A delivery that carries another signature than that of its ciphertext is
refused for it. -/
theorem unwrap_of_mismatch {account : Account} {query : Query} {body : List UInt8}
    {timestamp nonce signature : String} {request : SealedRequest}
    (htimestamp : query.Gives .timestamp timestamp) (hnonce : query.Gives .nonce nonce)
    (hsignature : query.Gives .msgSignature signature)
    (hbody : SealedRequest.ofBody body = .ok request)
    (hne : signature ≠ message account.token timestamp nonce request.encrypt) :
    unwrap account query body = .error (.protocol .signatureMismatch) := by
  rw [← Query.require_eq_ok_iff] at htimestamp hnonce hsignature
  have hverify : verify signature (message account.token timestamp nonce request.encrypt) =
      false := beq_false_of_ne hne
  rw [unwrap, hsignature, htimestamp, hnonce, hbody]
  show (if verify signature (message account.token timestamp nonce request.encrypt) = true
    then _ else _) = _
  rw [hverify]
  rfl

/-- A delivery that carries another signature than that of its ciphertext is refused,
for it if nothing else is missing. -/
theorem unwrap_refuses {account : Account} {query : Query} {body : List UInt8}
    {timestamp nonce signature : String} {request : SealedRequest}
    (htimestamp : query.value? .timestamp = some timestamp)
    (hnonce : query.value? .nonce = some nonce)
    (hsignature : query.value? .msgSignature = some signature)
    (hbody : SealedRequest.ofBody body = .ok request)
    (hne : signature ≠ message account.token timestamp nonce request.encrypt) :
    ∃ error, unwrap account query body = .error error ∧
      (timestamp ≠ "" → nonce ≠ "" → signature ≠ "" →
        error = .protocol .signatureMismatch) := by
  cases hunwrap : unwrap account query body with
  | ok wrapped =>
    obtain ⟨found, ⟨⟨htimestamp', -⟩, ⟨hnonce', -⟩, hfound, ⟨hsignature', -⟩, -⟩, -⟩ :=
      unwrap_eq_ok_iff.mp hunwrap
    cases htimestamp.symm.trans htimestamp'
    cases hnonce.symm.trans hnonce'
    cases hbody.symm.trans hfound
    exact absurd (Option.some.inj (hsignature.symm.trans hsignature')) hne
  | error error =>
    refine ⟨error, rfl, fun htimestamp_ne hnonce_ne hsignature_ne => ?_⟩
    have hmismatch := unwrap_of_mismatch ⟨htimestamp, htimestamp_ne⟩ ⟨hnonce, hnonce_ne⟩
      ⟨hsignature, hsignature_ne⟩ hbody hne
    exact Except.error.inj (hunwrap.symm.trans hmismatch)

/-- What a signature binds.  It is the same for any order of the texts, which are
three for a handshake and four for a message.  Of the bytes that are digested,
another text in the place of one gives the same only if it is of the same length
and one of the texts beside it is at least as long.  So a delivery that carries a
signature made for another ciphertext is refused, if the token, the timestamp and
the nonce are shorter than the longer one of the two and the digest does not
collide on what is signed. -/
theorem signature_binds :
    (∀ first second third first' second' third' : String,
      [first, second, third].Perm [first', second', third'] →
        handshake first second third = handshake first' second' third') ∧
    (∀ first second third fourth first' second' third' fourth' : String,
      [first, second, third, fourth].Perm [first', second', third', fourth'] →
        message first second third fourth = message first' second' third' fourth') ∧
    (∀ before after text other, text ≠ other →
      signedBytes (before ++ text :: after) = signedBytes (before ++ other :: after) →
        (Text.Utf8.bytes text).length = (Text.Utf8.bytes other).length ∧
        ∃ fixed ∈ before ++ after,
          (Text.Utf8.bytes text).length ≤ (Text.Utf8.bytes fixed).length) ∧
    ∀ account ring pool query body timestamp nonce encrypt request,
      query.value? .timestamp = some timestamp → query.value? .nonce = some nonce →
      query.value? .msgSignature = some (message account.token timestamp nonce encrypt) →
      SealedRequest.ofBody body = .ok request → request.encrypt ≠ encrypt →
      (∀ text ∈ [account.token, timestamp, nonce], (Text.Utf8.bytes text).length <
        max (Text.Utf8.bytes encrypt).length (Text.Utf8.bytes request.encrypt).length) →
      (∃ error, (openSecure account ring pool query body).outcome = .error error ∧
          (timestamp ≠ "" → nonce ≠ "" → error = .protocol .signatureMismatch)) ∨
        Collide (signedBytes [account.token, timestamp, nonce, encrypt])
          (signedBytes [account.token, timestamp, nonce, request.encrypt]) := by
  refine ⟨?_, ?_, ?_, ?_⟩
  · intro first second third first' second' third' h
    rw [handshake, handshake, sign, sign, signedBytes_perm h]
  · intro first second third fourth first' second' third' fourth' h
    rw [message, message, sign, sign, signedBytes_perm h]
  · intro before after text other hne h
    exact signedBytes_replace before after hne h
  · intro account ring pool query body timestamp nonce encrypt request htimestamp hnonce
      hsignature hbody hne hshort
    by_cases hverify : message account.token timestamp nonce encrypt =
        message account.token timestamp nonce request.encrypt
    · exact Or.inr (collide_of_message_eq hne.symm hshort hverify)
    · obtain ⟨error, hunwrap, hmismatch⟩ :=
        unwrap_refuses htimestamp hnonce hsignature hbody hverify
      refine Or.inl ⟨error, ?_, fun htimestamp_ne hnonce_ne =>
        hmismatch htimestamp_ne hnonce_ne (sign_ne_empty _)⟩
      rw [openSecure, hunwrap]

/-- A ciphertext with its last symbol altered is refused under the signature of
the original. -/
theorem signature_binds_last_symbol :
    let account : Account := ⟨"abc", "wx", "gh"⟩
    let signature := message "abc" "1409304348" "xxxxxx" "AAAAAAAAAAAA"
    let query : Query :=
      { msgSignature := some signature, timestamp := some "1409304348", nonce := some "xxxxxx" }
    let request : SealedRequest := ⟨none, "AAAAAAAAAAAB"⟩
    SealedRequest.ofBody request.toBody = .ok request ∧
      (openSecure account ⟨Key.zero, none⟩ Pool.standard query request.toBody).outcome =
        .error (.protocol .signatureMismatch) := by
  intro account signature query request
  have hbody : SealedRequest.ofBody request.toBody = .ok request := request.ofBody_toBody
  refine ⟨hbody, ?_⟩
  obtain ⟨-, -, -, hrefused⟩ := signature_binds
  rcases hrefused account ⟨Key.zero, none⟩ Pool.standard query request.toBody "1409304348"
    "xxxxxx" "AAAAAAAAAAAA" request rfl rfl rfl hbody (by decide) (by decide)
    with ⟨error, houtcome, hmismatch⟩ | ⟨-, hdigest⟩
  · rw [houtcome, hmismatch (by decide) (by decide)]
  · rw [signedBytes_eq, signedBytes_eq] at hdigest
    exact absurd hdigest (by decide +kernel)

end CallbackGate.Signature
