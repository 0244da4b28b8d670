import CallbackGate.Proofs.Deliveries
import CallbackGate.Proofs.EncodedKeys
import CallbackGate.Service.Http

/-!
# Requests that rotate the keys

Of all the requests that reach a service only one kind changes its keys: a
rotation that bears the token of the administrator and whose body encodes a key.
After any number of requests the ring is the configured one, rotated by the keys
of those requests, in their order.

There are five groups.

* Paths.  A text without wildcards describes itself only
  (`PathPattern.ofText?_literal`).
* Tokens.  `Request.Bears` says what a request that bears a token looks like, and
  `bearerToken?_eq_some_iff` that such tokens are the ones that are found.
* Keys.  `Request.EncodesKey` is a body that encodes a key.
* Requests.  `Service.Serves` is what a service keeps of its settings, and
  `Service.Guards` what one request does to the keys of a service that keeps it.
* Runs.  `Rotations` lists the keys of the rotations that were answered with
  success, and `handleAll_rotates` is the assembly.
-/

namespace CallbackGate

/-! ## Paths -/

/-- A text has no wildcards. -/
def PathPattern.Literal (text : String) : Prop :=
  ∀ c ∈ text.toList, c ≠ ':' ∧ c ≠ '*'

instance (text : String) : Decidable (PathPattern.Literal text) :=
  List.decidableBAll (fun c => c ≠ ':' ∧ c ≠ '*') text.toList

theorem PathPart.parse?_literal :
    ∀ {text : List Char}, (∀ c ∈ text, c ≠ ':' ∧ c ≠ '*') →
      parse? text = some (text.map literal)
  | [], _ => by rw [parse?]; rfl
  | c :: text, h => by
    obtain ⟨⟨hsegment, hremainder⟩, hrest⟩ := List.forall_mem_cons.mp h
    rw [parse?, if_neg hremainder, if_neg hsegment, parse?_literal hrest]
    rfl

theorem PathPart.describe_literal_iff (text path : List Char) :
    describe (text.map literal) path = true ↔ path = text := by
  induction text generalizing path with
  | nil => rw [List.map_nil, describe, List.isEmpty_iff]
  | cons c text ih =>
    cases path with
    | nil => simp [describe]
    | cons c' path =>
      rw [List.map_cons, describe, Bool.and_eq_true, beq_iff_eq, ih, List.cons.injEq, eq_comm]

/-- The pattern that a text without wildcards spells describes that text only. -/
theorem PathPattern.ofText?_literal {text : String} (h : Literal text) :
    ∃ pattern, ofText? text = some pattern ∧
      ∀ path, pattern.accepts path = true ↔ path = text := by
  refine ⟨⟨text.toList.map .literal⟩, ?_, ?_⟩
  · rw [ofText?, PathPart.parse?_literal h]
    rfl
  · intro path
    rw [accepts, PathPart.describe_literal_iff, String.toList_inj]

/-! ## Tokens -/

namespace Request

/-- A request bears a token: the first header that is named for it is of visible
characters and holds the token after the mark, perhaps between white space. -/
def Bears (request : Request) (token : String) : Prop :=
  ∃ before name rest after,
    request.headers = before ++ (name, Text.Utf8.bytes ("Bearer " ++ rest)) :: after ∧
      (∀ header ∈ before, ¬SameWord header.1 "authorization") ∧
      SameWord name "authorization" ∧
      (∀ byte ∈ Text.Utf8.bytes ("Bearer " ++ rest), isVisible byte = true) ∧
      Text.trim rest = token

theorem header?_eq_some_iff {request : Request} {name : String} {value : List UInt8} :
    request.header? name = some value ↔
      ∃ before name' after, request.headers = before ++ (name', value) :: after ∧
        (∀ header ∈ before, ¬SameWord header.1 name) ∧ SameWord name' name := by
  simp only [header?, Option.map_eq_some_iff, List.find?_eq_some_iff_append, Bool.not_eq_true',
    ← Bool.not_eq_true, sameLetters_iff_sameWord]
  constructor
  · rintro ⟨⟨name', value'⟩, ⟨hname, before, after, hheaders, hbefore⟩, rfl⟩
    exact ⟨before, name', after, hheaders, hbefore, hname⟩
  · rintro ⟨before, name', after, hheaders, hbefore, hname⟩
    exact ⟨(name', value), ⟨hname, before, after, hheaders, hbefore⟩, rfl⟩

theorem toNat_lt_of_isVisible {byte : UInt8} (h : isVisible byte = true) :
    byte.toNat < 128 := by
  simp only [isVisible, Bool.or_eq_true, Bool.and_eq_true, decide_eq_true_eq, beq_iff_eq,
    UInt8.le_iff_toNat_le] at h
  rcases h with ⟨-, h⟩ | rfl
  · exact Nat.lt_of_le_of_lt h (by decide)
  · decide

/-- Visible bytes are those of the text with their characters. -/
theorem eq_bytes_iff_of_visible {value : List UInt8}
    (h : ∀ byte ∈ value, isVisible byte = true) (text : String) :
    value = Text.Utf8.bytes text ↔
      value.map (fun byte => Char.ofNat byte.toNat) = text.toList := by
  have hbytes := Text.Utf8.bytes_ofList_ascii fun byte hbyte => toNat_lt_of_isVisible (h byte hbyte)
  constructor
  · intro hvalue
    rw [← Text.Utf8.bytes_inj (hbytes.trans hvalue), String.toList_ofList]
  · intro hcharacters
    rw [hcharacters, String.ofList_toList] at hbytes
    exact hbytes.symm

/-- The first header for the token decides whether a request bears one. -/
theorem bears_iff_of_header? {request : Request} {value : List UInt8} {token : String}
    (h : request.header? "authorization" = some value) :
    request.Bears token ↔
      (∀ byte ∈ value, isVisible byte = true) ∧
        ∃ rest, value = Text.Utf8.bytes ("Bearer " ++ rest) ∧ Text.trim rest = token := by
  constructor
  · rintro ⟨before, name, rest, after, hheaders, hbefore, hname, hvisible, htoken⟩
    have hfound := header?_eq_some_iff.mpr ⟨before, name, after, hheaders, hbefore, hname⟩
    rw [h] at hfound
    cases hfound
    exact ⟨hvisible, rest, rfl, htoken⟩
  · rintro ⟨hvisible, rest, rfl, htoken⟩
    obtain ⟨before, name, after, hheaders, hbefore, hname⟩ := header?_eq_some_iff.mp h
    exact ⟨before, name, rest, after, hheaders, hbefore, hname, hvisible, htoken⟩

/-- The token of a header is what stands after the mark. -/
theorem bearerToken?_eq_some_iff {request : Request} {token : String} :
    request.bearerToken? = some token ↔ request.Bears token := by
  unfold bearerToken?
  cases hheader : request.header? "authorization" with
  | none =>
    refine iff_of_false (by simp) ?_
    rintro ⟨before, name, rest, after, hheaders, hbefore, hname, -, -⟩
    have hfound := header?_eq_some_iff.mpr ⟨before, name, after, hheaders, hbefore, hname⟩
    rw [hheader] at hfound
    cases hfound
  | some value =>
    rw [bears_iff_of_header? hheader]
    dsimp only
    rw [Option.ite_none_right_eq_some, Bool.and_eq_true, List.all_eq_true, and_assoc,
      List.isPrefixOf_iff_prefix, Option.some.injEq]
    have hmark (rest : String) : ("Bearer " ++ rest).toList = bearerMark ++ rest.toList :=
      String.toList_append
    refine and_congr_right fun hvisible => ?_
    simp only [eq_bytes_iff_of_visible hvisible, hmark]
    constructor
    · rintro ⟨⟨rest, hrest⟩, htoken⟩
      refine ⟨String.ofList rest, ?_, ?_⟩
      · rw [String.toList_ofList, hrest]
      · rw [← htoken, ← hrest, List.drop_left]
    · rintro ⟨rest, hrest, htoken⟩
      rw [hrest, List.drop_left, String.ofList_toList]
      exact ⟨List.prefix_append _ _, htoken⟩

end Request

/-! ## Keys -/

/-- The body of a request is text that encodes a key, perhaps between white space. -/
def Request.EncodesKey (request : Request) (key : Key) : Prop :=
  ∃ text, Text.Utf8.decode request.body = .ok text ∧
    (Text.Utf8.bytes (Text.trim text)).length = Key.encodedLength ∧
    Bytes.Base64.decode .lenient (Text.Utf8.bytes (Text.trim text)) = .ok key.bytes

theorem Request.EncodesKey.unique {request : Request} {key key' : Key}
    (h : request.EncodesKey key) (h' : request.EncodesKey key') : key = key' := by
  obtain ⟨text, htext, -, hkey⟩ := h
  obtain ⟨text', htext', -, hkey'⟩ := h'
  cases htext.symm.trans htext'
  have hbytes := hkey.symm.trans hkey'
  cases key
  cases key'
  cases hbytes
  rfl

/-! ## Requests -/

/-- A request asks for the rotation of the keys. -/
def Request.AsksRotation (request : Request) : Prop :=
  request.method = "POST" ∧ request.path = rotationPath

/-- The settings permit a request to make a key current: there are a ring and an
administrator whose token the request bears, and the body is short enough and
encodes the key. -/
structure Settings.Permits (settings : Settings) (request : Request) (key : Key) : Prop where
  ring : ∃ ring, settings.ring = .ok (some ring)
  token : ∃ token, settings.adminToken = some token ∧ request.Bears token
  body : request.body.length ≤ settings.maxBodyBytes.toNat
  key : request.EncodesKey key

namespace Service

/-- What a service keeps of its settings, whatever it is asked.  Its callback is not
found at the path of the rotation. -/
structure Serves (service : Service) (settings : Settings) : Prop where
  ring : ∃ ring, settings.ring = .ok ring ∧ service.endpoint.ring.isSome = ring.isSome
  adminToken : service.adminToken = settings.adminToken
  exactSites : service.exactSites = (healthPath, .health) ::
    if settings.adminToken.isSome && service.endpoint.ring.isSome then
      [(rotationPath, .rotation)]
    else []
  callbackPaths : ∀ pattern, service.callbackPaths = some pattern →
    pattern.accepts rotationPath = false
  bodyLimit : service.bodyLimit = settings.maxBodyBytes.toNat

theorem endpointOf_eq_ok {settings : Settings} {endpoint : Endpoint}
    (h : endpointOf settings = .ok endpoint) : settings.ring = .ok endpoint.ring := by
  obtain ⟨account, -, h⟩ := bind_eq_ok_iff.mp h
  obtain ⟨ring, hring, h⟩ := bind_eq_ok_iff.mp h
  cases h
  exact hring

/-- A service that settings describe has the ring of the settings and serves
them. -/
theorem serves_of_ofSettings {settings : Settings} {service : Service}
    (h : ofSettings settings = .ok service)
    (hliteral : PathPattern.Literal settings.callbackPath)
    (hpath : settings.callbackPath ≠ rotationPath) :
    settings.ring = .ok service.endpoint.ring ∧ service.Serves settings := by
  obtain ⟨endpoint, hendpoint, h⟩ := bind_eq_ok_iff.mp h
  cases h
  have hring := endpointOf_eq_ok hendpoint
  refine ⟨hring, ⟨_, hring, rfl⟩, rfl, rfl, ?_, rfl⟩
  intro pattern hpattern
  obtain ⟨literal, hofText, haccepts⟩ := PathPattern.ofText?_literal hliteral
  cases hpattern.symm.trans hofText
  rw [← Bool.not_eq_true, haccepts]
  exact hpath.symm

section

variable {service : Service} {settings : Settings}

/-- A change of the endpoint that leaves it with or without a ring. -/
theorem Serves.of_endpoint (h : service.Serves settings) {endpoint : Endpoint}
    (hring : endpoint.ring.isSome = service.endpoint.ring.isSome) :
    { service with endpoint }.Serves settings := by
  obtain ⟨⟨ring, hsettings, hsome⟩, htoken, hsites, hpaths, hlimit⟩ := h
  exact ⟨⟨ring, hsettings, hring.trans hsome⟩, htoken, hring ▸ hsites, hpaths, hlimit⟩

theorem lookup_cons_eq (site : Site) (exact path : String) (rest : List (String × Site)) :
    ((exact, site) :: rest).lookup path =
      if path = exact then some site else rest.lookup path := by
  rw [List.lookup_cons]
  by_cases hpath : path = exact
  · rw [if_pos hpath, beq_iff_eq.mpr hpath]
  · rw [if_neg hpath, beq_false_of_ne hpath]

/-- What is found at a path. -/
theorem Serves.site?_eq (h : service.Serves settings) (path : String) :
    service.site? path =
      if path = healthPath then some .health
      else if path = rotationPath ∧ settings.adminToken.isSome ∧
        service.endpoint.ring.isSome then some .rotation
      else if service.isCallback path then some .callback else none := by
  have hlookup : service.exactSites.lookup path =
      if path = healthPath then some .health
      else if path = rotationPath ∧ settings.adminToken.isSome ∧
        service.endpoint.ring.isSome then some .rotation
      else none := by
    rw [h.exactSites, lookup_cons_eq]
    by_cases hmounted : settings.adminToken.isSome && service.endpoint.ring.isSome
    · rw [if_pos hmounted, lookup_cons_eq, List.lookup_nil]
      rw [Bool.and_eq_true] at hmounted
      simp only [hmounted, and_true]
    · rw [if_neg hmounted, List.lookup_nil]
      rw [Bool.and_eq_true] at hmounted
      simp only [hmounted, and_false, if_false]
  rw [site?, hlookup]
  split_ifs <;> rfl

/-- The rotation is found at its own path only. -/
theorem Serves.path_eq_of_rotation (h : service.Serves settings) {path : String}
    (hsite : service.site? path = some .rotation) : path = rotationPath := by
  rw [h.site?_eq] at hsite
  split_ifs at hsite with hhealth hrotation hcallback
  · cases hsite
  · exact hrotation.1
  · cases hsite

theorem Serves.isCallback_rotationPath (h : service.Serves settings) :
    service.isCallback rotationPath = false := by
  rw [isCallback]
  cases hpattern : service.callbackPaths with
  | none => rfl
  | some pattern => rw [Option.any_some, h.callbackPaths pattern hpattern, Bool.false_and]

theorem isAuthorized_iff (request : Request) :
    service.isAuthorized request = true ↔
      ∃ token, service.adminToken = some token ∧ request.Bears token := by
  unfold isAuthorized
  cases service.adminToken with
  | none => simp
  | some expected =>
    cases hpresented : request.bearerToken? with
    | none =>
      refine iff_of_false (by simp) ?_
      rintro ⟨token, -, hbears⟩
      rw [← Request.bearerToken?_eq_some_iff, hpresented] at hbears
      cases hbears
    | some presented =>
      simp only [← Request.bearerToken?_eq_some_iff, hpresented, Option.some.injEq,
        exists_eq_left', Signature.verify, beq_iff_eq]

/-- A rotation that succeeds makes the key of its body current. -/
theorem rotateKey_of_encodesKey {request : Request} {key : Key}
    (hauthorized : service.isAuthorized request = true)
    (hring : service.endpoint.ring.isSome = true) (hkey : request.EncodesKey key) :
    service.rotateKey request =
      (.word 200 "rotated", { service with endpoint := service.endpoint.rotate key }) := by
  obtain ⟨text, htext, hencoded⟩ := hkey
  have hnone : service.endpoint.ring.isNone = false := by
    rw [← Option.not_isSome, hring]
    rfl
  simp only [rotateKey, htext, hauthorized, hnone, Key.ofEncoded_eq_ok_iff.mpr hencoded]
  rfl

/-- A rotation that does not succeed changes nothing. -/
theorem rotateKey_of_not {request : Request}
    (h : ¬(service.isAuthorized request = true ∧ service.endpoint.ring.isSome = true ∧
      ∃ key, request.EncodesKey key)) :
    ∃ answer, answer.status ≠ 200 ∧ service.rotateKey request = (answer, service) := by
  unfold rotateKey
  cases htext : Text.Utf8.decode request.body with
  | error fault => exact ⟨.notUtf8 fault, show (400 : Nat) ≠ 200 by decide, rfl⟩
  | ok text =>
    dsimp only
    split_ifs with hauthorized hring
    · exact ⟨.word 401 "unauthorized", by decide, rfl⟩
    · exact ⟨.word 409 "secure_mode_disabled", by decide, rfl⟩
    · cases hkey : Key.ofEncoded text with
      | error fault => exact ⟨.word 400 "invalid_key", by decide, rfl⟩
      | ok key =>
        have hencodes : request.EncodesKey key := ⟨text, htext, Key.ofEncoded_eq_ok_iff.mp hkey⟩
        rw [Bool.not_eq_true', Bool.not_eq_false] at hauthorized
        rw [Bool.not_eq_true, Option.isNone_eq_false_iff] at hring
        exact absurd ⟨hauthorized, hring, key, hencodes⟩ h

/-- A visit to the site of the rotation makes a key current, or is no success and changes
nothing. -/
theorem visit_rotation_cases (service : Service) (moment : Moment) (request : Request) :
    (∃ key, request.EncodesKey key ∧ service.visit moment request .rotation =
        (.word 200 "rotated", { service with endpoint := service.endpoint.rotate key })) ∨
      ∃ answer, answer.status ≠ 200 ∧
        service.visit moment request .rotation = (answer, service) := by
  rw [visit]
  split_ifs with hbody
  · exact Or.inr ⟨.tooLarge, show (413 : Nat) ≠ 200 by decide, rfl⟩
  · by_cases hrotates : service.isAuthorized request = true ∧
        service.endpoint.ring.isSome = true ∧ ∃ key, request.EncodesKey key
    · obtain ⟨hauthorized, hring, key, hkey⟩ := hrotates
      exact Or.inl ⟨key, hkey, rotateKey_of_encodesKey hauthorized hring hkey⟩
    · exact Or.inr (rotateKey_of_not hrotates)

/-- What the settings permit is what the service checks. -/
theorem Serves.permits_iff (h : service.Serves settings) (request : Request) (key : Key) :
    settings.Permits request key ↔
      service.endpoint.ring.isSome = true ∧ service.isAuthorized request = true ∧
        request.body.length ≤ service.bodyLimit ∧ request.EncodesKey key := by
  obtain ⟨ring, hring, hsome⟩ := h.ring
  rw [isAuthorized_iff, h.adminToken, h.bodyLimit, hsome]
  constructor
  · rintro ⟨⟨ring', hring'⟩, htoken, hbody, hkey⟩
    rw [hring, Except.ok.injEq] at hring'
    exact ⟨Option.isSome_of_eq_some hring', htoken, hbody, hkey⟩
  · rintro ⟨hring', htoken, hbody, hkey⟩
    obtain ⟨ring', rfl⟩ := Option.isSome_iff_exists.mp hring'
    exact ⟨⟨ring', hring⟩, htoken, hbody, hkey⟩

/-- A site answers a request of a method that it takes. -/
theorem handle_of_mem (moment : Moment) {request : Request} {site : Site}
    (hsite : service.site? request.path = some site) (hmethod : request.method ∈ site.methods) :
    (service.handle moment request).1.status =
        (service.visit moment request site).1.status ∧
      (service.handle moment request).2 = (service.visit moment request site).2 := by
  rw [handle, hsite]
  dsimp only
  rw [if_pos (List.contains_iff_mem.mpr hmethod)]
  refine ⟨?_, rfl⟩
  dsimp only
  split_ifs
  · rfl
  · rfl

/-- A site refuses a request of another method. -/
theorem handle_of_not_mem (moment : Moment) {request : Request} {site : Site}
    (hsite : service.site? request.path = some site) (hmethod : request.method ∉ site.methods) :
    (service.handle moment request).2 = service := by
  rw [handle, hsite]
  dsimp only
  rw [if_neg (by rwa [List.contains_iff_mem])]

/-- A request to a path where nothing is found. -/
theorem handle_of_none (moment : Moment) {request : Request}
    (hsite : service.site? request.path = none) :
    service.handle moment request = ({ status := 404 }, service) := by
  rw [handle, hsite]

/-- A rotation that the settings permit makes its key current. -/
theorem Serves.visit_of_permits (h : service.Serves settings) (moment : Moment)
    {request : Request} {key : Key} (hpermits : settings.Permits request key) :
    service.visit moment request .rotation =
      (.word 200 "rotated", { service with endpoint := service.endpoint.rotate key }) := by
  obtain ⟨hring, hauthorized, hbody, hkey⟩ := (h.permits_iff request key).mp hpermits
  rw [visit, if_neg (by omega)]
  exact rotateKey_of_encodesKey hauthorized hring hkey

/-- A rotation that the settings do not permit changes nothing. -/
theorem Serves.visit_of_not_permits (h : service.Serves settings) (moment : Moment)
    {request : Request} (hpermits : ¬∃ key, settings.Permits request key) :
    ∃ answer, answer.status ≠ 200 ∧
      service.visit moment request .rotation = (answer, service) := by
  rw [visit]
  split_ifs with hbody
  · exact ⟨.tooLarge, show (413 : Nat) ≠ 200 by decide, rfl⟩
  · refine rotateKey_of_not ?_
    rintro ⟨hauthorized, hring, key, hkey⟩
    exact hpermits ⟨key, (h.permits_iff request key).mpr
      ⟨hring, hauthorized, by omega, hkey⟩⟩

/-- A request for a rotation succeeds if and only if the settings permit it, and
else changes nothing. -/
theorem Serves.handle_of_asksRotation (h : service.Serves settings) (moment : Moment)
    {request : Request} (hasks : request.AsksRotation) :
    (∃ key, settings.Permits request key ∧ (service.handle moment request).1.status = 200 ∧
        (service.handle moment request).2 =
          { service with endpoint := service.endpoint.rotate key }) ∨
      (¬∃ key, settings.Permits request key) ∧
        (service.handle moment request).1.status ≠ 200 ∧
        (service.handle moment request).2 = service := by
  obtain ⟨hmethod, hrequest⟩ := hasks
  have hsite := h.site?_eq request.path
  rw [hrequest, h.isCallback_rotationPath, if_neg Bool.false_ne_true,
    if_neg (by decide : rotationPath ≠ healthPath), ← hrequest] at hsite
  have hmem : request.method ∈ Site.rotation.methods := by
    rw [hmethod]
    decide
  by_cases hpermits : ∃ key, settings.Permits request key
  · obtain ⟨key, hkey⟩ := hpermits
    obtain ⟨hring, -⟩ := (h.permits_iff request key).mp hkey
    obtain ⟨token, htoken, -⟩ := hkey.token
    rw [if_pos ⟨rfl, Option.isSome_of_eq_some htoken, hring⟩] at hsite
    obtain ⟨hstatus, hafter⟩ := handle_of_mem moment hsite hmem
    rw [h.visit_of_permits moment hkey] at hstatus hafter
    exact Or.inl ⟨key, hkey, hstatus, hafter⟩
  · refine Or.inr ⟨hpermits, ?_⟩
    split_ifs at hsite with hmounted
    · obtain ⟨answer, hne, hvisit⟩ := h.visit_of_not_permits moment hpermits
      obtain ⟨hstatus, hafter⟩ := handle_of_mem moment hsite hmem
      rw [hvisit] at hstatus hafter
      exact ⟨hstatus ▸ hne, hafter⟩
    · rw [handle_of_none moment hsite]
      exact ⟨show (404 : Nat) ≠ 200 by decide, rfl⟩

/-- A request that does not visit the rotation changes the pool at most. -/
theorem handle_of_not_rotation (moment : Moment) {request : Request}
    (h : ¬(service.site? request.path = some .rotation ∧ request.method = "POST")) :
    ∃ pool, (service.handle moment request).2 =
      { service with endpoint := { service.endpoint with pool } } := by
  cases hsite : service.site? request.path with
  | none => exact ⟨service.endpoint.pool, by rw [handle_of_none moment hsite]⟩
  | some site =>
    by_cases hmethod : request.method ∈ site.methods
    · rw [(handle_of_mem moment hsite hmethod).2]
      cases site with
      | health => exact ⟨service.endpoint.pool, rfl⟩
      | callback =>
        rw [visit]
        split_ifs
        · exact ⟨service.endpoint.pool, rfl⟩
        · exact ⟨_, rfl⟩
      | rotation => exact absurd ⟨hsite, List.mem_singleton.mp hmethod⟩ h
    · exact ⟨service.endpoint.pool, by rw [handle_of_not_mem moment hsite hmethod]⟩

/-- Any other request changes the pool at most. -/
theorem Serves.handle_of_not_asksRotation (h : service.Serves settings) (moment : Moment)
    {request : Request} (hasks : ¬request.AsksRotation) :
    ∃ pool, (service.handle moment request).2 =
      { service with endpoint := { service.endpoint with pool } } :=
  handle_of_not_rotation moment fun hvisits =>
    hasks ⟨hvisits.2, h.path_eq_of_rotation hvisits.1⟩

/-- A service goes on to serve its settings. -/
theorem Serves.handle (h : service.Serves settings) (moment : Moment) (request : Request) :
    (service.handle moment request).2.Serves settings := by
  by_cases hasks : request.AsksRotation
  · rcases h.handle_of_asksRotation moment hasks with
      ⟨key, -, -, hafter⟩ | ⟨-, -, hafter⟩
    · rw [hafter]
      exact h.of_endpoint Option.isSome_map
    · rwa [hafter]
  · obtain ⟨pool, hafter⟩ := h.handle_of_not_asksRotation moment hasks
    rw [hafter]
    exact h.of_endpoint rfl

/-- What a request does to the keys: one for a rotation succeeds if and only if the
settings permit it, its key becomes current, and no other request touches the ring. -/
structure Guards (service : Service) (settings : Settings) : Prop where
  permits : ∀ moment request, request.AsksRotation →
    ((service.handle moment request).1.status = 200 ↔ ∃ key, settings.Permits request key)
  rotates : ∀ moment request key, request.AsksRotation →
    (service.handle moment request).1.status = 200 → request.EncodesKey key →
    (service.handle moment request).2.endpoint.ring = service.endpoint.ring.map (·.rotate key)
  keeps : ∀ moment request,
    ¬(request.AsksRotation ∧ (service.handle moment request).1.status = 200) →
    (service.handle moment request).2.endpoint.ring = service.endpoint.ring

theorem Serves.guards (h : service.Serves settings) :
    service.Guards settings where
  permits moment request hasks := by
    rcases h.handle_of_asksRotation moment hasks with
      ⟨key, hpermits, hstatus, -⟩ | ⟨hpermits, hstatus, -⟩
    · exact iff_of_true hstatus ⟨key, hpermits⟩
    · exact iff_of_false hstatus hpermits
  rotates moment request key hasks hstatus hkey := by
    rcases h.handle_of_asksRotation moment hasks with
      ⟨key', hpermits, -, hafter⟩ | ⟨-, hrefused, -⟩
    · rw [hafter, hkey.unique hpermits.key]
      rfl
    · exact absurd hstatus hrefused
  keeps moment request hother := by
    by_cases hasks : request.AsksRotation
    · rcases h.handle_of_asksRotation moment hasks with
        ⟨-, -, hstatus, -⟩ | ⟨-, -, hafter⟩
      · exact absurd ⟨hasks, hstatus⟩ hother
      · rw [hafter]
    · obtain ⟨pool, hafter⟩ := h.handle_of_not_asksRotation moment hasks
      rw [hafter]

end

end Service

/-! ## Runs -/

/-- The keys of the requests for a rotation that were answered with success, in the
order of the requests. -/
inductive Rotations : List (Moment × Request) → List Answer → List Key → Prop
  | nil : Rotations [] [] []
  /-- A rotation that was answered with success. -/
  | rotated {moment : Moment} {request : Request} {requests : List (Moment × Request)}
    {answer : Answer} {answers : List Answer} {key : Key} {keys : List Key}
    (hasks : request.AsksRotation) (hstatus : answer.status = 200)
    (hkey : request.EncodesKey key) (hrest : Rotations requests answers keys) :
    Rotations ((moment, request) :: requests) (answer :: answers) (key :: keys)
  /-- Any other request. -/
  | other {moment : Moment} {request : Request} {requests : List (Moment × Request)}
    {answer : Answer} {answers : List Answer} {keys : List Key}
    (hother : ¬(request.AsksRotation ∧ answer.status = 200))
    (hrest : Rotations requests answers keys) :
    Rotations ((moment, request) :: requests) (answer :: answers) keys

namespace Service

variable {settings : Settings}

/-- A run rotates the ring by the keys of its rotations. -/
theorem Serves.handleAll (requests : List (Moment × Request)) :
    ∀ {service : Service}, service.Serves settings →
      let (answers, after) := service.handleAll requests
      after.Serves settings ∧ ∃ keys, Rotations requests answers keys ∧
        after.endpoint.ring =
          service.endpoint.ring.map fun ring => keys.foldl KeyRing.rotate ring := by
  induction requests with
  | nil => exact fun h => ⟨h, [], .nil, by simp⟩
  | cons entry requests ih =>
    intro service h
    obtain ⟨moment, request⟩ := entry
    obtain ⟨hafter, keys, hkeys, hring⟩ := ih (h.handle moment request)
    refine ⟨hafter, ?_⟩
    by_cases hrotated : request.AsksRotation ∧ (service.handle moment request).1.status = 200
    · obtain ⟨hasks, hstatus⟩ := hrotated
      obtain ⟨key, hpermits⟩ := (h.guards.permits moment request hasks).mp hstatus
      refine ⟨key :: keys, .rotated hasks hstatus hpermits.key hkeys, hring.trans ?_⟩
      rw [h.guards.rotates moment request key hasks hstatus hpermits.key, Option.map_map]
      rfl
    · refine ⟨keys, .other hrotated hkeys, hring.trans ?_⟩
      rw [h.guards.keeps moment request hrotated]

/-- After any number of requests the ring is the configured one, rotated by the keys
of the rotations that were answered with success, in their order.  One more request
succeeds in rotating it if and only if the settings permit that, and else leaves it
as it is. -/
theorem handleAll_rotates {service : Service} (hservice : ofSettings settings = .ok service)
    (hliteral : PathPattern.Literal settings.callbackPath)
    (hpath : settings.callbackPath ≠ rotationPath)
    (requests : List (Moment × Request)) :
    let (answers, after) := service.handleAll requests
    ∃ configured keys, settings.ring = .ok configured ∧ Rotations requests answers keys ∧
      after.endpoint.ring =
        configured.map (fun ring => keys.foldl KeyRing.rotate ring) ∧
      after.Guards settings := by
  obtain ⟨hring, hserves⟩ := serves_of_ofSettings hservice hliteral hpath
  obtain ⟨hafter, keys, hkeys, hrotated⟩ := hserves.handleAll requests
  exact ⟨service.endpoint.ring, keys, hring, hkeys, hrotated, hafter.guards⟩

/-- Two requests for the same rotation, of which the first bears another token. -/
theorem handleAll_rotates_second :
    let key : Key := ⟨List.replicate 32 7, rfl⟩
    let next : Key := ⟨List.replicate 32 9, rfl⟩
    let settings : Settings :=
      { token := some "token", appId := some "app", recipientId := some "gh"
        encodedKey := some key.encoded, adminToken := some "secret" }
    let moment : Moment := ⟨0, ⟨List.replicate 16 3, rfl⟩⟩
    let rotation (token : String) : Moment × Request :=
      (moment, { method := "POST", target := rotationPath
                 headers := [("Authorization", Text.Utf8.bytes ("Bearer " ++ token))]
                 body := Text.Utf8.bytes next.encoded })
    let requests := [rotation "secre", rotation "secret"]
    ∃ service, ofSettings settings = .ok service ∧
      PathPattern.Literal settings.callbackPath ∧ settings.callbackPath ≠ rotationPath ∧
      let (answers, after) := service.handleAll requests
      answers.map Answer.status = [401, 200] ∧
        after.endpoint.ring = some ⟨next, some key⟩ ∧
        ∃ configured keys, settings.ring = .ok configured ∧ Rotations requests answers keys ∧
          after.endpoint.ring =
            configured.map (fun ring => keys.foldl KeyRing.rotate ring) ∧
          after.Guards settings := by
  intro key next settings moment rotation requests
  let service : Service :=
    { endpoint :=
        { account := ⟨"token", "app", "gh"⟩
          ring := some (.new key)
          table := (AutoReply.ofSettings settings).table
          refusal := settings.refusalMode.handler
          pool := .new settings.scratchPoolSize.toNat }
      adminToken := settings.adminToken
      exactSites := [(healthPath, .health), (rotationPath, .rotation)]
      callbackPaths := PathPattern.ofText? settings.callbackPath
      bodyLimit := settings.maxBodyBytes.toNat }
  have hkey : Key.ofEncoded key.encoded = .ok key := by decide +kernel
  have hservice : ofSettings settings = .ok service := by
    simp only [ofSettings, endpointOf, Settings.ring, Settings.decodeKey, settings, hkey]
    rfl
  have hliteral : PathPattern.Literal settings.callbackPath := by decide
  have hpath : settings.callbackPath ≠ rotationPath := by decide
  exact ⟨service, hservice, hliteral, hpath, by decide +kernel, by decide +kernel,
    handleAll_rotates hservice hliteral hpath requests⟩

end Service

end CallbackGate
