import CallbackGate.Proofs.EncodedKeys
import CallbackGate.Proofs.Generations
import CallbackGate.Service.Http

/-!
# Configuration

A service starts only if its environment names a token and a recipient, and an app
identifier beside the keys if there is a key.  Blank values count as none, so that a service
that runs never checks signatures against an empty token and never expects an empty
recipient.

There are three groups.

* Variables.  `Blank`, `Holds` and `Encodes` say of a variable what is in it, and
  `trimmed?_eq_some_iff` and `trimmed?_eq_none_iff` that these are the values that are read.
* Settings.  What the account and the ring of settings need, and what they are.
* Services.  `ofSettings_ofEnvironment` is the assembly.
-/

namespace CallbackGate

/-! ## Variables -/

namespace Environment

variable {environment : Environment} {name value : String} {key : Key}

/-- A variable is unset or nothing but white space. -/
def Blank (environment : Environment) (name : String) : Prop :=
  ∀ text, environment.text? name = some text → ∀ c ∈ text.toList, Text.isBlank c = true

/-- A variable holds a value, perhaps between white space: the value is not empty and neither
begins nor ends with white space. -/
def Holds (environment : Environment) (name value : String) : Prop :=
  value ≠ "" ∧ ∃ text, environment.text? name = some text ∧ Text.IsTrimmed value text

/-- A variable holds a text that encodes a key. -/
def Encodes (environment : Environment) (name : String) (key : Key) : Prop :=
  ∃ text, environment.text? name = some text ∧ Key.ofEncoded text = .ok key

theorem trimmed?_eq_some_iff :
    environment.trimmed? name = some value ↔ environment.Holds name value := by
  simp only [trimmed?, Option.filter_eq_some_iff, Option.map_eq_some_iff, Bool.not_eq_true',
    ← Bool.not_eq_true, String.isEmpty_iff, Holds, Text.isTrimmed_iff]
  constructor
  · rintro ⟨⟨text, htext, rfl⟩, hne⟩
    exact ⟨hne, text, htext, rfl⟩
  · rintro ⟨hne, text, htext, rfl⟩
    exact ⟨⟨text, htext, rfl⟩, hne⟩

theorem trimmed?_eq_none_iff :
    environment.trimmed? name = none ↔ environment.Blank name := by
  simp only [trimmed?, Option.filter_eq_none_iff, Option.map_eq_some_iff, Bool.not_eq_true',
    Bool.not_eq_false, String.isEmpty_iff, Blank]
  constructor
  · intro h text htext
    exact Text.trim_eq_empty_iff.mp (h _ ⟨text, htext, rfl⟩)
  · rintro h _ ⟨text, htext, rfl⟩
    exact Text.trim_eq_empty_iff.mpr (h text htext)

theorem not_blank_of_trimmed? (h : environment.trimmed? name = some value) :
    ¬environment.Blank name := by
  rw [← trimmed?_eq_none_iff, h]
  exact nofun

/-- What is read from a variable that encodes a key. -/
theorem encodes_iff :
    environment.Encodes name key ↔
      ∃ value, environment.trimmed? name = some value ∧ Key.ofEncoded value = .ok key := by
  constructor
  · rintro ⟨text, htext, hkey⟩
    refine ⟨Text.trim text, trimmed?_eq_some_iff.mpr ⟨?_, text, htext, ?_⟩, ?_⟩
    · intro hempty
      have hlength := (Key.ofEncoded_eq_ok_iff.mp hkey).1
      rw [hempty] at hlength
      exact absurd hlength (by decide)
    · exact Text.isTrimmed_iff.mpr rfl
    · rwa [Key.ofEncoded_trim]
  · rintro ⟨value, hvalue, hkey⟩
    obtain ⟨-, text, htext, htrimmed⟩ := trimmed?_eq_some_iff.mp hvalue
    rw [Text.isTrimmed_iff.mp htrimmed, Key.ofEncoded_trim] at hkey
    exact ⟨text, htext, hkey⟩

/-- What is read from a variable that may hold a key. -/
theorem map_ofEncoded_eq_iff {found : Option Key} :
    (environment.trimmed? name).map Key.ofEncoded = found.map .ok ↔
      (found = none ↔ environment.Blank name) ∧
        ∀ key, found = some key ↔ environment.Encodes name key := by
  rw [← trimmed?_eq_none_iff]
  simp only [encodes_iff]
  cases environment.trimmed? name with
  | none => cases found <;> simp
  | some value =>
    cases hkey : Key.ofEncoded value with
    | error fault => cases found <;> simp [hkey]
    | ok key => cases found <;> simp [hkey, eq_comm]

/-- A variable can be read if it is blank or encodes a key. -/
theorem exists_map_ofEncoded_iff :
    (∃ found : Option Key, (environment.trimmed? name).map Key.ofEncoded = found.map .ok) ↔
      environment.Blank name ∨ ∃ key, environment.Encodes name key := by
  constructor
  · rintro ⟨found, hfound⟩
    obtain ⟨hblank, hencodes⟩ := map_ofEncoded_eq_iff.mp hfound
    cases found with
    | none => exact .inl (hblank.mp rfl)
    | some key => exact .inr ⟨key, (hencodes key).mp rfl⟩
  · rintro (hblank | ⟨key, hkey⟩)
    · exact ⟨none, by rw [trimmed?_eq_none_iff.mpr hblank]; rfl⟩
    · obtain ⟨value, hvalue, hkey⟩ := encodes_iff.mp hkey
      exact ⟨some key, by rw [hvalue, Option.map_some, hkey]; rfl⟩

end Environment

/-! ## Settings -/

namespace Settings

variable {settings : Settings}

/-- The account is made of the settings that are there; without a key the app identifier may
be missing. -/
theorem account_eq_ok_iff {account : Account} :
    settings.account = .ok account ↔
      settings.token = some account.token ∧ settings.recipientId = some account.recipientId ∧
        (settings.appId = some account.appId ∨
          settings.appId = none ∧ settings.encodedKey = none ∧ account.appId = "") := by
  obtain ⟨token, appId, recipientId⟩ := account
  unfold Settings.account
  cases settings.token with
  | none => simp
  | some found =>
    cases settings.recipientId with
    | none => simp
    | some recipient =>
      cases settings.appId with
      | some app => simp [and_comm]
      | none =>
        cases settings.encodedKey with
        | none => simp [and_comm, eq_comm]
        | some encoded => simp

/-- Without a current key there is no ring. -/
theorem ring_of_none (h : settings.encodedKey = none) : settings.ring = .ok none := by
  rw [Settings.ring, h]

/-- The ring is made of the keys that are there, each of which is decoded. -/
theorem ring_eq_ok_iff {encoded : String} (h : settings.encodedKey = some encoded)
    {ring : Option KeyRing} :
    settings.ring = .ok ring ↔
      ∃ current previous, Key.ofEncoded encoded = .ok current ∧
        settings.previousEncodedKey.map Key.ofEncoded = previous.map .ok ∧
        ring = some (.withPrevious current previous) := by
  rw [Settings.ring, h]
  simp only [bind_eq_ok_iff, decodeKey, mapError_eq_ok_iff]
  refine exists_congr fun current => ?_
  rw [exists_and_left]
  refine and_congr_right fun _ => ?_
  cases settings.previousEncodedKey with
  | none => simp [eq_comm]
  | some encoded =>
    constructor
    · intro hprevious
      obtain ⟨previous, hdecode, hring⟩ := bind_eq_ok_iff.mp hprevious
      rw [mapError_eq_ok_iff] at hdecode
      exact ⟨some previous, congrArg some hdecode, (Except.ok.inj hring).symm⟩
    · rintro ⟨_ | previous, hdecode, rfl⟩
      · cases hdecode
      · exact bind_eq_ok_iff.mpr
          ⟨previous, mapError_eq_ok_iff.mpr (Option.some.inj hdecode), rfl⟩

end Settings

/-! ## Services -/

namespace Service

/-- The keys of a service are those that its environment encodes.  A previous key that is
zero counts as none. -/
structure Keyed (environment : Environment) (appId : String) (ring : KeyRing) : Prop where
  appId : environment.Holds "WX_APP_ID" appId
  current : environment.Encodes "WX_ENCODING_AES_KEY" ring.current
  previous : ∀ key, ring.previous = some key ↔
    environment.Encodes "WX_PREVIOUS_ENCODING_AES_KEY" key ∧ key ≠ Key.zero
  single : ring.previous = none ↔ environment.Blank "WX_PREVIOUS_ENCODING_AES_KEY" ∨
    environment.Encodes "WX_PREVIOUS_ENCODING_AES_KEY" Key.zero

/-- A service is the one that its environment describes. -/
structure Configured (environment : Environment) (service : Service) : Prop where
  token : environment.Holds "WX_TOKEN" service.endpoint.account.token
  recipientId : environment.Holds "WX_ORIGINAL_ID" service.endpoint.account.recipientId
  secured : service.endpoint.ring.isSome ↔ ¬environment.Blank "WX_ENCODING_AES_KEY"
  keyed : ∀ ring, service.endpoint.ring = some ring →
    Keyed environment service.endpoint.account.appId ring
  adminToken : ∀ token, service.adminToken = some token ↔ environment.Holds "ADMIN_TOKEN" token

variable {environment : Environment}

theorem previous_withPrevious_eq_some_iff {current key : Key} {previous : Option Key} :
    (KeyRing.withPrevious current previous).previous = some key ↔
      previous = some key ∧ key ≠ Key.zero := by
  rw [KeyRing.withPrevious, KeyRing.bind_keep, Option.filter_eq_some_iff, decide_eq_true_iff]

theorem previous_withPrevious_eq_none_iff {current : Key} {previous : Option Key} :
    (KeyRing.withPrevious current previous).previous = none ↔
      previous = none ∨ previous = some Key.zero := by
  rw [KeyRing.withPrevious, KeyRing.bind_keep, Option.filter_eq_none_iff]
  cases previous <;> simp

/-- The ring that an environment describes has the keys that it encodes. -/
theorem keyed_of_ring {appId : String} {current : Key} {previous : Option Key}
    (happId : environment.Holds "WX_APP_ID" appId)
    (hcurrent : environment.Encodes "WX_ENCODING_AES_KEY" current)
    (hprevious : (environment.trimmed? "WX_PREVIOUS_ENCODING_AES_KEY").map Key.ofEncoded =
      previous.map .ok) :
    Keyed environment appId (.withPrevious current previous) := by
  obtain ⟨hblank, hencodes⟩ := Environment.map_ofEncoded_eq_iff.mp hprevious
  refine ⟨happId, hcurrent, fun key => ?_, ?_⟩
  · rw [previous_withPrevious_eq_some_iff, hencodes]
  · rw [previous_withPrevious_eq_none_iff, hblank, hencodes]

/-- There is a ring if the variable of the current key is not blank, and then the environment
describes its keys. -/
theorem keyed_of_account {account : Account} {ring : Option KeyRing}
    (haccount : (Settings.ofEnvironment environment).account = .ok account)
    (hring : (Settings.ofEnvironment environment).ring = .ok ring) :
    (ring.isSome ↔ ¬environment.Blank "WX_ENCODING_AES_KEY") ∧
      ∀ found, ring = some found → Keyed environment account.appId found := by
  cases hencoded : environment.trimmed? "WX_ENCODING_AES_KEY" with
  | none =>
    cases (Settings.ring_of_none hencoded).symm.trans hring
    have hblank := Environment.trimmed?_eq_none_iff.mp hencoded
    exact ⟨iff_of_false nofun (not_not_intro hblank), nofun⟩
  | some encoded =>
    obtain ⟨current, previous, hcurrent, hprevious, rfl⟩ :=
      (Settings.ring_eq_ok_iff hencoded).mp hring
    have hblank := Environment.not_blank_of_trimmed? hencoded
    refine ⟨iff_of_true rfl hblank, ?_⟩
    rintro _ ⟨⟩
    have happId : environment.trimmed? "WX_APP_ID" = some account.appId := by
      obtain ⟨-, -, happId | ⟨-, hkeyless, -⟩⟩ := Settings.account_eq_ok_iff.mp haccount
      · exact happId
      · cases hencoded.symm.trans hkeyless
    exact keyed_of_ring (Environment.trimmed?_eq_some_iff.mp happId)
      (Environment.encodes_iff.mpr ⟨encoded, hencoded, hcurrent⟩) hprevious

/-- A service has of its environment what it needs. -/
theorem configured_of_ofSettings {service : Service}
    (h : ofSettings (.ofEnvironment environment) = .ok service) :
    Configured environment service := by
  obtain ⟨endpoint, hendpoint, h⟩ := bind_eq_ok_iff.mp h
  obtain ⟨account, haccount, hendpoint⟩ := bind_eq_ok_iff.mp hendpoint
  obtain ⟨ring, hring, hendpoint⟩ := bind_eq_ok_iff.mp hendpoint
  cases hendpoint
  cases h
  obtain ⟨htoken, hrecipient, -⟩ := Settings.account_eq_ok_iff.mp haccount
  obtain ⟨hsecured, hkeyed⟩ := keyed_of_account haccount hring
  exact ⟨Environment.trimmed?_eq_some_iff.mp htoken,
    Environment.trimmed?_eq_some_iff.mp hrecipient, hsecured, hkeyed,
    fun token => Environment.trimmed?_eq_some_iff⟩

theorem exists_ofSettings_iff {settings : Settings} :
    (∃ service, ofSettings settings = .ok service) ↔
      (∃ account, settings.account = .ok account) ∧ ∃ ring, settings.ring = .ok ring := by
  simp only [ofSettings, endpointOf, bind_eq_ok_iff]
  constructor
  · rintro ⟨_, _, ⟨account, haccount, ring, hring, -⟩, -⟩
    exact ⟨⟨account, haccount⟩, ring, hring⟩
  · rintro ⟨⟨account, haccount⟩, ring, hring⟩
    exact ⟨_, _, ⟨account, haccount, ring, hring, rfl⟩, rfl⟩

/-- What an account needs of the environment. -/
theorem exists_account_iff :
    (∃ account, (Settings.ofEnvironment environment).account = .ok account) ↔
      ¬environment.Blank "WX_TOKEN" ∧ ¬environment.Blank "WX_ORIGINAL_ID" ∧
        (environment.Blank "WX_APP_ID" → environment.Blank "WX_ENCODING_AES_KEY") := by
  simp only [Settings.account_eq_ok_iff, ← Environment.trimmed?_eq_none_iff]
  constructor
  · rintro ⟨account, htoken, hrecipient, happId⟩
    refine ⟨Option.ne_none_iff_exists'.mpr ⟨_, htoken⟩,
      Option.ne_none_iff_exists'.mpr ⟨_, hrecipient⟩, fun hmissing => ?_⟩
    obtain happId | ⟨-, hkeyless, -⟩ := happId
    · cases hmissing.symm.trans happId
    · exact hkeyless
  · rintro ⟨htoken, hrecipient, hkeyless⟩
    obtain ⟨token, htoken⟩ := Option.ne_none_iff_exists'.mp htoken
    obtain ⟨recipientId, hrecipient⟩ := Option.ne_none_iff_exists'.mp hrecipient
    cases happId : environment.trimmed? "WX_APP_ID" with
    | some appId => exact ⟨⟨token, appId, recipientId⟩, htoken, hrecipient, .inl happId⟩
    | none =>
      exact ⟨⟨token, "", recipientId⟩, htoken, hrecipient, .inr ⟨happId, hkeyless happId, rfl⟩⟩

/-- What a ring needs of the environment. -/
theorem exists_ring_iff :
    (∃ ring, (Settings.ofEnvironment environment).ring = .ok ring) ↔
      environment.Blank "WX_ENCODING_AES_KEY" ∨
        (∃ key, environment.Encodes "WX_ENCODING_AES_KEY" key) ∧
          (environment.Blank "WX_PREVIOUS_ENCODING_AES_KEY" ∨
            ∃ key, environment.Encodes "WX_PREVIOUS_ENCODING_AES_KEY" key) := by
  cases hencoded : environment.trimmed? "WX_ENCODING_AES_KEY" with
  | none =>
    have hblank := Environment.trimmed?_eq_none_iff.mp hencoded
    exact iff_of_true ⟨none, Settings.ring_of_none hencoded⟩ (.inl hblank)
  | some encoded =>
    have hblank := Environment.not_blank_of_trimmed? hencoded
    have hkey : (Settings.ofEnvironment environment).encodedKey = some encoded := hencoded
    simp only [Settings.ring_eq_ok_iff hkey, hblank, false_or]
    constructor
    · rintro ⟨_, current, previous, hcurrent, hprevious, -⟩
      refine ⟨⟨current, Environment.encodes_iff.mpr ⟨encoded, hencoded, hcurrent⟩⟩, ?_⟩
      exact Environment.exists_map_ofEncoded_iff.mp ⟨previous, hprevious⟩
    · rintro ⟨⟨current, hcurrent⟩, hprevious⟩
      obtain ⟨value, hvalue, hcurrent⟩ := Environment.encodes_iff.mp hcurrent
      cases hencoded.symm.trans hvalue
      obtain ⟨previous, hprevious⟩ := Environment.exists_map_ofEncoded_iff.mpr hprevious
      exact ⟨_, current, previous, hcurrent, hprevious, rfl⟩

/-- A service fails to start exactly if its environment lacks the token or the recipient, or,
where there is a current key, the app identifier or the decoding of one of the keys; the
previous key is not looked at without a current one.  A service that starts is configured as
its environment says. -/
theorem ofSettings_ofEnvironment (environment : Environment) :
    (∀ service, ofSettings (.ofEnvironment environment) = .ok service →
      Configured environment service) ∧
    ((∃ error, ofSettings (.ofEnvironment environment) = .error error) ↔
      environment.Blank "WX_TOKEN" ∨ environment.Blank "WX_ORIGINAL_ID" ∨
        ¬environment.Blank "WX_ENCODING_AES_KEY" ∧
          (environment.Blank "WX_APP_ID" ∨
            ¬(∃ key, environment.Encodes "WX_ENCODING_AES_KEY" key) ∨
            ¬environment.Blank "WX_PREVIOUS_ENCODING_AES_KEY" ∧
              ¬∃ key, environment.Encodes "WX_PREVIOUS_ENCODING_AES_KEY" key)) := by
  refine ⟨fun _ => configured_of_ofSettings, ?_⟩
  have hfails : (∃ error, ofSettings (.ofEnvironment environment) = .error error) ↔
      ¬∃ service, ofSettings (.ofEnvironment environment) = .ok service := by
    cases ofSettings (.ofEnvironment environment) with
    | error error => exact iff_of_true ⟨error, rfl⟩ nofun
    | ok service => exact iff_of_false nofun (not_not_intro ⟨service, rfl⟩)
  rw [hfails, exists_ofSettings_iff, exists_account_iff, exists_ring_iff]
  tauto

end Service

end CallbackGate
