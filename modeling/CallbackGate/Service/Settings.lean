import CallbackGate.Cipher.Error
import CallbackGate.Endpoint.Account
import CallbackGate.KeyRing
import CallbackGate.Message.Reading

/-!
# Settings

The settings of a service come from variables of its environment.  A variable
whose value is not UTF-8 counts as unset, and so does one that is blank where
text is wanted.  Reading never fails: a number, a mode or a flag that cannot be
read takes its default.

What cannot do without a setting says so when it is asked for: the account
(`Settings.account`) and the key ring (`Settings.ring`).
-/

namespace CallbackGate

/-- The values of the variables that are set. -/
abbrev Environment := String → Option (List UInt8)

namespace Environment

/-- The text of a variable. -/
def text? (environment : Environment) (name : String) : Option String :=
  (environment name).bind fun value => (Text.Utf8.decode value).toOption

/-- The text of a variable without white space around it, unless it is
blank. -/
def trimmed? (environment : Environment) (name : String) :
    Option String :=
  ((environment.text? name).map Text.trim).filter (!·.isEmpty)

/-- The number that the text of a variable spells. -/
def number? (environment : Environment) (name : String)
    (parse : List Char → Except Text.NumeralFault α) : Option α :=
  (environment.text? name).bind fun text => (parse text.toList).toOption

/-- The words that raise a flag. -/
def raisingWords : List String := ["1", "true", "yes", "on"]

/-- A variable raises a flag. -/
def flag (environment : Environment) (name : String) : Bool :=
  match environment.text? name with
  | some text => raisingWords.contains (Text.lowered (Text.trim text))
  | none => false

end Environment

/-- The settings of a service. -/
structure Settings where
  tcpPort : UInt16 := 8080
  /-- The token that signatures share. -/
  token : Option String := none
  appId : Option String := none
  recipientId : Option String := none
  /-- The current key in its encoded form. -/
  encodedKey : Option String := none
  /-- The key that the current one replaced. -/
  previousEncodedKey : Option String := none
  /-- Where the platform sends its requests. -/
  callbackPath : String := "/wx/callback"
  refusalMode : RefusalMode := .silent
  /-- The greatest number of bytes of a body. -/
  maxBodyBytes : UInt64 := 65536
  /-- The number of idle buffers that are kept. -/
  scratchPoolSize : UInt64 := 64
  /-- What an administrator presents to rotate keys. -/
  adminToken : Option String := none
  /-- What is answered to a subscription. -/
  welcomeText : Option String := none
  /-- Text messages are answered with their own text. -/
  echoText : Bool := false
  deriving DecidableEq, Repr

/-- Why settings do not suffice. -/
inductive SettingsError
  | tokenMissing
  | recipientIdMissing
  /-- A key is set and the identifier that its frames carry is not. -/
  | appIdMissing
  /-- A key cannot be decoded. -/
  | invalidKey (generation : Generation) (fault : Key.Fault)
  deriving DecidableEq, Repr

namespace Settings

/-- A path that begins with a slash. -/
def rooted (path : String) : String :=
  if path.toList.head? = some '/' then path else "/" ++ path

/-- The settings that an environment gives. -/
def ofEnvironment (environment : Environment) : Settings :=
  let blank : Settings := {}
  { tcpPort :=
      (environment.number? "PORT" Numeral.uint16).getD blank.tcpPort
    token := environment.trimmed? "WX_TOKEN"
    appId := environment.trimmed? "WX_APP_ID"
    recipientId := environment.trimmed? "WX_ORIGINAL_ID"
    encodedKey := environment.trimmed? "WX_ENCODING_AES_KEY"
    previousEncodedKey :=
      environment.trimmed? "WX_PREVIOUS_ENCODING_AES_KEY"
    callbackPath :=
      ((environment.trimmed? "WX_CALLBACK_PATH").map rooted).getD
        blank.callbackPath
    refusalMode :=
      ((environment.trimmed? "WX_INVALID_REQUEST_MODE").bind fun word =>
        (RefusalMode.parse word).toOption).getD blank.refusalMode
    maxBodyBytes :=
      (environment.number? "WX_MAX_BODY_BYTES" Numeral.uint64).getD
        blank.maxBodyBytes
    scratchPoolSize :=
      (environment.number? "WX_SCRATCH_POOL_SIZE" Numeral.uint64).getD
        blank.scratchPoolSize
    adminToken := environment.trimmed? "ADMIN_TOKEN"
    welcomeText := environment.trimmed? "WX_WELCOME_TEXT"
    echoText := environment.flag "WX_ECHO_TEXT" }

/-- The text shown for settings, which tells no secret. -/
def shown (settings : Settings) : String :=
  let field (name value : String) : String := name ++ ": " ++ value
  let fields :=
    [field "port" (toString settings.tcpPort.toNat),
      field "token_configured" (toString settings.token.isSome),
      field "app_id" (Text.quotedOption settings.appId),
      field "original_id" (Text.quotedOption settings.recipientId),
      field "secure_mode" (toString settings.encodedKey.isSome),
      field "previous_key_configured"
        (toString settings.previousEncodedKey.isSome),
      field "callback_path" (Text.quoted settings.callbackPath),
      field "invalid_request_mode" settings.refusalMode.name,
      field "max_body_bytes" (toString settings.maxBodyBytes.toNat),
      field "scratch_pool_size" (toString settings.scratchPoolSize.toNat),
      field "admin_configured" (toString settings.adminToken.isSome),
      field "welcome_text" (Text.quotedOption settings.welcomeText),
      field "echo_text" (toString settings.echoText)]
  "Config \x7b " ++ String.intercalate ", " fields ++ " \x7d"

/-! ## What settings provide -/

/-- The variable that holds a key. -/
def keyVariable : Generation → String
  | .current => "WX_ENCODING_AES_KEY"
  | .previous => "WX_PREVIOUS_ENCODING_AES_KEY"

/-- The account that is served.  The app identifier may be missing when there
is no key. -/
def account (settings : Settings) : Except SettingsError Account :=
  match settings.token, settings.recipientId with
  | none, _ => .error .tokenMissing
  | some _, none => .error .recipientIdMissing
  | some token, some recipientId =>
    match settings.appId, settings.encodedKey with
    | some appId, _ => .ok ⟨token, appId, recipientId⟩
    | none, some _ => .error .appIdMissing
    | none, none => .ok ⟨token, "", recipientId⟩

/-- The key that an encoded form gives, where it is meant for the given place
of a ring. -/
def decodeKey (generation : Generation) (encoded : String) :
    Except SettingsError Key :=
  (Key.ofEncoded encoded).mapError (.invalidKey generation)

/-- The key ring, if there is a current key.  A previous key alone is not
looked at. -/
def ring (settings : Settings) : Except SettingsError (Option KeyRing) :=
  match settings.encodedKey with
  | none => .ok none
  | some encoded => do
    let current ← decodeKey .current encoded
    match settings.previousEncodedKey with
    | none => .ok (some (.withPrevious current none))
    | some encoded =>
      let previous ← decodeKey .previous encoded
      .ok (some (.withPrevious current (some previous)))

end Settings

/-- The wording of an error. -/
def SettingsError.message : SettingsError → String
  | .tokenMissing => "WX_TOKEN is required"
  | .recipientIdMissing => "WX_ORIGINAL_ID is required"
  | .appIdMissing =>
    "WX_APP_ID is required when WX_ENCODING_AES_KEY is set"
  | .invalidKey generation fault =>
    Settings.keyVariable generation ++ " is not a valid EncodingAESKey: " ++
      (CryptoError.invalidKey fault).message

end CallbackGate
