import ChatServer.Password.Cost
import ChatServer.Secret
import ChatServer.Text.Blank
import ChatServer.Text.Split
import ChatServer.Text.Natural

/-!
The service's configuration, read from named settings. A setting that is missing takes its
default; the first setting that cannot be used, in the order below, is the one reported.
-/

namespace ChatServer

/-- The settings by name, such as the variables of a process. -/
abbrev Settings := List (String × String)

/-- A secret with the id under which tokens name it. -/
structure SigningKey where
  id : String
  secret : Secret
  deriving DecidableEq, Inhabited

/-- The two files of a TLS identity. -/
structure TlsFiles where
  certificate : String
  key : String
  deriving DecidableEq

/-- All that the service is configured with. Times are in seconds. -/
structure Config where
  /-- The keys that verify tokens, in the order they were given. -/
  signingKeys : List SigningKey
  /-- The id of the key that signs new tokens. -/
  activeKeyId : String
  /-- The secret for tokens that name no key. -/
  legacySecret : Option Secret
  tokenLifetime : Nat
  clockSkew : Nat
  /-- The cost of hashing a new password. -/
  passwordCost : Nat
  requestsPerMinute : Nat
  burst : Nat
  idleWindow : Nat
  sweepInterval : Nat
  rpcAddress : String
  healthAddress : String
  tls : Option TlsFiles
  /-- How many messages wait for one client at most. -/
  streamBuffer : Nat
  deriving DecidableEq

/-- Whose secret a complaint is about. -/
inductive SecretOwner where
  | signingKey (id : String)
  | legacy
  deriving DecidableEq

/-- Why settings make no configuration. -/
inductive ConfigError where
  /-- There are neither signing keys nor a single secret. -/
  | noSecret
  | noActiveKey
  | malformedKeyEntry
  | emptyKeyId
  | duplicateKeyId (id : String)
  | noKeys
  | unknownActiveKey (id : String)
  | shortSecret (owner : SecretOwner) (size : Nat)
  | notANumber (setting text : String)
  | zero (setting : String)
  | skewTooLarge (seconds : Nat)
  | costOutOfRange (cost : Nat)
  | halfTls
  deriving DecidableEq

namespace Config

def secretSetting := "JWT_SECRET"

def keysSetting := "JWT_SIGNING_KEYS"

def activeKeySetting := "JWT_ACTIVE_KEY_ID"

def certificateSetting := "TLS_CERT_PATH"

def tlsKeySetting := "TLS_KEY_PATH"

def defaultKeyId := "default"

def minSecretSize := 32

def maxClockSkew := 600

end Config

namespace ConfigError

def isMissing : ConfigError → Bool
  | noSecret | noActiveKey => true
  | _ => false

def ownerName : SecretOwner → String
  | .signingKey id => "signing key '" ++ id ++ "'"
  | .legacy => Config.secretSetting

def detail : ConfigError → String
  | noSecret => "JWT_SECRET or JWT_SIGNING_KEYS"
  | noActiveKey => Config.activeKeySetting
  | malformedKeyEntry => "JWT_SIGNING_KEYS entries must have the form kid:secret"
  | emptyKeyId => "JWT_SIGNING_KEYS contains an empty key id"
  | duplicateKeyId id => "JWT_SIGNING_KEYS contains duplicate key id '" ++ id ++ "'"
  | noKeys => "JWT_SIGNING_KEYS must contain at least one key"
  | unknownActiveKey id => "JWT_ACTIVE_KEY_ID '" ++ id ++ "' is not present in JWT_SIGNING_KEYS"
  | shortSecret owner size =>
    ownerName owner ++ " must be at least " ++ toString Config.minSecretSize ++ " bytes, got "
      ++ toString size
  | notANumber setting text => setting ++ " must be a valid number, got '" ++ text ++ "'"
  | zero setting => setting ++ " must be greater than 0"
  | skewTooLarge seconds =>
    "JWT_CLOCK_SKEW_SECONDS must be at most " ++ toString Config.maxClockSkew ++ ", got "
      ++ toString seconds
  | costOutOfRange cost =>
    "BCRYPT_COST must be between " ++ toString Password.minNewCost ++ " and "
      ++ toString Password.maxNewCost ++ ", got " ++ toString cost
  | halfTls => "TLS_CERT_PATH and TLS_KEY_PATH must be set together"

def message (e : ConfigError) : String :=
  (if e.isMissing then "Missing required environment variable: "
    else "Invalid configuration value: ") ++ e.detail

end ConfigError

namespace Config

/-! ## Signing keys -/

/-- One entry of a list of keys: an id and, after the first colon, its secret. Blanks around
the id do not belong to it. -/
def parseKey (entry : List Char) : Except ConfigError SigningKey :=
  match Text.cut? ':' entry with
  | none => .error .malformedKeyEntry
  | some (id, secret) =>
    if (Text.trim id).isEmpty then
      .error .emptyKeyId
    else
      .ok ⟨.ofList (Text.trim id), ⟨.ofList secret⟩⟩

/-- Adds an entry to the keys read before it, under an id that they do not have. -/
def addKey (keys : List SigningKey) (entry : List Char) : Except ConfigError (List SigningKey) := do
  let key ← parseKey entry
  if keys.any (·.id == key.id) then
    throw (.duplicateKeyId key.id)
  else
    return keys ++ [key]

/-- The entries of a list of keys: what stands between commas, without the blanks around it
and without entries that are blank. -/
def keyEntries (cs : List Char) : List (List Char) :=
  ((Text.fields ',' cs).map Text.trim).filter (!·.isEmpty)

/-- Reads a list of keys in the form `id:secret,id:secret`. -/
def parseKeys (text : String) : Except ConfigError (List SigningKey) := do
  let keys ← (keyEntries text.toList).foldlM addKey []
  if keys.isEmpty then throw .noKeys else return keys

/-- The keys a configuration chooses: all of them, the one that signs, and the secret for
tokens that name none. -/
structure KeyChoice where
  keys : List SigningKey
  activeId : String
  legacy : Option Secret

/-- The secret of the single-secret form, if one is set and not empty. -/
def secretOf (settings : Settings) : Option Secret :=
  ((settings.lookup secretSetting).filter (· ≠ "")).map Secret.mk

/-- The list of keys, if one is set and not blank. -/
def keyListOf (settings : Settings) : Option String :=
  (settings.lookup keysSetting).filter fun text => !(Text.trim text.toList).isEmpty

/-- The id of the signing key, if one is set and not blank. -/
def activeIdOf (settings : Settings) : Option String :=
  ((settings.lookup activeKeySetting).map Text.trimmed).filter (· ≠ "")

/-- A list of keys is used when there is one; else the single secret is both the only key and
the secret for tokens that name none. -/
def chooseKeys (settings : Settings) : Except ConfigError KeyChoice :=
  match keyListOf settings with
  | some text => do
    let keys ← parseKeys text
    match activeIdOf settings with
    | none => throw .noActiveKey
    | some activeId =>
      if keys.any (·.id == activeId) then
        return ⟨keys, activeId, secretOf settings⟩
      else
        throw (.unknownActiveKey activeId)
  | none =>
    match secretOf settings with
    | none => throw .noSecret
    | some secret => return ⟨[⟨defaultKeyId, secret⟩], defaultKeyId, some secret⟩

def checkSecret (owner : SecretOwner) (secret : Secret) : Except ConfigError Unit :=
  if secret.size < minSecretSize then .error (.shortSecret owner secret.size) else .ok ()

/-- Refuses a choice with a short secret; the keys are looked at before the legacy secret. -/
def checkSecrets (choice : KeyChoice) : Except ConfigError Unit := do
  choice.keys.forM fun key => checkSecret (.signingKey key.id) key.secret
  choice.legacy.toList.forM (checkSecret .legacy)

/-! ## Numbers -/

/-- A setting that is a natural number below a limit, and what it is when it is not set. -/
structure NumberSetting where
  name : String
  limit : Nat
  default : Nat

def tokenLifetimeSetting : NumberSetting := ⟨"JWT_TOKEN_TTL_SECONDS", UInt64.size, 86400⟩

def clockSkewSetting : NumberSetting := ⟨"JWT_CLOCK_SKEW_SECONDS", UInt64.size, 300⟩

def passwordCostSetting : NumberSetting := ⟨"BCRYPT_COST", UInt32.size, 12⟩

def requestsPerMinuteSetting : NumberSetting := ⟨"RATE_LIMIT_RPM", UInt32.size, 20⟩

def burstSetting : NumberSetting := ⟨"RATE_LIMIT_BURST", UInt32.size, 5⟩

def idleWindowSetting : NumberSetting := ⟨"RATE_LIMIT_IDLE_SECONDS", UInt64.size, 600⟩

def sweepIntervalSetting : NumberSetting := ⟨"RATE_LIMIT_SWEEP_SECONDS", UInt64.size, 60⟩

def streamBufferSetting : NumberSetting := ⟨"STREAM_BUFFER_SIZE", UInt64.size, 64⟩

namespace NumberSetting

/-- The number that is set, or the default. Blanks around it are ignored. -/
def read (setting : NumberSetting) (settings : Settings) : Except ConfigError Nat :=
  match settings.lookup setting.name with
  | none => .ok setting.default
  | some text =>
    match Text.naturalBelow? setting.limit (Text.trim text.toList) with
    | some n => .ok n
    | none => .error (.notANumber setting.name text)

/-- The number that is set, or the default, where nothing at all is of no use. -/
def readPositive (setting : NumberSetting) (settings : Settings) : Except ConfigError Nat := do
  let n ← setting.read settings
  if n = 0 then throw (.zero setting.name) else return n

end NumberSetting

/-- The clock skew, which has a greatest value. -/
def readClockSkew (settings : Settings) : Except ConfigError Nat := do
  let skew ← clockSkewSetting.read settings
  if skew > maxClockSkew then throw (.skewTooLarge skew) else return skew

/-- The cost of hashing, which has a least and a greatest value. -/
def readPasswordCost (settings : Settings) : Except ConfigError Nat := do
  let cost ← passwordCostSetting.read settings
  if Password.isNewCost cost then
    return cost
  else
    throw (.costOutOfRange cost)

/-! ## Addresses and files -/

def rpcAddressSetting := "GRPC_BIND_ADDRESS"

def healthAddressSetting := "HEALTH_BIND_ADDRESS"

def defaultRpcAddress := "0.0.0.0:50051"

def defaultHealthAddress := "0.0.0.0:8081"

/-- Both files of the TLS identity or neither; an empty path is none. -/
def readTls (settings : Settings) : Except ConfigError (Option TlsFiles) :=
  let path (name : String) := (settings.lookup name).filter (· ≠ "")
  match path certificateSetting, path tlsKeySetting with
  | some certificate, some key => .ok (some ⟨certificate, key⟩)
  | none, none => .ok none
  | _, _ => .error .halfTls

/-! ## The whole -/

def ofSettings (settings : Settings) : Except ConfigError Config := do
  let choice ← chooseKeys settings
  checkSecrets choice
  let tokenLifetime ← tokenLifetimeSetting.readPositive settings
  let clockSkew ← readClockSkew settings
  let passwordCost ← readPasswordCost settings
  let requestsPerMinute ← requestsPerMinuteSetting.readPositive settings
  let burst ← burstSetting.readPositive settings
  let idleWindow ← idleWindowSetting.read settings
  let sweepInterval ← sweepIntervalSetting.readPositive settings
  let tls ← readTls settings
  let streamBuffer ← streamBufferSetting.readPositive settings
  return {
    signingKeys := choice.keys
    activeKeyId := choice.activeId
    legacySecret := choice.legacy
    tokenLifetime, clockSkew, passwordCost, requestsPerMinute, burst, idleWindow, sweepInterval
    rpcAddress := (settings.lookup rpcAddressSetting).getD defaultRpcAddress
    healthAddress := (settings.lookup healthAddressSetting).getD defaultHealthAddress
    tls, streamBuffer
  }

/-! ## Description -/

def describeKey (key : SigningKey) : String :=
  Text.record "SigningKeyConfig" [("kid", Text.quoted key.id), ("secret", key.secret.describe)]

/-- A configuration as logs show it: all of it except the secrets. -/
def describe (config : Config) : String :=
  Text.record "Config" [
    ("signing_keys", Text.sequence (config.signingKeys.map describeKey)),
    ("active_key_id", Text.quoted config.activeKeyId),
    ("legacy_secret", Text.optional (config.legacySecret.map Secret.describe)),
    ("token_ttl_seconds", toString config.tokenLifetime),
    ("clock_skew_seconds", toString config.clockSkew),
    ("bcrypt_cost", toString config.passwordCost),
    ("rate_limit_rpm", toString config.requestsPerMinute),
    ("rate_limit_burst", toString config.burst),
    ("rate_limit_idle_seconds", toString config.idleWindow),
    ("rate_limit_sweep_seconds", toString config.sweepInterval),
    ("grpc_bind_address", Text.quoted config.rpcAddress),
    ("health_bind_address", Text.quoted config.healthAddress),
    ("tls_cert_path", Text.optional (config.tls.map fun files => Text.quoted files.certificate)),
    ("tls_key_path", Text.optional (config.tls.map fun files => Text.quoted files.key)),
    ("stream_buffer_size", toString config.streamBuffer)
  ]

end Config

end ChatServer
