import ChatServer.Password.Hash
import ChatServer.Proofs.Config.KeyLists
import ChatServer.Proofs.Config.Reading
import ChatServer.Proofs.Token.Migration

/-! What is accepted can be used. Settings are looked at once, when the service starts, and nobody
checks again later: that there is a key to sign with, that it is found under its id, that secrets
are long enough and numbers within their limits follows from the configuration having been accepted.
-/

namespace ChatServer

namespace Config

-----------------------------------------------------------------------------------------
-- Ids of keys
-----------------------------------------------------------------------------------------

/-- No key has blanks around its id. -/
def HasSolidIds (keys : List SigningKey) : Prop :=
  ∀ key ∈ keys, Text.HasSolidEnds key.id.toList

/-- No key that settings choose has blanks around its id. -/
theorem chooseKeys_solid {settings : Settings} {choice : KeyChoice}
    (chosen : chooseKeys settings = .ok choice)
    : HasSolidIds choice.keys := by
  obtain ⟨_, ⟨_, _, parsed, _⟩ | ⟨_, _, _, keys, _⟩⟩ := chooseKeys_cases chosen
  · have listable := (lists_of_parseKeys parsed).1.listable
    exact fun key member => (listable key member).solid
  · have default : defaultKeyId.toList = Text.trim defaultKeyId.toList := by decide
    intro key member
    rw [keys] at member
    rw [List.mem_singleton.mp member, default]
    exact Text.solidEnds_trim _

-----------------------------------------------------------------------------------------
-- Usable configurations
-----------------------------------------------------------------------------------------

/-- The service can work with the configuration: each part is what the work with it relies on. -/
structure IsUsable (config : Config) : Prop where
  keys : config.signingKeys ≠ []
  distinct : HasDistinctIds config.signingKeys
  named : HasNamedKeys config.signingKeys
  solid : HasSolidIds config.signingKeys
  active : ∃ key ∈ config.signingKeys, key.id = config.activeKeyId
  secrets : ∀ key ∈ config.signingKeys, 32 ≤ key.secret.size
  legacySecret : ∀ secret ∈ config.legacySecret, 32 ≤ secret.size
  tokenLifetime : 0 < config.tokenLifetime
  clockSkew : config.clockSkew ≤ 600
  passwordCost : ∀ salt password, ∃ hashed,
    Password.hash config.passwordCost salt password = .ok hashed
  requestsPerMinute : 0 < config.requestsPerMinute
  burst : 0 < config.burst
  sweepInterval : 0 < config.sweepInterval
  streamBuffer : 0 < config.streamBuffer

theorem isUsable_of_accepted {settings : Settings} {config : Config}
    (accepted : ofSettings settings = .ok config)
    : config.IsUsable := by
  have read := isReadFrom_of_ofSettings accepted
  obtain ⟨choice, chosen, checked, keys, activeId, legacy⟩ := read.keys
  obtain ⟨⟨distinct, active⟩, _⟩ := chooseKeys_sound chosen
  obtain ⟨long, legacyLong⟩ := minSecretSize_le_of_checkSecrets checked
  rw [← keys] at distinct active long
  rw [← activeId] at active
  rw [← legacy] at legacyLong
  have some : config.signingKeys ≠ [] := List.ne_nil_of_mem active.choose_spec.1
  have cost := isNewCost_of_readPasswordCost read.passwordCost
  exact {
    keys := some
    distinct
    named := keys ▸ chooseKeys_named chosen
    solid := keys ▸ chooseKeys_solid chosen
    active
    secrets := long
    legacySecret := legacyLong
    tokenLifetime := NumberSetting.pos_of_readPositive read.tokenLifetime
    clockSkew := le_of_readClockSkew read.clockSkew
    passwordCost := fun _ _ => ⟨_, if_pos cost⟩
    requestsPerMinute := NumberSetting.pos_of_readPositive read.requestsPerMinute
    burst := NumberSetting.pos_of_readPositive read.burst
    sweepInterval := NumberSetting.pos_of_readPositive read.sweepInterval
    streamBuffer := NumberSetting.pos_of_readPositive read.streamBuffer
  }

end Config

namespace Token.Broker

-----------------------------------------------------------------------------------------
-- Brokers of accepted configurations
-----------------------------------------------------------------------------------------

/-- Issuing fails only over the claims; the keys were looked at when the broker was made. -/
theorem issue_ne_keySet (broker : Broker) (now : Instant) (subject identity detail : String)
    : broker.issue now subject identity ≠ .returned (.error (.keySet detail)) := by
  unfold issue
  dsimp only
  split
  next => nofun
  next =>
    split
    next => nofun
    next => split <;> nofun

/-- Whatever token the broker issues is signed with the key and says for whom it is and how long it
is valid, and where the broker issues none it is not the keys that are at fault.
-/
structure SignsWith (broker : Broker) (key : SigningKey) : Prop where
  signed : ∀ now subject identity issued,
    broker.issue now subject identity = .returned (.ok issued)
      → issued.token = encode key ⟨subject, Identity.normalize identity, now.seconds,
          now.seconds + broker.lifetime⟩
  keysFit : ∀ now subject identity detail,
    broker.issue now subject identity ≠ .returned (.error (.keySet detail))

theorem signsWith_active (broker : Broker) : broker.SignsWith broker.keys.active where
  signed now subject identity issued returned := by
    obtain ⟨_, _, _, token⟩ := issue_eq_ok returned
    exact token
  keysFit now subject identity detail := broker.issue_ne_keySet now subject identity detail

/-- An accepted configuration is usable as it stands, and its broker can be made. The id of the
signing key, looked up among the keys of the broker, leads to the one key that was given under it,
and that is the key of every token.
-/
theorem usable_of_accepted {settings : Settings} {config : Config}
    (accepted : Config.ofSettings settings = .ok config)
    : config.IsUsable
      ∧ Config.HasBothPaths settings config.tls
      ∧ ∃ broker key, ofConfig config = .ok broker
          ∧ broker.keys.keys = config.signingKeys
          ∧ key ∈ config.signingKeys
          ∧ key.id = config.activeKeyId
          ∧ KeySet.find? broker.keys.keys config.activeKeyId = some key
          ∧ broker.SignsWith key := by
  have read := Config.isReadFrom_of_ofSettings accepted
  obtain ⟨broker, made, keys, active, named, distinct, _⟩ := ofConfig_of_accepted accepted
  have found : KeySet.find? broker.keys.keys config.activeKeyId = some broker.keys.active :=
    named ▸ KeySet.find?_of_mem distinct (keys ▸ active)
  exact ⟨Config.isUsable_of_accepted accepted, Config.hasBothPaths_of_readTls read.tls,
    broker, broker.keys.active, made, keys, active, named, found, broker.signsWith_active⟩

/-- Two keys with blanks around their ids, the second of which signs, beside a secret for tokens
that name no key.
-/
theorem usable_of_listed_keys
    : let settings : Settings := [
        ("JWT_SIGNING_KEYS",
          " k2 :second-secret-second-secret-second, k1:first:secret-first-secret:first-secret"),
        ("JWT_ACTIVE_KEY_ID", " k1 "), ("JWT_SECRET", "single-secret-single-secret-single"),
        ("BCRYPT_COST", " 10 "),
        ("TLS_CERT_PATH", "service.crt"), ("TLS_KEY_PATH", "service.key")]
      ∃ config broker, Config.ofSettings settings = .ok config
        ∧ config.IsUsable
        ∧ config.tls = some ⟨"service.crt", "service.key"⟩
        ∧ ofConfig config = .ok broker
        ∧ broker.SignsWith ⟨"k1", ⟨"first:secret-first-secret:first-secret"⟩⟩ := by
  intro settings
  let first : SigningKey := ⟨"k1", ⟨"first:secret-first-secret:first-secret"⟩⟩
  let second : SigningKey := ⟨"k2", ⟨"second-secret-second-secret-second"⟩⟩
  let single : Secret := ⟨"single-secret-single-secret-single"⟩
  let config : Config := { Config.plain [second, first] "k1" (some single) with
    passwordCost := 10
    tls := some ⟨"service.crt", "service.key"⟩
  }
  have accepted : Config.ofSettings settings = .ok config :=
    eq_ok_of_toOption (by decide +kernel)
  obtain ⟨usable, _, broker, key, made, keys, _, _, found, signs⟩ := usable_of_accepted accepted
  rw [keys] at found
  obtain rfl : first = key := Option.some.inj (Eq.trans (by decide +kernel) found)
  exact ⟨config, broker, accepted, usable, rfl, made, signs⟩

end Token.Broker

end ChatServer
