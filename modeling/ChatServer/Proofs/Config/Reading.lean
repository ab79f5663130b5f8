import ChatServer.Config
import ChatServer.Proofs.Results

/-! What was read, setting by setting. A configuration is accepted only if every one of its parts
was, so each part of an accepted configuration is what its own reader returned, and has passed the
check of that reader.
-/

namespace ChatServer

namespace Config

-----------------------------------------------------------------------------------------
-- Single readers
-----------------------------------------------------------------------------------------

/-- A number that had to be positive is. -/
theorem NumberSetting.pos_of_readPositive {setting : NumberSetting} {settings : Settings} {n : Nat}
    (accepted : setting.readPositive settings = .ok n)
    : 0 < n := by
  obtain ⟨_, _, checked⟩ := eq_ok_of_bind accepted
  split at checked
  next => cases checked
  next nonzero =>
    cases checked
    exact Nat.pos_of_ne_zero nonzero

theorem le_of_readClockSkew {settings : Settings} {skew : Nat}
    (accepted : readClockSkew settings = .ok skew)
    : skew ≤ maxClockSkew := by
  obtain ⟨_, _, checked⟩ := eq_ok_of_bind accepted
  split at checked
  next => cases checked
  next within =>
    cases checked
    exact Nat.not_lt.mp within

theorem isNewCost_of_readPasswordCost {settings : Settings} {cost : Nat}
    (accepted : readPasswordCost settings = .ok cost)
    : Password.isNewCost cost = true := by
  obtain ⟨_, _, checked⟩ := eq_ok_of_bind accepted
  split at checked
  next within =>
    cases checked
    exact within
  next => cases checked

theorem minSecretSize_le_of_checkSecret {owner : SecretOwner} {secret : Secret}
    (accepted : checkSecret owner secret = .ok ())
    : minSecretSize ≤ secret.size := by
  unfold checkSecret at accepted
  split at accepted
  next => cases accepted
  next long => exact Nat.not_lt.mp long

/-- No secret of an accepted choice is short, the legacy secret included. -/
theorem minSecretSize_le_of_checkSecrets {choice : KeyChoice}
    (accepted : checkSecrets choice = .ok ())
    : (∀ key ∈ choice.keys, minSecretSize ≤ key.secret.size)
      ∧ ∀ secret ∈ choice.legacy, minSecretSize ≤ secret.size := by
  obtain ⟨_, keys, legacy⟩ := eq_ok_of_bind accepted
  exact ⟨fun key member => minSecretSize_le_of_checkSecret (ok_of_forM keys key member),
    fun secret member => minSecretSize_le_of_checkSecret
      (ok_of_forM legacy secret (Option.mem_toList.mpr member))⟩

/-- The path that a setting names; an empty one is none. -/
def IsPathOf (settings : Settings) (name : String) (path : String) : Prop :=
  settings.lookup name = some path ∧ path ≠ ""

theorem isPathOf_iff {settings : Settings} {name path : String}
    : (settings.lookup name).filter (· ≠ "") = some path ↔ IsPathOf settings name path := by
  simp [IsPathOf, Option.filter_eq_some_iff]

/-- Both paths of a TLS identity are set, or neither is. -/
def HasBothPaths (settings : Settings) : Option TlsFiles → Prop
  | some files => IsPathOf settings certificateSetting files.certificate
    ∧ IsPathOf settings tlsKeySetting files.key
  | none => ∀ path, ¬IsPathOf settings certificateSetting path
    ∧ ¬IsPathOf settings tlsKeySetting path

theorem hasBothPaths_of_readTls {settings : Settings} {tls : Option TlsFiles}
    (accepted : readTls settings = .ok tls)
    : HasBothPaths settings tls := by
  unfold readTls at accepted
  dsimp only at accepted
  split at accepted
  next certificate key =>
    cases accepted
    exact ⟨isPathOf_iff.mp certificate, isPathOf_iff.mp key⟩
  next certificate key =>
    cases accepted
    intro path
    constructor
    · intro set
      exact Option.some_ne_none path ((isPathOf_iff.mpr set).symm.trans certificate)
    · intro set
      exact Option.some_ne_none path ((isPathOf_iff.mpr set).symm.trans key)
  next => cases accepted

-----------------------------------------------------------------------------------------
-- All of them
-----------------------------------------------------------------------------------------

/-- Every part of the configuration is what its reader returns for the settings. -/
structure IsReadFrom (settings : Settings) (config : Config) : Prop where
  keys : ∃ choice, chooseKeys settings = .ok choice
    ∧ checkSecrets choice = .ok ()
    ∧ config.signingKeys = choice.keys
    ∧ config.activeKeyId = choice.activeId
    ∧ config.legacySecret = choice.legacy
  tokenLifetime : tokenLifetimeSetting.readPositive settings = .ok config.tokenLifetime
  clockSkew : readClockSkew settings = .ok config.clockSkew
  passwordCost : readPasswordCost settings = .ok config.passwordCost
  requestsPerMinute : requestsPerMinuteSetting.readPositive settings = .ok config.requestsPerMinute
  burst : burstSetting.readPositive settings = .ok config.burst
  idleWindow : idleWindowSetting.read settings = .ok config.idleWindow
  sweepInterval : sweepIntervalSetting.readPositive settings = .ok config.sweepInterval
  rpcAddress : config.rpcAddress = (settings.lookup rpcAddressSetting).getD defaultRpcAddress
  healthAddress
    : config.healthAddress = (settings.lookup healthAddressSetting).getD defaultHealthAddress
  tls : readTls settings = .ok config.tls
  streamBuffer : streamBufferSetting.readPositive settings = .ok config.streamBuffer

/-- Accepting is a chain of readers, one after the other, and each of them has accepted. -/
theorem isReadFrom_of_ofSettings {settings : Settings} {config : Config}
    (accepted : ofSettings settings = .ok config)
    : IsReadFrom settings config := by
  obtain ⟨choice, chosen, accepted⟩ := eq_ok_of_bind accepted
  obtain ⟨_, checked, accepted⟩ := eq_ok_of_bind accepted
  obtain ⟨_, tokenLifetime, accepted⟩ := eq_ok_of_bind accepted
  obtain ⟨_, clockSkew, accepted⟩ := eq_ok_of_bind accepted
  obtain ⟨_, passwordCost, accepted⟩ := eq_ok_of_bind accepted
  obtain ⟨_, requestsPerMinute, accepted⟩ := eq_ok_of_bind accepted
  obtain ⟨_, burst, accepted⟩ := eq_ok_of_bind accepted
  obtain ⟨_, idleWindow, accepted⟩ := eq_ok_of_bind accepted
  obtain ⟨_, sweepInterval, accepted⟩ := eq_ok_of_bind accepted
  obtain ⟨_, tls, accepted⟩ := eq_ok_of_bind accepted
  obtain ⟨_, streamBuffer, accepted⟩ := eq_ok_of_bind accepted
  cases accepted
  exact ⟨⟨choice, chosen, checked, rfl, rfl, rfl⟩, tokenLifetime, clockSkew, passwordCost,
    requestsPerMinute, burst, idleWindow, sweepInterval, rfl, rfl, tls, streamBuffer⟩

end Config

end ChatServer
