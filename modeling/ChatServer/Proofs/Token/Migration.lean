import ChatServer.Proofs.Config.Plain
import ChatServer.Proofs.Token.Issuing
import ChatServer.Proofs.Token.Keys

/-! From a single secret to a list of keys. The tokens that were issued with the single secret name
the key under its default id, so what becomes of them depends on the list alone: with the secret
under that id all of them stay valid, and without the id all of them are refused. That the secret
is kept for tokens that name no key makes no difference to them.
-/

namespace ChatServer.Token.Broker

-----------------------------------------------------------------------------------------
-- Brokers that know the same secrets
-----------------------------------------------------------------------------------------

/-- A broker that knows at least the secrets of another one verifies at least the same tokens. -/
theorem verify_of_known {old new : Broker} {t : Int} {token : String} {claims : Claims}
    (known : ∀ keyId secret, old.secretFor? keyId = some secret →
      new.secretFor? keyId = some secret)
    (skew : new.clockSkew = old.clockSkew) (verified : old.verify t token = .ok claims)
    : new.verify t token = .ok claims := by
  obtain ⟨header, secret, made, inspected, chosen, read, early, named, rfl⟩ :=
    verify_eq_ok verified
  have valid : (isIssuedInTime t new.clockSkew made.issuedAt
      && decide (Identity.normalize made.email ≠ "")) = true := by
    rw [skew, Bool.and_eq_true]
    exact ⟨decide_eq_true early, decide_eq_true named⟩
  unfold verify
  simp only [inspected, Except.toOption, Option.bind_eq_bind, Option.bind_some,
    known _ _ chosen, read, valid, if_true]

/-- A token that names a key which the broker does not know is refused. -/
theorem verify_encode_of_unknown {broker : Broker} {key : SigningKey} {claims : TokenClaims}
    (t : Int) (named : key.id ≠ "") (unknown : broker.secretFor? (some key.id) = none)
    : broker.verify t (encode key claims) = .error .refused := by
  by_cases small : (Text.utf8 (encode key claims)).length ≤ maxSize
  · simp only [verify, Header.inspect_encode named small, Except.toOption, Option.bind_eq_bind,
      Option.bind_some, unknown, Option.bind_none]
  · exact verify_of_large (Nat.lt_of_not_le small) broker t

-----------------------------------------------------------------------------------------
-- The move
-----------------------------------------------------------------------------------------

/-- The settings before have a single secret and no list of keys, and those after keep it. -/
structure KeepsSecret (before after : Settings) (secret : String) : Prop where
  noList : Config.keyListOf before = none
  single : before.lookup Config.secretSetting = some secret
  kept : after.lookup Config.secretSetting = some secret

theorem secretOf_of_lookup {settings : Settings} {secret : String} (nonempty : secret ≠ "")
    (set : settings.lookup Config.secretSetting = some secret)
    : Config.secretOf settings = some ⟨secret⟩ := by
  rw [Config.secretOf, set, Option.filter_some, if_pos (decide_eq_true nonempty)]
  rfl

/-- Settings without a list of keys are only accepted with a secret. -/
theorem secret_ne_empty {settings : Settings} {config : Config} {secret : String}
    (accepted : Config.ofSettings settings = .ok config)
    (noList : Config.keyListOf settings = none)
    (set : settings.lookup Config.secretSetting = some secret)
    : secret ≠ "" := by
  rintro rfl
  obtain ⟨choice, chosen, _⟩ := Config.ofSettings_eq_ok accepted
  have none : Config.secretOf settings = none := by
    rw [Config.secretOf, set]
    rfl
  rw [Config.chooseKeys, noList, none] at chosen
  cases chosen

/-- The broker of a single secret knows it under the default id and for tokens that name no key,
and signs under that id.
-/
theorem ofConfig_of_single {settings : Settings} {config : Config} {secret : String}
    (accepted : Config.ofSettings settings = .ok config)
    (noList : Config.keyListOf settings = none)
    (set : settings.lookup Config.secretSetting = some secret)
    : ∃ broker, ofConfig config = .ok broker
        ∧ broker.keys.keys = [⟨Config.defaultKeyId, ⟨secret⟩⟩]
        ∧ broker.keys.active = ⟨Config.defaultKeyId, ⟨secret⟩⟩
        ∧ broker.legacySecret = some ⟨secret⟩
        ∧ broker.clockSkew = config.clockSkew := by
  have nonempty := secret_ne_empty accepted noList set
  have found := secretOf_of_lookup nonempty set
  obtain ⟨choice, chosen, keys, _, _⟩ := Config.ofSettings_eq_ok accepted
  rw [Config.chooseKeys_of_single noList found] at chosen
  obtain rfl := Except.ok.inj chosen
  obtain ⟨broker, made, same, active, _, _, legacy, skew⟩ := ofConfig_of_accepted accepted
  rw [keys] at same active
  exact ⟨broker, made, same, List.mem_singleton.mp active, legacy.trans found, skew⟩

/-- After the move from a single secret to a list of keys, a list that has the secret under the
default id keeps valid what was valid before, with the same claims; a list without that id refuses
every token that was issued before.
-/
theorem verify_after_move {before after : Settings} {old new : Config} {secret : String}
    (oldAccepted : Config.ofSettings before = .ok old)
    (newAccepted : Config.ofSettings after = .ok new)
    (keeps : KeepsSecret before after secret) (skew : new.clockSkew = old.clockSkew)
    : ∃ oldBroker newBroker,
        ofConfig old = .ok oldBroker ∧ ofConfig new = .ok newBroker
        ∧ (⟨Config.defaultKeyId, ⟨secret⟩⟩ ∈ new.signingKeys →
            ∀ t token claims,
              oldBroker.verify t token = .ok claims → newBroker.verify t token = .ok claims)
        ∧ ((∀ key ∈ new.signingKeys, key.id ≠ Config.defaultKeyId) →
            ∀ now subject identity issued t,
              oldBroker.issue now subject identity = .returned (.ok issued) →
                newBroker.verify t issued.token = .error .refused) := by
  obtain ⟨oldBroker, oldMade, oldKeys, oldActive, oldLegacy, oldSkew⟩ :=
    ofConfig_of_single oldAccepted keeps.noList keeps.single
  obtain ⟨newBroker, newMade, newKeys, _, _, distinct, newLegacy, newSkew⟩ :=
    ofConfig_of_accepted newAccepted
  have nonempty := secret_ne_empty oldAccepted keeps.noList keeps.single
  refine ⟨oldBroker, newBroker, oldMade, newMade, ?_, ?_⟩
  · intro listed t token claims verified
    refine verify_of_known ?_ (by rw [newSkew, skew, oldSkew]) verified
    intro keyId found chosen
    cases keyId with
    | none =>
        rw [secretFor?, oldLegacy] at chosen
        obtain rfl := Option.some.inj chosen
        exact newLegacy.trans (secretOf_of_lookup nonempty keeps.kept)
    | some id =>
        obtain ⟨key, first, rfl⟩ := Option.map_eq_some_iff.mp chosen
        rw [oldKeys] at first
        have same : key = ⟨Config.defaultKeyId, ⟨secret⟩⟩ :=
          List.mem_singleton.mp (List.mem_of_find?_eq_some first)
        have named : key.id = id := by simpa using List.find?_some first
        rw [← newKeys, ← same] at listed
        rw [← named, secretFor?, KeySet.find?_of_mem distinct listed]
        rfl
  · intro unlisted now subject identity issued t returned
    obtain ⟨_, _, _, written⟩ := issue_eq_ok returned
    have unknown : newBroker.secretFor? (some oldBroker.keys.active.id) = none := by
      rw [secretFor?, newKeys, oldActive, KeySet.find?_eq_none_iff.mpr]
      · rfl
      · intro member
        obtain ⟨key, here, same⟩ := List.mem_map.mp member
        exact unlisted key here same
    have named : oldBroker.keys.active.id ≠ "" := by
      have default : Config.defaultKeyId ≠ "" := by decide
      rwa [oldActive]
    rw [written]
    exact verify_encode_of_unknown t named unknown

/-- A move that keeps the single secret under the default id of the list. -/
theorem verify_after_move_of_listed_default
    : let before : Settings := [("JWT_SECRET", "single-secret-single-secret-single")]
      let after : Settings := ("JWT_ACTIVE_KEY_ID", "k1") :: ("JWT_SIGNING_KEYS",
        "k1:first-secret-first-secret-first-se,default:single-secret-single-secret-single")
          :: before
      ∃ old new oldBroker newBroker,
        Config.ofSettings before = .ok old ∧ Config.ofSettings after = .ok new
        ∧ ofConfig old = .ok oldBroker ∧ ofConfig new = .ok newBroker
        ∧ ∀ t token claims,
            oldBroker.verify t token = .ok claims → newBroker.verify t token = .ok claims := by
  intro before after
  let single : SigningKey := ⟨Config.defaultKeyId, ⟨"single-secret-single-secret-single"⟩⟩
  let first : SigningKey := ⟨"k1", ⟨"first-secret-first-secret-first-se"⟩⟩
  let old := Config.plain [single] Config.defaultKeyId (some single.secret)
  let new := Config.plain [first, single] "k1" (some single.secret)
  have oldAccepted : Config.ofSettings before = .ok old :=
    eq_ok_of_toOption (by decide +kernel)
  have newAccepted : Config.ofSettings after = .ok new :=
    eq_ok_of_toOption (by decide +kernel)
  obtain ⟨oldBroker, newBroker, oldMade, newMade, stays, _⟩ :=
    verify_after_move oldAccepted newAccepted ⟨rfl, rfl, rfl⟩ rfl
  exact ⟨old, new, oldBroker, newBroker, oldAccepted, newAccepted, oldMade, newMade,
    stays (List.mem_cons_of_mem first (List.mem_singleton_self single))⟩

/-- A token that was issued with the single secret is refused after the move to a list that has
another key only, although the secret is kept for tokens that name no key.
-/
theorem issued_token_refused_after_move
    : let before : Settings := [("JWT_SECRET", "legacy-secret-legacy-secret-legacy-secret")]
      let after : Settings := ("JWT_ACTIVE_KEY_ID", "k1") :: ("JWT_SIGNING_KEYS",
        "k1:first-secret-first-secret-first-secret!!") :: before
      ∃ old new oldBroker newBroker issued,
        Config.ofSettings before = .ok old ∧ Config.ofSettings after = .ok new
        ∧ new.clockSkew = old.clockSkew
        ∧ ofConfig old = .ok oldBroker ∧ ofConfig new = .ok newBroker
        ∧ oldBroker.issue ⟨1700000000, 0⟩ "u" "A@B" = .returned (.ok issued)
        ∧ oldBroker.verify 1700000000 issued.token
          = .ok ⟨"u", "a@b", 1700000000, 1700086400, some "default"⟩
        ∧ newBroker.verify 1700000000 issued.token = .error .refused := by
  intro before after
  let single : SigningKey := ⟨"default", ⟨"legacy-secret-legacy-secret-legacy-secret"⟩⟩
  let first : SigningKey := ⟨"k1", ⟨"first-secret-first-secret-first-secret!!"⟩⟩
  let old := Config.plain [single] "default" (some single.secret)
  let new := Config.plain [first] "k1" (some single.secret)
  let oldBroker : Broker := ⟨⟨[single], single⟩, some single.secret, 86400, 300⟩
  let newBroker : Broker := ⟨⟨[first], first⟩, some single.secret, 86400, 300⟩
  let claims : TokenClaims := ⟨"u", "a@b", 1700000000, 1700086400⟩
  have oldAccepted : Config.ofSettings before = .ok old :=
    eq_ok_of_toOption (by decide +kernel)
  have newAccepted : Config.ofSettings after = .ok new :=
    eq_ok_of_toOption (by decide +kernel)
  have normalized : Identity.normalize "A@B" = "a@b" := by decide +kernel
  have settled : Identity.normalize "a@b" = "a@b" := by decide +kernel
  have returned : oldBroker.issue ⟨1700000000, 0⟩ "u" "A@B"
      = .returned (.ok ⟨encode single claims, ⟨1700086400, 0⟩⟩) := by
    have expires : (1700000000 : Int) + (oldBroker.lifetime : Nat) = 1700086400 := by decide
    rw [issue_of_named (by rw [normalized]; decide) (by decide) (by decide) (by decide),
      normalized, expires]
  have small : (Text.utf8 (encode single claims)).length ≤ maxSize := by
    rw [utf8_encode]
    decide +kernel
  have known : oldBroker.secretFor? (some single.id) = some single.secret := by decide +kernel
  have issued : 0 ≤ claims.issuedAt ∧ claims.issuedAt ≤ Int64.maxValue.toInt := by decide
  have expires : 0 ≤ claims.expiresAt ∧ claims.expiresAt ≤ Int64.maxValue.toInt := by decide
  have verified := verify_encode 1700000000 (by decide) small known issued expires
  rw [settled, if_pos (by decide +kernel)] at verified
  exact ⟨old, new, oldBroker, newBroker, _, oldAccepted, newAccepted, rfl, rfl, rfl, returned,
    verified, verify_encode_of_unknown 1700000000 (by decide) rfl⟩

end ChatServer.Token.Broker
