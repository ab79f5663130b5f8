import ChatServer.Proofs.Config.Reading
import ChatServer.Token.Broker

/-! The keys that settings choose. A list of keys that is accepted has an id for each key, and the
key that signs is one of them, so accepted settings always make a broker, and its broker finds each
key under its own id.
-/

namespace ChatServer

namespace Config

-----------------------------------------------------------------------------------------
-- Lists of keys
-----------------------------------------------------------------------------------------

/-- No two keys have the same id. -/
def HasDistinctIds (keys : List SigningKey) : Prop :=
  (keys.map (·.id)).Nodup

theorem hasDistinctIds_nil : HasDistinctIds [] :=
  List.nodup_nil

theorem hasDistinctIds_singleton (key : SigningKey) : HasDistinctIds [key] := by
  simp [HasDistinctIds]

/-- The id of a key that could be read is not empty. -/
theorem id_ne_empty_of_parseKey {entry : List Char} {key : SigningKey}
    (parsed : parseKey entry = .ok key)
    : key.id ≠ "" := by
  unfold parseKey at parsed
  split at parsed
  next => cases parsed
  next id secret _ =>
    split at parsed
    next => cases parsed
    next nonempty =>
      cases parsed
      intro empty
      exact nonempty (by simpa using congrArg String.toList empty)

/-- A key is added under an id that no key has yet. -/
theorem addKey_eq_ok {keys after : List SigningKey} {entry : List Char}
    (added : addKey keys entry = .ok after)
    : ∃ key, parseKey entry = .ok key ∧ after = keys ++ [key] ∧ key.id ∉ keys.map (·.id) := by
  obtain ⟨key, parsed, added⟩ := eq_ok_of_bind added
  split at added
  next => cases added
  next fresh =>
    cases added
    refine ⟨key, parsed, rfl, fun member => fresh ?_⟩
    obtain ⟨other, here, same⟩ := List.mem_map.mp member
    exact List.any_eq_true.mpr ⟨other, here, beq_iff_eq.mpr same⟩

theorem HasDistinctIds.addKey {keys after : List SigningKey} {entry : List Char}
    (distinct : HasDistinctIds keys) (added : Config.addKey keys entry = .ok after)
    : HasDistinctIds after := by
  obtain ⟨key, _, rfl, fresh⟩ := addKey_eq_ok added
  unfold HasDistinctIds at distinct ⊢
  rw [List.map_append, List.nodup_append]
  refine ⟨distinct, hasDistinctIds_singleton key, ?_⟩
  intro id member other single same
  rw [same, List.mem_singleton.mp single] at member
  exact fresh member

/-- No key has an empty id. -/
def HasNamedKeys (keys : List SigningKey) : Prop :=
  ∀ key ∈ keys, key.id ≠ ""

theorem HasNamedKeys.addKey {keys after : List SigningKey} {entry : List Char}
    (named : HasNamedKeys keys) (added : Config.addKey keys entry = .ok after)
    : HasNamedKeys after := by
  obtain ⟨key, parsed, rfl, _⟩ := addKey_eq_ok added
  intro other member
  rcases List.mem_append.mp member with old | new
  · exact named other old
  · rw [List.mem_singleton.mp new]
    exact id_ne_empty_of_parseKey parsed

/-- What every added key keeps, a whole list of entries keeps, by induction on the entries. -/
theorem foldlM_addKey {kept : List SigningKey → Prop}
    (step : ∀ {keys after entry}, kept keys → addKey keys entry = .ok after → kept after)
    {keys after : List SigningKey} {entries : List (List Char)} (start : kept keys)
    (added : entries.foldlM addKey keys = .ok after)
    : kept after := by
  induction entries generalizing keys with
  | nil =>
      cases added
      exact start
  | cons entry entries ih =>
      obtain ⟨middle, first, rest⟩ := eq_ok_of_bind added
      exact ih (step start first) rest

theorem parseKeys_sound {text : String} {keys : List SigningKey}
    (parsed : parseKeys text = .ok keys)
    : HasDistinctIds keys ∧ HasNamedKeys keys := by
  obtain ⟨read, folded, parsed⟩ := eq_ok_of_bind parsed
  split at parsed
  next => cases parsed
  next =>
    cases parsed
    exact ⟨foldlM_addKey HasDistinctIds.addKey hasDistinctIds_nil folded,
      foldlM_addKey HasNamedKeys.addKey (List.forall_mem_nil _) folded⟩

-----------------------------------------------------------------------------------------
-- The choice of keys
-----------------------------------------------------------------------------------------

/-- The keys have different ids, and the one that signs is among them. -/
structure KeyChoice.IsSound (choice : KeyChoice) : Prop where
  distinct : HasDistinctIds choice.keys
  active : ∃ key ∈ choice.keys, key.id = choice.activeId

/-- Keys are chosen in one of two ways: from a list that holds the key that signs, or as the single
secret, which is then the secret for tokens that name no key too. A single secret beside a list is
kept for tokens that name no key.
-/
theorem chooseKeys_cases {settings : Settings} {choice : KeyChoice}
    (chosen : chooseKeys settings = .ok choice)
    : choice.legacy = secretOf settings
      ∧ ((∃ text, keyListOf settings = some text ∧ parseKeys text = .ok choice.keys
            ∧ activeIdOf settings = some choice.activeId
            ∧ ∃ key ∈ choice.keys, key.id = choice.activeId)
        ∨ (keyListOf settings = none ∧ ∃ secret, secretOf settings = some secret
            ∧ choice.keys = [⟨defaultKeyId, secret⟩] ∧ choice.activeId = defaultKeyId)) := by
  unfold chooseKeys at chosen
  split at chosen
  next text listed =>
    obtain ⟨keys, parsed, chosen⟩ := eq_ok_of_bind chosen
    split at chosen
    next => cases chosen
    next activeId active =>
      split at chosen
      next present =>
        cases chosen
        obtain ⟨key, member, same⟩ := List.any_eq_true.mp present
        exact ⟨rfl, .inl ⟨text, listed, parsed, active, key, member, beq_iff_eq.mp same⟩⟩
      next => cases chosen
  next unlisted =>
    split at chosen
    next => cases chosen
    next secret found =>
      cases chosen
      exact ⟨found.symm, .inr ⟨unlisted, secret, found, rfl, rfl⟩⟩

/-- Whatever keys settings choose, the choice is sound and keeps the secret of the single-secret
form for tokens that name no key.
-/
theorem chooseKeys_sound {settings : Settings} {choice : KeyChoice}
    (chosen : chooseKeys settings = .ok choice)
    : choice.IsSound ∧ choice.legacy = secretOf settings := by
  obtain ⟨legacy, ⟨_, _, parsed, _, active⟩ | ⟨_, _, _, keys, activeId⟩⟩ :=
    chooseKeys_cases chosen
  · exact ⟨⟨(parseKeys_sound parsed).1, active⟩, legacy⟩
  · refine ⟨⟨?_, ?_⟩, legacy⟩
    · rw [keys]
      exact hasDistinctIds_singleton _
    · rw [keys, activeId]
      exact ⟨_, List.mem_singleton_self _, rfl⟩

/-- No key that settings choose has an empty id. -/
theorem chooseKeys_named {settings : Settings} {choice : KeyChoice}
    (chosen : chooseKeys settings = .ok choice)
    : HasNamedKeys choice.keys := by
  obtain ⟨_, ⟨_, _, parsed, _⟩ | ⟨_, _, _, keys, _⟩⟩ := chooseKeys_cases chosen
  · exact (parseKeys_sound parsed).2
  · have default : defaultKeyId ≠ "" := by decide
    intro key member
    rw [keys] at member
    rwa [List.mem_singleton.mp member]

/-- Without a list of keys, the single secret is the only key. -/
theorem chooseKeys_of_single {settings : Settings} {secret : Secret}
    (noList : keyListOf settings = none) (single : secretOf settings = some secret)
    : chooseKeys settings = .ok ⟨[⟨defaultKeyId, secret⟩], defaultKeyId, some secret⟩ := by
  unfold chooseKeys
  rw [noList, single]
  rfl

theorem ofSettings_eq_ok {settings : Settings} {config : Config}
    (accepted : ofSettings settings = .ok config)
    : ∃ choice, chooseKeys settings = .ok choice
        ∧ config.signingKeys = choice.keys
        ∧ config.activeKeyId = choice.activeId
        ∧ config.legacySecret = choice.legacy := by
  obtain ⟨choice, chosen, _, same⟩ := (isReadFrom_of_ofSettings accepted).keys
  exact ⟨choice, chosen, same⟩

/-- An accepted skew of clocks is not too large. -/
theorem clockSkew_le {settings : Settings} {config : Config}
    (accepted : ofSettings settings = .ok config)
    : config.clockSkew ≤ maxClockSkew :=
  le_of_readClockSkew (isReadFrom_of_ofSettings accepted).clockSkew

end Config

namespace Token

-----------------------------------------------------------------------------------------
-- Key sets
-----------------------------------------------------------------------------------------

namespace KeySet

theorem find?_eq_none_iff {keys : List SigningKey} {id : String}
    : find? keys id = none ↔ id ∉ keys.map (·.id) := by
  simp [find?]

/-- Among keys with different ids, a key is found under its own. -/
theorem find?_of_mem {keys : List SigningKey} {key : SigningKey}
    (distinct : Config.HasDistinctIds keys) (member : key ∈ keys)
    : find? keys key.id = some key := by
  induction keys with
  | nil => cases member
  | cons first keys ih =>
      obtain ⟨fresh, distinct⟩ := List.nodup_cons.mp distinct
      rcases List.mem_cons.mp member with rfl | later
      · exact List.find?_cons_of_pos (beq_self_eq_true key.id)
      · have other : first.id ≠ key.id :=
          fun same => fresh (List.mem_map.mpr ⟨key, later, same.symm⟩)
        have passed : find? (first :: keys) key.id = find? keys key.id :=
          List.find?_cons_of_neg (by simpa using other)
        exact passed.trans (ih distinct later)

/-- Ids that are different from each other and from the earlier ones are not repeated. -/
theorem firstRepeated?_eq_none {earlier keys : List SigningKey}
    (distinct : Config.HasDistinctIds keys)
    (fresh : ∀ key ∈ keys, key.id ∉ earlier.map (·.id))
    : firstRepeated? earlier keys = none := by
  induction keys generalizing earlier with
  | nil => rfl
  | cons key keys ih =>
      obtain ⟨new, distinct⟩ := List.nodup_cons.mp distinct
      obtain ⟨first, rest⟩ := List.forall_mem_cons.mp fresh
      rw [firstRepeated?, find?_eq_none_iff.mpr first]
      refine ih distinct fun other member => ?_
      rw [List.map_cons, List.mem_cons, not_or]
      exact ⟨fun same => new (List.mem_map.mpr ⟨other, member, same⟩), rest other member⟩

end KeySet

/-- Accepted settings make a broker with their keys, their secret for tokens that name none, and
their clock skew.
-/
theorem Broker.ofConfig_of_accepted {settings : Settings} {config : Config}
    (accepted : Config.ofSettings settings = .ok config)
    : ∃ broker, ofConfig config = .ok broker
        ∧ broker.keys.keys = config.signingKeys
        ∧ broker.keys.active ∈ config.signingKeys
        ∧ broker.keys.active.id = config.activeKeyId
        ∧ Config.HasDistinctIds broker.keys.keys
        ∧ broker.legacySecret = Config.secretOf settings
        ∧ broker.clockSkew = config.clockSkew := by
  obtain ⟨choice, chosen, keys, activeId, legacy⟩ := Config.ofSettings_eq_ok accepted
  obtain ⟨⟨distinct, active, member, named⟩, secret⟩ := Config.chooseKeys_sound chosen
  have found : KeySet.find? choice.keys choice.activeId = some active :=
    named ▸ KeySet.find?_of_mem distinct member
  have nonempty : choice.keys.isEmpty = false := by
    rw [List.isEmpty_eq_false_iff]
    exact List.ne_nil_of_mem member
  have set : KeySet.ofKeys config.signingKeys config.activeKeyId
      = .ok ⟨choice.keys, active⟩ := by
    rw [keys, activeId, KeySet.ofKeys, KeySet.firstRepeated?_eq_none distinct (by simp)]
    simp only [nonempty, Bool.false_eq_true, if_false, found]
  refine ⟨⟨⟨choice.keys, active⟩, config.legacySecret, config.tokenLifetime, config.clockSkew⟩,
    ?_, keys.symm, keys ▸ member, named.trans activeId.symm, distinct, legacy.trans secret, rfl⟩
  rw [ofConfig, set]
  rfl

end Token

end ChatServer
