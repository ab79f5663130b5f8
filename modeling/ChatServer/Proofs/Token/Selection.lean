import ChatServer.Proofs.Token.Issuing
import ChatServer.Proofs.Token.Keys

/-! Only the key that a token names matters. The header of a token selects one secret before
anything else of the broker is looked at, and no other secret is tried afterwards. So brokers that
agree on that secret agree on the token, and everything else about their keys is free to change.
-/

namespace ChatServer.Token

-----------------------------------------------------------------------------------------
-- The key that a token names
-----------------------------------------------------------------------------------------

/-- The JSON value in the first of the three parts of a token. -/
def headerTree? (token : String) : Option Json.Tree :=
  (Parts.ofBytes? (Text.utf8 token)).bind fun parts => decodePart parts.header

/-- The text under which a header names a key. Of several members with the key the last counts, and
what is no text counts as missing.
-/
def keyText? (tree : Json.Tree) : Option String :=
  (tree.members?.bind (Json.last? "kid")).bind Json.Tree.string?

/-- The header of a token names a key by an id that is not empty. -/
def Names (token id : String) : Prop :=
  id ≠ "" ∧ ∃ tree, headerTree? token = some tree ∧ keyText? tree = some id

/-- The header of a token names no key: the id is missing, empty or no text. -/
def NamesNone (token : String) : Prop :=
  ∃ tree, headerTree? token = some tree ∧ (keyText? tree = none ∨ keyText? tree = some "")

/-- The lenient reading takes the id of the key as it stands, but for an empty one. -/
theorem Header.keyId_of_ofTree {tree : Json.Tree} {header : Header}
    (read : Header.ofTree tree = .ok header)
    : header.keyId = (keyText? tree).filter (· ≠ "") := by
  unfold ofTree at read
  simp only at read
  split at read
  next => cases read
  next =>
    cases read
    cases object : tree.members? with
    | none => simp only [keyText?, object, Option.getD_none, Option.bind_none]; rfl
    | some members => simp only [keyText?, object, Option.getD_some, Option.bind_some]

/-- What the lenient reading of a token finds is what the token names. -/
theorem Header.names_of_inspect {token : String} {header : Header}
    (inspected : Header.inspect token = .ok header)
    : (∀ id, header.keyId = some id → Names token id)
      ∧ (header.keyId = none → NamesNone token) := by
  obtain ⟨_, parts, tree, cut, decoded, read⟩ := Header.inspect_eq_ok inspected
  have held : headerTree? token = some tree := by
    rw [headerTree?, cut, Option.bind_some, decoded]
  have chosen := Header.keyId_of_ofTree read
  refine ⟨?_, ?_⟩
  · intro id named
    obtain ⟨written, nonempty⟩ := Option.filter_eq_some_iff.mp (chosen.symm.trans named)
    exact ⟨by simpa using nonempty, tree, held, written⟩
  · intro unnamed
    refine ⟨tree, held, ?_⟩
    cases written : keyText? tree with
    | none => exact .inl rfl
    | some id =>
        have empty := Option.filter_eq_none_iff.mp (chosen.symm.trans unnamed) id written
        exact .inr (by simpa using empty)

theorem headerTree?_encode (key : SigningKey) (claims : TokenClaims)
    : headerTree? (Broker.encode key claims) = some (Header.treeOf key.id) := by
  rw [headerTree?, Parts.ofBytes?_encode, Option.bind_some]
  exact (decodePart_encode _).trans (Header.parse_write key.id)

theorem keyText?_treeOf (id : String) : keyText? (Header.treeOf id) = some id := by
  rw [keyText?, Header.members?_treeOf, Option.bind_some, Json.last?,
    (Header.valuesOf_treeOf id).2]
  exact Json.Tree.string?_ofText id

/-- An issued token names the key that it was signed with, and no other. -/
theorem names_encode_iff {key : SigningKey} (named : key.id ≠ "") (claims : TokenClaims)
    (id : String)
    : Names (Broker.encode key claims) id ↔ id = key.id := by
  constructor
  · rintro ⟨_, tree, held, written⟩
    obtain rfl := Option.some.inj ((headerTree?_encode key claims).symm.trans held)
    exact Option.some.inj (written.symm.trans (keyText?_treeOf key.id))
  · rintro rfl
    exact ⟨named, _, headerTree?_encode key claims, keyText?_treeOf key.id⟩

theorem not_namesNone_encode {key : SigningKey} (named : key.id ≠ "") (claims : TokenClaims)
    : ¬ NamesNone (Broker.encode key claims) := by
  rintro ⟨tree, held, unnamed⟩
  obtain rfl := Option.some.inj ((headerTree?_encode key claims).symm.trans held)
  rw [keyText?_treeOf] at unnamed
  rcases unnamed with none | empty
  · cases none
  · exact named (Option.some.inj empty)

namespace Broker

-----------------------------------------------------------------------------------------
-- Brokers that agree on one secret
-----------------------------------------------------------------------------------------

/-- The secret of the key with an id, if there is one. -/
def secretOf? (broker : Broker) (id : String) : Option Secret :=
  (KeySet.find? broker.keys.keys id).map (·.secret)

/-- Two brokers allow clocks the same difference and agree on the one secret that a token selects,
which neither of them needs to have. Nothing is asked where no header can be read.
-/
structure AgreeOn (token : String) (first second : Broker) : Prop where
  clockSkew : first.clockSkew = second.clockSkew
  named : ∀ id, Names token id → first.secretOf? id = second.secretOf? id
  unnamed : NamesNone token → first.legacySecret = second.legacySecret

/-- Brokers that agree on what a token selects find the same secret for its header. -/
theorem AgreeOn.secretFor?_eq {token : String} {first second : Broker} {header : Header}
    (agree : AgreeOn token first second) (inspected : Header.inspect token = .ok header)
    : first.secretFor? header.keyId = second.secretFor? header.keyId := by
  obtain ⟨named, unnamed⟩ := Header.names_of_inspect inspected
  cases chosen : header.keyId with
  | none => exact agree.unnamed (unnamed chosen)
  | some id => exact agree.named id (named id chosen)

/-- Brokers that agree on what a token selects verify it alike. -/
theorem AgreeOn.verify_eq {token : String} {first second : Broker}
    (agree : AgreeOn token first second) (now : Int)
    : first.verify now token = second.verify now token := by
  unfold verify
  cases inspected : Header.inspect token with
  | error fault => rfl
  | ok header =>
      simp only [Except.toOption, Option.bind_eq_bind, Option.bind_some,
        agree.secretFor?_eq inspected, agree.clockSkew]

/-- Brokers with the same keys under an id have the same secret under it. -/
theorem secretOf?_congr {first second : Broker} {id : String}
    (distinct : Config.HasDistinctIds second.keys.keys)
    (same : ∀ key, key.id = id → (key ∈ first.keys.keys ↔ key ∈ second.keys.keys))
    : first.secretOf? id = second.secretOf? id := by
  unfold secretOf?
  cases found : KeySet.find? first.keys.keys id with
  | none =>
      have absent : KeySet.find? second.keys.keys id = none := by
        rw [KeySet.find?_eq_none_iff] at found ⊢
        intro member
        obtain ⟨key, here, named⟩ := List.mem_map.mp member
        exact found (List.mem_map.mpr ⟨key, (same key named).mpr here, named⟩)
      rw [absent]
  | some key =>
      have named : key.id = id := by simpa using List.find?_some found
      have here := (same key named).mp (List.mem_of_find?_eq_some found)
      rw [← named, KeySet.find?_of_mem distinct here]

-----------------------------------------------------------------------------------------
-- Changes to other keys
-----------------------------------------------------------------------------------------

/-- Only the named key matters: brokers that agree on the one secret that a token selects verify it
alike, whatever text the token is. So a broker verifies a token as before after any change of its
key set, its signing key and its lifetime that keeps the keys under the id which the token names;
where it names none, any change at all.
-/
theorem verify_depends_on_named_key (now : Int) (token : String)
    : (∀ first second : Broker, AgreeOn token first second →
          first.verify now token = second.verify now token)
      ∧ ∀ (broker : Broker) (keys : KeySet) (lifetime : Nat),
          Config.HasDistinctIds broker.keys.keys →
          (∀ key, Names token key.id → (key ∈ keys.keys ↔ key ∈ broker.keys.keys)) →
            ({ broker with keys, lifetime } : Broker).verify now token
              = broker.verify now token := by
  refine ⟨fun first second agree => agree.verify_eq now, ?_⟩
  intro broker keys lifetime distinct kept
  have agree : AgreeOn token { broker with keys, lifetime } broker := {
    clockSkew := rfl
    named := by
      intro id named
      refine secretOf?_congr distinct ?_
      rintro key rfl
      exact kept key named
    unnamed := fun _ => rfl
  }
  exact agree.verify_eq now

/-- A token that a broker issued. It is verified as before when the other key gets a new secret, a
third key comes first and signs from then on, and the lifetime changes; and a broker with a secret
for tokens that name no key verifies it alike.
-/
theorem verify_depends_on_named_key_of_rotation
    : let named : SigningKey := ⟨"k", ⟨"s"⟩⟩
      let broker : Broker := ⟨⟨[named, ⟨"other", ⟨"first"⟩⟩], named⟩, none, 60, 0⟩
      let newest : SigningKey := ⟨"newest", ⟨"third"⟩⟩
      let keys : KeySet := ⟨[newest, ⟨"other", ⟨"second"⟩⟩, named], newest⟩
      let legacy : Broker := { broker with legacySecret := some ⟨"legacy"⟩ }
      let token := encode named ⟨"u", "a@b", 1, 2⟩
      AgreeOn token legacy broker
        ∧ legacy.verify 2 token = .ok ⟨"u", "a@b", 1, 2, some "k"⟩
        ∧ ({ broker with keys, lifetime := 5 } : Broker).verify 2 token
          = .ok ⟨"u", "a@b", 1, 2, some "k"⟩ := by
  intro named broker newest keys legacy token
  have small : (Text.utf8 token).length ≤ maxSize := by
    rw [utf8_encode]
    decide +kernel
  have settled : Identity.normalize "a@b" = "a@b" := by decide +kernel
  have known : broker.secretFor? (some named.id) = some named.secret := by decide +kernel
  have accepted : broker.verify 2 token = .ok ⟨"u", "a@b", 1, 2, some "k"⟩ := by
    rw [verify_encode 2 (by decide) small known (by decide) (by decide), settled,
      if_pos (by decide)]
  have named_iff := names_encode_iff (show named.id ≠ "" by decide) ⟨"u", "a@b", 1, 2⟩
  have agree : AgreeOn token legacy broker := {
    clockSkew := rfl
    named := fun _ _ => rfl
    unnamed := fun unnamed => absurd unnamed (not_namesNone_encode (by decide) _)
  }
  have kept : ∀ key, Names token key.id → (key ∈ keys.keys ↔ key ∈ broker.keys.keys) := by
    intro key names
    have sameId : key.id = "k" := (named_iff key.id).mp names
    simp only [keys, broker, List.mem_cons, List.not_mem_nil, or_false]
    constructor
    · rintro (rfl | rfl | rfl)
      · exact absurd sameId (by decide)
      · exact absurd sameId (by decide)
      · exact .inl rfl
    · rintro (rfl | rfl)
      · exact .inr (.inr rfl)
      · exact absurd sameId (by decide)
  have distinct : Config.HasDistinctIds broker.keys.keys := by
    unfold Config.HasDistinctIds
    decide
  obtain ⟨agreed, rotated⟩ := verify_depends_on_named_key 2 token
  refine ⟨agree, (agreed legacy broker agree).trans accepted, ?_⟩
  exact (rotated broker keys 5 distinct kept).trans accepted

end Broker

end ChatServer.Token
