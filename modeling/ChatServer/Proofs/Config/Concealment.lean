import Mathlib.Data.List.Forall2
import ChatServer.Proofs.Config.KeyLists

/-! Secrets that nobody is shown. Two starts of the service whose settings differ in the secrets
alone, but not in their sizes, cannot be told apart by what is reported of them: either both are
refused for the same reason, or the configurations and the brokers have the same descriptions.
-/

namespace ChatServer

-----------------------------------------------------------------------------------------
-- Two readings
-----------------------------------------------------------------------------------------

/-- Two readings come out alike: both fail for the same reason, or both succeed with results that
are related.
-/
inductive ReadAlike {ε α : Type} (related : α → α → Prop) : Except ε α → Except ε α → Prop where
  | fails (fault : ε) : ReadAlike related (.error fault) (.error fault)
  | answers {one other : α} (alike : related one other)
    : ReadAlike related (.ok one) (.ok other)

namespace ReadAlike

variable {ε α β : Type} {related : α → α → Prop} {relatedToo : β → β → Prop}

theorem of_eq {first second : Except ε α} (same : first = second)
    : ReadAlike (· = ·) first second := by
  subst same
  cases first with
  | error fault => exact .fails fault
  | ok value => exact .answers rfl

/-- Readings that come out alike go on alike. -/
theorem bind {first second : Except ε α} (alike : ReadAlike related first second)
    {next nextToo : α → Except ε β}
    (rest : ∀ ⦃one other⦄, related one other → ReadAlike relatedToo (next one) (nextToo other))
    : ReadAlike relatedToo (first >>= next) (second >>= nextToo) := by
  cases alike with
  | fails fault => exact .fails fault
  | answers alike => exact rest alike

/-- Related lists are taken in alike, by induction on them. -/
theorem foldlM {items others : List β} (alike : List.Forall₂ relatedToo items others)
    {one other : α} (start : related one other) {step : α → β → Except ε α}
    (next : ∀ ⦃one other item itemToo⦄, related one other → relatedToo item itemToo →
      ReadAlike related (step one item) (step other itemToo))
    : ReadAlike related (items.foldlM step one) (others.foldlM step other) := by
  induction alike generalizing one other with
  | nil => exact .answers start
  | cons first _ ih =>
      rw [List.foldlM_cons, List.foldlM_cons]
      exact (next start first).bind fun _ _ alike => ih alike

end ReadAlike

section Related

variable {α β : Type} {related : α → α → Prop} {relatedToo : β → β → Prop}

/-- A check that cannot tell related items apart comes to the same on related lists. -/
theorem forM_congr {ε : Type} {items others : List α} (alike : List.Forall₂ related items others)
    {check : α → Except ε Unit} (blind : ∀ ⦃one other⦄, related one other → check one = check other)
    : items.forM check = others.forM check := by
  induction alike with
  | nil => rfl
  | @cons one other _ _ first _ ih =>
      change (check one >>= fun _ => _) = (check other >>= fun _ => _)
      rw [blind first, ih]

theorem filter_related {one other : Option α} (alike : Option.Rel related one other)
    {kept : α → Bool} (blind : ∀ ⦃one other⦄, related one other → kept one = kept other)
    : Option.Rel related (one.filter kept) (other.filter kept) := by
  cases alike with
  | none => exact .none
  | some alike =>
      rw [Option.filter_some, Option.filter_some, blind alike]
      split
      next => exact .some alike
      next => exact .none

theorem map_related {one other : Option α} (alike : Option.Rel related one other) {f : α → β}
    (next : ∀ ⦃one other⦄, related one other → relatedToo (f one) (f other))
    : Option.Rel relatedToo (one.map f) (other.map f) := by
  cases alike with
  | none => exact .none
  | some alike => exact .some (next alike)

theorem toList_related {one other : Option α} (alike : Option.Rel related one other)
    : List.Forall₂ related one.toList other.toList := by
  cases alike with
  | none => exact .nil
  | some alike => exact .cons alike .nil

theorem isSome_related {one other : Option α} (alike : Option.Rel related one other)
    : one.isSome = other.isSome := by
  cases alike <;> rfl

end Related

/-- Secrets of one size. -/
def Secret.SameSize (one other : Secret) : Prop :=
  one.size = other.size

/-- Descriptions of secrets tell only whether there is one. -/
theorem Secret.map_describe {one other : Option Secret} (alike : Option.Rel SameSize one other)
    : one.map describe = other.map describe := by
  cases alike <;> rfl

/-- Keys of one id, whose secrets have one size. -/
structure SigningKey.SameButSecret (one other : SigningKey) : Prop where
  id : one.id = other.id
  secret : one.secret.SameSize other.secret

namespace Config

-----------------------------------------------------------------------------------------
-- Settings that differ in secrets
-----------------------------------------------------------------------------------------

/-- Pieces of a list of keys that are the same, or differ behind their first colon. What stands
there has one size in both and ends with no blank; the same blanks may follow it.
-/
inductive PiecesAlike : List Char → List Char → Prop where
  | same (piece : List Char) : PiecesAlike piece piece
  | differ {id after : List Char} {one other : String} (colon : ':' ∉ id)
      (size : one.utf8ByteSize = other.utf8ByteSize)
      (oneEnd : ∀ c ∈ one.toList.getLast?, Text.isBlank c = false)
      (otherEnd : ∀ c ∈ other.toList.getLast?, Text.isBlank c = false)
      (blank : Text.IsBlankText after)
    : PiecesAlike (id ++ ':' :: one.toList ++ after) (id ++ ':' :: other.toList ++ after)

/-- Lists of keys with the same number of pieces, which are alike one by one. -/
def ListsAlike (one other : String) : Prop :=
  List.Forall₂ PiecesAlike (Text.fields ',' one.toList) (Text.fields ',' other.toList)

/-- Settings that say the same, but for the secrets in the list of keys and the single secret, which
have one size in both.
-/
structure DifferInSecrets (first second : Settings) : Prop where
  secret : Option.Rel (fun one other => one.utf8ByteSize = other.utf8ByteSize)
    (first.lookup secretSetting) (second.lookup secretSetting)
  keys : Option.Rel ListsAlike (first.lookup keysSetting) (second.lookup keysSetting)
  rest : ∀ name, name ≠ secretSetting → name ≠ keysSetting →
    first.lookup name = second.lookup name

-----------------------------------------------------------------------------------------
-- Pieces
-----------------------------------------------------------------------------------------

namespace PiecesAlike

variable {piece other : List Char}

theorem symm (alike : PiecesAlike piece other) : PiecesAlike other piece := by
  cases alike with
  | same => exact .same piece
  | differ colon size oneEnd otherEnd blank =>
      exact .differ colon size.symm otherEnd oneEnd blank

/-- A blank piece has no colon, so it differs from none that is like it. -/
theorem eq_of_blank (alike : PiecesAlike piece other) (blank : Text.IsBlankText piece)
    : other = piece := by
  cases alike with
  | same => rfl
  | differ =>
      have colon : Text.isBlank ':' = true := blank ':' (by simp)
      exact absurd colon (by decide)

/-- Trimming takes the same blanks from both: those in front of the id, or of the colon if there is
no id, and those behind the secret.
-/
theorem trim (alike : PiecesAlike piece other)
    : PiecesAlike (Text.trim piece) (Text.trim other) := by
  cases alike with
  | same => exact .same _
  | @differ id after one other colon size oneEnd otherEnd blank =>
      have whole := List.takeWhile_append_dropWhile (p := Text.isBlank) (l := id)
      have ahead : Text.IsBlankText (id.takeWhile Text.isBlank) :=
        fun _ member => List.mem_takeWhile_imp member
      have trimmed {secret : List Char} (ending : ∀ c ∈ secret.getLast?, Text.isBlank c = false)
          : Text.trim (id ++ ':' :: secret ++ after)
            = id.dropWhile Text.isBlank ++ ':' :: secret := by
        have parts : id ++ ':' :: secret ++ after = id.takeWhile Text.isBlank
            ++ (id.dropWhile Text.isBlank ++ ':' :: secret) ++ after := by
          rw [← List.append_assoc, whole]
        rw [parts]
        exact Text.trim_between ahead
          (Text.hasSolidEnds_around (by decide) (fun _ => Text.head?_dropBlanks) ending) blank
      rw [trimmed oneEnd, trimmed otherEnd, ← List.append_nil (_ ++ ':' :: one.toList),
        ← List.append_nil (_ ++ ':' :: other.toList)]
      exact .differ (fun member => colon (whole ▸ List.mem_append_right _ member)) size oneEnd
        otherEnd Text.isBlankText_nil

theorem isEmpty_eq (alike : PiecesAlike piece other) : piece.isEmpty = other.isEmpty := by
  cases alike with
  | same => rfl
  | @differ id => cases id <;> rfl

/-- Pieces that are alike are no keys for the same reason, or keys of one id. -/
theorem parseKey (alike : PiecesAlike piece other)
    : ReadAlike SigningKey.SameButSecret (Config.parseKey piece) (Config.parseKey other) := by
  cases alike with
  | same =>
      cases Config.parseKey piece with
      | error fault => exact .fails fault
      | ok key => exact .answers ⟨rfl, rfl⟩
  | @differ id after one other colon size =>
      rw [Config.parseKey, Config.parseKey, List.append_assoc, List.cons_append,
        Text.cut?_append colon, List.append_assoc, List.cons_append, Text.cut?_append colon]
      dsimp only
      split
      next => exact .fails _
      next =>
        refine .answers ⟨rfl, ?_⟩
        simp [Secret.SameSize, Secret.size, String.ofList_append, size]

end PiecesAlike

-----------------------------------------------------------------------------------------
-- Lists of keys
-----------------------------------------------------------------------------------------

/-- A blank list of keys has no comma, so it is its only piece. -/
theorem ListsAlike.eq_of_blank {one other : String} (alike : ListsAlike one other)
    (blank : Text.IsBlankText one.toList)
    : other = one := by
  have single := Text.fields_of_not_mem (blank.not_mem (by decide : Text.isBlank ',' = false))
  rw [ListsAlike, single] at alike
  obtain ⟨piece, none, same, rest, pieces⟩ := List.forall₂_cons_left_iff.mp alike
  rw [List.forall₂_nil_left_iff.mp rest] at pieces
  have joined := Text.joinWith_fields ',' other.toList
  rw [pieces, same.eq_of_blank blank] at joined
  exact String.toList_inj.mp joined.symm

theorem ListsAlike.symm {one other : String} (alike : ListsAlike one other)
    : ListsAlike other one :=
  .flip (alike.imp fun _ _ pieces => pieces.symm)

theorem ListsAlike.isEmpty_trim {one other : String} (alike : ListsAlike one other)
    : (Text.trim one.toList).isEmpty = (Text.trim other.toList).isEmpty := by
  rw [Bool.eq_iff_iff, List.isEmpty_iff, List.isEmpty_iff]
  constructor
  · intro none
    rwa [alike.eq_of_blank (Text.isBlankText_of_trim_eq_nil none)]
  · intro none
    rwa [alike.symm.eq_of_blank (Text.isBlankText_of_trim_eq_nil none)]

/-- The entries of lists that are alike are alike. -/
theorem ListsAlike.keyEntries {one other : String} (alike : ListsAlike one other)
    : List.Forall₂ PiecesAlike (Config.keyEntries one.toList) (Config.keyEntries other.toList) := by
  refine List.rel_filter (fun piece other pieces => ?_)
    (List.rel_map (fun _ _ pieces => pieces.trim) alike)
  change (!piece.isEmpty) = true ↔ (!other.isEmpty) = true
  rw [pieces.isEmpty_eq]

/-- Lists of keys of the same ids, in one order, whose secrets have the same sizes. -/
abbrev KeysAlike : List SigningKey → List SigningKey → Prop :=
  List.Forall₂ SigningKey.SameButSecret

theorem KeysAlike.ids {keys others : List SigningKey} (alike : KeysAlike keys others)
    : keys.map (·.id) = others.map (·.id) := by
  induction alike with
  | nil => rfl
  | cons first _ ih => rw [List.map_cons, List.map_cons, first.id, ih]

theorem KeysAlike.describeKeys {keys others : List SigningKey} (alike : KeysAlike keys others)
    : keys.map describeKey = others.map describeKey := by
  induction alike with
  | nil => rfl
  | cons first _ ih =>
      rw [List.map_cons, List.map_cons, ih, describeKey, describeKey, first.id,
        Secret.describe_eq]

theorem KeysAlike.any_id {keys others : List SigningKey} (alike : KeysAlike keys others)
    (id : String)
    : keys.any (·.id == id) = others.any (·.id == id) := by
  have among (keys : List SigningKey)
      : keys.any (·.id == id) = (keys.map (·.id)).any (· == id) := by
    rw [List.any_map]
    rfl
  rw [among, among, alike.ids]

theorem KeysAlike.addKey {keys others : List SigningKey} (alike : KeysAlike keys others)
    {entry entryToo : List Char} (entries : PiecesAlike entry entryToo)
    : ReadAlike KeysAlike (Config.addKey keys entry) (Config.addKey others entryToo) := by
  refine entries.parseKey.bind fun key keyToo same => ?_
  rw [same.id, alike.any_id]
  split
  next => exact .fails _
  next => exact .answers (List.rel_append alike (.cons same .nil))

theorem ListsAlike.parseKeys {one other : String} (alike : ListsAlike one other)
    : ReadAlike KeysAlike (Config.parseKeys one) (Config.parseKeys other) := by
  have folded := ReadAlike.foldlM alike.keyEntries (.nil : KeysAlike [] [])
    fun _ _ _ _ keys entries => KeysAlike.addKey keys entries
  refine folded.bind fun keys others read => ?_
  have none : keys.isEmpty = others.isEmpty := by
    cases read <;> rfl
  rw [none]
  split
  next => exact .fails _
  next => exact .answers read

-----------------------------------------------------------------------------------------
-- The choice of keys
-----------------------------------------------------------------------------------------

/-- Choices of keys that are the same but for the secrets. -/
structure KeyChoice.SameButSecrets (one other : KeyChoice) : Prop where
  keys : KeysAlike one.keys other.keys
  activeId : one.activeId = other.activeId
  legacy : Option.Rel Secret.SameSize one.legacy other.legacy

namespace DifferInSecrets

variable {first second : Settings}

theorem secretOf (differ : DifferInSecrets first second)
    : Option.Rel Secret.SameSize (Config.secretOf first) (Config.secretOf second) := by
  unfold Config.secretOf
  refine map_related (filter_related differ.secret fun one other size => ?_) fun _ _ size => size
  simp only [ne_eq, ← String.utf8ByteSize_eq_zero_iff, size]

theorem keyListOf (differ : DifferInSecrets first second)
    : Option.Rel ListsAlike (Config.keyListOf first) (Config.keyListOf second) :=
  filter_related differ.keys fun _ _ alike => congrArg (!·) alike.isEmpty_trim

theorem activeIdOf (differ : DifferInSecrets first second)
    : Config.activeIdOf first = Config.activeIdOf second := by
  rw [Config.activeIdOf, Config.activeIdOf, differ.rest _ (by decide) (by decide)]

theorem chooseKeys (differ : DifferInSecrets first second)
    : ReadAlike KeyChoice.SameButSecrets (Config.chooseKeys first) (Config.chooseKeys second) := by
  have listed := differ.keyListOf
  have single := differ.secretOf
  unfold Config.chooseKeys
  generalize Config.keyListOf first = one, Config.keyListOf second = other at listed ⊢
  generalize Config.secretOf first = secret, Config.secretOf second = secretToo at single ⊢
  cases listed with
  | some alike =>
      refine alike.parseKeys.bind fun keys others read => ?_
      rw [differ.activeIdOf]
      split
      next => exact .fails _
      next activeId _ =>
        rw [read.any_id]
        split
        next => exact .answers ⟨read, rfl, single⟩
        next => exact .fails _
  | none =>
      cases single with
      | none => exact .fails _
      | some size => exact .answers ⟨.cons ⟨rfl, size⟩ .nil, rfl, .some size⟩

end DifferInSecrets

theorem checkSecret_congr {one other : Secret} (size : one.SameSize other) (owner : SecretOwner)
    : checkSecret owner one = checkSecret owner other := by
  rw [checkSecret, checkSecret, size]

/-- The check of secrets looks at their sizes only. -/
theorem KeyChoice.SameButSecrets.checkSecrets {one other : KeyChoice}
    (alike : one.SameButSecrets other)
    : Config.checkSecrets one = Config.checkSecrets other := by
  have keys : one.keys.forM (fun key => checkSecret (.signingKey key.id) key.secret)
      = other.keys.forM (fun key => checkSecret (.signingKey key.id) key.secret) :=
    forM_congr alike.keys fun _ _ same => by rw [same.id, checkSecret_congr same.secret]
  rw [Config.checkSecrets, Config.checkSecrets, keys,
    forM_congr (toList_related alike.legacy) fun _ _ size => checkSecret_congr size .legacy]

-----------------------------------------------------------------------------------------
-- All settings
-----------------------------------------------------------------------------------------

/-- Configurations that are the same but for the secrets. -/
structure SameButSecrets (one other : Config) : Prop where
  keys : KeysAlike one.signingKeys other.signingKeys
  legacy : Option.Rel Secret.SameSize one.legacySecret other.legacySecret
  rest : { one with signingKeys := other.signingKeys, legacySecret := other.legacySecret } = other

namespace DifferInSecrets

variable {first second : Settings}

theorem read (differ : DifferInSecrets first second) {setting : NumberSetting}
    (other : setting.name ≠ secretSetting ∧ setting.name ≠ keysSetting)
    : setting.read first = setting.read second := by
  rw [NumberSetting.read, NumberSetting.read, differ.rest _ other.1 other.2]

theorem readPositive (differ : DifferInSecrets first second) {setting : NumberSetting}
    (other : setting.name ≠ secretSetting ∧ setting.name ≠ keysSetting)
    : setting.readPositive first = setting.readPositive second := by
  rw [NumberSetting.readPositive, NumberSetting.readPositive, differ.read other]

theorem readClockSkew (differ : DifferInSecrets first second)
    : Config.readClockSkew first = Config.readClockSkew second := by
  rw [Config.readClockSkew, Config.readClockSkew, differ.read (by decide)]

theorem readPasswordCost (differ : DifferInSecrets first second)
    : Config.readPasswordCost first = Config.readPasswordCost second := by
  rw [Config.readPasswordCost, Config.readPasswordCost, differ.read (by decide)]

theorem readTls (differ : DifferInSecrets first second)
    : Config.readTls first = Config.readTls second := by
  unfold Config.readTls
  dsimp only
  rw [differ.rest certificateSetting (by decide) (by decide),
    differ.rest tlsKeySetting (by decide) (by decide)]

/-- Reading the settings goes on alike with every reader, in order. -/
theorem ofSettings (differ : DifferInSecrets first second)
    : ReadAlike SameButSecrets (Config.ofSettings first) (Config.ofSettings second) := by
  refine differ.chooseKeys.bind fun choice choiceToo alike => ?_
  refine (ReadAlike.of_eq alike.checkSecrets).bind fun _ _ _ => ?_
  refine (ReadAlike.of_eq (differ.readPositive (by decide))).bind fun tokenLifetime _ same => ?_
  subst same
  refine (ReadAlike.of_eq differ.readClockSkew).bind fun clockSkew _ same => ?_
  subst same
  refine (ReadAlike.of_eq differ.readPasswordCost).bind fun passwordCost _ same => ?_
  subst same
  refine (ReadAlike.of_eq (differ.readPositive (by decide))).bind fun requestsPerMinute _ same => ?_
  subst same
  refine (ReadAlike.of_eq (differ.readPositive (by decide))).bind fun burst _ same => ?_
  subst same
  refine (ReadAlike.of_eq (differ.read (by decide))).bind fun idleWindow _ same => ?_
  subst same
  refine (ReadAlike.of_eq (differ.readPositive (by decide))).bind fun sweepInterval _ same => ?_
  subst same
  refine (ReadAlike.of_eq differ.readTls).bind fun tls _ same => ?_
  subst same
  refine (ReadAlike.of_eq (differ.readPositive (by decide))).bind fun streamBuffer _ same => ?_
  subst same
  rw [differ.rest rpcAddressSetting (by decide) (by decide),
    differ.rest healthAddressSetting (by decide) (by decide), alike.activeId]
  exact .answers ⟨alike.keys, alike.legacy, rfl⟩

end DifferInSecrets

/-- No description of a configuration depends on its secrets, or on their sizes. -/
theorem SameButSecrets.describe {one other : Config} (alike : one.SameButSecrets other)
    : one.describe = other.describe := by
  have keys := KeysAlike.describeKeys alike.keys
  have legacy := Secret.map_describe alike.legacy
  rw [← alike.rest]
  unfold Config.describe
  dsimp only
  rw [keys, legacy]

end Config

namespace Token

-----------------------------------------------------------------------------------------
-- Brokers
-----------------------------------------------------------------------------------------

open Config

theorem KeySet.find?_alike {keys others : List SigningKey} (alike : KeysAlike keys others)
    (id : String)
    : Option.Rel SigningKey.SameButSecret (find? keys id) (find? others id) := by
  induction alike with
  | nil => exact .none
  | @cons key other keys others first _ ih =>
      rw [find?, find?, List.find?_cons, List.find?_cons, first.id]
      split
      next => exact .some first
      next => exact ih

theorem KeySet.firstRepeated?_congr {keys others earlier earlierToo : List SigningKey}
    (alike : KeysAlike keys others) (before : KeysAlike earlier earlierToo)
    : firstRepeated? earlier keys = firstRepeated? earlierToo others := by
  induction alike generalizing earlier earlierToo with
  | nil => rfl
  | @cons key other keys others first _ ih =>
      have found : (find? earlier other.id).isSome = (find? earlierToo other.id).isSome :=
        isSome_related (find?_alike before other.id)
      rw [firstRepeated?, firstRepeated?, first.id, found, ih (.cons first before)]

/-- Key sets with the same ids, in one order, and the same id of the key that signs. -/
structure KeySet.SameButSecrets (one other : KeySet) : Prop where
  keys : KeysAlike one.keys other.keys
  active : one.active.SameButSecret other.active

theorem KeySet.ofKeys_alike {keys others : List SigningKey} (alike : KeysAlike keys others)
    (activeId : String)
    : ReadAlike KeySet.SameButSecrets (ofKeys keys activeId) (ofKeys others activeId) := by
  have none : keys.isEmpty = others.isEmpty := by
    cases alike <;> rfl
  have found := find?_alike alike activeId
  rw [ofKeys, ofKeys, firstRepeated?_congr alike .nil, none]
  generalize find? keys activeId = active, find? others activeId = activeToo at found ⊢
  split
  next => exact .fails _
  next =>
    split
    next => exact .fails _
    next =>
      cases found with
      | none => exact .fails _
      | some active => exact .answers ⟨alike, active⟩

theorem KeySet.SameButSecrets.describe {one other : KeySet} (alike : one.SameButSecrets other)
    : one.describe = other.describe := by
  rw [KeySet.describe, KeySet.describe, alike.keys.ids, alike.active.id]

/-- Brokers of configurations that are the same but for the secrets have one description, or there
are none for the same reason.
-/
theorem Broker.ofConfig_alike {one other : Config} (alike : one.SameButSecrets other)
    : ReadAlike (fun broker brokerToo => broker.describe = brokerToo.describe) (ofConfig one)
        (ofConfig other) := by
  have legacy := Secret.map_describe alike.legacy
  have made := KeySet.ofKeys_alike alike.keys one.activeKeyId
  rw [← alike.rest]
  refine made.bind fun keys keysToo same => .answers ?_
  unfold describe
  dsimp only
  rw [same.describe, legacy]

/-- Nobody is shown a secret. Of two starts with settings that differ in their secrets alone, either
both are refused for one reason, and so with one text, or both make configurations that have one
description and brokers that have one description.
-/
theorem secrets_unshown {first second : Settings} (differ : DifferInSecrets first second)
    : (∃ fault, ofSettings first = .error fault ∧ ofSettings second = .error fault)
      ∨ ∃ one other broker brokerToo,
          ofSettings first = .ok one ∧ ofSettings second = .ok other
          ∧ one.describe = other.describe
          ∧ Broker.ofConfig one = .ok broker ∧ Broker.ofConfig other = .ok brokerToo
          ∧ broker.describe = brokerToo.describe := by
  generalize read : ofSettings first = one, readToo : ofSettings second = other
  have alike := differ.ofSettings
  rw [read, readToo] at alike
  cases alike with
  | fails fault => exact .inl ⟨fault, rfl, rfl⟩
  | @answers one other alike =>
      obtain ⟨broker, made, _⟩ := Broker.ofConfig_of_accepted read
      have brokers := Broker.ofConfig_alike alike
      rw [made] at brokers
      generalize madeToo : Broker.ofConfig other = brokerToo at brokers
      cases brokers with
      | answers same =>
          exact .inr ⟨one, other, broker, _, rfl, rfl, alike.describe, made, madeToo, same⟩

/-- Settings of two lists of keys that are alike and two single secrets of one size. -/
theorem differInSecrets_of_lists {keys keysToo single singleToo : String}
    (alike : ListsAlike keys keysToo) (size : single.utf8ByteSize = singleToo.utf8ByteSize)
    (activeId : String)
    : DifferInSecrets
        [(keysSetting, keys), (activeKeySetting, activeId), (secretSetting, single)]
        [(keysSetting, keysToo), (activeKeySetting, activeId), (secretSetting, singleToo)] where
  secret := .some size
  keys := .some alike
  rest name noSecret noKeys := by
    simp [List.lookup_cons, beq_eq_false_iff_ne.mpr noSecret, beq_eq_false_iff_ne.mpr noKeys]

/-- Two lists with two secrets each, colons in one of them, beside different single secrets. Where
the id of the key that signs is in the lists both are accepted, and where it is not neither is.
-/
theorem secrets_unshown_of_two_keys
    : let one (activeId : String) : Settings := [
        (keysSetting,
          " k1 :first-secret-first-secret-first!,k2:second-secret-second-secret-second!"),
        (activeKeySetting, activeId), (secretSetting, "single-secret-single-secret-single")]
      let other (activeId : String) : Settings := [
        (keysSetting,
          " k1 :another-secret-another-secret-an,k2:colons:colons:colons:colons:colons!"),
        (activeKeySetting, activeId), (secretSetting, "\u00FCnlike-unlike-unlike-unlike-unlik")]
      (∀ activeId, DifferInSecrets (one activeId) (other activeId))
        ∧ (∃ config configToo, ofSettings (one "k1") = .ok config
            ∧ ofSettings (other "k1") = .ok configToo ∧ config.describe = configToo.describe)
        ∧ ∃ fault, ofSettings (one "k3") = .error fault
            ∧ ofSettings (other "k3") = .error fault := by
  intro one other
  have pieces : Text.fields ','
        " k1 :first-secret-first-secret-first!,k2:second-secret-second-secret-second!".toList
      = [" k1 ".toList ++ ':' :: "first-secret-first-secret-first!".toList ++ [],
          "k2".toList ++ ':' :: "second-secret-second-secret-second!".toList ++ []] := by
    decide +kernel
  have piecesToo : Text.fields ','
        " k1 :another-secret-another-secret-an,k2:colons:colons:colons:colons:colons!".toList
      = [" k1 ".toList ++ ':' :: "another-secret-another-secret-an".toList ++ [],
          "k2".toList ++ ':' :: "colons:colons:colons:colons:colons!".toList ++ []] := by
    decide +kernel
  have lists : ListsAlike
      " k1 :first-secret-first-secret-first!,k2:second-secret-second-secret-second!"
      " k1 :another-secret-another-secret-an,k2:colons:colons:colons:colons:colons!" := by
    rw [ListsAlike, pieces, piecesToo]
    refine .cons (.differ (by decide) ?_ (Text.solid_of_all (by decide))
        (Text.solid_of_all (by decide)) Text.isBlankText_nil)
      (.cons (.differ (by decide) ?_ (Text.solid_of_all (by decide))
        (Text.solid_of_all (by decide)) Text.isBlankText_nil) .nil)
    · decide +kernel
    · decide +kernel
  have differ (activeId : String) : DifferInSecrets (one activeId) (other activeId) :=
    differInSecrets_of_lists lists (by decide +kernel) activeId
  have accepted : (ofSettings (one "k1")).toOption.isSome = true := by decide +kernel
  have rejected : (ofSettings (one "k3")).toOption.isSome = false := by decide +kernel
  refine ⟨differ, ?_, ?_⟩
  · rcases secrets_unshown (differ "k1") with ⟨_, here, _⟩ | ⟨config, configToo, _, _, both⟩
    · rw [here] at accepted
      cases accepted
    · exact ⟨config, configToo, both.1, both.2.1, both.2.2.1⟩
  · rcases secrets_unshown (differ "k3") with both | ⟨_, _, _, _, here, _⟩
    · exact both
    · rw [here] at rejected
      cases rejected

end Token

end ChatServer
