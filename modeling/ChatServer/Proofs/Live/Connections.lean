import ChatServer.Live.Registry
import ChatServer.Proofs.Tables

/-! The connections of a registry and what adding and removing one does to them. A coherent registry
never gives a number twice, keeps no identity without a connection and counts right; every
operation keeps it so.
-/

namespace ChatServer.Live.Registry

variable {κ : Type}

-----------------------------------------------------------------------------------------
-- Views of a registry
-----------------------------------------------------------------------------------------

/-- The sink of a connection of an identity in any spelling. -/
def sink? (registry : Registry κ) (identity : String) (id : Nat) : Option κ :=
  (registry.connectionsOf identity).get? id

/-- It does not matter how the identity is spelled. -/
theorem connectionsOf_congr {identity other : String}
    (same : Identity.normalize other = Identity.normalize identity) (registry : Registry κ)
    : registry.connectionsOf other = registry.connectionsOf identity := by
  rw [connectionsOf, same, connectionsOf]

theorem sink?_congr {identity other : String}
    (same : Identity.normalize other = Identity.normalize identity) (registry : Registry κ)
    (id : Nat)
    : registry.sink? other id = registry.sink? identity id := by
  rw [sink?, connectionsOf_congr same, sink?]

/-- The numbers of all connections. -/
def ids (registry : Registry κ) : List Nat :=
  registry.connections.entries.flatMap (·.2.keys)

/-- The numbers of the connections of all other identities. -/
def otherIds (registry : Registry κ) (identity : String) : List Nat :=
  (registry.connections.erase (Identity.normalize identity)).entries.flatMap (·.2.keys)

/-- Numbers are given once and in order, identities are there in normal form as long as they
have a connection, and the count of the connections is right.
-/
structure Coherent (registry : Registry κ) : Prop where
  identities : registry.connections.Distinct
  distinct : registry.ids.Nodup
  inhabited : ∀ entry ∈ registry.connections.entries, entry.2.entries ≠ []
  normal : ∀ entry ∈ registry.connections.entries, ∃ identity, entry.1 = Identity.normalize identity
  below : ∀ id ∈ registry.ids, id < registry.next
  counted : registry.active = registry.ids.length

/-- A registry without connections is coherent. -/
theorem Coherent.empty : ({} : Registry κ).Coherent where
  identities := List.nodup_nil
  distinct := List.nodup_nil
  inhabited := by simp
  normal := by simp
  below := by simp [ids]
  counted := rfl

/-- The numbers of all connections are those of one identity and those of the others. -/
theorem Coherent.ids_perm {registry : Registry κ} (h : registry.Coherent) (identity : String)
    : registry.ids.Perm ((registry.connectionsOf identity).keys ++ registry.otherIds identity) := by
  unfold connectionsOf otherIds ids
  cases found : registry.connections.get? (Identity.normalize identity) with
  | none =>
      rw [Table.erase_of_absent found]
      exact .rfl
  | some connections =>
      have parts := (Table.perm_of_get? h.identities found).flatMap_right (·.2.keys)
      simpa only [List.flatMap_cons, Option.getD_some] using parts

/-- The connections of one identity have different numbers. -/
theorem Coherent.connectionsOf_distinct {registry : Registry κ} (h : registry.Coherent)
    (identity : String)
    : (registry.connectionsOf identity).Distinct :=
  (List.nodup_append.mp ((h.ids_perm identity).nodup_iff.mp h.distinct)).1

/-- The numbers of a registry are those under which some identity has a sink. -/
theorem Coherent.mem_ids_iff {registry : Registry κ} (h : registry.Coherent) {id : Nat}
    : id ∈ registry.ids ↔ ∃ identity sink, registry.sink? identity id = some sink := by
  constructor
  · intro member
    obtain ⟨entry, held, inside⟩ := List.mem_flatMap.mp member
    obtain ⟨identity, named⟩ := h.normal entry held
    obtain ⟨sink, found⟩ := Table.mem_keys_iff.mp inside
    refine ⟨identity, sink, ?_⟩
    have whole : registry.connections.get? (Identity.normalize identity) = some entry.2 :=
      Table.get?_of_mem h.identities (named ▸ held)
    simpa only [sink?, connectionsOf, whole, Option.getD_some] using found
  · rintro ⟨identity, sink, found⟩
    refine (h.ids_perm identity).mem_iff.mpr (List.mem_append_left _ ?_)
    exact Table.mem_keys_iff.mpr ⟨sink, found⟩

/-- A number belongs to one identity only. -/
theorem Coherent.identity_unique {registry : Registry κ} (h : registry.Coherent)
    {first second : String} {id : Nat} {one other : κ}
    (atFirst : registry.sink? first id = some one)
    (atSecond : registry.sink? second id = some other)
    : Identity.normalize first = Identity.normalize second := by
  apply Decidable.byContradiction
  intro differ
  have apart := (h.ids_perm first).nodup_iff.mp h.distinct
  refine (List.nodup_append.mp apart).2.2 id (Table.mem_keys_iff.mpr ⟨one, atFirst⟩) id ?_ rfl
  have kept : (registry.connections.erase (Identity.normalize first)).get?
      (Identity.normalize second) = registry.connections.get? (Identity.normalize second) := by
    rw [Table.get?_erase, if_neg (Ne.symm differ)]
  cases found : registry.connections.get? (Identity.normalize second) with
  | none => simp [sink?, connectionsOf, found] at atSecond
  | some connections =>
      refine List.mem_flatMap.mpr ⟨(_, connections), Table.mem_of_get? (kept.trans found), ?_⟩
      refine Table.mem_keys_iff.mpr ⟨other, ?_⟩
      simpa [sink?, connectionsOf, found] using atSecond

/-- The number of a connection has been given. -/
theorem Coherent.lt_next {registry : Registry κ} (h : registry.Coherent) {identity : String}
    {id : Nat} {sink : κ} (found : registry.sink? identity id = some sink)
    : id < registry.next :=
  h.below id (h.mem_ids_iff.mpr ⟨identity, sink, found⟩)

-----------------------------------------------------------------------------------------
-- Adding a connection
-----------------------------------------------------------------------------------------

theorem connectionsOf_register (registry : Registry κ) (identity other : String) (sink : κ)
    : (registry.register identity sink).2.connectionsOf other
      = if Identity.normalize other = Identity.normalize identity then
          (registry.connectionsOf identity).set registry.next sink
        else registry.connectionsOf other := by
  simp only [connectionsOf, register, Table.get?_set]
  split <;> rfl

/-- A new connection is found under its number, and every other one as before. -/
theorem sink?_register (registry : Registry κ) (identity other : String) (sink : κ) (id : Nat)
    : (registry.register identity sink).2.sink? other id
      = if Identity.normalize other = Identity.normalize identity ∧ id = registry.next then
          some sink
        else registry.sink? other id := by
  simp only [sink?, connectionsOf_register]
  by_cases same : Identity.normalize other = Identity.normalize identity
  · have spelled := connectionsOf_congr same registry
    simp only [same, if_true, true_and, Table.get?_set, spelled]
  · simp only [same, if_false, false_and]

/-- Adding a connection adds its number. -/
theorem Coherent.ids_register {registry : Registry κ} (h : registry.Coherent) (identity : String)
    (sink : κ)
    : (registry.register identity sink).2.ids.Perm (registry.next :: registry.ids) := by
  have absent : registry.next ∉ (registry.connectionsOf identity).keys := fun member =>
    Nat.lt_irrefl _ (h.below _ ((h.ids_perm identity).mem_iff.mpr (List.mem_append_left _ member)))
  have grown : ((registry.connectionsOf identity).set registry.next sink).keys
      = (registry.connectionsOf identity).keys ++ [registry.next] := by
    rw [Table.keys_set, if_neg absent]
  have placed : (registry.register identity sink).2.ids.Perm
      (((registry.connectionsOf identity).set registry.next sink).keys
        ++ registry.otherIds identity) := by
    have parts := (Table.set_perm h.identities (Identity.normalize identity)
      ((registry.connectionsOf identity).set registry.next sink)).flatMap_right (·.2.keys)
    simpa only [List.flatMap_cons, ids, otherIds, register] using parts
  rw [grown, List.append_assoc] at placed
  exact (placed.trans List.perm_middle).trans ((h.ids_perm identity).symm.cons _)

/-- Adding a connection keeps a registry coherent. -/
theorem Coherent.register {registry : Registry κ} (h : registry.Coherent) (identity : String)
    (sink : κ)
    : (registry.register identity sink).2.Coherent := by
  have numbers := h.ids_register identity sink
  have fresh : registry.next ∉ registry.ids := fun member => Nat.lt_irrefl _ (h.below _ member)
  have entries : ∀ entry ∈ (registry.register identity sink).2.connections.entries,
      entry = (Identity.normalize identity,
          (registry.connectionsOf identity).set registry.next sink)
        ∨ entry ∈ registry.connections.entries := by
    intro entry member
    rcases List.mem_cons.mp ((Table.set_perm h.identities _ _).mem_iff.mp member) with same | kept
    · exact .inl same
    · exact .inr (List.mem_filter.mp kept).1
  refine {
    identities := h.identities.set _ _
    distinct := numbers.nodup_iff.mpr (List.nodup_cons.mpr ⟨fresh, h.distinct⟩)
    inhabited := ?_
    normal := ?_
    below := ?_
    counted := ?_
  }
  · intro entry member
    rcases entries entry member with rfl | old
    · intro none
      have found := Table.get?_set (registry.connectionsOf identity) registry.next registry.next
        sink
      have none : ((registry.connectionsOf identity).set registry.next sink).entries = [] := none
      simp [Table.get?, none] at found
    · exact h.inhabited entry old
  · intro entry member
    rcases entries entry member with rfl | old
    · exact ⟨identity, rfl⟩
    · exact h.normal entry old
  · intro id member
    rcases List.mem_cons.mp (numbers.mem_iff.mp member) with rfl | old
    · exact Nat.lt_succ_self _
    · exact Nat.lt_succ_of_lt (h.below id old)
  · rw [numbers.length_eq, List.length_cons, ← h.counted]
    rfl

-----------------------------------------------------------------------------------------
-- Removing a connection
-----------------------------------------------------------------------------------------

/-- The connections of an identity are those that were put in, and of any other as before. -/
theorem get?_replaced (registry : Registry κ) (identity key : String) (connections : Table Nat κ)
    : ((registry.replaced identity connections).get? key).getD {}
      = if key = Identity.normalize identity then connections
        else (registry.connections.get? key).getD {} := by
  unfold replaced
  by_cases none : connections.size = 0
  · have nothing : connections = {} := by
      cases connections
      rw [Table.mk.injEq]
      exact List.length_eq_zero_iff.mp none
    rw [if_pos none, Table.get?_erase]
    split
    next => exact nothing.symm
    next => rfl
  · rw [if_neg none, Table.get?_set]
    split <;> rfl

/-- A connection that is not there is removed without an effect. -/
theorem unregister_of_absent {registry : Registry κ} {identity : String} {id : Nat}
    (absent : registry.sink? identity id = none)
    : registry.unregister identity id = (false, registry) := by
  have missing : (registry.connectionsOf identity).contains id = false := by
    rw [Table.contains, ← sink?, absent]
    rfl
  simp [unregister, missing]

theorem unregister_of_present {registry : Registry κ} {identity : String} {id : Nat} {sink : κ}
    (found : registry.sink? identity id = some sink)
    : registry.unregister identity id
      = (true, { registry with
          active := registry.active - 1
          connections := registry.replaced identity
            ((registry.connectionsOf identity).erase id) }) := by
  have present : (registry.connectionsOf identity).contains id = true := by
    rw [Table.contains, ← sink?, found]
    rfl
  simp [unregister, present]

@[simp] theorem next_unregister (registry : Registry κ) (identity : String) (id : Nat)
    : (registry.unregister identity id).2.next = registry.next := by
  cases found : registry.sink? identity id with
  | none => rw [unregister_of_absent found]
  | some sink => rw [unregister_of_present found]

theorem connectionsOf_unregister (registry : Registry κ) (identity other : String) (id : Nat)
    : (registry.unregister identity id).2.connectionsOf other
      = if Identity.normalize other = Identity.normalize identity then
          (registry.connectionsOf identity).erase id
        else registry.connectionsOf other := by
  cases found : registry.sink? identity id with
  | none =>
      rw [unregister_of_absent found]
      split
      next same => rw [Table.erase_of_absent found, connectionsOf_congr same]
      next => rfl
  | some sink =>
      rw [unregister_of_present found]
      exact registry.get?_replaced identity (Identity.normalize other) _

/-- A removed connection is not found any more, and every other one as before. -/
theorem sink?_unregister (registry : Registry κ) (identity other : String) (id key : Nat)
    : (registry.unregister identity id).2.sink? other key
      = if Identity.normalize other = Identity.normalize identity ∧ key = id then none
        else registry.sink? other key := by
  simp only [sink?, connectionsOf_unregister]
  by_cases same : Identity.normalize other = Identity.normalize identity
  · have spelled := connectionsOf_congr same registry
    simp only [same, if_true, true_and, Table.get?_erase, spelled]
  · simp only [same, if_false, false_and]

/-- The numbers after replacing the connections of an identity. -/
theorem Coherent.replaced_perm {registry : Registry κ} (h : registry.Coherent) (identity : String)
    (connections : Table Nat κ)
    : ((registry.replaced identity connections).entries.flatMap (·.2.keys)).Perm
        (connections.keys ++ registry.otherIds identity) := by
  unfold replaced
  split
  next none =>
    have nothing : connections.keys = [] := by
      rw [Table.keys, List.length_eq_zero_iff.mp none]
      rfl
    rw [nothing]
    exact .rfl
  next =>
    simpa only [List.flatMap_cons, otherIds]
      using (Table.set_perm h.identities (Identity.normalize identity) connections).flatMap_right
        (·.2.keys)

/-- Removing a connection takes its number away. -/
theorem Coherent.ids_unregister {registry : Registry κ} (h : registry.Coherent)
    {identity : String} {id : Nat} {sink : κ} (found : registry.sink? identity id = some sink)
    : registry.ids.Perm (id :: (registry.unregister identity id).2.ids) := by
  have own := (Table.perm_of_get? (h.connectionsOf_distinct identity) found).map (·.1)
  have left := h.replaced_perm identity ((registry.connectionsOf identity).erase id)
  rw [unregister_of_present found]
  exact (h.ids_perm identity).trans ((own.append_right _).trans (left.symm.cons id))

/-- A removed connection has no number any more. -/
theorem Coherent.not_mem_ids_unregister {registry : Registry κ} (h : registry.Coherent)
    {identity : String} {id : Nat} {sink : κ} (found : registry.sink? identity id = some sink)
    : id ∉ (registry.unregister identity id).2.ids :=
  (List.nodup_cons.mp ((h.ids_unregister found).nodup_iff.mp h.distinct)).1

/-- Removing a connection keeps a registry coherent. -/
theorem Coherent.unregister {registry : Registry κ} (h : registry.Coherent) (identity : String)
    (id : Nat)
    : (registry.unregister identity id).2.Coherent := by
  cases found : registry.sink? identity id with
  | none => rwa [unregister_of_absent found]
  | some sink =>
      have numbers := h.ids_unregister found
      have entries : ∀ entry ∈ (registry.unregister identity id).2.connections.entries,
          (entry.2.entries ≠ [] ∧ entry.1 = Identity.normalize identity)
            ∨ entry ∈ registry.connections.entries := by
        intro entry member
        rw [unregister_of_present found] at member
        simp only [replaced] at member
        split at member
        next => exact .inr (List.mem_filter.mp member).1
        next some =>
          rcases List.mem_cons.mp ((Table.set_perm h.identities _ _).mem_iff.mp member) with
            rfl | kept
          · exact .inl ⟨fun none => some (List.length_eq_zero_iff.mpr none), rfl⟩
          · exact .inr (List.mem_filter.mp kept).1
      refine {
        identities := ?_
        distinct := (List.nodup_cons.mp (numbers.nodup_iff.mp h.distinct)).2
        inhabited := ?_
        normal := ?_
        below := ?_
        counted := ?_
      }
      · rw [unregister_of_present found]
        simp only [replaced]
        split
        next => exact h.identities.erase _
        next => exact h.identities.set _ _
      · intro entry member
        rcases entries entry member with ⟨some, _⟩ | old
        · exact some
        · exact h.inhabited entry old
      · intro entry member
        rcases entries entry member with ⟨_, named⟩ | old
        · exact ⟨identity, named⟩
        · exact h.normal entry old
      · intro key member
        rw [next_unregister]
        exact h.below key (numbers.mem_iff.mpr (List.mem_cons_of_mem _ member))
      · have count := numbers.length_eq
        rw [← h.counted, List.length_cons] at count
        rw [unregister_of_present found] at count ⊢
        simp only at count ⊢
        omega

end ChatServer.Live.Registry
