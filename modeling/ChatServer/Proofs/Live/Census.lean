import ChatServer.Live.Endpoint
import ChatServer.Proofs.Live.Observation
import ChatServer.Proofs.Text.Normalization
import Mathlib.Algebra.BigOperators.Group.List.Basic
import Mathlib.Algebra.Order.Ring.Nat
import Mathlib.Data.List.Perm.Subperm

/-! The books of a registry. The map of the connections, the number of the active ones and the
gauge that shows it are kept by three calls that each change them on their own: adding a
connection, removing one, and the fan-out, which removes those that failed. Every run of such calls
keeps them in agreement, and gives numbers in rising order, so none is used again.
-/

namespace ChatServer.Live

variable {κ ω : Type}

/-- Is the call one that adds a connection? -/
def Operation.isRegistration : Operation κ → Bool
  | register _ _ => true
  | _ => false

namespace Registry

-----------------------------------------------------------------------------------------
-- Counting by identities
-----------------------------------------------------------------------------------------

/-- The names have every identity that is connected, each in one spelling only. -/
structure Covers (registry : Registry κ) (names : List String) : Prop where
  once : (names.map Identity.normalize).Nodup
  complete
    : ∀ identity, registry.isConnected identity = true
        → Identity.normalize identity ∈ names.map Identity.normalize

@[simp] theorem connectionsOf_normalize (registry : Registry κ) (identity : String)
    : registry.connectionsOf (Identity.normalize identity) = registry.connectionsOf identity := by
  simp only [connectionsOf, Identity.normalize_normalize]

theorem isConnected_iff (registry : Registry κ) (identity : String)
    : registry.isConnected identity = true
      ↔ (registry.connectionsOf identity).entries ≠ [] := by
  rw [isConnected, decide_eq_true_iff]
  exact List.length_pos_iff

namespace Coherent

variable {registry : Registry κ}

theorem normalize_key (h : registry.Coherent) {name : String}
    (key : name ∈ registry.connections.keys)
    : Identity.normalize name = name := by
  obtain ⟨entry, member, rfl⟩ := List.mem_map.mp key
  obtain ⟨identity, spelled⟩ := h.normal entry member
  rw [spelled, Identity.normalize_normalize]

/-- The connections of an identity in the map are those found under its key. -/
theorem connectionsOf_entry (h : registry.Coherent) {entry : String × Table Nat κ}
    (member : entry ∈ registry.connections.entries)
    : registry.connectionsOf entry.1 = entry.2 := by
  have found : registry.connections.get? entry.1 = some entry.2 :=
    Table.get?_of_mem h.identities member
  rw [connectionsOf, h.normalize_key (List.mem_map_of_mem member), found, Option.getD_some]

/-- The keys of the map are the connected identities in normal form. -/
theorem mem_keys_iff (h : registry.Coherent) (name : String)
    : name ∈ registry.connections.keys
      ↔ Identity.normalize name = name ∧ registry.isConnected name = true := by
  constructor
  · intro key
    refine ⟨h.normalize_key key, ?_⟩
    obtain ⟨entry, member, rfl⟩ := List.mem_map.mp key
    rw [isConnected_iff, h.connectionsOf_entry member]
    exact h.inhabited entry member
  · rintro ⟨normal, connected⟩
    apply Table.mem_keys_iff.mpr
    rw [isConnected_iff, connectionsOf, normal] at connected
    cases found : registry.connections.get? name with
    | some connections => exact ⟨connections, rfl⟩
    | none => simp [found] at connected

/-- The keys of the map are one such list of names. -/
theorem covers_keys (h : registry.Coherent) : registry.Covers registry.connections.keys := by
  have same : registry.connections.keys.map Identity.normalize = registry.connections.keys :=
    (List.map_congr_left fun _ key => h.normalize_key key).trans (List.map_id _)
  refine ⟨same.symm ▸ h.identities, fun identity connected => ?_⟩
  rw [same, h.mem_keys_iff, Identity.normalize_normalize]
  refine ⟨rfl, ?_⟩
  rwa [isConnected_iff, connectionsOf_normalize, ← isConnected_iff]

/-- The active connections are those of the entries of the map, taken together. -/
theorem active_eq_sum_keys (h : registry.Coherent)
    : registry.active = (registry.connections.keys.map registry.connectionCount).sum := by
  rw [h.counted, ids, List.length_flatMap, Table.keys, List.map_map]
  refine congrArg List.sum (List.map_congr_left fun entry member => ?_)
  calc entry.2.keys.length = entry.2.size := Table.length_keys _
    _ = registry.connectionCount entry.1 := by
      rw [connectionCount, h.connectionsOf_entry member]

end Coherent

/-- Names without a connection add nothing to the sum of the counts, by induction on the names. -/
theorem sum_connectionCount_filter (registry : Registry κ) (names : List String)
    : ((names.filter registry.isConnected).map registry.connectionCount).sum
      = (names.map registry.connectionCount).sum := by
  induction names with
  | nil => rfl
  | cons name rest ih =>
      cases connected : registry.isConnected name with
      | true => rw [List.filter_cons_of_pos connected, List.map_cons, List.map_cons,
          List.sum_cons, List.sum_cons, ih]
      | false =>
          have nothing : registry.connectionCount name = 0 := by
            simpa [isConnected] using connected
          rw [List.filter_cons_of_neg (by simp [connected]), ih, List.map_cons, List.sum_cons,
            nothing, Nat.zero_add]

/-- The connected ones of names that cover a registry are its keys, in normal form. -/
theorem Coherent.perm_keys {registry : Registry κ} (h : registry.Coherent) {names : List String}
    (covers : registry.Covers names)
    : ((names.filter registry.isConnected).map Identity.normalize).Perm
        registry.connections.keys := by
  have once : ((names.filter registry.isConnected).map Identity.normalize).Nodup :=
    covers.once.sublist (List.filter_sublist.map _)
  apply (List.perm_ext_iff_of_nodup once h.identities).mpr
  intro key
  rw [h.mem_keys_iff]
  constructor
  · intro member
    obtain ⟨name, inside, rfl⟩ := List.mem_map.mp member
    refine ⟨Identity.normalize_normalize name, ?_⟩
    rw [isConnected_iff, connectionsOf_normalize, ← isConnected_iff]
    exact (List.mem_filter.mp inside).2
  · rintro ⟨normal, connected⟩
    have named := covers.complete key connected
    obtain ⟨name, inside, spelled⟩ := List.mem_map.mp named
    rw [normal] at spelled
    refine List.mem_map.mpr ⟨name, List.mem_filter.mpr ⟨inside, ?_⟩, spelled⟩
    rwa [isConnected_iff, ← connectionsOf_normalize, spelled, ← isConnected_iff]

/-- The active connections are those of all identities taken together. -/
theorem Coherent.active_eq_sum {registry : Registry κ} (h : registry.Coherent)
    {names : List String} (covers : registry.Covers names)
    : registry.active = (names.map registry.connectionCount).sum := by
  have spelled : (names.filter registry.isConnected).map registry.connectionCount
      = ((names.filter registry.isConnected).map Identity.normalize).map
          registry.connectionCount := by
    rw [List.map_map]
    refine List.map_congr_left fun name _ => ?_
    simp only [Function.comp, connectionCount, connectionsOf_normalize]
  rw [h.active_eq_sum_keys, ← sum_connectionCount_filter registry names, spelled]
  exact ((h.perm_keys covers).map _).sum_nat.symm

/-- The identities in the map are those that are connected. -/
theorem Coherent.identityCount_eq {registry : Registry κ} (h : registry.Coherent)
    {names : List String} (covers : registry.Covers names)
    : registry.identityCount = names.countP registry.isConnected := by
  have count := (h.perm_keys covers).length_eq
  rw [List.length_map, ← List.countP_eq_length_filter, Table.length_keys] at count
  exact count.symm

end Registry

namespace Exchange

-----------------------------------------------------------------------------------------
-- What every call keeps
-----------------------------------------------------------------------------------------

/-- The number that a call answers with, if it adds a connection. -/
def number? (exchange : Exchange κ ω) : Operation κ → Option Nat
  | .register identity sink => some (exchange.register identity sink).1
  | _ => none

/-- The numbers that the registrations of a run answer with, in order. -/
def numbers (ops : SinkOps κ ω) (exchange : Exchange κ ω) : List (Operation κ) → List Nat
  | [] => []
  | operation :: rest =>
    (exchange.number? operation).toList ++ (exchange.perform ops operation).numbers ops rest

/-- The registry is coherent, its numbers begin with one, and as soon as there has been a
connection the gauge shows how many are active.
-/
structure Accounted (exchange : Exchange κ ω) : Prop where
  coherent : exchange.registry.Coherent
  started : 0 < exchange.registry.next
  positive : ∀ id ∈ exchange.registry.ids, 0 < id
  gauge
    : exchange.metrics.get? .activeConnections
      = if exchange.registry.next = 1 then none else some exchange.registry.active

/-- Counting a fan-out leaves the gauge alone. -/
theorem get?_recordFanout (metrics : Metrics) (delivered failed : Nat)
    : (metrics.recordFanout delivered failed).get? .activeConnections
      = metrics.get? .activeConnections := by
  unfold Metrics.recordFanout
  split <;> simp [Metrics.add, Metrics.get?_set]

namespace Accounted

variable {exchange : Exchange κ ω}

theorem unused (state : ω) : ({ outside := state } : Exchange κ ω).Accounted where
  coherent := .empty
  started := Nat.one_pos
  positive := by simp [Registry.ids]
  gauge := rfl

/-- What sinks do, and what is counted of a fan-out, does not matter. -/
theorem of_same {other : Exchange κ ω} (h : exchange.Accounted)
    (registry : other.registry = exchange.registry)
    (gauge
      : other.metrics.get? .activeConnections = exchange.metrics.get? .activeConnections)
    : other.Accounted := by
  refine ⟨?_, ?_, ?_, ?_⟩
  · exact registry ▸ h.coherent
  · exact registry ▸ h.started
  · exact registry ▸ h.positive
  · exact gauge.trans (registry ▸ h.gauge)

/-- A new connection gets the next number, and the gauge goes up. -/
theorem register (h : exchange.Accounted) (identity : String) (sink : κ)
    : (exchange.register identity sink).2.Accounted where
  coherent := h.coherent.register identity sink
  started := Nat.succ_pos _
  positive := by
    intro id member
    rcases List.mem_cons.mp ((h.coherent.ids_register identity sink).mem_iff.mp member) with
      rfl | old
    · exact h.started
    · exact h.positive id old
  gauge := by
    have later : (exchange.register identity sink).2.registry.next ≠ 1 :=
      Nat.ne_of_gt (Nat.succ_lt_succ h.started)
    rw [if_neg later]
    exact (Metrics.get?_set _ _ _ _).trans (if_pos rfl)

/-- The gauge goes down with a connection that is removed, and with no other. -/
theorem unregister (h : exchange.Accounted) (identity : String) (id : Nat)
    : (exchange.unregister identity id).2.Accounted := by
  cases found : exchange.registry.sink? identity id with
  | none =>
      have same : (exchange.unregister identity id).2 = exchange := by
        simp [Exchange.unregister, Registry.unregister_of_absent found]
      exact same.symm ▸ h
  | some sink =>
      have numbers := h.coherent.ids_unregister found
      have later : exchange.registry.next ≠ 1 := by
        have given := h.coherent.lt_next found
        have positive := h.positive id (h.coherent.mem_ids_iff.mpr ⟨identity, sink, found⟩)
        omega
      have gauge : (exchange.unregister identity id).2.metrics.get? .activeConnections
          = some (exchange.registry.unregister identity id).2.active := by
        simp [Exchange.unregister, Registry.unregister_of_present found, Metrics.get?_set]
      refine ⟨?_, ?_, ?_, ?_⟩
      · exact (registry_unregister exchange identity id).symm ▸ h.coherent.unregister identity id
      · rw [registry_unregister, Registry.next_unregister]
        exact h.started
      · rw [registry_unregister]
        exact fun key member => h.positive key (numbers.mem_iff.mpr (.tail _ member))
      · rw [registry_unregister, Registry.next_unregister, if_neg later]
        exact gauge

theorem evict (h : exchange.Accounted) (ops : SinkOps κ ω) (identity : String)
    (failure : Attempt κ)
    : (exchange.evict ops identity failure).Accounted := by
  rcases removal : exchange.unregister identity failure.id with ⟨removed, left⟩
  have kept : left.Accounted := by simpa only [removal] using h.unregister identity failure.id
  simp only [Exchange.evict, removal]
  cases removed with
  | true => exact kept.of_same rfl rfl
  | false => exact kept

/-- However many connections fail, by induction on the failures. -/
theorem foldl_evict (h : exchange.Accounted) (ops : SinkOps κ ω) (identity : String)
    (failures : List (Attempt κ))
    : (failures.foldl (Exchange.evict ops identity) exchange).Accounted := by
  induction failures generalizing exchange with
  | nil => exact h
  | cons failure rest ih => exact ih (h.evict ops identity failure)

theorem sendTo (h : exchange.Accounted) (ops : SinkOps κ ω) (identity : String)
    (message : Delivery)
    : (exchange.sendTo ops identity message).2.Accounted := by
  by_cases nobody : (exchange.registry.connectionsOf identity).entries = []
  · rw [sendTo_of_none nobody]
    exact h
  · rw [sendTo_of_some nobody]
    apply foldl_evict
    exact h.of_same rfl (get?_recordFanout _ _ _)

/-- Every call keeps the books. -/
theorem perform (h : exchange.Accounted) (ops : SinkOps κ ω) (operation : Operation κ)
    : (exchange.perform ops operation).Accounted := by
  cases operation with
  | register identity sink => exact h.register identity sink
  | unregister identity id => exact h.unregister identity id
  | send identity message => exact h.sendTo ops identity message

/-- Only a registration uses up a number, the one that it answers with. -/
theorem next_perform (h : exchange.Accounted) (ops : SinkOps κ ω) (operation : Operation κ)
    : exchange.number? operation
        = (if operation.isRegistration then some exchange.registry.next else none)
      ∧ (exchange.perform ops operation).registry.next
        = exchange.registry.next + if operation.isRegistration then 1 else 0 := by
  cases operation with
  | register identity sink => exact ⟨rfl, rfl⟩
  | unregister identity id =>
      refine ⟨rfl, ?_⟩
      rw [Exchange.perform, registry_unregister, Registry.next_unregister]
      rfl
  | send identity message => exact ⟨rfl, (sendTo_pruned ops h.coherent identity message).next⟩

/-- Every run keeps the books, and its registrations answer with the numbers from the next one on,
one after the other; by induction on the calls.
-/
theorem run (h : exchange.Accounted) (ops : SinkOps κ ω) (operations : List (Operation κ))
    : (operations.foldl (Exchange.perform ops) exchange).Accounted
      ∧ exchange.numbers ops operations
        = List.range' exchange.registry.next (operations.countP Operation.isRegistration)
      ∧ (operations.foldl (Exchange.perform ops) exchange).registry.next
        = exchange.registry.next + operations.countP Operation.isRegistration := by
  induction operations generalizing exchange with
  | nil => exact ⟨h, rfl, rfl⟩
  | cons operation rest ih =>
      obtain ⟨given, next⟩ := h.next_perform ops operation
      obtain ⟨kept, later, final⟩ := ih (h.perform ops operation)
      refine ⟨kept, ?_, ?_⟩
      · rw [numbers, given, later, next, List.countP_cons]
        cases operation.isRegistration with
        | false => rfl
        | true => exact List.range'_succ.symm
      · rw [List.foldl_cons, final, next, List.countP_cons]
        omega

/-- There are fewer active connections than numbers, since each has one of its own. -/
theorem active_lt_next (h : exchange.Accounted)
    : exchange.registry.active < exchange.registry.next := by
  have included : exchange.registry.ids ⊆ List.range' 1 (exchange.registry.next - 1) := by
    intro id member
    have positive := h.positive id member
    have below := h.coherent.below id member
    exact List.mem_range'_1.mpr (by omega)
  have few := (h.coherent.distinct.subperm included).length_le
  have started := h.started
  rw [← h.coherent.counted, List.length_range'] at few
  omega

end Accounted

-----------------------------------------------------------------------------------------
-- The books of a run
-----------------------------------------------------------------------------------------

/-- What removing a connection answers and does: it tells whether the connection was there, takes
away that one and no other, and does nothing where there was none.
-/
structure Removes (exchange : Exchange κ ω) (identity : String) (id : Nat) : Prop where
  told
    : (exchange.unregister identity id).1 = true
      ↔ ∃ sink, exchange.registry.sink? identity id = some sink
  gone
    : ∀ other key,
        (exchange.unregister identity id).2.registry.sink? other key
          = if Identity.normalize other = Identity.normalize identity ∧ key = id then none
            else exchange.registry.sink? other key
  idle
    : (exchange.unregister identity id).1 = false
        → (exchange.unregister identity id).2 = exchange
  again
    : (exchange.unregister identity id).2.unregister identity id
      = (false, (exchange.unregister identity id).2)

theorem unregister_of_absent {exchange : Exchange κ ω} {identity : String} {id : Nat}
    (absent : exchange.registry.sink? identity id = none)
    : exchange.unregister identity id = (false, exchange) := by
  simp [unregister, Registry.unregister_of_absent absent]

theorem unregister_of_present {exchange : Exchange κ ω} {identity : String} {id : Nat} {sink : κ}
    (found : exchange.registry.sink? identity id = some sink)
    : (exchange.unregister identity id).1 = true := by
  simp [unregister, Registry.unregister_of_present found]

theorem removes (exchange : Exchange κ ω) (identity : String) (id : Nat)
    : exchange.Removes identity id := by
  have gone : ∀ other key, (exchange.unregister identity id).2.registry.sink? other key
      = if Identity.normalize other = Identity.normalize identity ∧ key = id then none
        else exchange.registry.sink? other key := by
    intro other key
    rw [registry_unregister, Registry.sink?_unregister]
  have again := unregister_of_absent ((gone identity id).trans (if_pos ⟨rfl, rfl⟩))
  cases found : exchange.registry.sink? identity id with
  | none =>
      have nothing := unregister_of_absent found
      exact ⟨by simp [nothing, found], gone, fun _ => by rw [nothing], again⟩
  | some sink =>
      have removed := unregister_of_present found
      exact ⟨by simp [removed, found], gone, by simp [removed], again⟩

/-- The books of a registry whose registrations have answered with these numbers. -/
structure InOrder (exchange : Exchange κ ω) (numbers : List Nat) : Prop where
  /-- The map has the connected identities in normal form and no other, each once. -/
  keys
    : ∀ name, name ∈ exchange.registry.connections.keys
        ↔ Identity.normalize name = name ∧ exchange.registry.isConnected name = true
  identities : exchange.registry.connections.keys.Nodup
  /-- No number is in two sets, or twice in one. -/
  distinct : exchange.registry.ids.Nodup
  /-- The numbers of the connections have been given by registrations. -/
  given : ∀ id ∈ exchange.registry.ids, id ∈ numbers
  rising : numbers.Pairwise (· < ·)
  below : ∀ id ∈ numbers, id < exchange.registry.next
  /-- Neither of the two counters has overflowed. -/
  next : exchange.registry.next < UInt64.size
  active : exchange.registry.active < UInt64.size
  /-- The number of active connections is the sum over all identities. -/
  total
    : ∀ names, exchange.registry.Covers names
        → exchange.registry.active = (names.map exchange.registry.connectionCount).sum
  connected
    : ∀ names, exchange.registry.Covers names
        → exchange.registry.identityCount = names.countP exchange.registry.isConnected
  covered : exchange.registry.Covers exchange.registry.connections.keys
  /-- The gauge shows what is active, and nothing before the first registration. -/
  gauge
    : exchange.metrics.get? .activeConnections
      = if numbers = [] then none else some exchange.registry.active
  removes : ∀ identity id, exchange.Removes identity id

/-- The books of a registry are in order after any run of calls with fewer registrations than
there are numbers, whatever the calls are about and however its sinks fail: the map has exactly the
identities with a connection, numbers are never given again, and the counters and the gauge say how
many connections there are. A call that removes a connection tells whether it did, and the same
call again does nothing.
-/
theorem registry_in_order (ops : SinkOps κ ω) (state : ω) (operations : List (Operation κ))
    (few : operations.countP Operation.isRegistration < UInt64.size - 1)
    : let unused : Exchange κ ω := { outside := state }
      (operations.foldl (perform ops) unused).InOrder (unused.numbers ops operations) := by
  intro unused
  obtain ⟨kept, given, next⟩ := (Accounted.unused state).run ops operations
  have below : (operations.foldl (perform ops) unused).registry.next < UInt64.size :=
    next ▸ (by change 1 + _ < _; omega)
  rw [given]
  exact {
    keys := kept.coherent.mem_keys_iff
    identities := kept.coherent.identities
    distinct := kept.coherent.distinct
    given := by
      intro id member
      have positive := kept.positive id member
      have given := kept.coherent.below id member
      rw [next] at given
      exact List.mem_range'_1.mpr ⟨positive, given⟩
    rising := List.pairwise_lt_range'
    below := by
      intro id member
      rw [next]
      exact (List.mem_range'_1.mp member).2
    next := below
    active := Nat.lt_trans kept.active_lt_next below
    total := fun _ => kept.coherent.active_eq_sum
    connected := fun _ => kept.coherent.identityCount_eq
    covered := kept.coherent.covers_keys
    gauge := by
      rw [kept.gauge, next]
      simp [unused]
    removes := removes _
  }

/-- Two connections of one identity, one of which fails, and a third of another. -/
theorem registry_in_order_of_refusal
    : let endpoints : Endpoints := ⟨[(1, .recorder []), (2, .refuser .full 0)]⟩
      let operations : List (Operation Nat) := [
        .register "A@x" 1, .register " a@X" 2, .send "a@x" ⟨"m", "b@x", "hi", none⟩,
        .register "b@x" 2]
      let unused : Exchange Nat Endpoints := { outside := endpoints }
      let exchange := operations.foldl (perform endpointOps) unused
      operations.countP Operation.isRegistration < UInt64.size - 1
        ∧ exchange.InOrder [1, 2, 3]
        ∧ exchange.registry.ids = [1, 3]
        ∧ exchange.registry.active
          = (["a@x", "b@x"].map exchange.registry.connectionCount).sum := by
  intro endpoints operations unused exchange
  have few : operations.countP Operation.isRegistration < UInt64.size - 1 := by decide
  have books := registry_in_order endpointOps endpoints operations few
  have numbers : unused.numbers endpointOps operations = [1, 2, 3] := by decide +kernel
  have names : exchange.registry.connections.keys = ["a@x", "b@x"] := by decide +kernel
  refine ⟨few, numbers ▸ books, by decide +kernel, ?_⟩
  exact books.total _ (names ▸ books.covered)

end Exchange

end ChatServer.Live
