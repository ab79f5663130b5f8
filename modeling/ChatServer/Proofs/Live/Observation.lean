import ChatServer.Proofs.Live.Fanout

/-! Watching the sinks of a registry. Every sink is tagged with the number of its connection and
writes down what is done to it, so what a connection went through in a run can be read off.
Watching disturbs nothing: without tags and events the run is the one that it would have been.
-/

namespace ChatServer.Live

variable {κ ω : Type}

/-- A sink with the number of its connection. -/
structure Tagged (κ : Type) where
  id : Nat
  sink : κ

/-- What is done to the sink of a connection: a message is offered to it and refused with a fault
or accepted, or it is told that its connection has been removed.
-/
inductive SinkEvent where
  | offered (id : Nat) (message : Delivery) (fault? : Option DeliveryFault)
  | evicted (id : Nat)
  deriving DecidableEq

/-- The connection of an event. -/
def SinkEvent.id : SinkEvent → Nat
  | offered id _ _ | evicted id => id

/-- The state of sinks with all that has been done to them, the latest last. -/
structure Watched (ω : Type) where
  state : ω
  events : List SinkEvent := []

/-- Sinks that write down what is done to them. -/
def SinkOps.watched (ops : SinkOps κ ω) : SinkOps (Tagged κ) (Watched ω) where
  deliver tagged message outside :=
    let (fault?, state) := ops.deliver tagged.sink message outside.state
    (fault?, ⟨state, outside.events ++ [.offered tagged.id message fault?]⟩)
  evicted tagged outside :=
    ⟨ops.evicted tagged.sink outside.state, outside.events ++ [.evicted tagged.id]⟩

/-- A call on a registry. -/
inductive Operation (κ : Type) where
  | register (identity : String) (sink : κ)
  | unregister (identity : String) (id : Nat)
  | send (identity : String) (message : Delivery)

namespace Registry

variable {κ' : Type}

/-- The registry with every sink changed. -/
def map (change : κ → κ') (registry : Registry κ) : Registry κ' where
  next := registry.next
  active := registry.active
  connections := registry.connections.map (Table.map change)

theorem connectionsOf_map (change : κ → κ') (registry : Registry κ) (identity : String)
    : (registry.map change).connectionsOf identity
      = (registry.connectionsOf identity).map change := by
  simp only [connectionsOf, map, Table.get?_map]
  cases registry.connections.get? (Identity.normalize identity) <;> rfl

theorem register_map (change : κ → κ') (registry : Registry κ) (identity : String) (sink : κ)
    : (registry.map change).register identity (change sink)
      = (registry.next, (registry.register identity sink).2.map change) := by
  rw [register, connectionsOf_map]
  simp only [register, map, Table.map_set]

theorem unregister_map (change : κ → κ') (registry : Registry κ) (identity : String) (id : Nat)
    : (registry.map change).unregister identity id
      = ((registry.unregister identity id).1, (registry.unregister identity id).2.map change) := by
  have present : ((registry.connectionsOf identity).map change).contains id
      = (registry.connectionsOf identity).contains id := by
    rw [Table.contains, Table.contains, Table.get?_map, Option.isSome_map]
  simp only [unregister, connectionsOf_map, present]
  split
  next =>
    simp only [map, replaced, ← Table.map_erase, Table.size_map]
    split
    next => rw [Table.map_erase]
    next => rw [Table.map_set]
  next => rfl

end Registry

namespace Exchange

/-- Makes a call on a registry. -/
def perform (ops : SinkOps κ ω) (exchange : Exchange κ ω) : Operation κ → Exchange κ ω
  | .register identity sink => (exchange.register identity sink).2
  | .unregister identity id => (exchange.unregister identity id).2
  | .send identity message => (exchange.sendTo ops identity message).2

/-- The call with its sink tagged by the number that it is about to be registered under. -/
def tag (exchange : Exchange (Tagged κ) (Watched ω)) : Operation κ → Operation (Tagged κ)
  | .register identity sink => .register identity ⟨exchange.registry.next, sink⟩
  | .unregister identity id => .unregister identity id
  | .send identity message => .send identity message

/-- Makes a call on a watched registry. -/
def watch (ops : SinkOps κ ω) (exchange : Exchange (Tagged κ) (Watched ω))
    (operation : Operation κ) : Exchange (Tagged κ) (Watched ω) :=
  exchange.perform ops.watched (exchange.tag operation)

/-- A watched registry without connections. -/
def unused (state : ω) : Exchange (Tagged κ) (Watched ω) :=
  { outside := { state } }

-----------------------------------------------------------------------------------------
-- Watching disturbs nothing
-----------------------------------------------------------------------------------------

/-- The exchange without tags and events. -/
def plain (exchange : Exchange (Tagged κ) (Watched ω)) : Exchange κ ω where
  registry := exchange.registry.map Tagged.sink
  outside := exchange.outside.state
  metrics := exchange.metrics

/-- The attempt without the tag. -/
def Attempt.plain (attempt : Attempt (Tagged κ)) : Attempt κ :=
  ⟨attempt.id, attempt.sink.sink, attempt.fault?⟩

theorem deliverAll_plain (ops : SinkOps κ ω) (message : Delivery)
    (targets : List (Nat × Tagged κ)) (outside : Watched ω)
    : deliverAll ops message (targets.map fun entry => (entry.1, entry.2.sink)) outside.state
      = ((deliverAll ops.watched message targets outside).1.map Attempt.plain,
        (deliverAll ops.watched message targets outside).2.state) := by
  induction targets generalizing outside with
  | nil => rfl
  | cons target rest ih =>
      have tail := ih (ops.watched.deliver target.2 message outside).2
      simp only [deliverAll, List.map_cons]
      rw [← show (ops.watched.deliver target.2 message outside).2.state
        = (ops.deliver target.2.sink message outside.state).2 from rfl, tail]
      rfl

theorem unregister_plain (exchange : Exchange (Tagged κ) (Watched ω)) (identity : String)
    (id : Nat)
    : exchange.plain.unregister identity id
      = ((exchange.unregister identity id).1, (exchange.unregister identity id).2.plain) := by
  rcases removal : exchange.registry.unregister identity id with ⟨removed, registry⟩
  have without := Registry.unregister_map Tagged.sink exchange.registry identity id
  rw [removal] at without
  unfold unregister
  rw [plain, without, removal]
  cases removed <;> rfl

theorem evict_plain (ops : SinkOps κ ω) (identity : String)
    (exchange : Exchange (Tagged κ) (Watched ω)) (failure : Attempt (Tagged κ))
    : evict ops identity exchange.plain failure.plain
      = (evict ops.watched identity exchange failure).plain := by
  unfold evict
  rw [show failure.plain.id = failure.id from rfl, unregister_plain]
  rcases exchange.unregister identity failure.id with ⟨removed, left⟩
  cases removed <;> rfl

theorem foldl_evict_plain (ops : SinkOps κ ω) (identity : String)
    (failures : List (Attempt (Tagged κ))) (exchange : Exchange (Tagged κ) (Watched ω))
    : (failures.map Attempt.plain).foldl (evict ops identity) exchange.plain
      = (failures.foldl (evict ops.watched identity) exchange).plain := by
  induction failures generalizing exchange with
  | nil => rfl
  | cons failure rest ih => rw [List.map_cons, List.foldl_cons, evict_plain, ih, List.foldl_cons]

theorem attempts_plain (ops : SinkOps κ ω) (exchange : Exchange (Tagged κ) (Watched ω))
    (identity : String) (message : Delivery)
    : exchange.plain.attempts ops identity message
      = ((exchange.attempts ops.watched identity message).1.map Attempt.plain,
        (exchange.attempts ops.watched identity message).2.state) := by
  have targets : (exchange.plain.registry.connectionsOf identity).entries
      = (exchange.registry.connectionsOf identity).entries.map
        fun entry => (entry.1, entry.2.sink) :=
    congrArg Table.entries (Registry.connectionsOf_map _ _ _)
  rw [attempts, targets]
  exact deliverAll_plain ops message _ _

theorem failures_plain (ops : SinkOps κ ω) (exchange : Exchange (Tagged κ) (Watched ω))
    (identity : String) (message : Delivery)
    : exchange.plain.failures ops identity message
      = (exchange.failures ops.watched identity message).map Attempt.plain := by
  rw [failures, attempts_plain, failures, List.filter_map]
  rfl

theorem answer_plain (attempts : List (Attempt (Tagged κ)))
    : answer (attempts.map Attempt.plain) = answer attempts := by
  unfold answer
  rw [List.filter_map, List.findSome?_map, List.length_map, List.length_map]
  rfl

theorem sendTo_plain (ops : SinkOps κ ω) (exchange : Exchange (Tagged κ) (Watched ω))
    (identity : String) (message : Delivery)
    : exchange.plain.sendTo ops identity message
      = ((exchange.sendTo ops.watched identity message).1,
        (exchange.sendTo ops.watched identity message).2.plain) := by
  have connections : exchange.plain.registry.connectionsOf identity
      = (exchange.registry.connectionsOf identity).map Tagged.sink :=
    Registry.connectionsOf_map _ _ _
  by_cases nobody : (exchange.registry.connectionsOf identity).entries = []
  · rw [sendTo_of_none nobody, sendTo_of_none (by rw [connections, Table.map, nobody]; rfl)]
  · have somebody : (exchange.plain.registry.connectionsOf identity).entries ≠ [] := by
      rw [connections, Table.map]
      simpa using nobody
    have counted : exchange.plain.attempted ops identity message
        = (exchange.attempted ops.watched identity message).plain := by
      simp only [attempted, attempts_plain, failures_plain, List.length_map]
      rfl
    rw [sendTo_of_some nobody, sendTo_of_some somebody, attempts_plain, failures_plain, counted,
      foldl_evict_plain, answer_plain]

/-- Watching a call disturbs nothing. -/
theorem plain_watch (ops : SinkOps κ ω) (exchange : Exchange (Tagged κ) (Watched ω))
    (operation : Operation κ)
    : (exchange.watch ops operation).plain = exchange.plain.perform ops operation := by
  cases operation with
  | register identity sink =>
      have added := Registry.register_map Tagged.sink exchange.registry identity
        ⟨exchange.registry.next, sink⟩
      simp only [perform, register, plain] at added ⊢
      rw [added]
      rfl
  | unregister identity id => rw [perform, unregister_plain]; rfl
  | send identity message => rw [perform, sendTo_plain]; rfl

end Exchange

end ChatServer.Live
