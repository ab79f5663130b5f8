import ChatServer.Proofs.Live.Connections

/-! Fan-out: a message is offered once to each connection of its recipient, and exactly the
connections that refused it are gone afterwards, each after its sink has been told.
-/

namespace ChatServer.Live.Exchange

variable {κ ω : Type}

-----------------------------------------------------------------------------------------
-- The attempts
-----------------------------------------------------------------------------------------

/-- The attempts of a fan-out, with what they leave of the sinks' state. -/
def attempts (ops : SinkOps κ ω) (exchange : Exchange κ ω) (identity : String)
    (message : Delivery) : List (Attempt κ) × ω :=
  deliverAll ops message (exchange.registry.connectionsOf identity).entries exchange.outside

/-- The failed attempts of a fan-out. -/
def failures (ops : SinkOps κ ω) (exchange : Exchange κ ω) (identity : String)
    (message : Delivery) : List (Attempt κ) :=
  (exchange.attempts ops identity message).1.filter Attempt.failed

/-- Each target is tried once, in order, whatever the attempts before came to. -/
theorem deliverAll_targets (ops : SinkOps κ ω) (message : Delivery) (targets : List (Nat × κ))
    (outside : ω)
    : (deliverAll ops message targets outside).1.map (fun attempt => (attempt.id, attempt.sink))
      = targets := by
  induction targets generalizing outside with
  | nil => rfl
  | cons target rest ih =>
      obtain ⟨id, sink⟩ := target
      simp only [deliverAll, List.map_cons, ih]

/-- The connections of an identity are tried once each, in order. -/
theorem attempts_targets (ops : SinkOps κ ω) (exchange : Exchange κ ω) (identity : String)
    (message : Delivery)
    : (exchange.attempts ops identity message).1.map (fun attempt => (attempt.id, attempt.sink))
      = (exchange.registry.connectionsOf identity).entries :=
  deliverAll_targets ops message _ _

/-- There are as many attempts as connections. -/
theorem length_attempts (ops : SinkOps κ ω) (exchange : Exchange κ ω) (identity : String)
    (message : Delivery)
    : (exchange.attempts ops identity message).1.length
      = exchange.registry.connectionCount identity := by
  rw [Registry.connectionCount, Table.size, ← attempts_targets ops exchange identity message,
    List.length_map]

/-- A fan-out to nobody makes no attempt. -/
theorem attempts_of_none {ops : SinkOps κ ω} {exchange : Exchange κ ω} {identity : String}
    (none : (exchange.registry.connectionsOf identity).entries = []) (message : Delivery)
    : exchange.attempts ops identity message = ([], exchange.outside) := by
  rw [attempts, none]
  rfl

/-- The numbers of the attempts are those of the connections. -/
theorem attempts_ids (ops : SinkOps κ ω) (exchange : Exchange κ ω) (identity : String)
    (message : Delivery)
    : (exchange.attempts ops identity message).1.map Attempt.id
      = (exchange.registry.connectionsOf identity).keys := by
  rw [Table.keys, ← attempts_targets ops exchange identity message, List.map_map]
  rfl

/-- An attempt is made on a connection of the identity. -/
theorem sink?_of_attempt {ops : SinkOps κ ω} {exchange : Exchange κ ω}
    (h : exchange.registry.Coherent) {identity : String} {message : Delivery}
    {attempt : Attempt κ} (member : attempt ∈ (exchange.attempts ops identity message).1)
    : exchange.registry.sink? identity attempt.id = some attempt.sink := by
  apply Table.get?_of_mem (h.connectionsOf_distinct identity)
  rw [← attempts_targets ops exchange identity message]
  exact List.mem_map.mpr ⟨attempt, member, rfl⟩

/-- Every connection of the identity is tried. -/
theorem attempt_of_sink? (ops : SinkOps κ ω) {exchange : Exchange κ ω} {identity : String}
    (message : Delivery) {id : Nat} {sink : κ}
    (found : exchange.registry.sink? identity id = some sink)
    : ∃ attempt ∈ (exchange.attempts ops identity message).1,
        attempt.id = id ∧ attempt.sink = sink := by
  have member := Table.mem_of_get? found
  rw [← attempts_targets ops exchange identity message] at member
  obtain ⟨attempt, tried, same⟩ := List.mem_map.mp member
  exact ⟨attempt, tried, congrArg Prod.fst same, congrArg Prod.snd same⟩

/-- No connection is tried twice. -/
theorem attempts_nodup (ops : SinkOps κ ω) {exchange : Exchange κ ω}
    (h : exchange.registry.Coherent) (identity : String) (message : Delivery)
    : ((exchange.attempts ops identity message).1.map Attempt.id).Nodup := by
  rw [attempts_ids]
  exact h.connectionsOf_distinct identity

/-- A connection fails when some attempt on it does. -/
theorem mem_failures {ops : SinkOps κ ω} {exchange : Exchange κ ω} {identity : String}
    {message : Delivery} {attempt : Attempt κ}
    : attempt ∈ exchange.failures ops identity message
      ↔ attempt ∈ (exchange.attempts ops identity message).1 ∧ attempt.fault?.isSome :=
  List.mem_filter

-----------------------------------------------------------------------------------------
-- Removing what failed
-----------------------------------------------------------------------------------------

theorem registry_unregister (exchange : Exchange κ ω) (identity : String) (id : Nat)
    : (exchange.unregister identity id).2.registry
      = (exchange.registry.unregister identity id).2 := by
  cases found : exchange.registry.sink? identity id with
  | none => simp [unregister, Registry.unregister_of_absent found]
  | some sink => simp [unregister, Registry.unregister_of_present found]

@[simp] theorem outside_unregister (exchange : Exchange κ ω) (identity : String) (id : Nat)
    : (exchange.unregister identity id).2.outside = exchange.outside := by
  cases found : exchange.registry.sink? identity id with
  | none => simp [unregister, Registry.unregister_of_absent found]
  | some sink => simp [unregister, Registry.unregister_of_present found]

/-- After failed connections of an identity have been removed: they are not found any more, every
other connection is found as before, and the sinks of the failed ones have been told in order.
-/
structure Pruned (ops : SinkOps κ ω) (identity : String) (failures : List (Attempt κ))
    (before after : Exchange κ ω) : Prop where
  coherent : after.registry.Coherent
  next : after.registry.next = before.registry.next
  sink?
    : ∀ other id,
        after.registry.sink? other id
          = if Identity.normalize other = Identity.normalize identity
              ∧ id ∈ failures.map Attempt.id then none
            else before.registry.sink? other id
  ids : before.registry.ids.Perm (failures.map Attempt.id ++ after.registry.ids)
  outside
    : after.outside
      = failures.foldl (fun outside failure => ops.evicted failure.sink outside) before.outside

/-- Evicting a connection that is there removes it and tells its sink. -/
theorem evict_of_present (ops : SinkOps κ ω) {identity : String} {exchange : Exchange κ ω}
    {failure : Attempt κ} {sink : κ}
    (found : exchange.registry.sink? identity failure.id = some sink)
    : (evict ops identity exchange failure).registry
        = (exchange.registry.unregister identity failure.id).2
      ∧ (evict ops identity exchange failure).outside
        = ops.evicted failure.sink exchange.outside := by
  unfold evict unregister
  rw [Registry.unregister_of_present found]
  exact ⟨rfl, rfl⟩

/-- Evicting connections that are there, each once, prunes the registry, by induction on them. -/
theorem foldl_evict_pruned (ops : SinkOps κ ω) {identity : String} (failures : List (Attempt κ))
    {exchange : Exchange κ ω} (h : exchange.registry.Coherent)
    (present : ∀ failure ∈ failures, ∃ sink,
      exchange.registry.sink? identity failure.id = some sink)
    (distinct : (failures.map Attempt.id).Nodup)
    : Pruned ops identity failures exchange (failures.foldl (evict ops identity) exchange) := by
  induction failures generalizing exchange with
  | nil => exact ⟨h, rfl, by simp, .rfl, rfl⟩
  | cons failure rest ih =>
      obtain ⟨absent, restDistinct⟩ := List.nodup_cons.mp distinct
      obtain ⟨sink, found⟩ := present failure (by simp)
      obtain ⟨registry, outside⟩ := evict_of_present ops found
      -- The others stay where they are, since they have other numbers.
      have still : ∀ other ∈ rest, ∃ sink,
          (evict ops identity exchange failure).registry.sink? identity other.id = some sink := by
        intro other member
        obtain ⟨held, there⟩ := present other (List.mem_cons_of_mem _ member)
        have differ : other.id ≠ failure.id := fun same =>
          absent (same ▸ List.mem_map_of_mem member)
        exact ⟨held, by rw [registry, Registry.sink?_unregister, if_neg (by simp [differ]), there]⟩
      have kept : (evict ops identity exchange failure).registry.Coherent := by
        rw [registry]
        exact h.unregister identity failure.id
      have tail := ih kept still restDistinct
      refine ⟨tail.coherent, ?_, ?_, ?_, ?_⟩
      · rw [List.foldl_cons, tail.next, registry, Registry.next_unregister]
      · intro other id
        rw [List.foldl_cons, tail.sink?, registry, Registry.sink?_unregister]
        by_cases same : Identity.normalize other = Identity.normalize identity
        · by_cases first : id = failure.id <;> by_cases later : id ∈ rest.map Attempt.id
            <;> simp_all
        · simp [same]
      · have gone := h.ids_unregister found
        rw [← registry] at gone
        rw [List.foldl_cons, List.map_cons, List.cons_append]
        exact gone.trans (tail.ids.cons _)
      · rw [List.foldl_cons, List.foldl_cons, tail.outside, outside]

/-- A fan-out to nobody does nothing. -/
theorem sendTo_of_none {ops : SinkOps κ ω} {exchange : Exchange κ ω} {identity : String}
    {message : Delivery} (none : (exchange.registry.connectionsOf identity).entries = [])
    : exchange.sendTo ops identity message = (.error .notConnected, exchange) := by
  simp [sendTo, none]

/-- The exchange after the attempts of a fan-out, before anything is removed. -/
def attempted (ops : SinkOps κ ω) (exchange : Exchange κ ω) (identity : String)
    (message : Delivery) : Exchange κ ω :=
  let number := (exchange.failures ops identity message).length
  { exchange with
    outside := (exchange.attempts ops identity message).2
    metrics := exchange.metrics.recordFanout
      ((exchange.attempts ops identity message).1.length - number) number }

/-- What a fan-out with these attempts answers. -/
def answer (attempts : List (Attempt κ)) : Except SendError Nat :=
  let number := (attempts.filter Attempt.failed).length
  match attempts.findSome? Attempt.fault? with
  | none => .ok (attempts.length - number)
  | some first => .error (.failed first number attempts.length)

/-- A fan-out to somebody makes its attempts, evicts what failed and answers. -/
theorem sendTo_of_some {ops : SinkOps κ ω} {exchange : Exchange κ ω} {identity : String}
    {message : Delivery} (some : (exchange.registry.connectionsOf identity).entries ≠ [])
    : exchange.sendTo ops identity message
      = (answer (exchange.attempts ops identity message).1,
        (exchange.failures ops identity message).foldl (evict ops identity)
          (exchange.attempted ops identity message)) := by
  have present : (exchange.registry.connectionsOf identity).entries.isEmpty = false := by
    simpa using some
  unfold sendTo answer
  simp only [present, Bool.false_eq_true, if_false]
  split
  next none => simp only [attempts, none]; rfl
  next first found => simp only [attempts, found]; rfl

/-- A fan-out changes the sinks as its attempts do and removes exactly the connections that
failed.
-/
theorem sendTo_pruned (ops : SinkOps κ ω) {exchange : Exchange κ ω}
    (h : exchange.registry.Coherent) (identity : String) (message : Delivery)
    : Pruned ops identity (exchange.failures ops identity message)
        { exchange with outside := (exchange.attempts ops identity message).2 }
        (exchange.sendTo ops identity message).2 := by
  by_cases nobody : (exchange.registry.connectionsOf identity).entries = []
  · have nothing : exchange.attempts ops identity message = ([], exchange.outside) :=
      attempts_of_none nobody message
    have noFailure : exchange.failures ops identity message = [] := by
      rw [failures, nothing]
      rfl
    rw [sendTo_of_none nobody, noFailure, nothing]
    exact ⟨h, rfl, by simp, .rfl, rfl⟩
  · have present : ∀ failure ∈ exchange.failures ops identity message, ∃ sink,
        exchange.registry.sink? identity failure.id = some sink := fun failure member =>
      ⟨_, sink?_of_attempt h (mem_failures.mp member).1⟩
    have distinct : ((exchange.failures ops identity message).map Attempt.id).Nodup :=
      (attempts_nodup ops h identity message).sublist (List.filter_sublist.map _)
    have coherent : (exchange.attempted ops identity message).registry.Coherent := h
    have pruned := foldl_evict_pruned ops _ coherent present distinct
    rw [sendTo_of_some nobody]
    exact ⟨pruned.coherent, pruned.next, pruned.sink?, pruned.ids, pruned.outside⟩

end ChatServer.Live.Exchange
