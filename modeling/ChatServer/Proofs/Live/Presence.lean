import ChatServer.Proofs.Live.Turns

/-! Sound worlds: a session that is running is registered under its own number or marked as evicted,
one that has ended is not registered, and every connection belongs to one session or to one other
sink.
-/

namespace ChatServer.Live

variable {σ : Type}

-----------------------------------------------------------------------------------------
-- Sound worlds
-----------------------------------------------------------------------------------------

/-- A session has a mailbox and a connection of its own. While it runs, it can be reached there
or is marked as evicted, and afterwards the connection is gone.
-/
structure Kept (others : List Nat) (registry : Registry Nat) (endpoints : Endpoints)
    (number : Nat) (session : Session) : Prop where
  mailbox : (endpoints.channel? number).isSome = true
  given : session.connection < registry.next
  foreign : session.connection ∉ others
  own
    : ∀ {identity sink}, registry.sink? identity session.connection = some sink →
        sink = number ∧ Identity.normalize identity = Identity.normalize session.identity
  reachable
    : session.isRunning = true →
        registry.sink? session.identity session.connection = some number
        ∨ endpoints.isEvicted number = true
  gone : session.isRunning = false → session.connection ∉ registry.ids

/-- All sessions are kept, no two share a connection, and every connection is that of a session or
was given to another sink.
-/
structure Sound (others : List Nat) (world : World σ) : Prop where
  coherent : world.exchange.registry.Coherent
  numbered : ∀ number ∈ world.endpoints.keys, number ≤ world.endpoints.size
  distinct : world.sessions.Distinct
  kept
    : ∀ {number session}, world.sessions.get? number = some session →
        Kept others world.exchange.registry world.endpoints number session
  apart
    : ∀ {number other session session'}, world.sessions.get? number = some session →
        world.sessions.get? other = some session' →
        session.connection = session'.connection → number = other
  handed : others.Nodup
  below : ∀ id ∈ others, id < world.exchange.registry.next
  accounted
    : ∀ id ∈ world.exchange.registry.ids, id ∈ others ∨ ∃ number session,
        world.sessions.get? number = some session ∧ session.connection = id

theorem Sound.fresh (backend : σ) (now : Instant) : Sound [] ({ backend, now } : World σ) where
  coherent := .empty
  numbered := by simp [World.endpoints, Table.keys]
  distinct := List.nodup_nil
  kept found := by cases found
  apart found := by cases found
  handed := List.nodup_nil
  below := by simp
  accounted := by simp [Registry.ids]

-----------------------------------------------------------------------------------------
-- Steps that add no connection
-----------------------------------------------------------------------------------------

/-- No connection comes or changes, no mark is taken back, and mailboxes are still mailboxes. -/
structure Shrinks (before after : World σ) : Prop where
  coherent : after.exchange.registry.Coherent
  next : after.exchange.registry.next = before.exchange.registry.next
  sink?
    : ∀ {identity id sink}, after.exchange.registry.sink? identity id = some sink →
        before.exchange.registry.sink? identity id = some sink
  alike : Endpoints.Alike before.endpoints after.endpoints
  marks
    : ∀ {number}, before.endpoints.isEvicted number = true →
        after.endpoints.isEvicted number = true

theorem Shrinks.mem_ids {before after : World σ} (h : Shrinks before after)
    (coherent : before.exchange.registry.Coherent) {id : Nat}
    (member : id ∈ after.exchange.registry.ids)
    : id ∈ before.exchange.registry.ids := by
  obtain ⟨identity, sink, found⟩ := h.coherent.mem_ids_iff.mp member
  exact coherent.mem_ids_iff.mpr ⟨identity, sink, h.sink? found⟩

/-- A session goes on or ends: it keeps its identity and its connection, which is still there or
marked while it runs, and gone afterwards.
-/
structure Continues (before after : World σ) (number : Nat) (session session' : Session)
    : Prop where
  identity : session'.identity = session.identity
  connection : session'.connection = session.connection
  running : session'.isRunning = true → session.isRunning = true
  reachable
    : session'.isRunning = true →
        before.exchange.registry.sink? session.identity session.connection = some number →
        after.exchange.registry.sink? session.identity session.connection = some number
        ∨ after.endpoints.isEvicted number = true
  gone : session'.isRunning = false → session.connection ∉ after.exchange.registry.ids

/-- A step that adds no connection keeps a world sound if every session goes on or ends. -/
theorem Sound.shrinks {others : List Nat} {before after : World σ} (h : Sound others before)
    (step : Shrinks before after) (distinct : after.sessions.Distinct)
    (sessions : ∀ {number session'}, after.sessions.get? number = some session' →
      ∃ session, before.sessions.get? number = some session
        ∧ Continues before after number session session')
    (present : ∀ {number session}, before.sessions.get? number = some session →
      ∃ session', after.sessions.get? number = some session'
        ∧ session'.connection = session.connection)
    : Sound others after where
  coherent := step.coherent
  numbered := by
    rw [step.alike.keys, step.alike.size]
    exact h.numbered
  distinct := distinct
  kept {number session'} found := by
    obtain ⟨session, old, continues⟩ := sessions found
    have kept := h.kept old
    refine ⟨?_, ?_, ?_, ?_, ?_, ?_⟩
    · rw [step.alike.mailbox]
      exact kept.mailbox
    · rw [continues.connection, step.next]
      exact kept.given
    · rw [continues.connection]
      exact kept.foreign
    · rw [continues.connection, continues.identity]
      exact fun held => kept.own (step.sink? held)
    · intro running
      rw [continues.connection, continues.identity]
      rcases kept.reachable (continues.running running) with held | marked
      · exact continues.reachable running held
      · exact .inr (step.marks marked)
    · rw [continues.connection]
      exact continues.gone
  apart {number other session' session''} found again same := by
    obtain ⟨first, old, firstOn⟩ := sessions found
    obtain ⟨second, alsoOld, secondOn⟩ := sessions again
    rw [firstOn.connection, secondOn.connection] at same
    exact h.apart old alsoOld same
  handed := h.handed
  below := by
    rw [step.next]
    exact h.below
  accounted id member := by
    rcases h.accounted id (step.mem_ids h.coherent member) with given | ⟨number, session, old, same⟩
    · exact .inl given
    · obtain ⟨session', found, connection⟩ := present old
      exact .inr ⟨number, session', found, connection.trans same⟩

/-- Where the sessions stay as they are, it is enough that no running one is cut off unmarked. -/
theorem Sound.shrinks_of_same {others : List Nat} {before after : World σ}
    (h : Sound others before) (step : Shrinks before after)
    (same : after.sessions = before.sessions)
    (reachable : ∀ {number session}, before.sessions.get? number = some session →
      before.exchange.registry.sink? session.identity session.connection = some number →
      after.exchange.registry.sink? session.identity session.connection = some number
      ∨ after.endpoints.isEvicted number = true)
    : Sound others after := by
  refine h.shrinks step (same ▸ h.distinct) ?_ ?_
  · intro number session found
    rw [same] at found
    refine ⟨session, found, rfl, rfl, id, fun _ => reachable found, ?_⟩
    exact fun ended member => (h.kept found).gone ended (step.mem_ids h.coherent member)
  · exact fun {number session} found => ⟨session, same ▸ found, rfl⟩

namespace World

theorem Calm.shrinks {before after : World σ} (calm : Calm before after)
    (coherent : before.exchange.registry.Coherent)
    : Shrinks before after where
  coherent := by rwa [calm.registry]
  next := by rw [calm.registry]
  sink? found := by rwa [calm.registry] at found
  alike := calm.alike
  marks marked := by rwa [calm.marks]

end World

theorem Sound.calm {others : List Nat} {before after : World σ} (h : Sound others before)
    (calm : World.Calm before after)
    : Sound others after := by
  apply h.shrinks_of_same (calm.shrinks h.coherent) calm.sessions
  intro number session _ held
  rw [calm.registry]
  exact .inl held

/-- A session may be replaced by one that runs as well under the same connection. -/
theorem Sound.setSession {others : List Nat} {world : World σ} (h : Sound others world)
    {number : Nat} {session : Session} (found : world.sessions.get? number = some session)
    (session' : Session) (identity : session'.identity = session.identity)
    (connection : session'.connection = session.connection)
    (running : session'.isRunning = session.isRunning)
    : Sound others (world.setSession number session') := by
  have step : Shrinks world (world.setSession number session') :=
    ⟨h.coherent, rfl, id, .refl world.endpoints, id⟩
  refine h.shrinks step (h.distinct.set number session') ?_ ?_
  · intro other session'' again
    rw [World.setSession, Table.get?_set] at again
    split at again
    next same =>
      subst same
      obtain rfl := Option.some.inj again
      refine ⟨session, found, identity, connection, fun on => running ▸ on, fun _ held => .inl held,
        fun ended => (h.kept found).gone (running ▸ ended)⟩
    next =>
      exact ⟨session'', again, rfl, rfl, id, fun _ held => .inl held, (h.kept again).gone⟩
  · intro other session'' old
    rw [World.setSession, Table.get?_set]
    split
    next same =>
      subst same
      obtain rfl := Option.some.inj (found.symm.trans old)
      exact ⟨session', rfl, connection⟩
    next => exact ⟨session'', old, rfl⟩

-----------------------------------------------------------------------------------------
-- Removals
-----------------------------------------------------------------------------------------

/-- Unregistering shrinks a registry. -/
theorem Shrinks.unregister {world : World σ} (coherent : world.exchange.registry.Coherent)
    (identity : String) (id : Nat)
    : Shrinks world
        (world.setRegistry (world.exchange.registry.unregister identity id).2) where
  coherent := coherent.unregister identity id
  next := Registry.next_unregister _ identity id
  sink? {other key sink} found := by
    rw [World.setRegistry, Registry.sink?_unregister] at found
    split at found
    next => cases found
    next => exact found
  alike := .refl world.endpoints
  marks marked := marked

/-- So does it in an exchange, where a removal is counted. -/
theorem Shrinks.disconnect {world : World σ} (coherent : world.exchange.registry.Coherent)
    (identity : String) (id : Nat)
    : Shrinks world { world with exchange := (world.exchange.unregister identity id).2 } := by
  have removal := Shrinks.unregister coherent identity id
  have step := (World.Calm.unregister world identity id).shrinks removal.coherent
  exact ⟨step.coherent, step.next.trans removal.next, fun held => removal.sink? (step.sink? held),
    step.alike, step.marks⟩

/-- Other connections than the one that is removed stay. -/
theorem sink?_unregister_of_ne {registry : Registry Nat} {identity other : String} {id key : Nat}
    (differ : key ≠ id)
    : (registry.unregister identity id).2.sink? other key = registry.sink? other key := by
  rw [Registry.sink?_unregister, if_neg fun same => differ same.2]

/-- Unregistering a connection that is no session's keeps a world sound. -/
theorem Sound.unregister {others : List Nat} {world : World σ} (h : Sound others world)
    {id : Nat} (identity : String)
    (foreign : ∀ number session, world.sessions.get? number = some session →
      session.connection ≠ id)
    : Sound others (world.setRegistry (world.exchange.registry.unregister identity id).2) := by
  apply h.shrinks_of_same (.unregister h.coherent identity id) rfl
  intro number session found held
  rw [World.setRegistry, sink?_unregister_of_ne (foreign number session found)]
  exact .inl held

/-- After a session's connection has been unregistered, it is nowhere. -/
theorem Sound.connection_gone {others : List Nat} {world : World σ} (h : Sound others world)
    {number : Nat} {session : Session} (found : world.sessions.get? number = some session)
    : session.connection
      ∉ (world.exchange.registry.unregister session.identity session.connection).2.ids := by
  intro member
  obtain ⟨identity, sink, held⟩ :=
    (h.coherent.unregister session.identity session.connection).mem_ids_iff.mp member
  rw [Registry.sink?_unregister] at held
  split at held
  next => cases held
  next differ => exact differ ⟨((h.kept found).own held).2, rfl⟩

/-- Ending a session keeps a world sound: its own connection goes, and no other. -/
theorem Sound.ends {others : List Nat} {world : World σ} (h : Sound others world) {number : Nat}
    {session : Session} (found : world.sessions.get? number = some session) (session' : Session)
    (identity : session'.identity = session.identity)
    (connection : session'.connection = session.connection)
    (ended : session'.isRunning = false)
    : Sound others ((world.setRegistry (world.exchange.registry.unregister session.identity
        session.connection).2).setSession number session') := by
  have removal := Shrinks.unregister h.coherent session.identity session.connection
  have step : Shrinks world ((world.setRegistry (world.exchange.registry.unregister
      session.identity session.connection).2).setSession number session') :=
    ⟨removal.coherent, removal.next, removal.sink?, removal.alike, removal.marks⟩
  refine h.shrinks step (h.distinct.set number session') ?_ ?_
  · intro other session'' again
    rw [World.setSession, World.setRegistry, Table.get?_set] at again
    split at again
    next same =>
      subst same
      obtain rfl := Option.some.inj again
      have stopped : session'.isRunning ≠ true := by simp [ended]
      exact ⟨session, found, identity, connection, fun on => absurd on stopped,
        fun on => absurd on stopped, fun _ => h.connection_gone found⟩
    next differ =>
      -- Another session has another connection, which the removal does not touch.
      have distinct : session''.connection ≠ session.connection := fun same =>
        differ (h.apart again found same)
      refine ⟨session'', again, rfl, rfl, id, fun _ held => .inl ?_, ?_⟩
      · exact (sink?_unregister_of_ne distinct).trans held
      · exact fun ended member => (h.kept again).gone ended (removal.mem_ids h.coherent member)
  · intro other session'' old
    rw [World.setSession, World.setRegistry, Table.get?_set]
    split
    next same =>
      subst same
      obtain rfl := Option.some.inj (found.symm.trans old)
      exact ⟨session', rfl, connection⟩
    next => exact ⟨session'', old, rfl⟩

-----------------------------------------------------------------------------------------
-- Fan-out
-----------------------------------------------------------------------------------------

theorem World.exchange_spread (world : World σ) (recipient : String) (message : Delivery)
    : (world.spread recipient message).exchange
      = (world.exchange.sendTo endpointOps recipient message).2 := by
  rcases answered : world.exchange.sendTo endpointOps recipient message with ⟨answer, exchange⟩
  rw [spread, answered]

theorem World.sessions_spread (world : World σ) (recipient : String) (message : Delivery)
    : (world.spread recipient message).sessions = world.sessions := by
  rcases answered : world.exchange.sendTo endpointOps recipient message with ⟨answer, exchange⟩
  rw [spread, answered]

/-- A fan-out tries every connection of the recipient and tells those whose delivery failed. -/
theorem World.endpoints_spread_eq {world : World σ} (coherent : world.exchange.registry.Coherent)
    (recipient : String) (message : Delivery)
    : (world.spread recipient message).endpoints
      = (world.exchange.failures endpointOps recipient message).foldl
          (fun endpoints failure => endpointOps.evicted failure.sink endpoints)
          (world.exchange.attempts endpointOps recipient message).2 := by
  rw [endpoints, exchange_spread]
  exact (Exchange.sendTo_pruned endpointOps coherent recipient message).outside

/-- The endpoints after a fan-out: alike, and marked are those that were and the mailboxes whose
delivery failed.
-/
theorem World.endpoints_spread {world : World σ} (coherent : world.exchange.registry.Coherent)
    (recipient : String) (message : Delivery)
    : Endpoints.Alike world.endpoints (world.spread recipient message).endpoints
      ∧ ∀ number,
        (world.spread recipient message).endpoints.isEvicted number
          = (world.endpoints.isEvicted number
            || decide (number
                ∈ (world.exchange.failures endpointOps recipient message).map (·.sink))
              && (world.endpoints.channel? number).isSome) := by
  let tried : Endpoints := (world.exchange.attempts endpointOps recipient message).2
  obtain ⟨alike, marks⟩ : Endpoints.Alike world.endpoints tried
      ∧ ∀ other, tried.isEvicted other = world.endpoints.isEvicted other :=
    Endpoints.alike_deliverAll message _ world.endpoints
  obtain ⟨later, told⟩ := Endpoints.alike_foldl_evicted
    (world.exchange.failures endpointOps recipient message) tried
  rw [endpoints_spread_eq coherent]
  refine ⟨alike.trans later, fun number => ?_⟩
  rw [told number, marks number, alike.mailbox number]

/-- A fan-out shrinks a registry. -/
theorem Shrinks.spread {world : World σ} (coherent : world.exchange.registry.Coherent)
    (recipient : String) (message : Delivery)
    : Shrinks world (world.spread recipient message) := by
  have pruned := Exchange.sendTo_pruned endpointOps coherent recipient message
  obtain ⟨alike, marks⟩ := World.endpoints_spread coherent recipient message
  rw [← World.exchange_spread] at pruned
  refine ⟨pruned.coherent, pruned.next, ?_, alike, ?_⟩
  · intro identity id sink found
    rw [pruned.sink?] at found
    split at found
    next => cases found
    next => exact found
  · intro number marked
    rw [marks, marked]
    rfl

/-- A fan-out keeps a world sound: a session that is cut off is marked. -/
theorem Sound.spread {others : List Nat} {world : World σ} (h : Sound others world)
    (recipient : String) (message : Delivery)
    : Sound others (world.spread recipient message) := by
  have pruned := Exchange.sendTo_pruned endpointOps h.coherent recipient message
  refine h.shrinks_of_same (.spread h.coherent recipient message)
    (world.sessions_spread recipient message) ?_
  intro number session found held
  rw [World.exchange_spread, pruned.sink?]
  split
  next failing =>
    obtain ⟨failure, failed, same⟩ := List.mem_map.mp failing.2
    have tried := Exchange.sink?_of_attempt h.coherent (Exchange.mem_failures.mp failed).1
    rw [same] at tried
    have sink : failure.sink = number := ((h.kept found).own tried).1
    have among : number
        ∈ (world.exchange.failures endpointOps recipient message).map (·.sink) :=
      sink ▸ List.mem_map_of_mem failed
    right
    rw [(World.endpoints_spread h.coherent recipient message).2, (h.kept found).mailbox]
    simp [among]
  next => exact .inl held

-----------------------------------------------------------------------------------------
-- Endpoints and new connections
-----------------------------------------------------------------------------------------

theorem World.freshNumber_absent {others : List Nat} {world : World σ} (h : Sound others world)
    : world.sessions.get? world.freshNumber = none := by
  cases found : world.sessions.get? world.freshNumber with
  | none => rfl
  | some session =>
      obtain ⟨channel, mailbox⟩ := Option.isSome_iff_exists.mp (h.kept found).mailbox
      have held := Endpoints.get?_of_channel? mailbox
      have small := h.numbered _ (Table.mem_keys_iff.mpr ⟨_, held⟩)
      rw [World.freshNumber] at small
      omega

/-- An endpoint that is no session's may be put in or altered. -/
theorem Sound.setEndpoint {others : List Nat} {world : World σ} (h : Sound others world)
    {number : Nat} (foreign : world.sessions.get? number = none)
    (small : number ≤ world.endpoints.size + 1) (endpoint : Endpoint)
    : Sound others (world.setEndpoints (world.endpoints.set number endpoint)) := by
  refine { h with numbered := ?_, kept := ?_ }
  · intro other member
    change other ∈ (world.endpoints.set number endpoint).keys at member
    change other ≤ (world.endpoints.set number endpoint).size
    rw [Table.size_set]
    rw [Table.keys_set] at member
    split at member
    next present =>
      rw [if_pos present]
      exact h.numbered other member
    next absent =>
      rw [if_neg absent]
      rcases List.mem_append.mp member with old | new
      · exact Nat.le_succ_of_le (h.numbered other old)
      · rw [List.mem_singleton.mp new]
        exact small
  · intro other session found
    have differ : other ≠ number := fun same => by
      have found : world.sessions.get? other = some session := found
      rw [same, foreign] at found
      cases found
    have kept := h.kept found
    refine { kept with mailbox := ?_, reachable := ?_ }
    · change (Endpoints.channel? (world.endpoints.set number endpoint) other).isSome = true
      rw [Endpoints.channel?_set, if_neg differ]
      exact kept.mailbox
    · intro running
      change _ ∨ Endpoints.isEvicted (world.endpoints.set number endpoint) other = true
      rw [Endpoints.isEvicted_set, if_neg differ]
      exact kept.reachable running

/-- A new connection leaves a session as it is kept. -/
theorem Kept.register {others : List Nat} {registry : Registry Nat} {endpoints : Endpoints}
    {number : Nat} {session : Session} (kept : Kept others registry endpoints number session)
    (coherent : registry.Coherent) (identity : String) (sink : Nat) {others' : List Nat}
    (foreign : session.connection ∉ others')
    : Kept others' (registry.register identity sink).2 endpoints number session := by
  have differ : session.connection ≠ registry.next := Nat.ne_of_lt kept.given
  have same (other : String) : (registry.register identity sink).2.sink? other session.connection
      = registry.sink? other session.connection := by
    rw [Registry.sink?_register, if_neg fun new => differ new.2]
  refine ⟨kept.mailbox, Nat.lt_succ_of_lt kept.given, foreign, ?_, ?_, ?_⟩
  · intro other number'
    rw [same]
    exact kept.own
  · rw [same]
    exact kept.reachable
  · intro ended member
    rcases List.mem_cons.mp ((coherent.ids_register identity sink).mem_iff.mp member) with new | old
    · exact differ new
    · exact kept.gone ended old

/-- Another sink may be registered. -/
theorem Sound.connected {others : List Nat} {world : World σ} (h : Sound others world)
    (identity : String) (number : Nat)
    : Sound (world.exchange.registry.next :: others)
        { world with exchange := (world.exchange.register identity number).2 } where
  coherent := h.coherent.register identity number
  numbered := h.numbered
  distinct := h.distinct
  kept found := by
    apply (h.kept found).register h.coherent identity number
    intro member
    rcases List.mem_cons.mp member with new | old
    · exact Nat.ne_of_lt (h.kept found).given new
    · exact (h.kept found).foreign old
  apart := h.apart
  handed := List.nodup_cons.mpr ⟨fun old => Nat.lt_irrefl _ (h.below _ old), h.handed⟩
  below id member := by
    rcases List.mem_cons.mp member with rfl | old
    · exact Nat.lt_succ_self _
    · exact Nat.lt_succ_of_lt (h.below id old)
  accounted id member := by
    rcases List.mem_cons.mp ((h.coherent.ids_register identity number).mem_iff.mp member) with
      rfl | old
    · exact .inl List.mem_cons_self
    · rcases h.accounted id old with given | session
      · exact .inl (List.mem_cons_of_mem _ given)
      · exact .inr session

/-- A new session may be registered with a mailbox that no session has. -/
theorem Sound.registered {others : List Nat} {world : World σ} (h : Sound others world)
    {number : Nat} (foreign : world.sessions.get? number = none)
    (mailbox : (world.endpoints.channel? number).isSome = true) (identity : String)
    (reports : Bool)
    : Sound others
        (World.setSession { world with exchange := (world.exchange.register identity number).2 }
          number { identity, connection := world.exchange.registry.next, reports }) := by
  let session : Session := { identity, connection := world.exchange.registry.next, reports }
  -- The new number is one that no session has.
  have fresh : ∀ {other session'}, world.sessions.get? other = some session' →
      session'.connection ≠ session.connection := fun old => Nat.ne_of_lt (h.kept old).given
  have either : ∀ {other session'}, (world.sessions.set number session).get? other = some session' →
      (other = number ∧ session' = session) ∨ world.sessions.get? other = some session' := by
    intro other session' found
    rw [Table.get?_set] at found
    split at found
    next same => exact .inl ⟨same, (Option.some.inj found).symm⟩
    next => exact .inr found
  have own {other sink} (held : (world.exchange.registry.register identity number).2.sink? other
      session.connection = some sink)
      : sink = number ∧ Identity.normalize other = Identity.normalize identity := by
    rw [Registry.sink?_register] at held
    split at held
    next new => exact ⟨(Option.some.inj held).symm, new.1⟩
    next => exact absurd (h.coherent.lt_next held) (Nat.lt_irrefl _)
  have held : (world.exchange.registry.register identity number).2.sink? identity
      session.connection = some number :=
    (Registry.sink?_register _ _ _ _ _).trans (if_pos ⟨rfl, rfl⟩)
  refine {
    coherent := h.coherent.register identity number
    numbered := h.numbered
    distinct := h.distinct.set number session
    kept := ?_
    apart := ?_
    handed := h.handed
    below := fun id old => Nat.lt_succ_of_lt (h.below id old)
    accounted := ?_
  }
  · intro other session' found
    rcases either found with ⟨rfl, rfl⟩ | old
    · refine ⟨mailbox, Nat.lt_succ_self _, fun given => Nat.lt_irrefl _ (h.below _ given), own,
        fun _ => .inl held, fun ended => ?_⟩
      cases ended
    · exact (h.kept old).register h.coherent identity number (h.kept old).foreign
  · intro first second one other atFirst atSecond same
    rcases either atFirst with ⟨rfl, rfl⟩ | old <;> rcases either atSecond with ⟨rfl, rfl⟩ | old'
    · rfl
    · exact absurd same.symm (fresh old')
    · exact absurd same (fresh old)
    · exact h.apart old old' same
  · intro id member
    rcases List.mem_cons.mp ((h.coherent.ids_register identity number).mem_iff.mp member) with
      rfl | old
    · exact .inr ⟨number, session, by rw [World.get?_setSession], rfl⟩
    · rcases h.accounted id old with given | ⟨other, session', found, same⟩
      · exact .inl given
      · refine .inr ⟨other, session', ?_, same⟩
        have differ : other ≠ number := by
          rintro rfl
          rw [foreign] at found
          cases found
        exact (Table.get?_set _ _ _ _).trans ((if_neg differ).trans found)

/-- A session may be opened with a mailbox of its own. -/
theorem Sound.opened {others : List Nat} {world : World σ} (h : Sound others world)
    (identity : String) (capacity : Nat) (reports : Bool)
    : Sound others (world.openSession world.freshNumber identity capacity reports) := by
  have foreign := World.freshNumber_absent h
  have placed := h.setEndpoint foreign (Nat.le_refl _) (.mailbox { capacity } false)
  have mailbox : (Endpoints.channel? (world.endpoints.set world.freshNumber
      (.mailbox { capacity } false)) world.freshNumber).isSome = true := by
    rw [Endpoints.channel?_set, if_pos rfl]
    rfl
  have sound := placed.registered foreign mailbox (Identity.normalize identity) reports
  exact sound.calm ⟨rfl, rfl, .refl _, fun _ => rfl⟩

-----------------------------------------------------------------------------------------
-- Turns
-----------------------------------------------------------------------------------------

/-- A turn keeps a world sound, by cases on its outcome. -/
theorem Sound.turn {services : Services σ} {others : List Nat} {world next : World σ}
    (h : Sound others world) {number : Nat} (taken : world.turn services number = some next)
    : Sound others next := by
  obtain ⟨session, channel, found, _, turned⟩ := World.turned_of_turn taken
  cases turned.outcome with
  | stays calm identity connection running _ =>
      exact (h.calm calm).setSession (calm.sessions ▸ found) _ identity connection running
  | @ends base input stage ending running _ calm ended =>
      have ended : ({ session with input, stage } : Session).isRunning = false := by
        rcases ended with rfl | ⟨status, rfl⟩ <;> rfl
      have sound := h.ends found { session with input, stage } rfl rfl ended
      refine sound.calm ⟨calm.registry, ?_, calm.alike, calm.marks⟩
      rw [World.setSession, World.setSession, calm.sessions]
  | spreads running _ =>
      exact (h.setSession found { session with stage := .receiving } rfl rfl running.symm).spread
        _ _

end ChatServer.Live
