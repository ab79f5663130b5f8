import ChatServer.Proofs.Live.Settling

/-! A session is running exactly if it can be reached. In every world that can be reached, a session
that has ended has no connection left, and once all sessions are at rest, those that are running
have theirs: one that was cut off by somebody else's message has ended of it by then.
-/

namespace ChatServer.Live

variable {σ : Type}

namespace World

/-- The sessions that are running, with their numbers. -/
def running (world : World σ) : List (Nat × Session) :=
  world.sessions.entries.filter (·.2.isRunning)

theorem mem_running {world : World σ} (distinct : world.sessions.Distinct) {number : Nat}
    {session : Session}
    : (number, session) ∈ world.running
      ↔ world.sessions.get? number = some session ∧ session.isRunning = true := by
  rw [running, List.mem_filter]
  constructor
  · exact fun ⟨member, on⟩ => ⟨Table.get?_of_mem distinct member, on⟩
  · exact fun ⟨found, on⟩ => ⟨Table.mem_of_get? found, on⟩

/-- The end of a session removes no other connection, not even one of the same identity. -/
theorem sink?_of_end {services : Services σ} {world next : World σ} {number : Nat}
    {session session' : Session} (found : world.sessions.get? number = some session)
    (running : session.isRunning = true) (taken : world.turn services number = some next)
    (after : next.sessions.get? number = some session') (ended : session'.isRunning = false)
    {identity : String} {id : Nat} (other : id ≠ session.connection)
    : next.exchange.registry.sink? identity id = world.exchange.registry.sink? identity id := by
  obtain ⟨session, channel, again, _, turned⟩ := turned_of_turn taken
  obtain rfl := Option.some.inj (found.symm.trans again)
  cases turned.outcome with
  | stays _ _ _ same _ =>
      rw [get?_setSession] at after
      obtain rfl := Option.some.inj after
      rw [same, running] at ended
      cases ended
  | ends _ _ calm _ =>
      rw [setSession, calm.registry]
      exact sink?_unregister_of_ne other
  | spreads _ _ =>
      rw [sessions_spread, get?_setSession] at after
      obtain rfl := Option.some.inj after
      cases ended

end World

namespace Sound

variable {services : Services σ} {world : World σ} {others : List Nat}

/-- At rest, a running session is registered, since one that is marked would end. -/
theorem registered_of_running (h : Sound others world) (rest : world.AtRest services)
    {number : Nat} {session : Session} (found : world.sessions.get? number = some session)
    (running : session.isRunning = true)
    : world.exchange.registry.sink? session.identity session.connection = some number := by
  obtain ⟨channel, mailbox⟩ := Option.isSome_iff_exists.mp (h.kept found).mailbox
  have unmarked := (World.rest_of_turn_none found mailbox running (rest number)).1
  rcases (h.kept found).reachable running with held | marked
  · exact held
  · rw [unmarked] at marked
    cases marked

/-- The running sessions have different connections. -/
theorem running_connections_nodup (h : Sound others world)
    : (world.running.map (·.2.connection)).Nodup := by
  have keys : world.sessions.entries.Pairwise (fun one other => one.1 ≠ other.1) :=
    List.pairwise_map.mp h.distinct
  have connections : world.sessions.entries.Pairwise
      (fun one other => one.2.connection ≠ other.2.connection) := by
    apply keys.imp_of_mem
    intro one other first second differ same
    apply differ
    exact h.apart (Table.get?_of_mem h.distinct first) (Table.get?_of_mem h.distinct second) same
  exact List.pairwise_map.mpr (connections.filter _)

/-- At rest, the connections are those of the running sessions and those that were given to other
sinks and are still there.
-/
theorem ids_perm (h : Sound others world) (rest : world.AtRest services)
    : world.exchange.registry.ids.Perm
        (world.running.map (·.2.connection)
          ++ others.filter (· ∈ world.exchange.registry.ids)) := by
  -- Neither list has a number twice, so it is enough that they have the same numbers.
  refine (List.perm_ext_iff_of_nodup h.coherent.distinct ?_).mpr fun id => ?_
  · refine List.nodup_append.mpr ⟨h.running_connections_nodup, h.handed.filter _, ?_⟩
    intro first member second given same
    obtain ⟨⟨number, session⟩, on, rfl⟩ := List.mem_map.mp member
    obtain ⟨found, _⟩ := (World.mem_running h.distinct).mp on
    exact (h.kept found).foreign (same ▸ (List.mem_filter.mp given).1)
  · rw [List.mem_append, List.mem_filter, decide_eq_true_eq]
    constructor
    · intro member
      rcases h.accounted id member with given | ⟨number, session, found, rfl⟩
      · exact .inr ⟨given, member⟩
      · cases running : session.isRunning with
        | false => exact absurd member ((h.kept found).gone running)
        | true =>
            exact .inl (List.mem_map.mpr
              ⟨(number, session), (World.mem_running h.distinct).mpr ⟨found, running⟩, rfl⟩)
    · rintro (member | ⟨_, member⟩)
      · obtain ⟨⟨number, session⟩, on, rfl⟩ := List.mem_map.mp member
        obtain ⟨found, running⟩ := (World.mem_running h.distinct).mp on
        exact h.coherent.mem_ids_iff.mpr
          ⟨_, number, h.registered_of_running rest found running⟩
      · exact member

end Sound

/-- A session is running exactly if it can be reached. However sessions are interleaved with what
clients, other sinks and other senders do, a session that has ended in any way has no connection
left, and its end removes no other connection. When no session can take another turn, every
running one is registered under its identity, and the connections are as many as there are running
sessions and other sinks that have not been removed.
-/
theorem running_iff_registered {services : Services σ} {others : List Nat} {world : World σ}
    (reached : Reached services others world)
    : let registry := world.exchange.registry
      (∀ number session, world.sessions.get? number = some session →
        session.isRunning = false → ∀ identity,
          registry.sink? identity session.connection = none)
      ∧ (∀ number session next session', world.sessions.get? number = some session →
        session.isRunning = true → world.turn services number = some next →
        next.sessions.get? number = some session' → session'.isRunning = false →
        ∀ identity id, id ≠ session.connection →
          next.exchange.registry.sink? identity id = registry.sink? identity id)
      ∧ (world.AtRest services →
        (∀ number session, world.sessions.get? number = some session →
          (session.isRunning = true
            ↔ registry.sink? session.identity session.connection = some number))
        ∧ registry.active
          = world.running.length + (others.filter (· ∈ registry.ids)).length) := by
  intro registry
  have h := reached.sound
  have gone : ∀ number session, world.sessions.get? number = some session →
      session.isRunning = false → ∀ identity,
        registry.sink? identity session.connection = none := by
    intro number session found ended identity
    cases held : registry.sink? identity session.connection with
    | none => rfl
    | some sink =>
        exact absurd (h.coherent.mem_ids_iff.mpr ⟨identity, sink, held⟩) ((h.kept found).gone ended)
  refine ⟨gone, ?_, fun rest => ⟨fun number session found => ⟨?_, fun held => ?_⟩, ?_⟩⟩
  · intro number session next session' found running taken after ended identity id other
    exact World.sink?_of_end found running taken after ended other
  · exact h.registered_of_running rest found
  · cases running : session.isRunning with
    | true => rfl
    | false =>
        rw [gone number session found running] at held
        cases held
  · rw [h.coherent.counted, (h.ids_perm rest).length_eq, List.length_append, List.length_map]

/-- Two sessions of one identity and another sink, after the input of one session has ended. -/
theorem running_iff_registered_of_two_sessions
    : let services : Services Backend := ⟨.fixed [], .recording⟩
      ∃ world : World Backend,
        Reached services [3] world
        ∧ world.AtRest services
        ∧ world.running.map (·.1) = [1]
        ∧ world.exchange.registry.active
          = 1 + ([3].filter (· ∈ world.exchange.registry.ids)).length
        ∧ ∀ number session, world.sessions.get? number = some session →
          (session.isRunning = true
            ↔ world.exchange.registry.sink? session.identity session.connection
              = some number) := by
  intro services
  have start : Reached services [] ({ backend := {}, now := ⟨0, 0⟩ } : World Backend) :=
    .fresh _ _
  have both := (start.opened "A" 4 false).opened " a" 4 false
  have reached := ((both.placed (.recorder [])).connected "b" 3).inputEnded 2
  obtain ⟨settled, rest⟩ := reached.settle
  obtain ⟨_, _, whole⟩ := running_iff_registered settled
  obtain ⟨registered, count⟩ := whole rest
  refine ⟨_, settled, rest, ?_, ?_, registered⟩
  · decide +kernel
  · exact count.trans (congrArg (· + _) (by decide +kernel))

end ChatServer.Live
