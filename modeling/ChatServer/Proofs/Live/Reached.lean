import ChatServer.Proofs.Live.Chronicle

/-! The worlds that can be reached if nobody but a session itself, and whoever fails to deliver to
it, removes the session's connection. All of them are sound.
-/

namespace ChatServer.Live

variable {σ : Type}

/-- A step that connects nobody but the sessions that it opens, and leaves every session its
connection.
-/
structure Spares (before after : World σ) : Prop where
  added
    : ∀ id ∈ after.exchange.registry.ids, id ∈ before.exchange.registry.ids
        ∨ ∃ number session, after.sessions.get? number = some session ∧ session.connection = id
  kept
    : ∀ {number session}, before.sessions.get? number = some session →
        session.connection ∈ before.exchange.registry.ids →
        session.connection ∈ after.exchange.registry.ids

/-- The worlds that can be reached by the steps that there are. Other sinks may be connected at
will, whatever their number is, and the list has the numbers of the connections that they were
given.
-/
inductive Reached (services : Services σ) : List Nat → World σ → Prop where
  | fresh (backend : σ) (now : Instant) : Reached services [] { backend, now }
  | occurs {others world event next} (before : Reached services others world)
    (occurs : Occurs services (fun _ _ => True) world event next)
    (spares : event = .other → Spares world next)
    : Reached services others next
  | connected {others world} (before : Reached services others world) (identity : String)
    (number : Nat)
    : Reached services (world.exchange.registry.next :: others)
        { world with exchange := (world.exchange.register identity number).2 }

variable {services : Services σ} {others : List Nat} {world : World σ}

-----------------------------------------------------------------------------------------
-- Sparing steps
-----------------------------------------------------------------------------------------

theorem Spares.of_same {before after : World σ}
    (same : after.exchange.registry = before.exchange.registry)
    : Spares before after where
  added _ member := .inl (same ▸ member)
  kept _ member := same ▸ member

/-- Opening a session connects that session and nobody else. -/
theorem Spares.opened (coherent : world.exchange.registry.Coherent) (identity : String)
    (capacity : Nat) (reports : Bool)
    : Spares world (world.openSession world.freshNumber identity capacity reports) := by
  have ids := coherent.ids_register (Identity.normalize identity) world.freshNumber
  constructor
  · intro id member
    rcases List.mem_cons.mp (ids.mem_iff.mp member) with rfl | old
    · exact .inr ⟨_, _, World.get?_setSession _ world.freshNumber _, rfl⟩
    · exact .inl old
  · intro number session _ member
    exact ids.mem_iff.mpr (List.mem_cons_of_mem _ member)

/-- Removing a connection spares the sessions if and only if it is none of theirs. -/
theorem spares_disconnected_iff (coherent : world.exchange.registry.Coherent) {identity : String}
    {id sink : Nat} (held : world.exchange.registry.sink? identity id = some sink)
    : Spares world { world with exchange := (world.exchange.unregister identity id).2 }
      ↔ ∀ number session, world.sessions.get? number = some session → session.connection ≠ id := by
  have same := Exchange.registry_unregister world.exchange identity id
  constructor
  · rintro spares number session found rfl
    have still := spares.kept found (coherent.mem_ids_iff.mpr ⟨identity, sink, held⟩)
    rw [same] at still
    exact coherent.not_mem_ids_unregister held still
  · intro foreign
    constructor
    · intro key member
      rw [same] at member
      exact .inl ((Shrinks.unregister coherent identity id).mem_ids coherent member)
    · intro number session found member
      obtain ⟨other, sink, held⟩ := coherent.mem_ids_iff.mp member
      rw [same]
      refine (coherent.unregister identity id).mem_ids_iff.mpr ⟨other, sink, ?_⟩
      exact (sink?_unregister_of_ne (foreign number session found)).trans held

-----------------------------------------------------------------------------------------
-- Sound worlds
-----------------------------------------------------------------------------------------

/-- A step that spares the sessions keeps a world sound, by cases on the step. -/
theorem Sound.occurs {elsewhere : σ → σ → Prop} {event : Event} {next : World σ}
    (h : Sound others world) (occurs : Occurs services elsewhere world event next)
    (spares : event = .other → Spares world next)
    : Sound others next := by
  cases occurs with
  | turn taken => exact h.turn taken
  | opened identity capacity reports => exact h.opened identity capacity reports
  | fed found goesOn inbound =>
      rw [World.feed_eq found goesOn]
      exact h.setSession found _ rfl rfl rfl
  | inputEnded number =>
      unfold World.endInput
      split
      next session found => exact h.setSession found _ rfl rfl rfl
      next => exact h
  | took number => exact h.calm (world.calm_take number)
  | closed number => exact h.calm (.updateChannel world number Channel.close)
  | placed endpoint => exact h.setEndpoint (World.freshNumber_absent h) (Nat.le_refl _) endpoint
  | altered foreign there endpoint =>
      have known := h.numbered _ (Table.mem_keys_iff.mpr ⟨_, there⟩)
      exact h.setEndpoint foreign (Nat.le_succ_of_le known) endpoint
  | @connected number _ _ _ identity =>
      -- A connection that is no session's is not added without being listed.
      have added := h.coherent.ids_register identity number
      rcases (spares rfl).added _ (added.mem_iff.mpr List.mem_cons_self) with old | new
      · exact absurd (h.coherent.below _ old) (Nat.lt_irrefl _)
      · obtain ⟨_, session, found, given⟩ := new
        exact absurd given (Nat.ne_of_lt (h.kept found).given)
  | disconnected identity id =>
      cases held : world.exchange.registry.sink? identity id with
      | none =>
          have same : (world.exchange.registry.unregister identity id).2
              = world.exchange.registry := by
            rw [Registry.unregister_of_absent held]
          have calm := World.Calm.unregister world identity id
          rw [same] at calm
          exact h.calm calm
      | some sink =>
          have foreign := (spares_disconnected_iff h.coherent held).mp (spares rfl)
          exact (h.unregister identity foreign).calm (.unregister world identity id)
  | sent recipient message => exact h.spread recipient message
  | elsewhere _ now => exact h.calm ⟨rfl, rfl, .refl _, fun _ => rfl⟩

/-- Every world that can be reached is sound, by induction on how it is reached. -/
theorem Reached.sound (reached : Reached services others world) : Sound others world := by
  induction reached with
  | fresh backend now => exact .fresh backend now
  | occurs _ occurs spares ih => exact ih.occurs occurs spares
  | connected _ identity number ih => exact ih.connected identity number

-----------------------------------------------------------------------------------------
-- Steps from a world that is reached
-----------------------------------------------------------------------------------------

namespace Reached

variable (reached : Reached services others world)

include reached

theorem turn {next : World σ} {number : Nat} (taken : world.turn services number = some next)
    : Reached services others next :=
  reached.occurs (.turn taken) nofun

theorem opened (identity : String) (capacity : Nat) (reports : Bool)
    : Reached services others
        (world.openSession world.freshNumber identity capacity reports) :=
  reached.occurs (.opened identity capacity reports)
    fun _ => .opened reached.sound.coherent identity capacity reports

theorem inputEnded (number : Nat) : Reached services others (world.endInput number) := by
  refine reached.occurs (.inputEnded number) fun _ => .of_same ?_
  unfold World.endInput
  split <;> rfl

theorem placed (endpoint : Endpoint)
    : Reached services others
        (world.setEndpoints (world.endpoints.set world.freshNumber endpoint)) :=
  reached.occurs (.placed endpoint) fun _ => .of_same rfl

end Reached

end ChatServer.Live
