import ChatServer.Proofs.Live.Discretion
import ChatServer.Proofs.Live.Evictions

/-! Bystanders: what a step leaves alone. A step that is no turn of a session leaves the session
where it is, but for what comes in for it. A connection that is gone stays gone, and into a mailbox
to which no connection leads nothing comes but what its own session puts there.
-/

namespace ChatServer.Live

variable {σ : Type} {services : Services σ} {elsewhere : σ → σ → Prop} {start : σ}

-----------------------------------------------------------------------------------------
-- From one step on
-----------------------------------------------------------------------------------------

/-- What holds after a recorded step, and is kept by every step that is possible then, holds at the
end of the record; by induction on what was recorded later.
-/
theorem Chronicle.since {past later : List (Entry σ)} {entry : Entry σ} {world : World σ}
    (told : Chronicle services elsewhere start (past ++ entry :: later) world)
    {P : List (Entry σ) → World σ → Prop} (starts : P [] entry.after)
    (goesOn : ∀ {later world event next}, Tidy world →
      Occurs services elsewhere world event next → P later world →
      P (later ++ [⟨event, world, next⟩]) next)
    : P later world := by
  generalize whole : past ++ entry :: later = history at told
  induction told generalizing later with
  | start => exact absurd whole (by simp)
  | @goesOn history world next event told occurs ih =>
      rcases List.eq_nil_or_concat later with rfl | ⟨front, last, rfl⟩
      · obtain ⟨_, last⟩ := List.append_inj' whole rfl
        obtain rfl := List.singleton_inj.mp last
        exact starts
      · rw [List.concat_eq_append, ← List.cons_append, ← List.append_assoc] at whole
        obtain ⟨rest, last⟩ := List.append_inj' whole rfl
        obtain rfl := List.singleton_inj.mp last
        rw [List.concat_eq_append]
        exact goesOn told.tidy occurs (ih rest)

-----------------------------------------------------------------------------------------
-- Sessions
-----------------------------------------------------------------------------------------

/-- A session is where it was, with what has come in for it since. -/
structure Session.Undisturbed (session session' : Session) : Prop where
  identity : session'.identity = session.identity
  connection : session'.connection = session.connection
  reports : session'.reports = session.reports
  stage : session'.stage = session.stage
  input : session.input <+: session'.input

theorem Session.Undisturbed.refl (session : Session) : session.Undisturbed session :=
  ⟨rfl, rfl, rfl, rfl, List.prefix_rfl⟩

theorem Session.Undisturbed.isRunning {session session' : Session}
    (h : session.Undisturbed session')
    : session'.isRunning = session.isRunning := by
  rw [Session.isRunning, Session.isRunning, ending?, ending?, h.stage]

/-- A step that is no turn of a session leaves it undisturbed, by cases on the step. -/
theorem Occurs.undisturbed {world next : World σ} {event : Event} (h : Tidy world)
    (occurs : Occurs services elsewhere world event next) {number : Nat} {session : Session}
    (found : world.sessions.get? number = some session) (other : event ≠ .turn number)
    : ∃ session', next.sessions.get? number = some session' ∧ session.Undisturbed session' := by
  have kept (same : next.sessions = world.sessions)
      : ∃ session', next.sessions.get? number = some session'
          ∧ session.Undisturbed session' :=
    ⟨session, same ▸ found, .refl session⟩
  have replaced {at_ : Nat} {old new : Session} (there : world.sessions.get? at_ = some old)
      (undisturbed : old.Undisturbed new)
      : ∃ session', (world.sessions.set at_ new).get? number = some session'
          ∧ session.Undisturbed session' := by
    rw [Table.get?_set]
    split
    next same =>
      obtain rfl := Option.some.inj (found.symm.trans (same ▸ there))
      exact ⟨new, rfl, undisturbed⟩
    next => exact ⟨session, found, .refl session⟩
  cases occurs with
  | @turn turning _ taken =>
      obtain ⟨_, _, _, _, sessions, _, _⟩ := World.shrinks_of_turn h.coherent taken
      have differ : number ≠ turning := fun same => other (same ▸ rfl)
      refine ⟨session, ?_, .refl session⟩
      rw [sessions, Table.get?_set, if_neg differ, found]
  | opened identity capacity reports =>
      have differ : number ≠ world.freshNumber := fun same => by
        rw [same, h.freshNumber_absent] at found
        cases found
      refine ⟨session, ?_, .refl session⟩
      exact ((Table.get?_set _ _ _ _).trans (if_neg differ)).trans found
  | fed there goesOn inbound =>
      rw [World.feed_eq there goesOn]
      exact replaced there ⟨rfl, rfl, rfl, rfl, List.prefix_append _ _⟩
  | inputEnded ending =>
      unfold World.endInput
      split
      next old there => exact replaced there ⟨rfl, rfl, rfl, rfl, List.prefix_rfl⟩
      next => exact ⟨session, found, .refl session⟩
  | took reading => exact kept (world.calm_take reading).sessions
  | sent recipient message => exact kept (world.sessions_spread recipient message)
  | closed | placed | altered | connected | disconnected | elsewhere => exact kept rfl

/-- A session that has just been opened is ready for its first request. -/
theorem Occurs.receiving_of_absent {world next : World σ} {event : Event} (h : Tidy world)
    (occurs : Occurs services elsewhere world event next) {number : Nat} {session : Session}
    (absent : world.sessions.get? number = none)
    (found : next.sessions.get? number = some session)
    : session.stage = .receiving := by
  rcases occurs.opened_or_kept h found with ⟨_, _, _, rfl, rfl⟩ | ⟨old, there, _⟩
  · obtain rfl := Option.some.inj ((World.get?_setSession _ _ _).symm.trans found)
    rfl
  · cases absent.symm.trans there

-----------------------------------------------------------------------------------------
-- Connections
-----------------------------------------------------------------------------------------

/-- The connections after a step were there before it, but for one at most. That one has the next
number, and its sink is no session's mailbox yet.
-/
structure AddsOneAtMost (before after : World σ) : Prop where
  next : before.exchange.registry.next ≤ after.exchange.registry.next
  sink?
    : ∀ {identity id sink}, after.exchange.registry.sink? identity id = some sink →
        before.exchange.registry.sink? identity id = some sink
        ∨ (id = before.exchange.registry.next ∧ before.sessions.get? sink = none)

theorem Shrinks.addsOneAtMost {before after : World σ} (step : Shrinks before after)
    : AddsOneAtMost before after :=
  ⟨Nat.le_of_eq step.next.symm, fun held => .inl (step.sink? held)⟩

theorem AddsOneAtMost.of_same {before after : World σ}
    (same : after.exchange.registry = before.exchange.registry)
    : AddsOneAtMost before after :=
  ⟨Nat.le_of_eq (same ▸ rfl), fun held => .inl (same ▸ held)⟩

theorem AddsOneAtMost.register {before after : World σ} {number : Nat}
    (foreign : before.sessions.get? number = none) {identity : String}
    (added : after.exchange.registry = (before.exchange.registry.register identity number).2)
    : AddsOneAtMost before after := by
  refine ⟨?_, fun {other id sink} held => ?_⟩
  · rw [added]
    exact Nat.le_succ _
  · rw [added, Registry.sink?_register] at held
    split at held
    next new =>
      obtain rfl := Option.some.inj held
      exact .inr ⟨new.2, foreign⟩
    next => exact .inl held

/-- Every step adds one connection at most, by cases on the step. -/
theorem Occurs.addsOneAtMost {world next : World σ} {event : Event} (h : Tidy world)
    (occurs : Occurs services elsewhere world event next)
    : AddsOneAtMost world next := by
  cases occurs with
  | turn taken =>
      obtain ⟨_, _, _, step, _⟩ := World.shrinks_of_turn h.coherent taken
      exact step.addsOneAtMost
  | opened identity capacity reports => exact .register h.freshNumber_absent rfl
  | fed there goesOn inbound => exact .of_same (by rw [World.feed_eq there goesOn]; rfl)
  | inputEnded ending =>
      unfold World.endInput
      split <;> exact .of_same rfl
  | took reading => exact .of_same (world.calm_take reading).registry
  | connected foreign _ identity => exact .register foreign rfl
  | disconnected identity id =>
      have removed := Shrinks.unregister h.coherent identity id
      have same := (World.Calm.unregister world identity id).registry
      exact ⟨Nat.le_of_eq ((congrArg Registry.next same).trans removed.next).symm,
        fun held => .inl (removed.sink? (same ▸ held))⟩
  | sent recipient message => exact (Shrinks.spread h.coherent recipient message).addsOneAtMost
  | closed | placed | altered | elsewhere => exact .of_same rfl

/-- A connection that is gone stays gone. -/
theorem Occurs.gone {world next : World σ} {event : Event} (h : Tidy world)
    (occurs : Occurs services elsewhere world event next) {id : Nat}
    (given : id < world.exchange.registry.next) (absent : id ∉ world.exchange.registry.ids)
    : id ∉ next.exchange.registry.ids := by
  intro member
  obtain ⟨identity, sink, held⟩ := (occurs.tidy h).coherent.mem_ids_iff.mp member
  rcases (occurs.addsOneAtMost h).sink? held with before | ⟨rfl, _⟩
  · exact absent (h.coherent.mem_ids_iff.mpr ⟨identity, sink, before⟩)
  · exact Nat.lt_irrefl _ given

/-- A connection that is there keeps its sink, or goes. -/
theorem Occurs.held_or_gone {world next : World σ} {event : Event} (h : Tidy world)
    (occurs : Occurs services elsewhere world event next) {identity : String} {id sink : Nat}
    (held : world.exchange.registry.sink? identity id = some sink)
    : next.exchange.registry.sink? identity id = some sink
      ∨ id ∉ next.exchange.registry.ids := by
  by_cases member : id ∈ next.exchange.registry.ids
  · left
    obtain ⟨other, sink', there⟩ := (occurs.tidy h).coherent.mem_ids_iff.mp member
    rcases (occurs.addsOneAtMost h).sink? there with before | ⟨rfl, _⟩
    · have same := h.coherent.identity_unique before held
      rw [Registry.sink?_congr same] at before there
      rw [← held]
      exact there.trans before.symm
    · exact absurd (h.coherent.lt_next held) (Nat.lt_irrefl _)
  · exact .inr member

/-- After a fan-out the connections are there that were, but for those that failed. -/
theorem World.sink?_spread {world : World σ} (coherent : world.exchange.registry.Coherent)
    (recipient : String) (message : Delivery) (identity : String) (id : Nat)
    : (world.spread recipient message).exchange.registry.sink? identity id
      = if Identity.normalize identity = Identity.normalize recipient
          ∧ id ∈ (world.exchange.failures endpointOps recipient message).map (·.id) then none
        else world.exchange.registry.sink? identity id := by
  rw [exchange_spread]
  exact (Exchange.sendTo_pruned endpointOps coherent recipient message).sink? identity id

/-- No connection leads to the sink of a number. -/
def World.IsUnconnected (world : World σ) (number : Nat) : Prop :=
  ∀ identity id, world.exchange.registry.sink? identity id ≠ some number

/-- A session to which no connection leads is never connected again. -/
theorem Occurs.unconnected {world next : World σ} {event : Event} (h : Tidy world)
    (occurs : Occurs services elsewhere world event next) {number : Nat} {session : Session}
    (found : world.sessions.get? number = some session)
    (unconnected : world.IsUnconnected number)
    : next.IsUnconnected number := by
  intro identity id held
  rcases (occurs.addsOneAtMost h).sink? held with before | ⟨_, foreign⟩
  · exact unconnected identity id before
  · cases foreign.symm.trans found

/-- When its delivery to a session has failed, no connection leads to the session any more. -/
theorem Tidy.unconnected_of_failed {world : World σ} (h : Tidy world) {number : Nat}
    {session : Session} (found : world.sessions.get? number = some session) {recipient : String}
    {message : Delivery}
    (failed : number ∈ (world.exchange.failures endpointOps recipient message).map (·.sink))
    : (world.spread recipient message).IsUnconnected number := by
  obtain ⟨attempt, failing, rfl⟩ := List.mem_map.mp failed
  have tried := Exchange.sink?_of_attempt h.coherent (Exchange.mem_failures.mp failing).1
  obtain ⟨connection, named⟩ := h.own tried found
  intro identity id held
  rw [World.sink?_spread h.coherent] at held
  split at held
  next => cases held
  next apart =>
    obtain ⟨same, alike⟩ := h.own held found
    refine apart ⟨alike.trans named.symm, ?_⟩
    rw [same, ← connection]
    exact List.mem_map_of_mem failing

/-- So it is after the step in which that has happened, whoever has sent the message. -/
theorem Entry.FailsFor.unconnected {entry : Entry σ} {number : Nat} {sender : Option Nat}
    {recipient : String} {message : Delivery}
    (fails : entry.FailsFor number sender recipient message) (h : Tidy entry.before)
    (occurs : Occurs services elsewhere entry.before entry.event entry.after) {session : Session}
    (found : entry.before.sessions.get? number = some session)
    : entry.after.IsUnconnected number := by
  obtain ⟨event, before, after⟩ := entry
  obtain ⟨spreads, failed⟩ := fails
  have unconnected := h.unconnected_of_failed found failed
  change Occurs services elsewhere before event after at occurs
  cases spreads with
  | caller same =>
      obtain rfl : event = _ := same
      cases occurs with
      | sent => exact unconnected
  | @session turning sender _ _ same there stage =>
      obtain rfl : event = _ := same
      cases occurs with
      | turn taken =>
          have delivered := World.turn_of_spreading there stage taken
          intro identity id
          rw [delivered, World.exchange_spread]
          exact World.exchange_spread before recipient message ▸ unconnected identity id

-----------------------------------------------------------------------------------------
-- Mailboxes
-----------------------------------------------------------------------------------------

/-- The message that has been acknowledged and is about to be delivered, with its recipient. -/
def Stage.spreading? : Stage → Option (Delivery × String)
  | .spreading message recipient => some (message, recipient)
  | _ => none

/-- A turn as far as messages go. The session acknowledges the message in hand to its own client, or
delivers the one that it has acknowledged, or does something that no mailbox takes part in.
-/
inductive Relayed (world : World σ) (number : Nat) (session session' : Session) (next : World σ)
    : Prop where
  | acknowledges {message : Delivery} {recipient : String}
    (stage : session.stage = .acknowledging message recipient
      ∨ session.stage = .waiting message recipient)
    (acknowledged : session'.stage = .spreading message recipient)
    (contents
      : ∀ other, next.endpoints.contents other
        = world.endpoints.contents other ++ if other = number then [message] else [])
  | spreads {message : Delivery} {recipient : String}
    (stage : session.stage = .spreading message recipient)
    (done : session'.stage = .receiving)
    (spread : next = (world.enter number session .receiving).spread recipient message)
  | aside (before : session.stage.spreading? = none) (after : session'.stage.spreading? = none)
    (contents : ∀ other, next.endpoints.contents other = world.endpoints.contents other)

namespace Relayed

variable {world next : World σ} {number : Nat} {session session' : Session}

/-- The end of a session is no concern of any mailbox. -/
theorem finish {base : World σ} {last : Session} {ending : Ending}
    (before : session.stage.spreading? = none)
    (endpoints : base.endpoints = world.endpoints)
    (found : (base.finish number last ending).sessions.get? number = some session')
    : Relayed world number session session' (base.finish number last ending) := by
  refine .aside before ?_ fun other => ?_
  · have ended := World.ending_of_finish found
    unfold Session.ending? at ended
    split at ended
    next stage => rw [stage]; rfl
    next stage => rw [stage]; rfl
    next => cases ended
  · rw [World.contents_finish, endpoints]

/-- A session that goes on to another stage is no concern of any mailbox, either. -/
theorem enter {base : World σ} {last : Session}
    (before : session.stage.spreading? = none) (after : last.stage.spreading? = none)
    (contents : ∀ other, base.endpoints.contents other = world.endpoints.contents other)
    (found : (base.setSession number last).sessions.get? number = some session')
    : Relayed world number session session' (base.setSession number last) := by
  rw [World.get?_setSession] at found
  obtain rfl := Option.some.inj found
  exact .aside before after contents

/-- Every turn relays its message or stands aside, by cases on what it comes to. -/
theorem of_turned {channel : Channel Item}
    (mailbox : world.endpoints.channel? number = some channel)
    (turned : World.Turned services world number session channel next)
    (found : next.sessions.get? number = some session')
    : Relayed world number session session' next := by
  -- Only one stage is about to deliver.
  have apart {stage : Stage} (there : session.stage = stage) (idle : stage.spreading? = none)
      : session.stage.spreading? = none :=
    there ▸ idle
  have goesOn {base : World σ} {last : Session}
      (found : (base.setSession number last).sessions.get? number = some session')
      : session' = last :=
    (Option.some.inj ((World.get?_setSession _ _ _).symm.trans found)).symm
  cases turned with
  | evicted _ watching =>
      refine finish ?_ rfl found
      cases stage : session.stage with
      | spreading => rw [stage] at watching; cases watching
      | _ => rfl
  | inputEnds stage => exact finish (apart stage rfl) rfl found
  | inputFails stage => exact finish (apart stage rfl) rfl found
  | takes stage => exact enter (apart stage rfl) rfl (fun _ => rfl) found
  | @checks request stage =>
      rcases asked : services.directory.userExists (Identity.normalize request.recipient)
        world.backend with ⟨known, backend⟩
      rw [World.check, asked] at found ⊢
      rcases known with (e | (_ | _)) | _
      · exact finish (apart stage rfl) rfl found
      · exact finish (apart stage rfl) rfl found
      · exact enter (apart stage rfl) rfl (fun _ => rfl) found
      · exact finish (apart stage rfl) rfl found
  | @stores request stage =>
      rcases answered : services.messages.persist session.identity
        (Identity.normalize request.recipient) request.content world.now world.backend with
        ⟨stored, backend⟩
      rw [World.store, answered] at found ⊢
      rcases stored with (e | persisted) | _
      · exact finish (apart stage rfl) rfl found
      · exact enter (apart stage rfl) rfl (fun _ => rfl) found
      · exact finish (apart stage rfl) rfl found
  | outboundCloses acknowledging =>
      refine finish ?_ rfl found
      cases stage : session.stage with
      | spreading => rw [stage] at acknowledging; cases acknowledging
      | _ => rfl
  | acknowledges stage =>
      obtain rfl := goesOn found
      refine .acknowledges (.inl stage) rfl fun other => ?_
      exact Endpoints.contents_updateChannel mailbox (Channel.messages_enqueue channel _) other
  | waits stage =>
      refine enter (apart stage rfl) rfl (fun other => ?_) found
      exact Endpoints.contents_updateChannel_of_same world.endpoints number Channel.await
        (fun _ => rfl) other
  | fills stage =>
      obtain rfl := goesOn found
      refine .acknowledges (.inr stage) rfl fun other => ?_
      exact Endpoints.contents_updateChannel mailbox (Channel.messages_enqueue _ _) other
  | spreads stage =>
      refine .spreads stage ?_ rfl
      rw [World.sessions_spread] at found
      obtain rfl := goesOn found
      rfl
  | reportCloses stage => exact enter (apart stage rfl) rfl (fun _ => rfl) found
  | @reports ending status stage =>
      refine enter (apart stage rfl) rfl (fun other => ?_) found
      refine Endpoints.contents_updateChannel_of_same world.endpoints number
        (·.fill (.failure status)) (fun channel => ?_) other
      exact (Channel.messages_enqueue _ _).trans (List.append_nil _)

end Relayed

/-- The turn of a session with what it does for messages. -/
theorem World.relayed_of_turn {world next : World σ} (coherent : world.exchange.registry.Coherent)
    {number : Nat} {session : Session} (found : world.sessions.get? number = some session)
    (taken : world.turn services number = some next)
    : ∃ session', next.sessions.get? number = some session'
        ∧ Relayed world number session session' next := by
  obtain ⟨again, channel, there, mailbox, turned⟩ := turned_of_turn taken
  obtain rfl := Option.some.inj (found.symm.trans there)
  obtain ⟨_, session', _, _, sessions, _, _⟩ := shrinks_of_turn coherent taken
  have held : next.sessions.get? number = some session' := by
    rw [sessions, Table.get?_set, if_pos rfl]
  exact ⟨session', held, .of_turned mailbox turned held⟩

/-- A mark of eviction is never taken back, by cases on the step. -/
theorem Occurs.stays_marked {world next : World σ} {event : Event} (h : Tidy world)
    (occurs : Occurs services elsewhere world event next) {number : Nat} {session : Session}
    (found : world.sessions.get? number = some session)
    (marked : world.endpoints.isEvicted number = true)
    : next.endpoints.isEvicted number = true := by
  have apart {other : Nat} {endpoint : Endpoint} (absent : world.sessions.get? other = none)
      : Endpoints.isEvicted (world.endpoints.set other endpoint) number = true := by
    have differ : number ≠ other := fun same => by cases (same ▸ found).symm.trans absent
    rwa [Endpoints.isEvicted_set, if_neg differ]
  cases occurs with
  | turn taken =>
      obtain ⟨_, _, _, step, _⟩ := World.shrinks_of_turn h.coherent taken
      exact step.marks marked
  | opened identity capacity reports => exact apart h.freshNumber_absent
  | fed there goesOn inbound =>
      rw [World.feed_eq there goesOn]
      exact marked
  | inputEnded ending =>
      unfold World.endInput
      split <;> exact marked
  | took reading => exact ((world.calm_take reading).marks number).trans marked
  | closed closing => exact (Endpoints.isEvicted_updateChannel _ _ _ _).trans marked
  | placed endpoint => exact apart h.freshNumber_absent
  | altered foreign there endpoint => exact apart foreign
  | connected foreign there identity => exact marked
  | disconnected identity id =>
      rw [World.endpoints, Exchange.outside_unregister]
      exact marked
  | sent recipient message => exact (Shrinks.spread h.coherent recipient message).marks marked
  | elsewhere used now => exact marked

/-- A client takes messages from the front of its mailbox only, and all of them when it goes. -/
theorem Endpoints.contents_updateChannel_suffix (endpoints : Endpoints) (number : Nat)
    {change : Channel Item → Channel Item}
    (less : ∀ channel, endpoints.channel? number = some channel →
      (change channel).messages <:+ channel.messages)
    (other : Nat)
    : (endpoints.updateChannel number change).contents other <:+ endpoints.contents other := by
  cases mailbox : endpoints.channel? number with
  | none => exact (updateChannel_of_none mailbox change).symm ▸ List.suffix_rfl
  | some channel =>
      rw [updateChannel_of_channel? mailbox, contents_set]
      split
      next here =>
        rw [here, contents_of_get? (get?_of_channel? mailbox)]
        exact less channel mailbox
      next => exact List.suffix_rfl

/-- A step that is no turn of a session puts nothing into its mailbox if no connection leads
there, by cases on the step.
-/
theorem Occurs.contents_suffix {world next : World σ} {event : Event} (h : Tidy world)
    (occurs : Occurs services elsewhere world event next) {number : Nat} {session : Session}
    (found : world.sessions.get? number = some session)
    (unconnected : world.IsUnconnected number) (other : event ≠ .turn number)
    : next.endpoints.contents number <:+ world.endpoints.contents number := by
  have same {contents : List Delivery} (same : contents = world.endpoints.contents number)
      : contents <:+ world.endpoints.contents number :=
    same ▸ List.suffix_rfl
  have apart {altered : Nat} {endpoint : Endpoint} (absent : world.sessions.get? altered = none)
      : Endpoints.contents (world.endpoints.set altered endpoint) number
        <:+ world.endpoints.contents number := by
    have differ : number ≠ altered := fun same => by cases (same ▸ found).symm.trans absent
    exact same ((Endpoints.contents_set _ _ _ _).trans (if_neg differ))
  cases occurs with
  | @turn turning _ taken =>
      obtain ⟨turner, _, there, _⟩ := World.turned_of_turn taken
      obtain ⟨_, _, relayed⟩ := World.relayed_of_turn h.coherent there taken
      cases relayed with
      | acknowledges _ _ contents =>
          have differ : number ≠ turning := fun here => other (here ▸ rfl)
          exact same (by rw [contents, if_neg differ, List.append_nil])
      | @spreads message recipient _ _ spread =>
          have untouched := World.contents_spread_of_unconnected
            (show (world.enter turning turner .receiving).exchange.registry.Coherent from
              h.coherent) (unconnected recipient) message
          exact same (spread ▸ untouched)
      | aside _ _ contents => exact same (contents number)
  | opened identity capacity reports => exact apart h.freshNumber_absent
  | fed there goesOn inbound =>
      rw [World.feed_eq there goesOn]
      exact List.suffix_rfl
  | inputEnded ending =>
      unfold World.endInput
      split <;> exact List.suffix_rfl
  | took reading =>
      unfold World.take
      split
      next channel mailbox =>
        refine Endpoints.contents_updateChannel_suffix world.endpoints reading ?_ number
        intro again there
        obtain rfl := Option.some.inj (mailbox.symm.trans there)
        exact ⟨_, channel.messages_pop.symm⟩
      next => exact List.suffix_rfl
  | closed closing =>
      refine Endpoints.contents_updateChannel_suffix world.endpoints closing ?_ number
      exact fun channel _ => (List.nil_suffix : [] <:+ channel.messages)
  | placed endpoint => exact apart h.freshNumber_absent
  | altered foreign there endpoint => exact apart foreign
  | connected | elsewhere => exact List.suffix_rfl
  | disconnected identity id =>
      rw [World.endpoints, Exchange.outside_unregister]
      exact List.suffix_rfl
  | sent recipient message =>
      exact same (World.contents_spread_of_unconnected h.coherent (unconnected recipient) message)

end ChatServer.Live
