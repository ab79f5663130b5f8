import ChatServer.Proofs.Live.Chronicle
import ChatServer.Proofs.Live.Protocol

/-! Who evicts whom. A session is marked as evicted only by a fan-out whose delivery to its mailbox
failed. That fan-out is mostly somebody else's; but a session that writes to its own identity is
among the recipients, and then its own acknowledgement may have taken the place that the copy needs.
-/

namespace ChatServer.Live

variable {σ : Type}

-----------------------------------------------------------------------------------------
-- Fan-outs in a record
-----------------------------------------------------------------------------------------

/-- The step delivers a message to the connections of a recipient: in a turn of the session that
sent it, or for somebody who is no session.
-/
inductive Entry.Spreads (entry : Entry σ) : Option Nat → String → Delivery → Prop where
  | session {number : Nat} {session : Session} {recipient : String} {message : Delivery}
    (event : entry.event = .turn number)
    (found : entry.before.sessions.get? number = some session)
    (stage : session.stage = .spreading message recipient)
    : Spreads entry (some number) recipient message
  | caller {recipient : String} {message : Delivery} (event : entry.event = .sent recipient message)
    : Spreads entry none recipient message

/-- The delivery of a message of the sender to a mailbox fails in the step. -/
structure Entry.FailsFor (entry : Entry σ) (number : Nat) (sender : Option Nat) (recipient : String)
    (message : Delivery) : Prop where
  spreads : entry.Spreads sender recipient message
  failed
    : number ∈ (entry.before.exchange.failures endpointOps recipient message).map (·.sink)

-----------------------------------------------------------------------------------------
-- Failed deliveries
-----------------------------------------------------------------------------------------

/-- A push fails when there is no room. -/
theorem Channel.isSome_push {ι : Type} (channel : Channel ι) (item : ι)
    : (channel.push item).1.isSome = !channel.hasRoom := by
  unfold push
  split
  next closed => simp [hasRoom, Bool.not_eq_eq_eq_not.mp closed]
  next =>
    split
    next room => simp [room]
    next full => simp [full]

/-- Delivering to a mailbox is pushing onto its channel, and leaves every other channel alone. -/
theorem Endpoints.deliver_mailbox {endpoints : Endpoints} {number : Nat} {channel : Channel Item}
    (mailbox : endpoints.channel? number = some channel) (message : Delivery)
    : (endpointOps.deliver number message endpoints).1 = (channel.push (.message message)).1 := by
  simp only [endpointOps, get?_of_channel? mailbox, Endpoint.deliver]

theorem Endpoints.channel?_deliver_of_ne (endpoints : Endpoints) {number other : Nat}
    (differ : other ≠ number) (message : Delivery)
    : Endpoints.channel? (endpointOps.deliver number message endpoints).2 other
      = endpoints.channel? other := by
  simp only [endpointOps]
  split
  next => rw [channel?_set, if_neg differ]
  next => rfl

/-- If a mailbox is tried at most once, what its attempt comes to depends on its channel only, by
induction on the targets.
-/
theorem fault?_of_attempt {number : Nat} {channel : Channel Item} {message : Delivery}
    {attempt : Exchange.Attempt Nat} (sink : attempt.sink = number) {targets : List (Nat × Nat)}
    (once : targets.Pairwise fun first second => ¬ (first.2 = number ∧ second.2 = number))
    {endpoints : Endpoints} (mailbox : endpoints.channel? number = some channel)
    (tried : attempt ∈ (Exchange.deliverAll endpointOps message targets endpoints).1)
    : attempt.fault? = (channel.push (.message message)).1 := by
  induction targets generalizing endpoints with
  | nil => cases tried
  | cons target rest ih =>
      obtain ⟨apart, restOnce⟩ := List.pairwise_cons.mp once
      rcases List.mem_cons.mp tried with rfl | later
      · obtain rfl : target.2 = number := sink
        exact Endpoints.deliver_mailbox mailbox message
      · -- The mailbox is among the later targets, so the first one is another.
        have among : (attempt.id, attempt.sink) ∈ rest := by
          rw [← Exchange.deliverAll_targets endpointOps message rest
            (endpointOps.deliver target.2 message endpoints).2]
          exact List.mem_map_of_mem later
        have differ : number ≠ target.2 := fun same =>
          apart (attempt.id, attempt.sink) among ⟨same.symm, sink⟩
        exact ih restOnce
          ((Endpoints.channel?_deliver_of_ne endpoints differ message).trans mailbox) later

/-- The delivery of a message to a session's mailbox fails if and only if the session is connected
under the recipient's identity and its mailbox has no room.
-/
theorem Tidy.failed_iff {world : World σ} (h : Tidy world) {number : Nat} {session : Session}
    (found : world.sessions.get? number = some session) {channel : Channel Item}
    (mailbox : world.endpoints.channel? number = some channel) (recipient : String)
    (message : Delivery)
    : number ∈ (world.exchange.failures endpointOps recipient message).map (·.sink)
      ↔ world.exchange.registry.sink? recipient session.connection = some number
        ∧ channel.hasRoom = false := by
  -- Only its own connection leads to a session's mailbox.
  have once : (world.exchange.registry.connectionsOf recipient).entries.Pairwise
      fun first second => ¬ (first.2 = number ∧ second.2 = number) := by
    have distinct := h.coherent.connectionsOf_distinct recipient
    refine List.Pairwise.imp_of_mem ?_ (List.pairwise_map.mp distinct)
    rintro ⟨first, one⟩ ⟨second, other⟩ memberOne memberOther differ ⟨rfl, rfl⟩
    have ownOne := h.own (Table.get?_of_mem distinct memberOne) found
    have ownOther := h.own (Table.get?_of_mem distinct memberOther) found
    exact differ (ownOne.1.trans ownOther.1.symm)
  have fault {attempt : Exchange.Attempt Nat}
      (tried : attempt ∈ (world.exchange.attempts endpointOps recipient message).1)
      (sink : attempt.sink = number)
      : attempt.fault?.isSome = !channel.hasRoom := by
    rw [fault?_of_attempt sink once mailbox tried, Channel.isSome_push]
  constructor
  · intro failing
    obtain ⟨attempt, failed, sink⟩ := List.mem_map.mp failing
    obtain ⟨tried, faulty⟩ := Exchange.mem_failures.mp failed
    have held := Exchange.sink?_of_attempt h.coherent tried
    rw [sink] at held
    rw [← (h.own held found).1]
    refine ⟨held, ?_⟩
    simpa [fault tried sink] using faulty
  · rintro ⟨held, full⟩
    obtain ⟨attempt, tried, _, sink⟩ := Exchange.attempt_of_sink? endpointOps message held
    refine List.mem_map.mpr ⟨attempt, Exchange.mem_failures.mpr ⟨tried, ?_⟩, sink⟩
    rw [fault tried sink, full]
    rfl

-----------------------------------------------------------------------------------------
-- Marks
-----------------------------------------------------------------------------------------

namespace World

theorem marks_finish (world : World σ) (number : Nat) (session : Session) (ending : Ending)
    (other : Nat)
    : (world.finish number session ending).endpoints.isEvicted other
      = world.endpoints.isEvicted other := by
  obtain ⟨base, stage, calm, _, same⟩ := finish_eq world number session ending
  rw [same]
  exact calm.marks other

/-- A turn that delivers nothing to others marks no mailbox, by cases on what it comes to. -/
theorem marks_of_turned {services : Services σ} {world next : World σ} {number : Nat}
    {session : Session} {channel : Channel Item}
    (turned : Turned services world number session channel next)
    : (∀ other, next.endpoints.isEvicted other = world.endpoints.isEvicted other)
      ∨ ∃ message recipient, session.stage = .spreading message recipient
        ∧ next = (world.enter number session .receiving).spread recipient message := by
  have updated (change : Channel Item → Channel Item) (other : Nat)
      : (world.updateChannel number change).endpoints.isEvicted other
        = world.endpoints.isEvicted other :=
    Endpoints.isEvicted_updateChannel world.endpoints number other change
  cases turned with
  | evicted => exact .inl (marks_finish world number session _)
  | inputEnds => exact .inl (marks_finish world number session _)
  | inputFails => exact .inl (marks_finish world number _ _)
  | takes => exact .inl fun _ => rfl
  | @checks request stage =>
      left
      unfold check
      rcases services.directory.userExists (Identity.normalize request.recipient) world.backend
        with ⟨known, backend⟩
      rcases known with (e | (_ | _)) | _
      · exact marks_finish { world with backend } number session _
      · exact marks_finish { world with backend } number session _
      · exact fun _ => rfl
      · exact marks_finish { world with backend } number session _
  | @stores request stage =>
      left
      rcases answered : services.messages.persist session.identity
        (Identity.normalize request.recipient) request.content world.now world.backend with
        ⟨stored, backend⟩
      rw [store, answered]
      rcases stored with (e | persisted) | _
      · exact marks_finish { world with backend } number session _
      · exact fun _ => rfl
      · exact marks_finish { world with backend } number session _
  | outboundCloses => exact .inl (marks_finish world number session _)
  | acknowledges => exact .inl (updated _)
  | waits => exact .inl (updated _)
  | fills => exact .inl (updated _)
  | @spreads message recipient stage => exact .inr ⟨message, recipient, stage, rfl⟩
  | reportCloses => exact .inl fun _ => rfl
  | reports => exact .inl (updated _)

end World

/-- A fan-out marks a mailbox if its delivery there fails. -/
theorem World.marked_of_spread {world : World σ} (coherent : world.exchange.registry.Coherent)
    {number : Nat} (mailbox : (world.endpoints.channel? number).isSome = true)
    (recipient : String) (message : Delivery)
    : (world.spread recipient message).endpoints.isEvicted number = true
      ↔ world.endpoints.isEvicted number = true
        ∨ number ∈ (world.exchange.failures endpointOps recipient message).map (·.sink) := by
  rw [(endpoints_spread coherent recipient message).2, mailbox]
  simp

/-- A session's mailbox that is marked after a step was marked before, or a delivery to it failed
in the step, by cases on the step.
-/
theorem Occurs.marked {services : Services σ} {elsewhere : σ → σ → Prop} {world next : World σ}
    {event : Event} (h : Tidy world) (occurs : Occurs services elsewhere world event next)
    {number : Nat} {session : Session} (found : world.sessions.get? number = some session)
    (marked : next.endpoints.isEvicted number = true)
    : world.endpoints.isEvicted number = true
      ∨ ∃ sender recipient message,
        (⟨event, world, next⟩ : Entry σ).FailsFor number sender recipient message := by
  have mailbox := h.mailbox found
  -- The mark of a session's mailbox is not touched by setting another endpoint.
  have apart {other : Nat} {endpoint : Endpoint} (absent : world.sessions.get? other = none)
      (marked : Endpoints.isEvicted (world.endpoints.set other endpoint) number = true)
      : world.endpoints.isEvicted number = true := by
    have differ : number ≠ other := fun same => by
      rw [← same, found] at absent
      cases absent
    rwa [Endpoints.isEvicted_set, if_neg differ] at marked
  cases occurs with
  | @turn turning _ taken =>
      obtain ⟨sender, channel, there, _, turned⟩ := World.turned_of_turn taken
      rcases World.marks_of_turned turned with same | ⟨message, recipient, stage, rfl⟩
      · exact .inl (same number ▸ marked)
      · have entered : Tidy (world.enter turning sender .receiving) :=
          h.setSession there _ rfl rfl
        rcases (World.marked_of_spread entered.coherent mailbox recipient message).mp marked with
          before | failed
        · exact .inl before
        · exact .inr ⟨_, recipient, message, .session rfl there stage, failed⟩
  | opened identity capacity reports => exact .inl (apart h.freshNumber_absent marked)
  | fed there goesOn inbound =>
      rw [World.feed_eq there goesOn] at marked
      exact .inl marked
  | inputEnded other =>
      unfold World.endInput at marked
      split at marked <;> exact .inl marked
  | took other => exact .inl (((world.calm_take other).marks number).symm.trans marked)
  | closed other => exact .inl ((Endpoints.isEvicted_updateChannel _ _ _ _).symm.trans marked)
  | placed endpoint => exact .inl (apart h.freshNumber_absent marked)
  | altered foreign there endpoint => exact .inl (apart foreign marked)
  | connected foreign there identity => exact .inl marked
  | disconnected identity id =>
      have outside := Exchange.outside_unregister world.exchange identity id
      rw [World.endpoints, outside] at marked
      exact .inl marked
  | sent recipient message =>
      rcases (World.marked_of_spread h.coherent mailbox recipient message).mp marked with
        before | failed
      · exact .inl before
      · exact .inr ⟨none, recipient, message, .caller rfl, failed⟩
  | elsewhere used now => exact .inl marked

/-- Before a session's mailbox is marked a delivery to it has failed: somebody's message went to
the session's identity when the mailbox had no room. By induction on the record.
-/
theorem Chronicle.failed_of_marked {services : Services σ} {elsewhere : σ → σ → Prop} {start : σ}
    {history : List (Entry σ)} {world : World σ}
    (told : Chronicle services elsewhere start history world) {number : Nat} {session : Session}
    (found : world.sessions.get? number = some session)
    (marked : world.endpoints.isEvicted number = true)
    : ∃ entry ∈ history, ∃ sender recipient message channel,
        entry.FailsFor number sender recipient message
        ∧ Identity.normalize recipient = session.identity
        ∧ entry.before.endpoints.channel? number = some channel
        ∧ channel.hasRoom = false := by
  induction told generalizing session with
  | start => cases found
  | @goesOn history world next event told occurs ih =>
      rcases occurs.opened_or_kept told.tidy found with
        ⟨identity, capacity, reports, rfl, rfl⟩ | ⟨old, there, same⟩
      · -- The mailbox of a new session is not marked.
        have unmarked : (world.openSession world.freshNumber identity capacity
            reports).endpoints.isEvicted world.freshNumber = false := by
          refine (Endpoints.isEvicted_set _ _ _ _).trans ?_
          rw [if_pos rfl]
        rw [unmarked] at marked
        cases marked
      · rw [same]
        rcases occurs.marked told.tidy there marked with
          before | ⟨sender, recipient, message, fails⟩
        · obtain ⟨entry, member, failure⟩ := ih there before
          exact ⟨entry, List.mem_append_left _ member, failure⟩
        · obtain ⟨channel, mailbox⟩ := Option.isSome_iff_exists.mp (told.tidy.mailbox there)
          obtain ⟨held, full⟩ := (told.tidy.failed_iff there mailbox recipient message).mp
            fails.failed
          exact ⟨_, List.mem_append_right _ (List.mem_singleton_self _), sender, recipient, message,
            channel, fails, (told.tidy.own held there).2, mailbox, full⟩

-----------------------------------------------------------------------------------------
-- Ending as unavailable
-----------------------------------------------------------------------------------------

/-- A session that is finished has the ending. -/
theorem World.ending_of_finish {world : World σ} {number : Nat} {session session' : Session}
    {ending : Ending}
    (found : (world.finish number session ending).sessions.get? number = some session')
    : session'.ending? = some ending := by
  obtain ⟨base, stage, _, ended, same⟩ := finish_eq world number session ending
  rw [same, get?_setSession] at found
  obtain rfl := Option.some.inj found
  rcases ended with rfl | ⟨status, rfl⟩ <;> rfl

theorem GoesOn.ending? {session session' : Session} {calls : List Call}
    (how : GoesOn session calls session')
    : session'.ending? = none := by
  cases how <;> rfl

/-- A call of the protocol that ends a session as unavailable is a failure to receive. -/
theorem EndsWith.unavailable {session : Session} {calls : List Call} {status : Status}
    (how : EndsWith session calls (.failed status)) (code : status.code = .unavailable)
    : session.stage = .receiving ∧ session.input.head? = some (.error status) := by
  cases how with
  | inputFails stage first => exact ⟨stage, by rw [first]; rfl⟩
  | unknown | directoryFails | storeFails => cases code

/-- A turn that ends a running session as unavailable finds its mailbox marked, or its client's
stream failed that way, by cases on what the turn comes to.
-/
theorem World.unavailable_of_turned {services : Services σ} {world next : World σ} {number : Nat}
    {session session' : Session} {channel : Channel Item} {status : Status}
    (there : world.sessions.get? number = some session) (running : session.isRunning = true)
    (turned : Turned services world number session channel next)
    (found : next.sessions.get? number = some session')
    (ended : session'.ending? = some (.failed status)) (code : status.code = .unavailable)
    : (session.stage = .receiving ∧ session.input.head? = some (.error status))
      ∨ (status = Failure.evicted.status ∧ world.endpoints.isEvicted number = true) := by
  have finished {base : World σ} {last : Session} {ending : Ending}
      (found : (base.finish number last ending).sessions.get? number = some session')
      : ending = .failed status :=
    Option.some.inj ((ending_of_finish found).symm.trans ended)
  -- What goes on has not ended.
  have entered {base : World σ} {last : Session}
      (found : (base.setSession number last).sessions.get? number = some session')
      : last.ending? = some (.failed status) := by
    rw [get?_setSession] at found
    rwa [Option.some.inj found]
  have performed (step : Performed services world number session next)
      : session.stage = .receiving ∧ session.input.head? = some (.error status) := by
    cases step with
    | goesOn how => cases how.ending?.symm.trans (entered found)
    | ends how _ =>
        obtain rfl := finished found
        exact how.unavailable code
  cases turned with
  | evicted marked _ =>
      obtain rfl := Ending.failed.inj (finished found)
      exact .inr ⟨rfl, marked⟩
  | inputEnds => cases finished found
  | inputFails stage first =>
      obtain rfl := Ending.failed.inj (finished found)
      exact .inl ⟨stage, by rw [first]; rfl⟩
  | checks stage => exact .inl (performed (check_performed there stage))
  | stores stage => exact .inl (performed (store_performed there stage))
  | outboundCloses =>
      obtain rfl := Ending.failed.inj (finished found)
      cases code
  | takes | acknowledges | waits | fills => cases entered found
  | spreads =>
      rw [sessions_spread] at found
      cases entered found
  | reportCloses stage | reports stage =>
      simp [Session.isRunning, Session.ending?, stage] at running

/-- Delivering its own message does not end a session. It marks the session's mailbox only if the
session is connected under the recipient's identity and its mailbox has no room.
-/
theorem Tidy.spreads {services : Services σ} {world next : World σ} (h : Tidy world) {number : Nat}
    {session : Session} {channel : Channel Item}
    (found : world.sessions.get? number = some session)
    (mailbox : world.endpoints.channel? number = some channel) {message : Delivery}
    {recipient : String} (stage : session.stage = .spreading message recipient)
    (taken : world.turn services number = some next)
    : next.sessions.get? number = some { session with stage := .receiving }
      ∧ (next.endpoints.isEvicted number = true
        ↔ world.endpoints.isEvicted number = true
          ∨ (world.exchange.registry.sink? recipient session.connection = some number
            ∧ channel.hasRoom = false)) := by
  have spread : next = (world.enter number session .receiving).spread recipient message := by
    simp only [World.turn, found, mailbox, stage, Option.bind_eq_bind, Option.bind_some] at taken
    exact (Option.some.inj taken).symm
  subst spread
  constructor
  · rw [World.sessions_spread]
    exact World.get?_setSession world number _
  · have there
        : ((world.enter number session .receiving).endpoints.channel? number).isSome = true :=
      h.mailbox found
    exact (World.marked_of_spread h.coherent there recipient message).trans
      (or_congr .rfl (h.failed_iff found mailbox recipient message))

/-- A running session whose turn ends it as unavailable has been told so by its own client's stream,
or is evicted; and it is evicted only after a delivery to it has failed: somebody's message went to
its identity when its mailbox had no room. That somebody may be the session itself, but delivering
its own message does not end it at once, and marks it in this one case only.
-/
theorem unavailable_after_failed_delivery {services : Services σ} {elsewhere : σ → σ → Prop}
    {start : σ} {past later : List (Entry σ)} {entry : Entry σ} {world : World σ}
    (told : Chronicle services elsewhere start (past ++ entry :: later) world) {number : Nat}
    (turns : entry.event = .turn number) {session : Session}
    (found : entry.before.sessions.get? number = some session)
    (running : session.isRunning = true)
    : ∃ channel session',
        entry.before.endpoints.channel? number = some channel
        ∧ entry.after.sessions.get? number = some session'
        ∧ (∀ message recipient, session.stage = .spreading message recipient →
          session'.isRunning = true
          ∧ (entry.after.endpoints.isEvicted number = true
            ↔ entry.before.endpoints.isEvicted number = true
              ∨ (entry.before.exchange.registry.sink? recipient session.connection = some number
                ∧ channel.hasRoom = false)))
        ∧ ∀ status, session'.ending? = some (.failed status) → status.code = .unavailable →
          (session.stage = .receiving ∧ session.input.head? = some (.error status))
          ∨ (status = Failure.evicted.status
            ∧ ∃ failing ∈ past, ∃ sender recipient message channel,
              failing.FailsFor number sender recipient message
              ∧ Identity.normalize recipient = session.identity
              ∧ failing.before.endpoints.channel? number = some channel
              ∧ channel.hasRoom = false) := by
  obtain ⟨before, occurs⟩ := told.split
  have tidy := before.tidy
  have taken : entry.before.turn services number = some entry.after := by
    rw [turns] at occurs
    cases occurs with
    | turn taken => exact taken
  obtain ⟨session, channel, again, mailbox, turned⟩ := World.turned_of_turn taken
  obtain rfl := Option.some.inj (found.symm.trans again)
  obtain ⟨_, session', _, _, sessions, _, _⟩ := World.shrinks_of_turn tidy.coherent taken
  have there : entry.after.sessions.get? number = some session' := by
    rw [sessions, Table.get?_set, if_pos rfl]
  refine ⟨channel, session', mailbox, there, ?_, ?_⟩
  · intro message recipient stage
    obtain ⟨goesOn, marks⟩ := tidy.spreads found mailbox stage taken
    obtain rfl := Option.some.inj (there.symm.trans goesOn)
    exact ⟨rfl, marks⟩
  · intro status ended code
    rcases World.unavailable_of_turned found running turned there ended code with
      failed | ⟨evicted, marked⟩
    · exact .inl failed
    · exact .inr ⟨evicted, before.failed_of_marked found marked⟩

/-- Two messages from outside for a session with room for one. -/
theorem unavailable_after_failed_delivery_of_two_messages
    : let services : Services Backend := ⟨.fixed [], .recording⟩
      ∃ past world next session session',
        Chronicle services (fun _ _ => False) {} (past ++ [⟨.turn 1, world, next⟩]) next
        ∧ world.sessions.get? 1 = some session
        ∧ next.sessions.get? 1 = some session'
        ∧ session'.ending? = some (.failed Failure.evicted.status)
        ∧ ∃ failing ∈ past, ∃ sender recipient message,
          failing.FailsFor 1 sender recipient message := by
  intro services
  let fresh : World Backend := { backend := {}, now := ⟨0, 0⟩ }
  let opened := fresh.openSession 1 "A" 1 false
  let message : Delivery := ⟨"1", "b", "hello", none⟩
  let world := (opened.spread "a" message).spread " A" message
  have told : Chronicle services (fun _ _ => False) {} _ world :=
    (((Chronicle.start ⟨0, 0⟩).goesOn (.opened "A" 1 false)).goesOn
      (.sent "a" message)).goesOn (.sent " A" message)
  have able : (world.turn services 1).isSome = true := by decide +kernel
  obtain ⟨next, taken⟩ := Option.isSome_iff_exists.mp able
  have found : world.sessions.get? 1
      = some { identity := Identity.normalize "A", connection := 1, reports := false } := by
    rw [World.sessions_spread, World.sessions_spread]
    exact World.get?_setSession _ 1 _
  obtain ⟨_, session', _, there, _, ends⟩ :=
    unavailable_after_failed_delivery (told.goesOn (.turn taken)) rfl found rfl
  have ended : ((world.turn services 1).bind fun next => (next.sessions.get? 1).map
      Session.ending?) = some (some (.failed Failure.evicted.status)) := by
    decide +kernel
  rw [taken, Option.bind_some, there, Option.map_some] at ended
  have ended := Option.some.inj ended
  rcases ends _ ended rfl with
    ⟨_, failed⟩ | ⟨_, failing, member, sender, recipient, sent, _, fails, _⟩
  · cases failed
  · exact ⟨_, world, next, _, session', told.goesOn (.turn taken), found, there, ended, failing,
      member, sender, recipient, sent, fails⟩

/-- A session with room for one item that writes to its own identity, with nobody else around: the
acknowledgement takes the place, the copy finds none, and the session ends as evicted.
-/
theorem evicted_by_own_message
    : let services : Services Backend := ⟨.fixed ["a@x"], .recording⟩
      ∃ history world session,
        Chronicle services (fun _ _ => False) {} history world
        ∧ (∀ entry ∈ history, ∀ recipient message, entry.event ≠ .sent recipient message)
        ∧ world.sessions.keys = [1]
        ∧ world.sessions.get? 1 = some session
        ∧ session.ending? = some (.failed Failure.evicted.status) := by
  intro services
  let fresh : World Backend := { backend := {}, now := ⟨0, 0⟩ }
  let opened := fresh.openSession 1 "a@x" 1 false
  let fed := opened.feed 1 [.ok ⟨"a@x", "hi"⟩]
  have told : Chronicle services (fun _ _ => False) {} _ fed :=
    ((Chronicle.start ⟨0, 0⟩).goesOn (.opened "a@x" 1 false)).goesOn
      (.fed (World.get?_setSession _ 1 _) rfl [.ok ⟨"a@x", "hi"⟩])
  -- It takes, asks, stores, acknowledges, delivers to itself and ends.
  have turns := told.turns [1, 1, 1, 1, 1, 1]
  have ended : ((fed.afterTurns services [1, 1, 1, 1, 1, 1]).sessions.get? 1).map Session.ending?
      = some (some (.failed Failure.evicted.status)) := by
    decide +kernel
  obtain ⟨session, found, ending⟩ := Option.map_eq_some_iff.mp ended
  refine ⟨_, _, session, turns, ?_, by decide +kernel, found, ending⟩
  intro entry member recipient message
  rcases List.mem_append.mp member with before | later
  · rcases List.mem_cons.mp before with rfl | before
    · exact nofun
    · obtain rfl := List.mem_singleton.mp before
      exact nofun
  · obtain ⟨number, turn⟩ := World.turn_of_mem_recordOf later
    rw [turn]
    exact nofun

end ChatServer.Live
