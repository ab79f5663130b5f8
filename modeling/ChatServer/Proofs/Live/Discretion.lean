import ChatServer.Proofs.Live.Progress
import ChatServer.Proofs.Store.Visibility

/-! Sessions are discreet: what comes into the mailbox of a session shows a stored message from or
to the session's identity. An acknowledgement shows the session's own message, and a delivery goes
to the connections under its recipient only, where the only sessions are those of the recipient.
-/

namespace ChatServer.Live

variable {σ : Type}

-----------------------------------------------------------------------------------------
-- Deliveries to others
-----------------------------------------------------------------------------------------

namespace Endpoints

/-- A delivery to one endpoint leaves what another one holds. -/
theorem contents_deliver_of_ne (endpoints : Endpoints) {number other : Nat}
    (differ : other ≠ number) (message : Delivery)
    : Endpoints.contents (endpointOps.deliver number message endpoints).2 other
      = endpoints.contents other := by
  simp only [endpointOps]
  split
  next => rw [contents_set, if_neg differ]
  next => rfl

/-- A fan-out leaves what an endpoint holds that is none of its targets, by induction on them. -/
theorem contents_deliverAll_of_not_mem (message : Delivery) {targets : List (Nat × Nat)}
    {number : Nat} (apart : ∀ target ∈ targets, number ≠ target.2) (endpoints : Endpoints)
    : Endpoints.contents (Exchange.deliverAll endpointOps message targets endpoints).2 number
      = endpoints.contents number := by
  induction targets generalizing endpoints with
  | nil => rfl
  | cons target rest ih =>
      obtain ⟨differ, restApart⟩ := List.forall_mem_cons.mp apart
      exact (ih restApart _).trans (contents_deliver_of_ne endpoints differ message)

end Endpoints

/-- A message for a recipient leaves what a sink holds that is not connected under the recipient. -/
theorem World.contents_spread_of_unconnected {world : World σ}
    (coherent : world.exchange.registry.Coherent) {recipient : String} {number : Nat}
    (unconnected : ∀ id, world.exchange.registry.sink? recipient id ≠ some number)
    (message : Delivery)
    : (world.spread recipient message).endpoints.contents number
      = world.endpoints.contents number := by
  rw [endpoints_spread_eq coherent, Endpoints.contents_foldl_evicted]
  refine Endpoints.contents_deliverAll_of_not_mem message ?_ world.endpoints
  rintro ⟨id, sink⟩ member rfl
  exact unconnected id (Table.get?_of_mem (coherent.connectionsOf_distinct recipient) member)

/-- The turn of a session that is about to deliver its message delivers it. -/
theorem World.turn_of_spreading {services : Services σ} {world next : World σ} {number : Nat}
    {session : Session} (found : world.sessions.get? number = some session) {message : Delivery}
    {recipient : String} (stage : session.stage = .spreading message recipient)
    (taken : world.turn services number = some next)
    : next = (world.enter number session .receiving).spread recipient message := by
  obtain ⟨again, channel, there, mailbox, _⟩ := World.turned_of_turn taken
  simp only [World.turn, found, mailbox, stage, Option.bind_eq_bind, Option.bind_some] at taken
  exact (Option.some.inj taken).symm

-----------------------------------------------------------------------------------------
-- Discreet worlds
-----------------------------------------------------------------------------------------

/-- A session at the stage has a message in hand for a recipient. -/
def Stage.HasInHand (stage : Stage) (message : Delivery) (recipient : String) : Prop :=
  stage = .acknowledging message recipient
    ∨ stage = .waiting message recipient
    ∨ stage = .spreading message recipient

/-- A message in hand has been stored, from the identity of its session to the recipient. -/
def IsOwn (store : Store) (identity : String) (message : Delivery) (recipient : String) : Prop :=
  ∃ stored ∈ store.messages,
    message = shown stored ∧ stored.sender = identity ∧ stored.recipient = recipient
    ∧ Identity.normalize recipient = recipient

/-- A message shows a stored one from or to an identity. -/
def IsFor (store : Store) (identity : String) (delivery : Delivery) : Prop :=
  ∃ stored ∈ store.messages, delivery = shown stored ∧ stored.Involves identity

theorem IsOwn.isFor {store : Store} {identity recipient : String} {message : Delivery}
    (own : IsOwn store identity message recipient)
    : IsFor store identity message := by
  obtain ⟨stored, member, same, sender, _⟩ := own
  exact ⟨stored, member, same, .inl sender⟩

/-- What has been stored stays so when more is stored. -/
theorem IsOwn.later {before after : Store} {identity recipient : String} {message : Delivery}
    (own : IsOwn before identity message recipient)
    (grows : ∀ message ∈ before.messages, message ∈ after.messages)
    : IsOwn after identity message recipient := by
  obtain ⟨stored, member, rest⟩ := own
  exact ⟨stored, grows stored member, rest⟩

theorem IsFor.later {before after : Store} {identity : String} {delivery : Delivery}
    (isFor : IsFor before identity delivery)
    (grows : ∀ message ∈ before.messages, message ∈ after.messages)
    : IsFor after identity delivery := by
  obtain ⟨stored, member, rest⟩ := isFor
  exact ⟨stored, grows stored member, rest⟩

/-- Every session has only messages of its own in hand, and only messages from or to its identity in
its mailbox.
-/
structure Discreet (view : σ → Store) (world : World σ) : Prop where
  tidy : Tidy world
  inHand
    : ∀ {number session message recipient}, world.sessions.get? number = some session →
        session.stage.HasInHand message recipient →
          IsOwn (view world.backend) session.identity message recipient
  held
    : ∀ {number session delivery}, world.sessions.get? number = some session →
        delivery ∈ world.endpoints.contents number →
          IsFor (view world.backend) session.identity delivery

variable {view : σ → Store}

theorem Discreet.start (backend : σ) (now : Instant)
    : Discreet view ({ backend, now } : World σ) where
  tidy := .start backend now
  inHand found := by cases found
  held found := by cases found

/-- A step keeps a world discreet that puts nothing into a session's hand or mailbox. -/
theorem Discreet.lessens {before after : World σ} (h : Discreet view before) (tidy : Tidy after)
    (grows : ∀ message ∈ (view before.backend).messages,
      message ∈ (view after.backend).messages)
    (sessions : ∀ {number session'}, after.sessions.get? number = some session' →
      ∃ session, before.sessions.get? number = some session
        ∧ session'.identity = session.identity ∧ session'.stage = session.stage
        ∧ ∀ delivery ∈ after.endpoints.contents number,
            delivery ∈ before.endpoints.contents number)
    : Discreet view after where
  tidy := tidy
  inHand {number session' message recipient} found stage := by
    obtain ⟨session, old, identity, same, _⟩ := sessions found
    rw [same] at stage
    rw [identity]
    exact (h.inHand old stage).later grows
  held {number session' delivery} found member := by
    obtain ⟨session, old, identity, _, less⟩ := sessions found
    rw [identity]
    exact (h.held old (less delivery member)).later grows

/-- A step that leaves the sessions as they are and puts nothing into their mailboxes. -/
theorem Discreet.lessens_of_same {before after : World σ} (h : Discreet view before)
    (tidy : Tidy after)
    (grows : ∀ message ∈ (view before.backend).messages,
      message ∈ (view after.backend).messages)
    (same : after.sessions = before.sessions)
    (less : ∀ {number session}, before.sessions.get? number = some session →
      ∀ delivery ∈ after.endpoints.contents number, delivery ∈ before.endpoints.contents number)
    : Discreet view after :=
  h.lessens tidy grows fun {number session} found =>
    have old : before.sessions.get? number = some session := same ▸ found
    ⟨session, old, rfl, rfl, less old⟩

-----------------------------------------------------------------------------------------
-- Turns
-----------------------------------------------------------------------------------------

section

variable {services : Services σ} {world next : World σ} {number : Nat}
  {session session' : Session} {stored : List StoredMessage} {posted : Nat → List Delivery}

/-- What a session has in hand after a turn it had before, or has just stored. -/
theorem Progress.hasInHand (progress : Progress number session session' stored posted)
    {message : Delivery} {recipient : String} (inHand : session'.stage.HasInHand message recipient)
    : session.stage.HasInHand message recipient
      ∨ ∃ request message', stored = [message'] ∧ Stems session.identity request message'
          ∧ message = shown message' ∧ recipient = message'.recipient := by
  cases progress with
  | takes | finds | spreads =>
      rcases inHand with absurd | absurd | absurd <;> cases absurd
  | @stores request message' stage stems =>
      rcases inHand with same | absurd | absurd
      · cases same
        exact .inr ⟨request, message', rfl, stems, rfl, rfl⟩
      · cases absurd
      · cases absurd
  | waits stage =>
      rcases inHand with absurd | same | absurd
      · cases absurd
      · cases same
        exact .inl (.inl stage)
      · cases absurd
  | acknowledges stage =>
      rcases inHand with absurd | absurd | same
      · cases absurd
      · cases absurd
      · cases same
        exact .inl (stage.imp_right .inl)
  | ends ended _ =>
      rcases ended with rfl | ⟨status, rfl⟩ <;>
        rcases inHand with absurd | absurd | absurd <;> cases absurd

/-- What a turn gives to a sink its session has in hand; the sink is the session's own mailbox, or
is connected under the recipient.
-/
theorem Advanced.given (coherent : world.exchange.registry.Coherent)
    (found : world.sessions.get? number = some session)
    (taken : world.turn services number = some next)
    (progress : Progress number session session' stored posted)
    (advanced : Advanced view world next number session' stored posted)
    {sink : Nat} {delivery : Delivery} (given : delivery ∈ posted sink)
    : ∃ recipient, session.stage.HasInHand delivery recipient
        ∧ (sink = number ∨ ∃ id, world.exchange.registry.sink? recipient id = some sink) := by
  cases progress with
  | takes | finds | stores | waits | ends => cases given
  | @acknowledges message recipient stage =>
      change delivery ∈ if sink = number then [message] else [] at given
      split at given
      next same =>
        obtain rfl := List.mem_singleton.mp given
        exact ⟨recipient, stage.imp_right .inl, .inl same⟩
      next => cases given
  | @spreads message recipient posted stage copies =>
      obtain rfl := copies sink delivery given
      refine ⟨recipient, .inr (.inr stage), .inr ?_⟩
      by_contra unconnected
      have spread := World.turn_of_spreading found stage taken
      have untouched : next.endpoints.contents sink = world.endpoints.contents sink := by
        rw [spread]
        exact World.contents_spread_of_unconnected
          (show (world.enter number session .receiving).exchange.registry.Coherent from coherent)
          (not_exists.mp unconnected) delivery
      rw [advanced.contents, List.append_right_eq_self] at untouched
      rw [untouched] at given
      cases given

/-- What a session has in hand after a turn is its own, if it was so before. -/
theorem Progress.isOwn {before after : Store}
    (progress : Progress number session session' stored posted)
    (messages : after.messages = before.messages ++ stored)
    (own : ∀ {message recipient}, session.stage.HasInHand message recipient →
      IsOwn before session.identity message recipient)
    {message : Delivery} {recipient : String} (inHand : session'.stage.HasInHand message recipient)
    : IsOwn after session'.identity message recipient := by
  have grows : ∀ message ∈ before.messages, message ∈ after.messages := fun message member => by
    rw [messages]
    exact List.mem_append_left stored member
  rw [progress.identity]
  rcases progress.hasInHand inHand with already | ⟨request, new, rfl, stems, rfl, rfl⟩
  · exact (own already).later grows
  · refine ⟨new, ?_, rfl, stems.sender, rfl, ?_⟩
    · rw [messages]
      exact List.mem_append_right _ (List.mem_singleton_self new)
    · rw [stems.recipient, Identity.normalize_normalize]

/-- What a turn gives to a session is for it: it goes to the mailbox of its own session, or to those
of its recipient.
-/
theorem Discreet.given (h : Discreet view world)
    (found : world.sessions.get? number = some session)
    (taken : world.turn services number = some next)
    (progress : Progress number session session' stored posted)
    (advanced : Advanced view world next number session' stored posted)
    {sink : Nat} {receiver : Session} (there : world.sessions.get? sink = some receiver)
    {delivery : Delivery} (given : delivery ∈ posted sink)
    : IsFor (view world.backend) receiver.identity delivery := by
  obtain ⟨recipient, inHand, rfl | ⟨id, connected⟩⟩ :=
    advanced.given h.tidy.coherent found taken progress given
  · obtain rfl := Option.some.inj (found.symm.trans there)
    exact (h.inHand found inHand).isFor
  · obtain ⟨message, among, rfl, _, rfl, normal⟩ := h.inHand found inHand
    have named := (h.tidy.own connected there).2
    exact ⟨message, among, rfl, .inr (normal.symm.trans named)⟩

/-- A turn keeps a world discreet: it stores messages of its session, and gives what it has in hand
to its own mailbox or to those of the recipient.
-/
theorem Discreet.turn (memory : services.StoresIn view) (h : Discreet view world)
    (taken : world.turn services number = some next)
    : Discreet view next := by
  obtain ⟨session, _, found, _⟩ := World.turned_of_turn taken
  obtain ⟨session', stored, posted, progress, advanced⟩ :=
    progress_of_turn memory h.tidy found taken
  have occurs : Occurs services (fun _ _ => False) world (.turn number) next := .turn taken
  -- Every session after the turn is the one that took it, or was there before.
  have before {other : Nat} {after : Session} (held : next.sessions.get? other = some after)
      : other = number ∧ after = session' ∨ world.sessions.get? other = some after := by
    rw [advanced.sessions, Table.get?_set] at held
    split at held
    next same => exact .inl ⟨same, (Option.some.inj held).symm⟩
    next => exact .inr held
  refine ⟨occurs.tidy h.tidy, ?_, ?_⟩
  · intro other after message recipient held inHand
    rcases before held with ⟨rfl, rfl⟩ | old
    · exact progress.isOwn advanced.messages (h.inHand found) inHand
    · exact (h.inHand old inHand).later advanced.used.grows
  · intro other after delivery held member
    obtain ⟨old, wasThere, identity⟩ : ∃ old, world.sessions.get? other = some old
        ∧ after.identity = old.identity := by
      rcases before held with ⟨rfl, rfl⟩ | old
      · exact ⟨session, found, progress.identity⟩
      · exact ⟨after, old, rfl⟩
    rw [identity]
    rw [advanced.contents] at member
    rcases List.mem_append.mp member with kept | given
    · exact (h.held wasThere kept).later advanced.used.grows
    · exact (h.given found taken progress advanced wasThere given).later advanced.used.grows

end

-----------------------------------------------------------------------------------------
-- Other steps
-----------------------------------------------------------------------------------------

/-- A new session has nothing in hand and an empty mailbox. -/
theorem Discreet.opened {world : World σ} (h : Discreet view world) (identity : String)
    (capacity : Nat) (reports : Bool)
    : Discreet view (world.openSession world.freshNumber identity capacity reports) := by
  let opened := world.openSession world.freshNumber identity capacity reports
  have contents (number : Nat)
      : opened.endpoints.contents number
        = if number = world.freshNumber then [] else world.endpoints.contents number :=
    Endpoints.contents_set world.endpoints world.freshNumber number _
  have before {number : Nat} {session : Session}
      (found : opened.sessions.get? number = some session)
      : (number = world.freshNumber ∧ session.stage = .receiving)
        ∨ (number ≠ world.freshNumber ∧ world.sessions.get? number = some session) := by
    change (world.sessions.set _ _).get? number = some session at found
    rw [Table.get?_set] at found
    split at found
    next same =>
      obtain rfl := Option.some.inj found
      exact .inl ⟨same, rfl⟩
    next differ => exact .inr ⟨differ, found⟩
  refine ⟨h.tidy.opened identity capacity reports, ?_, ?_⟩
  · intro number session message recipient found inHand
    rcases before found with ⟨_, stage⟩ | ⟨_, old⟩
    · rw [stage] at inHand
      rcases inHand with absurd | absurd | absurd <;> cases absurd
    · exact h.inHand old inHand
  · intro number session delivery found member
    rw [contents] at member
    rcases before found with ⟨rfl, _⟩ | ⟨differ, old⟩
    · rw [if_pos rfl] at member
      cases member
    · rw [if_neg differ] at member
      exact h.held old member

/-- One session is replaced by one at the same stage. -/
theorem Discreet.setSession {world : World σ} (h : Discreet view world) {number : Nat}
    {session : Session} (found : world.sessions.get? number = some session) (session' : Session)
    (identity : session'.identity = session.identity)
    (connection : session'.connection = session.connection)
    (stage : session'.stage = session.stage)
    : Discreet view (world.setSession number session') := by
  refine h.lessens (h.tidy.setSession found session' identity connection) (fun _ => id) ?_
  intro other after held
  change (world.sessions.set number session').get? other = some after at held
  rw [Table.get?_set] at held
  split at held
  next same =>
    obtain rfl := Option.some.inj held
    exact ⟨session, same ▸ found, identity, stage, fun _ => id⟩
  next => exact ⟨after, held, rfl, rfl, fun _ => id⟩

/-- A channel loses messages, or keeps those it has. -/
theorem Endpoints.contents_updateChannel_subset (endpoints : Endpoints) (number : Nat)
    {change : Channel Item → Channel Item}
    (less : ∀ channel, endpoints.channel? number = some channel →
      ∀ delivery ∈ (change channel).messages, delivery ∈ channel.messages)
    (other : Nat)
    : ∀ delivery ∈ (endpoints.updateChannel number change).contents other,
        delivery ∈ endpoints.contents other := by
  cases mailbox : endpoints.channel? number with
  | none =>
      rw [updateChannel_of_none mailbox]
      exact fun _ => id
  | some channel =>
      have found := get?_of_channel? mailbox
      intro delivery member
      rw [updateChannel_of_channel? mailbox, contents_set] at member
      split at member
      next here =>
        rw [here, contents_of_get? found]
        exact less channel mailbox delivery member
      next => exact member

theorem Channel.messages_pop (channel : Channel Item)
    : channel.messages = (channel.pop.1.bind Item.message?).toList ++ channel.pop.2.messages := by
  unfold pop messages
  split
  next empty => simp [empty]
  next item queue found =>
    rw [found, List.filterMap_cons]
    cases item <;> rfl

theorem World.backend_take (world : World σ) (number : Nat)
    : (world.take number).2.backend = world.backend := by
  unfold take
  split <;> rfl

/-- What a client takes was in the mailbox, and what it leaves was there, too. -/
theorem World.contents_take (world : World σ) (number : Nat)
    : (∀ delivery, (world.take number).1 = some (.message delivery) →
          delivery ∈ world.endpoints.contents number)
      ∧ ∀ other, ∀ delivery ∈ (world.take number).2.endpoints.contents other,
          delivery ∈ world.endpoints.contents other := by
  unfold take
  cases mailbox : world.endpoints.channel? number with
  | none => exact ⟨nofun, fun _ _ => id⟩
  | some channel =>
      have popped := channel.messages_pop
      refine ⟨fun delivery taken => ?_, ?_⟩
      · rw [Endpoints.contents_of_get? (Endpoints.get?_of_channel? mailbox)]
        change delivery ∈ channel.messages
        change channel.pop.1 = some (.message delivery) at taken
        rw [popped, taken]
        exact List.mem_append_left _ (List.mem_singleton_self delivery)
      · refine Endpoints.contents_updateChannel_subset world.endpoints number ?_
        intro same again delivery member
        obtain rfl := Option.some.inj (mailbox.symm.trans again)
        rw [popped]
        exact List.mem_append_right _ member

/-- Every step keeps a world discreet in which nobody but a session sends a message, and in which
the rest of the service only ever adds messages, by cases on the step.
-/
theorem Occurs.discreet {services : Services σ} (memory : services.StoresIn view)
    {elsewhere : σ → σ → Prop} {world next : World σ} {event : Event}
    (adds : ∀ {before after}, elsewhere before after →
      ∀ message ∈ (view before).messages, message ∈ (view after).messages)
    (h : Discreet view world) (occurs : Occurs services elsewhere world event next)
    (nobody : ∀ recipient message, event ≠ .sent recipient message)
    : Discreet view next := by
  have tidy := occurs.tidy h.tidy
  cases occurs with
  | turn taken => exact h.turn memory taken
  | opened identity capacity reports => exact h.opened identity capacity reports
  | @fed number session found goesOn inbound =>
      rw [World.feed_eq found goesOn]
      exact h.setSession found _ rfl rfl rfl
  | inputEnded number =>
      unfold World.endInput
      split
      next session found => exact h.setSession found _ rfl rfl rfl
      next => exact h
  | took number =>
      exact h.lessens_of_same tidy (by rw [World.backend_take]; exact fun _ => id)
        (world.calm_take number).sessions fun _ => (world.contents_take number).2 _
  | closed number =>
      refine h.lessens_of_same tidy (fun _ => id) rfl fun _ => ?_
      exact Endpoints.contents_updateChannel_subset world.endpoints number
        (fun _ _ _ member => by cases member) _
  | placed endpoint =>
      refine h.lessens_of_same tidy (fun _ => id) rfl fun {number session} found => ?_
      have differ : number ≠ world.freshNumber := fun same => by
        rw [same, h.tidy.freshNumber_absent] at found
        cases found
      intro delivery member
      change delivery ∈ Endpoints.contents (world.endpoints.set _ _) number at member
      rwa [Endpoints.contents_set, if_neg differ] at member
  | @altered number old foreign there endpoint =>
      refine h.lessens_of_same tidy (fun _ => id) rfl fun {other session} found => ?_
      have differ : other ≠ number := fun same => by
        rw [same, foreign] at found
        cases found
      intro delivery member
      change delivery ∈ Endpoints.contents (world.endpoints.set _ _) other at member
      rwa [Endpoints.contents_set, if_neg differ] at member
  | connected => exact h.lessens_of_same tidy (fun _ => id) rfl fun _ _ => id
  | disconnected identity connection =>
      refine h.lessens_of_same tidy (fun _ => id) rfl fun _ delivery member => ?_
      rwa [World.endpoints, Exchange.outside_unregister] at member
  | sent recipient message => exact absurd rfl (nobody recipient message)
  | elsewhere used now => exact h.lessens_of_same tidy (adds used) rfl fun _ _ => id

end ChatServer.Live
