import ChatServer.Proofs.Live.Bystanders
import ChatServer.Proofs.Live.Ledger
import Mathlib.Data.List.Nodup

/-! Messages stay in sequence. A session hands on the messages that it has acknowledged in the order
in which it acknowledged them, and a connection takes every one that is for its identity from its
registration on, until it is gone. So what a connection gets from a session is one block of what the
session has acknowledged for that identity, whatever else happens in between.
-/

namespace ChatServer.Live

-----------------------------------------------------------------------------------------
-- What a fan-out gives to one connection
-----------------------------------------------------------------------------------------

namespace Exchange

variable {κ ω : Type} {ops : SinkOps κ ω} {exchange : Exchange κ ω}

/-- How many attempts of a fan-out on a connection do not fail. -/
def timesAccepted (ops : SinkOps κ ω) (exchange : Exchange κ ω) (identity : String)
    (message : Delivery) (id : Nat) : Nat :=
  (exchange.attempts ops identity message).1.countP fun attempt =>
    attempt.id = id && !attempt.failed

/-- A connection of nobody or of another identity accepts nothing. -/
theorem timesAccepted_of_absent (h : exchange.registry.Coherent) {identity : String}
    (message : Delivery) {id : Nat} (absent : exchange.registry.sink? identity id = none)
    : exchange.timesAccepted ops identity message id = 0 := by
  apply List.countP_eq_zero.mpr
  intro attempt tried
  have differ : attempt.id ≠ id := fun same => by
    cases (same ▸ sink?_of_attempt h tried).symm.trans absent
  simp [differ]

/-- A connection of the identity accepts a message once, or its attempt fails. -/
theorem timesAccepted_of_sink? (h : exchange.registry.Coherent) {identity : String}
    (message : Delivery) {id : Nat} {sink : κ}
    (found : exchange.registry.sink? identity id = some sink)
    : exchange.timesAccepted ops identity message id
      = if id ∈ (exchange.failures ops identity message).map Attempt.id then 0 else 1 := by
  obtain ⟨attempt, tried, rfl, _⟩ := attempt_of_sink? ops message found
  have once := attempts_nodup ops h identity message
  have only : ∀ other ∈ (exchange.attempts ops identity message).1,
      other.id = attempt.id → other = attempt :=
    fun other member same => List.inj_on_of_nodup_map once member tried same
  by_cases failed : attempt.failed = true
  · have failing : attempt ∈ exchange.failures ops identity message :=
      List.mem_filter.mpr ⟨tried, failed⟩
    rw [if_pos (List.mem_map_of_mem failing)]
    apply List.countP_eq_zero.mpr
    intro other member
    by_cases same : other.id = attempt.id
    · simp [only other member same, failed]
    · simp [same]
  · have lasting : attempt.id ∉ (exchange.failures ops identity message).map Attempt.id := by
      intro listed
      obtain ⟨failure, among, same⟩ := List.mem_map.mp listed
      obtain ⟨member, failure⟩ := List.mem_filter.mp among
      exact failed (only _ member same ▸ failure)
    have counted : exchange.timesAccepted ops identity message attempt.id
        = ((exchange.attempts ops identity message).1.map Attempt.id).count attempt.id := by
      rw [List.count, List.countP_map]
      refine List.countP_congr fun other member => ?_
      by_cases same : other.id = attempt.id
      · simp [only other member same, failed]
      · simp [same]
    rw [if_neg lasting, counted]
    exact List.count_eq_one_of_mem once (List.mem_map_of_mem tried)

end Exchange

variable {σ : Type}

-----------------------------------------------------------------------------------------
-- What a record says
-----------------------------------------------------------------------------------------

/-- The recipient of the message that is in hand. -/
def Stage.recipient? : Stage → Option String
  | .acknowledging _ recipient | .waiting _ recipient | .spreading _ recipient => some recipient
  | _ => none

/-- The message that a session is about to deliver, with its recipient. -/
def World.spreading? (world : World σ) (number : Nat) : Option (Delivery × String) :=
  (world.sessions.get? number).bind (·.stage.spreading?)

/-- The message that a session is about to deliver to an identity, if there is one. -/
def World.underway (world : World σ) (number : Nat) (identity : String) : List Delivery :=
  match world.spreading? number with
  | some (message, recipient) =>
    if Identity.normalize recipient = Identity.normalize identity then [message] else []
  | none => []

namespace Entry

/-- What a session acknowledges in a step of what is for an identity. -/
def ackedTo (entry : Entry σ) (number : Nat) (identity : String) : List Delivery :=
  match (entry.before.sessions.get? number).bind (·.stage.recipient?) with
  | some recipient =>
    if Identity.normalize recipient = Identity.normalize identity then entry.acked number else []
  | none => []

/-- What a session sends to an identity in a step. -/
def sentTo (entry : Entry σ) (number : Nat) (identity : String) : List Delivery :=
  if entry.isTurnOf number then entry.before.underway number identity else []

/-- What a session delivers through a connection in a step, as often as it is accepted. -/
def deliveredThrough (entry : Entry σ) (number connection : Nat) : List Delivery :=
  if entry.isTurnOf number then
    match entry.before.spreading? number with
    | some (message, recipient) =>
      .replicate (entry.before.exchange.timesAccepted endpointOps recipient message connection)
        message
    | none => []
  else []

/-- A connection is registered under an identity in the step. -/
structure Registers (entry : Entry σ) (identity : String) (connection : Nat) : Prop where
  given : connection = entry.before.exchange.registry.next
  held : ∃ sink, entry.after.exchange.registry.sink? identity connection = some sink

end Entry

/-- All that a session has acknowledged of what is for an identity, in order. -/
def acksTo (number : Nat) (identity : String) (history : List (Entry σ)) : List Delivery :=
  history.flatMap (·.ackedTo number identity)

/-- All that a session has sent to an identity, in order. -/
def sentTo (number : Nat) (identity : String) (history : List (Entry σ)) : List Delivery :=
  history.flatMap (·.sentTo number identity)

/-- All that a session has delivered through a connection, in order. -/
def deliveredThrough (number connection : Nat) (history : List (Entry σ)) : List Delivery :=
  history.flatMap (·.deliveredThrough number connection)

-----------------------------------------------------------------------------------------
-- Acknowledged is sent, or underway
-----------------------------------------------------------------------------------------

section

variable {services : Services σ} {elsewhere : σ → σ → Prop} {start : σ} {world next : World σ}
  {number : Nat} {identity : String}

theorem World.underway_of_stage {session : Session}
    (found : world.sessions.get? number = some session)
    : world.underway number identity
      = match session.stage.spreading? with
        | some (message, recipient) =>
          if Identity.normalize recipient = Identity.normalize identity then [message] else []
        | none => [] := by
  rw [underway, spreading?, found, Option.bind_some]

theorem World.spreading?_eq_some {message : Delivery} {recipient : String}
    : world.spreading? number = some (message, recipient)
      ↔ ∃ session, world.sessions.get? number = some session
        ∧ session.stage = .spreading message recipient := by
  refine Option.bind_eq_some_iff.trans (exists_congr fun session => and_congr_right fun _ => ?_)
  cases session.stage <;> simp [Stage.spreading?]

theorem World.underway_of_apart {session : Session}
    (found : world.sessions.get? number = some session)
    (apart : session.stage.spreading? = none)
    : world.underway number identity = [] := by
  rw [underway_of_stage found, apart]

/-- In the turn of a session, what was underway is sent, and what is acknowledged is underway
afterwards; by cases on what the turn does for messages.
-/
theorem World.ackedTo_of_turn (h : Tidy world) (taken : world.turn services number = some next)
    (identity : String)
    : let entry : Entry σ := ⟨.turn number, world, next⟩
      entry.ackedTo number identity = next.underway number identity := by
  intro entry
  obtain ⟨session, _, found, _⟩ := turned_of_turn taken
  obtain ⟨session', there, relayed⟩ := relayed_of_turn h.coherent found taken
  have turns : entry.isTurnOf number = true := (entry.isTurnOf_iff number).mpr rfl
  have holds : (entry.before.sessions.get? number).bind (·.stage.recipient?)
      = session.stage.recipient? := by
    rw [show entry.before = world from rfl, found, Option.bind_some]
  have acknowledging : entry.isAcknowledging number = session.stage.isAcknowledging := by
    rw [Entry.isAcknowledging, show entry.before = world from rfl, found]
  rw [Entry.ackedTo, holds, Entry.acked, turns, acknowledging, Bool.true_and]
  cases relayed with
  | @acknowledges message recipient stage acknowledged contents =>
      have posted : entry.posted number = [message] := by
        rw [Entry.posted, show entry.after = next from rfl, contents, if_pos rfl]
        exact List.drop_left
      have both : session.stage.recipient? = some recipient
          ∧ session.stage.isAcknowledging = true := by
        rcases stage with stage | stage <;> rw [stage] <;> exact ⟨rfl, rfl⟩
      rw [both.1, both.2, if_pos rfl, posted, underway_of_stage there, acknowledged]
      rfl
  | spreads stage done spread =>
      rw [underway_of_apart there (done ▸ rfl), stage]
      exact ite_self _
  | aside before after contents =>
      have nothing : entry.posted number = [] := by
        rw [Entry.posted, show entry.after = next from rfl, contents]
        exact List.drop_length
      rw [underway_of_apart there after, nothing, ite_self]
      split
      next => exact ite_self _
      next => rfl

/-- A step that is no turn of a session leaves what it has underway. -/
theorem Occurs.underway_of_other (h : Tidy world) {event : Event}
    (occurs : Occurs services elsewhere world event next) (other : event ≠ .turn number)
    : next.underway number identity = world.underway number identity := by
  cases found : world.sessions.get? number with
  | some session =>
      obtain ⟨session', there, undisturbed⟩ := occurs.undisturbed h found other
      rw [World.underway_of_stage found, World.underway_of_stage there, undisturbed.stage]
  | none =>
      have before : world.underway number identity = [] := by
        rw [World.underway, World.spreading?, found]
        rfl
      rw [before]
      cases there : next.sessions.get? number with
      | none =>
          rw [World.underway, World.spreading?, there]
          rfl
      | some session =>
          have new := occurs.receiving_of_absent h found there
          exact World.underway_of_apart there (new ▸ rfl)

/-- What is underway and what is acknowledged in a step is what is sent in it and what is underway
afterwards.
-/
theorem Occurs.conserves (h : Tidy world) {event : Event}
    (occurs : Occurs services elsewhere world event next) (number : Nat) (identity : String)
    : let entry : Entry σ := ⟨event, world, next⟩
      world.underway number identity ++ entry.ackedTo number identity
        = entry.sentTo number identity ++ next.underway number identity := by
  intro entry
  by_cases own : event = .turn number
  · subst own
    have sends : entry.sentTo number identity = world.underway number identity := by
      rw [Entry.sentTo, (entry.isTurnOf_iff number).mpr rfl, if_pos rfl]
    cases occurs with
    | turn taken => rw [sends, World.ackedTo_of_turn h taken identity]
  · have idle : entry.isTurnOf number = false :=
      Bool.eq_false_iff.mpr fun turns => own ((entry.isTurnOf_iff number).mp turns)
    have silent : entry.ackedTo number identity = [] := by
      rw [Entry.ackedTo, Entry.acked, idle]
      split
      next => exact ite_self _
      next => rfl
    have sends : entry.sentTo number identity = [] := by
      rw [Entry.sentTo, idle]
      rfl
    rw [silent, sends, List.append_nil, List.nil_append]
    exact (occurs.underway_of_other h own).symm

/-- What a session has acknowledged for an identity it has sent, but for what is underway; by
induction on the record.
-/
theorem Chronicle.acksTo_eq {history : List (Entry σ)}
    (told : Chronicle services elsewhere start history world) (number : Nat) (identity : String)
    : acksTo number identity history
      = sentTo number identity history ++ world.underway number identity := by
  induction told with
  | start => rfl
  | @goesOn history world next event told occurs ih =>
      have step := occurs.conserves told.tidy number identity
      simp only [acksTo, sentTo, List.flatMap_append, List.flatMap_singleton] at ih step ⊢
      rw [ih, List.append_assoc, step, List.append_assoc]

-----------------------------------------------------------------------------------------
-- Sent is delivered, while the connection is there
-----------------------------------------------------------------------------------------

/-- How what has been delivered through a connection stands to what has been sent since it was
registered: it is all of it as long as the connection is there, and the first part of it afterwards.
-/
inductive InLine (world : World σ) (identity : String) (connection : Nat)
    (sent delivered : List Delivery) : Prop where
  | there {sink : Nat} (held : world.exchange.registry.sink? identity connection = some sink)
    (all : delivered = sent)
  | gone (given : connection < world.exchange.registry.next)
    (absent : connection ∉ world.exchange.registry.ids) (first : delivered <+: sent)

theorem Entry.deliveredThrough_of_absent {entry : Entry σ}
    (coherent : entry.before.exchange.registry.Coherent) {connection : Nat}
    (absent : connection ∉ entry.before.exchange.registry.ids) (number : Nat)
    : entry.deliveredThrough number connection = [] := by
  unfold Entry.deliveredThrough
  split
  next =>
    split
    next message recipient _ =>
      have nobody : entry.before.exchange.registry.sink? recipient connection = none := by
        cases held : entry.before.exchange.registry.sink? recipient connection with
        | none => rfl
        | some sink => exact absurd (coherent.mem_ids_iff.mpr ⟨recipient, sink, held⟩) absent
      rw [Exchange.timesAccepted_of_absent coherent message nobody]
      rfl
    next => rfl
  next => rfl

/-- What a session delivers through a connection is put behind what the sink at its end holds, if
no other connection leads there.
-/
theorem Entry.contents_eq_deliveredThrough {entry : Entry σ} (tidy : Tidy entry.before)
    (occurs : Occurs services elsewhere entry.before entry.event entry.after)
    (turns : entry.isTurnOf number = true) {message : Delivery} {recipient : String}
    (spreading : entry.before.spreading? number = some (message, recipient))
    {connection sink : Nat}
    (held : entry.before.exchange.registry.sink? identity connection = some sink)
    (sole : ∀ {other id}, entry.before.exchange.registry.sink? other id = some sink →
      id = connection)
    : entry.after.endpoints.contents sink
      = entry.before.endpoints.contents sink ++ entry.deliveredThrough number connection := by
  obtain ⟨event, before, after⟩ := entry
  obtain ⟨session, found, stage⟩ := World.spreading?_eq_some.mp spreading
  have taken : before.turn services number = some after := by
    obtain rfl := (Entry.isTurnOf_iff _ number).mp turns
    cases occurs with
    | turn taken => exact taken
  have coherent : (before.enter number session .receiving).exchange.registry.Coherent :=
    tidy.coherent
  have counted : (before.exchange.attempts endpointOps recipient message).1.countP
        (fun attempt => attempt.sink = sink && !attempt.failed)
      = before.exchange.timesAccepted endpointOps recipient message connection := by
    refine List.countP_congr fun attempt tried => ?_
    have reached := Exchange.sink?_of_attempt tidy.coherent tried
    have same : attempt.sink = sink ↔ attempt.id = connection := by
      constructor
      · rintro rfl
        exact sole reached
      · rintro rfl
        have alike := tidy.coherent.identity_unique reached held
        exact Option.some.inj (reached.symm.trans ((Registry.sink?_congr alike _ _).trans held))
    simp only [same]
  have delivers : (⟨event, before, after⟩ : Entry σ).deliveredThrough number connection
      = .replicate (before.exchange.timesAccepted endpointOps recipient message connection)
          message := by
    rw [Entry.deliveredThrough, turns, if_pos rfl, spreading]
  rw [delivers, ← counted]
  change after.endpoints.contents sink = _
  rw [World.turn_of_spreading found stage taken, World.endpoints_spread_eq coherent,
    Endpoints.contents_foldl_evicted]
  exact Endpoints.contents_deliverAll message _ before.endpoints sink

/-- A fan-out of a session through a connection that is there: the message is delivered, or the
connection is gone, or the message is for another identity.
-/
theorem Entry.inLine_of_spread (entry : Entry σ) (tidy : Tidy entry.before)
    (occurs : Occurs services elsewhere entry.before entry.event entry.after)
    (turns : entry.isTurnOf number = true) {message : Delivery} {recipient : String}
    (spreading : entry.before.spreading? number = some (message, recipient))
    (spread : entry.after.exchange.registry
      = (entry.before.spread recipient message).exchange.registry)
    {connection sink : Nat}
    (held : entry.before.exchange.registry.sink? identity connection = some sink)
    : InLine entry.after identity connection (entry.sentTo number identity)
        (entry.deliveredThrough number connection) := by
  have sends : entry.sentTo number identity
      = if Identity.normalize recipient = Identity.normalize identity then [message] else [] := by
    rw [Entry.sentTo, turns, if_pos rfl, World.underway, spreading]
  have delivers : entry.deliveredThrough number connection
      = .replicate (entry.before.exchange.timesAccepted endpointOps recipient message connection)
          message := by
    rw [Entry.deliveredThrough, turns, if_pos rfl, spreading]
  have after := World.sink?_spread tidy.coherent recipient message identity connection
  rw [← spread] at after
  rw [sends, delivers]
  by_cases same : Identity.normalize recipient = Identity.normalize identity
  · have target : entry.before.exchange.registry.sink? recipient connection = some sink :=
      (Registry.sink?_congr same _ _).trans held
    rw [if_pos same, Exchange.timesAccepted_of_sink? tidy.coherent message target]
    by_cases failing : connection
        ∈ (entry.before.exchange.failures endpointOps recipient message).map (·.id)
    · rw [if_pos ⟨same.symm, failing⟩] at after
      rw [if_pos failing]
      have given := Nat.lt_of_lt_of_le (tidy.coherent.lt_next held)
        (occurs.addsOneAtMost tidy).next
      rcases occurs.held_or_gone tidy held with still | absent
      · cases after.symm.trans still
      · exact .gone given absent List.nil_prefix
    · rw [if_neg (fun both => failing both.2)] at after
      rw [if_neg failing]
      exact .there (after.trans held) rfl
  · have nobody : entry.before.exchange.registry.sink? recipient connection = none := by
      cases other : entry.before.exchange.registry.sink? recipient connection with
      | none => rfl
      | some _ => exact absurd (tidy.coherent.identity_unique other held) same
    rw [if_neg fun both => same both.1.symm] at after
    rw [if_neg same, Exchange.timesAccepted_of_absent tidy.coherent message nobody]
    exact .there (after.trans held) rfl

/-- A connection that is there when nothing is sent in a step is there afterwards or gone. -/
theorem Occurs.inLine_of_silent (h : Tidy world) {event : Event}
    (occurs : Occurs services elsewhere world event next) {connection sink : Nat}
    (held : world.exchange.registry.sink? identity connection = some sink)
    : InLine next identity connection [] [] := by
  rcases occurs.held_or_gone h held with still | absent
  · exact .there still rfl
  · have given := Nat.lt_of_lt_of_le (h.coherent.lt_next held) (occurs.addsOneAtMost h).next
    exact .gone given absent List.nil_prefix

/-- What a step delivers through a connection that is there is what is sent in it, or the
connection is gone; by cases on whether the session delivers in it.
-/
theorem Occurs.inLine_of_held (h : Tidy world) {event : Event}
    (occurs : Occurs services elsewhere world event next) {connection sink : Nat}
    (held : world.exchange.registry.sink? identity connection = some sink) (number : Nat)
    : let entry : Entry σ := ⟨event, world, next⟩
      InLine next identity connection (entry.sentTo number identity)
        (entry.deliveredThrough number connection) := by
  intro entry
  have before : entry.before = world := rfl
  cases turns : entry.isTurnOf number with
  | false =>
      simp only [Entry.sentTo, Entry.deliveredThrough, turns, Bool.false_eq_true, if_false]
      exact occurs.inLine_of_silent h held
  | true =>
      cases spreading : world.spreading? number with
      | none =>
          simp only [Entry.sentTo, Entry.deliveredThrough, World.underway, before, spreading,
            ite_self]
          exact occurs.inLine_of_silent h held
      | some underway =>
          obtain ⟨message, recipient⟩ := underway
          obtain ⟨session, found, stage⟩ := World.spreading?_eq_some.mp spreading
          have taken : world.turn services number = some next := by
            obtain rfl := (entry.isTurnOf_iff number).mp turns
            cases occurs with
            | turn taken => exact taken
          have spread : next.exchange = (world.spread recipient message).exchange := by
            rw [World.turn_of_spreading found stage taken, World.exchange_spread,
              World.exchange_spread]
            rfl
          exact entry.inLine_of_spread h occurs turns spreading
            (congrArg Exchange.registry spread) held

/-- Every step keeps what is delivered in line with what is sent. -/
theorem Occurs.inLine (h : Tidy world) {event : Event}
    (occurs : Occurs services elsewhere world event next) {connection : Nat}
    {sent delivered : List Delivery} (inLine : InLine world identity connection sent delivered)
    (number : Nat)
    : let entry : Entry σ := ⟨event, world, next⟩
      InLine next identity connection (sent ++ entry.sentTo number identity)
        (delivered ++ entry.deliveredThrough number connection) := by
  intro entry
  cases inLine with
  | gone given absent first =>
      have nothing : entry.deliveredThrough number connection = [] :=
        Entry.deliveredThrough_of_absent h.coherent absent number
      rw [nothing, List.append_nil]
      exact .gone (Nat.lt_of_lt_of_le given (occurs.addsOneAtMost h).next)
        (occurs.gone h given absent) (first.trans (List.prefix_append _ _))
  | there held all =>
      subst all
      cases occurs.inLine_of_held h held number with
      | there still same => exact .there still (congrArg (delivered ++ ·) same)
      | gone given absent first =>
          exact .gone given absent ((List.prefix_append_right_inj _).mpr first)

/-- Nothing has been delivered through a connection that has not been registered yet, by induction
on the record.
-/
theorem Chronicle.nothing_delivered {history : List (Entry σ)}
    (told : Chronicle services elsewhere start history world) {connection : Nat}
    (ungiven : world.exchange.registry.next ≤ connection) (number : Nat)
    : deliveredThrough number connection history = [] := by
  induction told with
  | start => rfl
  | @goesOn history world next event told occurs ih =>
      have before := Nat.le_trans (occurs.addsOneAtMost told.tidy).next ungiven
      have absent : connection ∉ world.exchange.registry.ids := fun member =>
        Nat.lt_irrefl _ (Nat.lt_of_lt_of_le (told.tidy.coherent.below _ member) before)
      rw [deliveredThrough, List.flatMap_append, List.flatMap_singleton,
        Entry.deliveredThrough_of_absent told.tidy.coherent absent number, List.append_nil]
      exact ih before

/-- Every connection has been registered in a step of the record, by induction on the record. -/
theorem Chronicle.registered {history : List (Entry σ)}
    (told : Chronicle services elsewhere start history world) {connection sink : Nat}
    (held : world.exchange.registry.sink? identity connection = some sink)
    : ∃ past entry later,
        history = past ++ entry :: later ∧ entry.Registers identity connection := by
  induction told generalizing sink with
  | start => cases held
  | @goesOn history world next event told occurs ih =>
      rcases (occurs.addsOneAtMost told.tidy).sink? held with before | ⟨given, _⟩
      · obtain ⟨past, entry, later, rfl, registers⟩ := ih before
        refine ⟨past, entry, later ++ [⟨event, world, next⟩], ?_, registers⟩
        exact List.append_assoc past (entry :: later) _
      · exact ⟨history, ⟨event, world, next⟩, [], rfl, given, sink, held⟩

/-- The step in which a connection is registered is no turn of a session. -/
theorem Entry.Registers.isTurnOf_eq_false {entry : Entry σ} {connection : Nat}
    (registers : entry.Registers identity connection) (h : Tidy entry.before)
    (occurs : Occurs services elsewhere entry.before entry.event entry.after) (number : Nat)
    : entry.isTurnOf number = false := by
  apply Bool.eq_false_iff.mpr
  intro turns
  rw [(entry.isTurnOf_iff number).mp turns] at occurs
  cases occurs with
  | turn taken =>
      obtain ⟨_, _, _, step, _⟩ := World.shrinks_of_turn h.coherent taken
      obtain ⟨sink, held⟩ := registers.held
      have given := h.coherent.lt_next (step.sink? held)
      exact Nat.lt_irrefl _ (registers.given ▸ given)

/-- From its registration on, a connection gets what is sent to its identity, by induction on what
was recorded since.
-/
theorem Chronicle.inLine {past later : List (Entry σ)} {entry : Entry σ}
    (told : Chronicle services elsewhere start (past ++ entry :: later) world)
    {connection : Nat} (registers : entry.Registers identity connection) (number : Nat)
    : InLine world identity connection (sentTo number identity later)
        (deliveredThrough number connection later) := by
  obtain ⟨sink, held⟩ := registers.held
  let P (later : List (Entry σ)) (world : World σ) : Prop :=
    InLine world identity connection (sentTo number identity later)
      (deliveredThrough number connection later)
  have starts : P [] entry.after :=
    .there held (by simp only [sentTo, deliveredThrough, List.flatMap_nil])
  refine told.since starts ?_
  intro later world event next tidy occurs inLine
  have step := occurs.inLine tidy inLine number
  simpa only [P, sentTo, deliveredThrough, List.flatMap_append, List.flatMap_singleton] using step

-----------------------------------------------------------------------------------------
-- One block
-----------------------------------------------------------------------------------------

/-- What a connection has got from a session is one block of what the session has acknowledged for
the identity of the connection, in the same order and each message once. Before the block stands
what the session had sent when the connection was registered. Behind it stands nothing as long as
the connection is there, or the one message that the session is about to deliver.
-/
theorem delivered_in_sequence {past later : List (Entry σ)} {entry : Entry σ}
    (told : Chronicle services elsewhere start (past ++ entry :: later) world)
    {connection : Nat} (registers : entry.Registers identity connection) (number : Nat)
    : let history := past ++ entry :: later
      ∃ missed,
        acksTo number identity history
          = sentTo number identity past ++ deliveredThrough number connection history ++ missed
        ∧ (connection ∈ world.exchange.registry.ids →
          missed = []
          ∨ ∃ session message recipient,
            world.sessions.get? number = some session
            ∧ session.stage = .spreading message recipient
            ∧ missed = [message]) := by
  intro history
  obtain ⟨before, occurs⟩ := told.split
  have idle := registers.isTurnOf_eq_false before.tidy occurs number
  have sends : sentTo number identity history
      = sentTo number identity past ++ sentTo number identity later := by
    simp [history, sentTo, Entry.sentTo, idle]
  have delivers : deliveredThrough number connection history
      = deliveredThrough number connection later := by
    have early := before.nothing_delivered (Nat.le_of_eq registers.given.symm) number
    have now : entry.deliveredThrough number connection = [] := by
      simp only [Entry.deliveredThrough, idle, Bool.false_eq_true, if_false]
    rw [deliveredThrough] at early ⊢
    rw [List.flatMap_append, List.flatMap_cons, early, now]
    rfl
  rw [told.acksTo_eq number identity, sends, delivers]
  cases told.inLine registers number with
  | there held all =>
      refine ⟨world.underway number identity, by rw [all], fun _ => ?_⟩
      cases spreading : world.spreading? number with
      | none => exact .inl (by rw [World.underway, spreading])
      | some underway =>
          obtain ⟨message, recipient⟩ := underway
          obtain ⟨session, found, stage⟩ := World.spreading?_eq_some.mp spreading
          rw [World.underway, spreading]
          by_cases same : Identity.normalize recipient = Identity.normalize identity
          · exact .inr ⟨session, message, recipient, found, stage, if_pos same⟩
          · exact .inl (if_neg same)
  | gone given absent first =>
      obtain ⟨rest, split⟩ := first
      refine ⟨rest ++ world.underway number identity, ?_, fun member => absurd member absent⟩
      simp only [← split, List.append_assoc]

end

/-- Two messages for an identity, of which a connection gets the second: it was registered when the
first had been sent.
-/
theorem delivered_in_sequence_of_late_connection
    : let services : Services Backend := ⟨.fixed ["b@x"], .recording⟩
      ∃ past entry later world first second,
        Chronicle services (fun _ _ => False) {} (past ++ entry :: later) world
        ∧ entry.Registers "b@x" 2
        ∧ sentTo 1 "b@x" past = [first]
        ∧ deliveredThrough 1 2 (past ++ entry :: later) = [second]
        ∧ acksTo 1 "b@x" (past ++ entry :: later) = [first, second] := by
  intro services
  let fresh : World Backend := { backend := {}, now := ⟨0, 0⟩ }
  let opened := fresh.openSession 1 "a@x" 4 false
  let fed := opened.feed 1 [.ok ⟨"b@x", "one"⟩, .ok ⟨" B@X", "two"⟩]
  have told : Chronicle services (fun _ _ => False) {} _
      (fed.setEndpoints (fed.endpoints.set fed.freshNumber (.recorder []))) :=
    (((Chronicle.start ⟨0, 0⟩).goesOn (.opened "a@x" 4 false)).goesOn
      (.fed (World.get?_setSession _ 1 _) rfl _)).goesOn (.placed (.recorder []))
  -- It takes, asks, stores, acknowledges and delivers, once before and once after.
  have before := told.turns [1, 1, 1, 1, 1]
  generalize record : _ ++ World.recordOf _ _ _ = past at before
  generalize last : World.afterTurns _ _ _ = sent at before
  have foreign : sent.sessions.get? 2 = none := by
    rw [← last]
    decide +kernel
  have there : (sent.endpoints.get? 2).isSome = true := by
    rw [← last]
    decide +kernel
  have given : sent.exchange.registry.next = 2 := by
    rw [← last]
    decide +kernel
  obtain ⟨_, there⟩ := Option.isSome_iff_exists.mp there
  let entry : Entry Backend :=
    ⟨.other, sent, { sent with exchange := (sent.exchange.register "B@x" 2).2 }⟩
  let later := entry.after.recordOf services [1, 1, 1, 1, 1]
  have after : Chronicle services (fun _ _ => False) {} (past ++ entry :: later)
      (entry.after.afterTurns services [1, 1, 1, 1, 1]) := by
    have whole := (before.goesOn (.connected foreign there "B@x")).turns [1, 1, 1, 1, 1]
    rwa [List.append_assoc, List.singleton_append] at whole
  have registers : entry.Registers "b@x" 2 := by
    refine ⟨given.symm, 2, (Registry.sink?_register _ _ _ _ _).trans (if_pos ⟨?_, given.symm⟩)⟩
    decide +kernel
  obtain ⟨missed, block, _⟩ := delivered_in_sequence after registers 1
  have lengths : (sentTo 1 "b@x" past).length = 1
      ∧ (deliveredThrough 1 2 (past ++ entry :: later)).length = 1
      ∧ (acksTo 1 "b@x" (past ++ entry :: later)).length = 2 := by
    simp only [entry, later]
    rw [← record, ← last]
    decide +kernel
  obtain ⟨one, other, both⟩ := lengths
  obtain ⟨first, sent⟩ := List.length_eq_one_iff.mp one
  obtain ⟨second, delivered⟩ := List.length_eq_one_iff.mp other
  rw [sent, delivered] at block
  have nothing : missed = [] := by
    rw [block] at both
    simpa using both
  exact ⟨past, entry, later, _, first, second, after, registers, sent, delivered,
    by rw [block, nothing]; rfl⟩

end ChatServer.Live
