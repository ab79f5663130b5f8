import ChatServer.Proofs.Live.Mailboxes
import ChatServer.Live.Session

/-! What a turn can do. Every turn of a session comes to one of a few things, and a session that
may go on has a turn, so whatever is to be shown of all turns is shown of these.
-/

namespace ChatServer.Live

/-- Does a session watch for its eviction where it is? -/
def Stage.isWatchful : Stage → Bool
  | .receiving | .acknowledging _ _ | .waiting _ _ => true
  | _ => false

/-- Is a message about to be acknowledged? -/
def Stage.isAcknowledging : Stage → Bool
  | .acknowledging _ _ | .waiting _ _ => true
  | _ => false

/-- Has a session ended in some way where it is? -/
def Stage.HasEnded (stage : Stage) (ending : Ending) : Prop :=
  stage = .ended ending ∨ ∃ status, stage = .reporting ending status

/-- A session that has ended has no more left to do than a report. -/
theorem Session.work_of_hasEnded {stage : Stage} {ending : Ending} (ended : stage.HasEnded ending)
    (session : Session)
    : Session.work { session with stage } ≤ 6 * session.input.length + 1 := by
  rcases ended with rfl | ⟨status, rfl⟩ <;> simp [Session.work]

theorem Session.work_of_running {session : Session} (running : session.isRunning = true)
    : 6 * session.input.length + 2 ≤ session.work := by
  cases stage : session.stage <;>
    simp_all [Session.isRunning, Session.ending?, Session.work]

namespace World

variable {σ : Type}

theorem get?_setSession (world : World σ) (number : Nat) (session : Session)
    : (world.setSession number session).sessions.get? number = some session := by
  rw [setSession, Table.get?_set, if_pos rfl]

/-- What a turn of a session with its channel can come to, and when it does. -/
inductive Turned (services : Services σ) (world : World σ) (number : Nat) (session : Session)
    (channel : Channel Item) : World σ → Prop where
  | evicted (marked : world.endpoints.isEvicted number = true)
    (watching : session.stage.isWatchful = true)
    : Turned services world number session channel (world.fail number session .evicted)
  | inputEnds (stage : session.stage = .receiving) (none : session.input = [])
    (ended : session.inputEnded = true)
    : Turned services world number session channel (world.finish number session .closed)
  | inputFails {status : Status} {input : List Inbound} (stage : session.stage = .receiving)
    (first : session.input = .error status :: input)
    : Turned services world number session channel
        (world.finish number { session with input } (.failed status))
  | takes {request : Outgoing} {input : List Inbound} (stage : session.stage = .receiving)
    (first : session.input = .ok request :: input)
    : Turned services world number session channel
        (world.enter number { session with input } (.checking request))
  | checks {request : Outgoing} (stage : session.stage = .checking request)
    : Turned services world number session channel (world.check services number session request)
  | stores {request : Outgoing} (stage : session.stage = .storing request)
    : Turned services world number session channel (world.store services number session request)
  | outboundCloses (stage : session.stage.isAcknowledging = true)
    (closed : channel.isOpen = false)
    : Turned services world number session channel
        (world.fail number session (.transport "sender stream closed"))
  | acknowledges {message : Delivery} {recipient : String}
    (stage : session.stage = .acknowledging message recipient) (room : channel.hasRoom = true)
    : Turned services world number session channel
        ((world.updateChannel number (·.enqueue (.message message))).enter number session
          (.spreading message recipient))
  | waits {message : Delivery} {recipient : String}
    (stage : session.stage = .acknowledging message recipient) (full : channel.hasRoom = false)
    : Turned services world number session channel
        ((world.updateChannel number Channel.await).enter number session
          (.waiting message recipient))
  | fills {message : Delivery} {recipient : String}
    (stage : session.stage = .waiting message recipient)
    : Turned services world number session channel
        (world.fillPlace number (.message message) session (.spreading message recipient))
  | spreads {message : Delivery} {recipient : String}
    (stage : session.stage = .spreading message recipient)
    : Turned services world number session channel
        ((world.enter number session .receiving).spread recipient message)
  | reportCloses {ending : Ending} {status : Status}
    (stage : session.stage = .reporting ending status)
    : Turned services world number session channel (world.enter number session (.ended ending))
  | reports {ending : Ending} {status : Status}
    (stage : session.stage = .reporting ending status)
    : Turned services world number session channel
        (world.fillPlace number (.failure status) session (.ended ending))

/-- A turn is one of those that there are, by cases on where the session is. -/
theorem turned_of_turn {services : Services σ} {world next : World σ} {number : Nat}
    (taken : world.turn services number = some next)
    : ∃ session channel,
        world.sessions.get? number = some session
        ∧ world.endpoints.channel? number = some channel
        ∧ Turned services world number session channel next := by
  obtain ⟨session, found, taken⟩ := Option.bind_eq_some_iff.mp taken
  obtain ⟨channel, mailbox, taken⟩ := Option.bind_eq_some_iff.mp taken
  refine ⟨session, channel, found, mailbox, ?_⟩
  simp only at taken
  split at taken
  next stage =>
    split at taken
    next marked =>
      obtain rfl := Option.some.inj taken
      exact .evicted marked (by rw [stage]; rfl)
    next =>
      unfold receive at taken
      split at taken
      next none =>
        split at taken
        next ended =>
          obtain rfl := Option.some.inj taken
          exact .inputEnds stage none ended
        next => cases taken
      next first =>
        obtain rfl := Option.some.inj taken
        exact .inputFails stage first
      next first =>
        obtain rfl := Option.some.inj taken
        exact .takes stage first
  next stage =>
    obtain rfl := Option.some.inj taken
    exact .checks stage
  next stage =>
    obtain rfl := Option.some.inj taken
    exact .stores stage
  next stage =>
    split at taken
    next marked =>
      obtain rfl := Option.some.inj taken
      exact .evicted marked (by rw [stage]; rfl)
    next =>
      obtain rfl := Option.some.inj taken
      unfold acknowledge
      split
      next closed => exact .outboundCloses (by rw [stage]; rfl) (by simpa using closed)
      next =>
        split
        next room => exact .acknowledges stage room
        next full => exact .waits stage (by simpa using full)
  next stage =>
    split at taken
    next marked =>
      obtain rfl := Option.some.inj taken
      exact .evicted marked (by rw [stage]; rfl)
    next =>
      split at taken
      next closed =>
        obtain rfl := Option.some.inj taken
        exact .outboundCloses (by rw [stage]; rfl) (by simpa using closed)
      next =>
        split at taken
        next =>
          obtain rfl := Option.some.inj taken
          exact .fills stage
        next => cases taken
  next stage =>
    obtain rfl := Option.some.inj taken
    exact .spreads stage
  next stage =>
    split at taken
    next =>
      obtain rfl := Option.some.inj taken
      exact .reportCloses stage
    next =>
      split at taken
      next =>
        obtain rfl := Option.some.inj taken
        exact .reports stage
      next => cases taken
  next => cases taken

/-- A running session with a mailbox that cannot take a turn is not evicted, and waits either for
something to come in or for room.
-/
theorem rest_of_turn_none {services : Services σ} {world : World σ} {number : Nat}
    {session : Session} {channel : Channel Item}
    (found : world.sessions.get? number = some session)
    (mailbox : world.endpoints.channel? number = some channel)
    (running : session.isRunning = true) (none : world.turn services number = none)
    : world.endpoints.isEvicted number = false
      ∧ ((session.stage = .receiving ∧ session.input = [] ∧ session.inputEnded = false)
        ∨ ∃ message recipient, session.stage = .waiting message recipient) := by
  simp only [turn, found, mailbox, Option.bind_eq_bind, Option.bind_some] at none
  cases stage : session.stage with
  | receiving =>
      simp only [stage] at none
      split at none
      next => cases none
      next kept =>
        refine ⟨by simpa using kept, .inl ⟨rfl, ?_⟩⟩
        unfold receive at none
        split at none
        next nothing =>
          split at none
          next => cases none
          next unended => exact ⟨nothing, by simpa using unended⟩
        next => cases none
        next => cases none
  | checking request => simp [stage] at none
  | storing request => simp [stage] at none
  | acknowledging message recipient =>
      simp only [stage] at none
      split at none <;> cases none
  | waiting message recipient =>
      simp only [stage] at none
      split at none
      next => cases none
      next kept => exact ⟨by simpa using kept, .inr ⟨message, recipient, rfl⟩⟩
  | spreading message recipient => simp [stage] at none
  | reporting ending status => simp [Session.isRunning, Session.ending?, stage] at running
  | ended ending => simp [Session.isRunning, Session.ending?, stage] at running

-----------------------------------------------------------------------------------------
-- Ending
-----------------------------------------------------------------------------------------

/-- No connection, session or mark of eviction has changed, and mailboxes are still mailboxes. -/
structure Calm (before after : World σ) : Prop where
  registry : after.exchange.registry = before.exchange.registry
  sessions : after.sessions = before.sessions
  alike : Endpoints.Alike before.endpoints after.endpoints
  marks : ∀ number, after.endpoints.isEvicted number = before.endpoints.isEvicted number

theorem Calm.refl (world : World σ) : Calm world world :=
  ⟨rfl, rfl, .refl world.endpoints, fun _ => rfl⟩

theorem Calm.trans {before between after : World σ} (first : Calm before between)
    (second : Calm between after)
    : Calm before after where
  registry := second.registry.trans first.registry
  sessions := second.sessions.trans first.sessions
  alike := first.alike.trans second.alike
  marks number := (second.marks number).trans (first.marks number)

theorem Calm.updateChannel (world : World σ) (number : Nat)
    (change : Channel Item → Channel Item)
    : Calm world (world.updateChannel number change) where
  registry := rfl
  sessions := rfl
  alike := .updateChannel world.endpoints number change
  marks other := Endpoints.isEvicted_updateChannel world.endpoints number other change

/-- Reporting puts a session that has ended in its place, and is calm otherwise. -/
theorem report_eq (world : World σ) (number : Nat) (session : Session) (ending : Ending)
    (status : Status)
    : ∃ base stage,
        Calm world base
        ∧ Stage.HasEnded stage ending
        ∧ world.report number session ending status
          = base.setSession number { session with stage } := by
  unfold report
  split
  next channel mailbox =>
    split
    next => exact ⟨world, _, .refl world, .inl rfl, rfl⟩
    next =>
      split
      next => exact ⟨_, _, .updateChannel world number _, .inl rfl, rfl⟩
      next => exact ⟨_, _, .updateChannel world number _, .inr ⟨status, rfl⟩, rfl⟩
  next => exact ⟨world, _, .refl world, .inl rfl, rfl⟩

/-- The world with its registry replaced. -/
def setRegistry (world : World σ) (registry : Registry Nat) : World σ :=
  { world with exchange := { world.exchange with registry } }

theorem Calm.setRegistry {before after : World σ} (calm : Calm before after)
    (registry : Registry Nat)
    : Calm (before.setRegistry registry) (after.setRegistry registry) where
  registry := rfl
  sessions := calm.sessions
  alike := calm.alike
  marks := calm.marks

/-- Unregistering a connection only changes the registry, but for metrics. -/
theorem Calm.unregister (world : World σ) (identity : String) (id : Nat)
    : Calm (world.setRegistry (world.exchange.registry.unregister identity id).2)
        { world with exchange := (world.exchange.unregister identity id).2 } := by
  have outside := Exchange.outside_unregister world.exchange identity id
  refine ⟨Exchange.registry_unregister world.exchange identity id, rfl, ?_, fun number => ?_⟩
  · rw [endpoints, endpoints, outside]
    exact .refl world.endpoints
  · rw [endpoints, endpoints, outside]
    rfl

/-- Ending a session removes its connection, puts the ended session in its place, and is calm
otherwise.
-/
theorem finish_eq (world : World σ) (number : Nat) (session : Session) (ending : Ending)
    : ∃ base stage,
        Calm (world.setRegistry
          (world.exchange.registry.unregister session.identity session.connection).2) base
        ∧ Stage.HasEnded stage ending
        ∧ world.finish number session ending
          = base.setSession number { session with stage } := by
  let counted := (world.updateMetrics (countEnding ending)).updateChannel number Channel.withdraw
  let removed : World σ := { counted with
    exchange := (counted.exchange.unregister session.identity session.connection).2 }
  have calm : Calm (world.setRegistry
      (world.exchange.registry.unregister session.identity session.connection).2) removed := by
    have withdrawn : Calm (world.updateMetrics (countEnding ending)) counted :=
      .updateChannel _ number Channel.withdraw
    have counting : Calm world (world.updateMetrics (countEnding ending)) :=
      ⟨rfl, rfl, .refl world.endpoints, fun _ => rfl⟩
    exact ((counting.trans withdrawn).setRegistry _).trans
      (.unregister counted session.identity session.connection)
  -- The client gets to know the status if there is one and it is to.
  have reports : ∀ status, session.reports = true → ending.status? = some status →
      world.finish number session ending = removed.report number session ending status := by
    intro status wanted given
    simp only [finish, wanted, given]
    rfl
  have silent : session.reports = false ∨ ending.status? = none →
      world.finish number session ending
        = removed.setSession number { session with stage := .ended ending } := by
    rintro (silent | nothing)
    · simp only [finish, silent]
      rfl
    · simp only [finish, nothing]
      cases session.reports <;> rfl
  rcases Bool.eq_false_or_eq_true session.reports with wanted | unwanted
  · cases given : ending.status? with
    | none => exact ⟨removed, _, calm, .inl rfl, silent (.inr given)⟩
    | some status =>
        obtain ⟨base, stage, later, ended, reported⟩ :=
          report_eq removed number session ending status
        exact ⟨base, stage, calm.trans later, ended, (reports status wanted given).trans reported⟩
  · exact ⟨removed, _, calm, .inl rfl, silent (.inl unwanted)⟩

-----------------------------------------------------------------------------------------
-- What turns do to connections
-----------------------------------------------------------------------------------------

/-- The world after a turn, as far as connections go: the session is replaced and nothing else
happens, or it ends and its connection is removed, or its message is delivered to others.
-/
inductive Outcome (world : World σ) (number : Nat) (session : Session) : World σ → Prop where
  | stays {base : World σ} {session' : Session} (calm : Calm world base)
    (identity : session'.identity = session.identity)
    (connection : session'.connection = session.connection)
    (running : session'.isRunning = session.isRunning) (less : session'.work < session.work)
    : Outcome world number session (base.setSession number session')
  | ends {base : World σ} {input : List Inbound} {stage : Stage} {ending : Ending}
    (running : session.isRunning = true) (shorter : input.length ≤ session.input.length)
    (calm : Calm (world.setRegistry
      (world.exchange.registry.unregister session.identity session.connection).2) base)
    (ended : stage.HasEnded ending)
    : Outcome world number session (base.setSession number { session with input, stage })
  | spreads {recipient : String} {message : Delivery} (running : session.isRunning = true)
    (less : Session.work { session with stage := .receiving } < session.work)
    : Outcome world number session
        ((world.setSession number { session with stage := .receiving }).spread recipient message)

/-- Ending a running session is one of the outcomes, also when something calm comes first. -/
theorem Outcome.finish {world before : World σ} {number : Nat} {session : Session}
    (running : session.isRunning = true) (calm : Calm world before) {input : List Inbound}
    (shorter : input.length ≤ session.input.length) (ending : Ending)
    : Outcome world number session (before.finish number { session with input } ending) := by
  obtain ⟨base, stage, later, ended, same⟩ :=
    finish_eq before number { session with input } ending
  rw [same]
  rw [calm.registry] at later
  exact .ends running shorter ((calm.setRegistry _).trans later) ended

/-- Every turn has one of the outcomes, by cases on what it comes to. -/
theorem Turned.outcome {services : Services σ} {world next : World σ} {number : Nat}
    {session : Session} {channel : Channel Item}
    (turned : Turned services world number session channel next)
    : Outcome world number session next := by
  -- Only the reports are turns of a session that has ended.
  have running {stage : Stage} (there : session.stage = stage)
      (goes : ({ session with stage } : Session).isRunning = true)
      : session.isRunning = true := by
    rw [Session.isRunning, Session.ending?, there]
    exact goes
  have whole : session.input.length ≤ session.input.length := Nat.le_refl _
  cases turned with
  | evicted _ watching =>
      refine .finish ?_ (.refl world) whole _
      cases stage : session.stage <;>
        simp_all [Session.isRunning, Session.ending?, Stage.isWatchful]
  | inputEnds stage _ _ => exact .finish (running stage rfl) (.refl world) whole _
  | inputFails stage first =>
      exact .finish (running stage rfl) (.refl world) (by simp [first]) _
  | takes stage first =>
      refine .stays (.refl world) rfl rfl (running stage rfl).symm ?_
      simp only [Session.work, stage, first, List.length_cons]
      omega
  | @checks request stage =>
      unfold check
      rcases services.directory.userExists (Identity.normalize request.recipient) world.backend
        with ⟨known, backend⟩
      have calm : Calm world { world with backend } := ⟨rfl, rfl, .refl _, fun _ => rfl⟩
      rcases known with (e | (_ | _)) | _
      · exact .finish (running stage rfl) calm whole _
      · exact .finish (running stage rfl) calm whole _
      · exact .stays calm rfl rfl (running stage rfl).symm (by simp [Session.work, stage])
      · exact .finish (running stage rfl) calm whole _
  | @stores request stage =>
      rcases answered : services.messages.persist session.identity
        (Identity.normalize request.recipient) request.content world.now world.backend with
        ⟨stored, backend⟩
      rw [store, answered]
      have calm : Calm world { world with backend } := ⟨rfl, rfl, .refl _, fun _ => rfl⟩
      rcases stored with (e | persisted) | _
      · exact .finish (running stage rfl) calm whole _
      · have counted : Calm world (({ world with backend } : World σ).updateMetrics
            (·.increment .messagesPersisted)) := ⟨rfl, rfl, .refl _, fun _ => rfl⟩
        exact .stays counted rfl rfl (running stage rfl).symm (by simp [Session.work, stage])
      · exact .finish (running stage rfl) calm whole _
  | outboundCloses acknowledging _ =>
      refine .finish ?_ (.refl world) whole _
      cases stage : session.stage <;>
        simp_all [Session.isRunning, Session.ending?, Stage.isAcknowledging]
  | acknowledges stage _ | waits stage _ | fills stage =>
      refine .stays (.updateChannel world number _) rfl rfl (running stage rfl).symm ?_
      simp [Session.work, stage]
  | spreads stage => exact .spreads (running stage rfl) (by simp [Session.work, stage])
  | reportCloses stage =>
      refine .stays (.refl world) rfl rfl ?_ ?_
      · simp [Session.isRunning, Session.ending?, stage]
      · simp [Session.work, stage]
  | reports stage =>
      refine .stays (.updateChannel world number _) rfl rfl ?_ ?_
      · simp [Session.isRunning, Session.ending?, stage]
      · simp [Session.work, stage]

end World

end ChatServer.Live
