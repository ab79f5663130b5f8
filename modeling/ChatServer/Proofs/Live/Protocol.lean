import ChatServer.Proofs.Live.Turns

/-! The protocol of a session, and that every run of a session follows it. The protocol is a fold
over the requests, each with the answers that its calls get; a run makes the calls of the protocol
one after the other, whatever happens between its turns.
-/

namespace ChatServer.Live

-----------------------------------------------------------------------------------------
-- The protocol
-----------------------------------------------------------------------------------------

/-- What a session does for a request, with the answer that it gets. -/
inductive Call where
  | asked (recipient : String) (answer : Completion (Except CollaboratorError Bool))
  | stored (sender recipient content : String)
    (answer : Completion (Except CollaboratorError Persisted))
  | acknowledged (message : Delivery)
  | sent (recipient : String) (message : Delivery) (answer : Except SendError Nat)

/-- Something that comes in, with the answers to the calls made for it. Answers to calls that are
not made are of no account.
-/
structure Served where
  item : Inbound
  known : Completion (Except CollaboratorError Bool)
  stored : Completion (Except CollaboratorError Persisted)
  sent : Except SendError Nat

/-- Is the item a request that is carried out, so that the session goes on? -/
def Served.isCarriedOut (served : Served) : Bool :=
  match served.item, served.known, served.stored with
  | .ok _, .returned (.ok true), .returned (.ok _) => true
  | _, _, _ => false

/-- The status of a session that a collaborator failed. -/
def collaboratorStatus : Status := ⟨.internal, "An internal error occurred"⟩

/-- The status of a session that wrote to somebody unknown. -/
def unknownRecipientStatus : Status := ⟨.notFound, "User not found"⟩

/-- The calls that a session of an identity makes, in order, and how it ends. -/
def protocol (identity : String) : List Served → List Call × Ending
  | [] => ([], .closed)
  | ⟨.error status, _, _, _⟩ :: _ => ([], .failed status)
  | ⟨.ok request, known, stored, sent⟩ :: rest =>
    let recipient := Identity.normalize request.recipient
    let ask := Call.asked recipient known
    let store := Call.stored identity recipient request.content stored
    match known, stored with
    | .returned (.ok true), .returned (.ok persisted) =>
      let message := World.deliveryOf identity request.content persisted
      let (calls, ending) := protocol identity rest
      (ask :: store :: .acknowledged message :: .sent recipient message sent :: calls, ending)
    | .returned (.ok true), .returned (.error _) => ([ask, store], .failed collaboratorStatus)
    | .returned (.ok true), .brokenOff => ([ask, store], .brokenOff)
    | .returned (.ok false), _ => ([ask], .failed unknownRecipientStatus)
    | .returned (.error _), _ => ([ask], .failed collaboratorStatus)
    | .brokenOff, _ => ([ask], .brokenOff)

/-- A session ends well exactly if everything that came in was carried out. -/
theorem protocol_closed_iff {identity : String} {served : List Served}
    : (protocol identity served).2 = .closed ↔ ∀ one ∈ served, one.isCarriedOut = true := by
  induction served with
  | nil => simp [protocol]
  | cons one rest ih =>
      match one with
      | ⟨.error status, _, _, _⟩ => simp [protocol, Served.isCarriedOut]
      | ⟨.ok request, .returned (.ok true), .returned (.ok persisted), sent⟩ =>
          simp [protocol, Served.isCarriedOut, ih]
      | ⟨.ok request, .returned (.ok true), .returned (.error e), sent⟩ =>
          simp [protocol, Served.isCarriedOut]
      | ⟨.ok request, .returned (.ok true), .brokenOff, sent⟩ =>
          simp [protocol, Served.isCarriedOut]
      | ⟨.ok request, .returned (.ok false), stored, sent⟩ =>
          simp [protocol, Served.isCarriedOut]
      | ⟨.ok request, .returned (.error e), stored, sent⟩ =>
          simp [protocol, Served.isCarriedOut]
      | ⟨.ok request, .brokenOff, stored, sent⟩ => simp [protocol, Served.isCarriedOut]

-----------------------------------------------------------------------------------------
-- The calls of a turn
-----------------------------------------------------------------------------------------

namespace World

variable {σ : Type}

/-- What a call does to everything but the session that makes it. -/
def perform (services : Services σ) (number : Nat) (world : World σ) : Call → World σ
  | .asked recipient _ =>
    { world with backend := (services.directory.userExists recipient world.backend).2 }
  | .stored sender recipient content answer =>
    let (_, backend) :=
      services.messages.persist sender recipient content world.now world.backend
    let world := { world with backend }
    match answer with
    | .returned (.ok _) => world.updateMetrics (·.increment .messagesPersisted)
    | _ => world
  | .acknowledged message => world.updateChannel number (·.enqueue (.message message))
  | .sent recipient message _ =>
    { world with exchange := (world.exchange.sendTo endpointOps recipient message).2 }

/-- The call that the next turn of a session makes, if it makes one. -/
def callsOf (services : Services σ) (world : World σ) (number : Nat) : List Call :=
  match world.sessions.get? number with
  | none => []
  | some session =>
    match session.stage with
    | .checking request =>
      let recipient := Identity.normalize request.recipient
      [.asked recipient (services.directory.userExists recipient world.backend).1]
    | .storing request =>
      let recipient := Identity.normalize request.recipient
      [.stored session.identity recipient request.content
        (services.messages.persist session.identity recipient request.content world.now
          world.backend).1]
    | .acknowledging message _ => [.acknowledged message]
    | .spreading message recipient =>
      [.sent recipient message (world.exchange.sendTo endpointOps recipient message).1]
    | _ => []

/-- Everything after the call of the next turn of a session, but for the session itself. -/
def called (services : Services σ) (world : World σ) (number : Nat) : World σ :=
  (world.callsOf services number).foldl (perform services number) world

/-- Is a session not evicted, and its outbound open with room when it is about to acknowledge? -/
def isUnhindered (world : World σ) (number : Nat) : Bool :=
  match world.sessions.get? number, world.endpoints.channel? number with
  | some session, some channel =>
    !world.endpoints.isEvicted number && (!session.stage.isAcknowledging || channel.hasRoom)
  | _, _ => false

end World

/-- How a session goes on in a turn, with the calls of the turn. -/
inductive GoesOn (session : Session) : List Call → Session → Prop where
  | takes {request : Outgoing} {input : List Inbound} (stage : session.stage = .receiving)
    (first : session.input = .ok request :: input)
    : GoesOn session [] { session with input, stage := .checking request }
  | knows {request : Outgoing} (stage : session.stage = .checking request)
    : GoesOn session
        [.asked (Identity.normalize request.recipient) (.returned (.ok true))]
        { session with stage := .storing request }
  | stores {request : Outgoing} {persisted : Persisted}
    (stage : session.stage = .storing request)
    : GoesOn session
        [.stored session.identity (Identity.normalize request.recipient) request.content
          (.returned (.ok persisted))]
        { session with
          stage := .acknowledging (World.deliveryOf session.identity request.content persisted)
            (Identity.normalize request.recipient) }
  | acknowledges {message : Delivery} {recipient : String}
    (stage : session.stage = .acknowledging message recipient)
    : GoesOn session [.acknowledged message]
        { session with stage := .spreading message recipient }
  | spreads {message : Delivery} {recipient : String} {answer : Except SendError Nat}
    (stage : session.stage = .spreading message recipient)
    : GoesOn session [.sent recipient message answer] { session with stage := .receiving }

/-- How a session ends in a turn, with the calls of the turn. -/
inductive EndsWith (session : Session) : List Call → Ending → Prop where
  | inputEnds (stage : session.stage = .receiving) (none : session.input = [])
    (ended : session.inputEnded = true)
    : EndsWith session [] .closed
  | inputFails {status : Status} {input : List Inbound} (stage : session.stage = .receiving)
    (first : session.input = .error status :: input)
    : EndsWith session [] (.failed status)
  | unknown {request : Outgoing} (stage : session.stage = .checking request)
    : EndsWith session
        [.asked (Identity.normalize request.recipient) (.returned (.ok false))]
        (.failed unknownRecipientStatus)
  | directoryFails {request : Outgoing} {e : CollaboratorError}
    (stage : session.stage = .checking request)
    : EndsWith session
        [.asked (Identity.normalize request.recipient) (.returned (.error e))]
        (.failed collaboratorStatus)
  | directoryBreaks {request : Outgoing} (stage : session.stage = .checking request)
    : EndsWith session [.asked (Identity.normalize request.recipient) .brokenOff] .brokenOff
  | storeFails {request : Outgoing} {e : CollaboratorError}
    (stage : session.stage = .storing request)
    : EndsWith session
        [.stored session.identity (Identity.normalize request.recipient) request.content
          (.returned (.error e))]
        (.failed collaboratorStatus)
  | storeBreaks {request : Outgoing} (stage : session.stage = .storing request)
    : EndsWith session
        [.stored session.identity (Identity.normalize request.recipient) request.content
          .brokenOff]
        .brokenOff

namespace World

variable {σ : Type} {services : Services σ} {world next : World σ} {number : Nat}
  {session : Session}

/-- A turn of a session makes its call, and the session goes on or ends. -/
inductive Performed (services : Services σ) (world : World σ) (number : Nat) (session : Session)
    : World σ → Prop where
  | goesOn {session' : Session} (how : GoesOn session (world.callsOf services number) session')
    : Performed services world number session
        ((world.called services number).setSession number session')
  | ends {input : List Inbound} {ending : Ending}
    (how : EndsWith session (world.callsOf services number) ending)
    (shorter : input.length ≤ session.input.length)
    : Performed services world number session
        ((world.called services number).finish number { session with input } ending)

theorem Performed.goesOn_of {calls : List Call} {session' : Session}
    (made : world.callsOf services number = calls) (how : GoesOn session calls session')
    (same : next = (calls.foldl (perform services number) world).setSession number session')
    : Performed services world number session next := by
  subst made same
  exact .goesOn how

theorem Performed.ends_of (input : List Inbound) {calls : List Call} {ending : Ending}
    (made : world.callsOf services number = calls) (how : EndsWith session calls ending)
    (shorter : input.length ≤ session.input.length)
    (same : next
      = (calls.foldl (perform services number) world).finish number { session with input } ending)
    : Performed services world number session next := by
  subst made same
  exact .ends how shorter

/-- Asking goes on or ends the session as the answer says. -/
theorem check_performed (found : world.sessions.get? number = some session) {request : Outgoing}
    (stage : session.stage = .checking request)
    : Performed services world number session (world.check services number session request) := by
  rcases answered : services.directory.userExists (Identity.normalize request.recipient)
    world.backend with ⟨answer, backend⟩
  have made : world.callsOf services number
      = [.asked (Identity.normalize request.recipient) answer] := by
    simp only [callsOf, found, stage, answered]
  have after : [Call.asked (Identity.normalize request.recipient) answer].foldl
      (perform services number) world = { world with backend } := by
    simp only [List.foldl_cons, List.foldl_nil, perform, answered]
  rw [check, answered]
  rcases answer with (e | (_ | _)) | _
  · exact .ends_of session.input made (.directoryFails stage) (Nat.le_refl _) (by rw [after]; rfl)
  · exact .ends_of session.input made (.unknown stage) (Nat.le_refl _) (by rw [after]; rfl)
  · exact .goesOn_of made (.knows stage) (by rw [after]; rfl)
  · exact .ends_of session.input made (.directoryBreaks stage) (Nat.le_refl _) (by rw [after])

/-- Storing goes on or ends the session as the answer says. -/
theorem store_performed (found : world.sessions.get? number = some session) {request : Outgoing}
    (stage : session.stage = .storing request)
    : Performed services world number session (world.store services number session request) := by
  rcases answered : services.messages.persist session.identity
    (Identity.normalize request.recipient) request.content world.now world.backend with
    ⟨answer, backend⟩
  have made : world.callsOf services number
      = [.stored session.identity (Identity.normalize request.recipient) request.content
          answer] := by
    simp only [callsOf, found, stage, answered]
  rw [store, answered]
  rcases answer with (e | persisted) | _
  · refine .ends_of session.input made (.storeFails stage) (Nat.le_refl _) ?_
    simp only [List.foldl_cons, List.foldl_nil, perform, answered]
    rfl
  · refine .goesOn_of made (.stores stage) ?_
    simp only [List.foldl_cons, List.foldl_nil, perform, answered]
    rfl
  · refine .ends_of session.input made (.storeBreaks stage) (Nat.le_refl _) ?_
    simp only [List.foldl_cons, List.foldl_nil, perform, answered]

/-- A session that goes on to another stage and spreads its message sends it, and is then put in
its place.
-/
theorem spread_enter (stage : Stage) (recipient : String) (message : Delivery)
    : (world.enter number session stage).spread recipient message
      = setSession
          { world with exchange := (world.exchange.sendTo endpointOps recipient message).2 }
          number { session with stage } :=
  rfl

/-- A turn of a running session that is not hindered makes the call that it says, and the session
goes on or ends. Nothing is hindered, so the session neither ends by eviction or by its outbound,
nor gets in line for room.
-/
theorem turn_performed (found : world.sessions.get? number = some session)
    (running : session.isRunning = true) (prompt : ∀ message recipient,
      session.stage ≠ .waiting message recipient)
    (free : world.isUnhindered number = true) (taken : world.turn services number = some next)
    : Performed services world number session next := by
  obtain ⟨session, channel, again, mailbox, turned⟩ := turned_of_turn taken
  obtain rfl := Option.some.inj (found.symm.trans again)
  simp only [isUnhindered, found, mailbox, Bool.and_eq_true, Bool.or_eq_true,
    Bool.not_eq_true'] at free
  -- Neither marked nor without room: this rules out every turn but those of the protocol.
  obtain ⟨kept, room⟩ := free
  cases turned with
  | evicted marked watching => rw [marked] at kept; cases kept
  | inputEnds stage none ended =>
      exact .ends_of session.input (by simp only [callsOf, found, stage])
        (.inputEnds stage none ended) (Nat.le_refl _) rfl
  | inputFails stage first =>
      exact .ends_of _ (by simp only [callsOf, found, stage]) (.inputFails stage first)
        (by simp [first]) rfl
  | takes stage first =>
      exact .goesOn_of (by simp only [callsOf, found, stage]) (.takes stage first) rfl
  | checks stage => exact check_performed found stage
  | stores stage => exact store_performed found stage
  | outboundCloses stage closed =>
      have blocked : channel.hasRoom = false := by simp [Channel.hasRoom, closed]
      simp [stage, blocked] at room
  | acknowledges stage room =>
      exact .goesOn_of (by simp only [callsOf, found, stage]) (.acknowledges stage) rfl
  | waits stage full => simp [stage, Stage.isAcknowledging, full] at room
  | fills stage => exact absurd stage (prompt _ _)
  | @spreads message recipient stage =>
      have made : world.callsOf services number
          = [.sent recipient message
              (world.exchange.sendTo endpointOps recipient message).1] := by
        simp only [callsOf, found, stage]
      exact .goesOn_of made (.spreads stage) (spread_enter .receiving recipient message)
  | reportCloses stage => simp [Session.isRunning, Session.ending?, stage] at running
  | reports stage => simp [Session.isRunning, Session.ending?, stage] at running

end World

-----------------------------------------------------------------------------------------
-- What is left of the protocol
-----------------------------------------------------------------------------------------

/-- What comes in, with answers that do not matter. -/
def unserved (items : List Inbound) : List Served :=
  items.map fun item => ⟨item, .brokenOff, .brokenOff, .error .notConnected⟩

@[simp] theorem item_unserved (items : List Inbound)
    : (unserved items).map Served.item = items := by
  simp [unserved, Function.comp_def]

/-- The plan is one that the protocol leaves to a session where it is, if `future` is still to
come in.
-/
def Remaining (session : Session) (future : List Inbound) (plan : List Call × Ending) : Prop :=
  match session.stage with
  | .receiving =>
    ∃ served, served.map Served.item = session.input ++ future
      ∧ protocol session.identity served = plan
  | .checking request =>
    ∃ known stored sent served, served.map Served.item = session.input ++ future
      ∧ protocol session.identity (⟨.ok request, known, stored, sent⟩ :: served) = plan
  | .storing request =>
    ∃ stored sent served, served.map Served.item = session.input ++ future
      ∧ protocol session.identity
          (⟨.ok request, .returned (.ok true), stored, sent⟩ :: served)
        = (.asked (Identity.normalize request.recipient) (.returned (.ok true)) :: plan.1, plan.2)
  | .acknowledging message recipient | .waiting message recipient =>
    ∃ sent served, served.map Served.item = session.input ++ future
      ∧ plan = (.acknowledged message :: .sent recipient message sent
          :: (protocol session.identity served).1, (protocol session.identity served).2)
  | .spreading message recipient =>
    ∃ sent served, served.map Served.item = session.input ++ future
      ∧ plan = (.sent recipient message sent :: (protocol session.identity served).1,
          (protocol session.identity served).2)
  | .reporting ending _ | .ended ending => plan = ([], ending)

/-- Something is always left, if only to have ended. -/
theorem Remaining.exists (session : Session) (future : List Inbound)
    : ∃ plan, Remaining session future plan := by
  have rest := item_unserved (session.input ++ future)
  unfold Remaining
  split
  · exact ⟨_, _, rest, rfl⟩
  · exact ⟨_, .brokenOff, .brokenOff, .error .notConnected, _, rest, rfl⟩
  · exact ⟨([.stored _ _ _ .brokenOff], .brokenOff), .brokenOff, .error .notConnected, _, rest, rfl⟩
  · exact ⟨_, .error .notConnected, _, rest, rfl⟩
  · exact ⟨_, .error .notConnected, _, rest, rfl⟩
  · exact ⟨_, .error .notConnected, _, rest, rfl⟩
  · exact ⟨_, rfl⟩
  · exact ⟨_, rfl⟩

/-- Going on takes the calls of the turn off what is left. -/
theorem GoesOn.remaining {session session' : Session} {calls : List Call}
    {future : List Inbound} {plan : List Call × Ending} (how : GoesOn session calls session')
    (left : Remaining session' future plan)
    : Remaining session future (calls ++ plan.1, plan.2) := by
  cases how with
  | takes stage first =>
      obtain ⟨known, stored, sent, served, items, rfl⟩ := left
      simp only [Remaining, stage, first]
      exact ⟨⟨_, known, stored, sent⟩ :: served, by simp [items], rfl⟩
  | knows stage =>
      obtain ⟨stored, sent, served, items, planned⟩ := left
      simp only [Remaining, stage]
      exact ⟨_, stored, sent, served, items, planned⟩
  | @stores request persisted stage =>
      obtain ⟨sent, served, items, rfl⟩ := left
      simp only [Remaining, stage]
      exact ⟨.returned (.ok persisted), sent, served, items, rfl⟩
  | acknowledges stage =>
      obtain ⟨sent, served, items, rfl⟩ := left
      simp only [Remaining, stage]
      exact ⟨sent, served, items, rfl⟩
  | spreads stage =>
      obtain ⟨served, items, rfl⟩ := left
      simp only [Remaining, stage]
      exact ⟨_, served, items, rfl⟩

/-- A session ends as the protocol has it, and nothing is left. -/
theorem EndsWith.remaining {session : Session} {calls : List Call} {ending : Ending}
    {future : List Inbound} (how : EndsWith session calls ending)
    (final : session.inputEnded = true → future = [])
    : Remaining session future (calls, ending) := by
  have rest := item_unserved (session.input ++ future)
  cases how with
  | inputEnds stage none ended =>
      simp only [Remaining, stage]
      exact ⟨[], by simp [none, final ended], rfl⟩
  | @inputFails status input stage first =>
      simp only [Remaining, stage]
      exact ⟨⟨.error status, .brokenOff, .brokenOff, .error .notConnected⟩
        :: unserved (input ++ future), by simp [first], rfl⟩
  | unknown stage =>
      simp only [Remaining, stage]
      exact ⟨.returned (.ok false), .brokenOff, .error .notConnected, _, rest, rfl⟩
  | @directoryFails request e stage =>
      simp only [Remaining, stage]
      exact ⟨.returned (.error e), .brokenOff, .error .notConnected, _, rest, rfl⟩
  | directoryBreaks stage =>
      simp only [Remaining, stage]
      exact ⟨.brokenOff, .brokenOff, .error .notConnected, _, rest, rfl⟩
  | @storeFails request e stage =>
      simp only [Remaining, stage]
      exact ⟨.returned (.error e), .error .notConnected, _, rest, rfl⟩
  | storeBreaks stage =>
      simp only [Remaining, stage]
      exact ⟨.brokenOff, .error .notConnected, _, rest, rfl⟩

/-- Going on uses up work. -/
theorem GoesOn.work_lt {session session' : Session} {calls : List Call}
    (how : GoesOn session calls session')
    : session'.work < session.work := by
  cases how with
  | takes stage first =>
      simp only [Session.work, stage, first, List.length_cons]
      omega
  | knows stage | stores stage | acknowledges stage | spreads stage =>
      simp only [Session.work, stage]
      omega

end ChatServer.Live
