import ChatServer.Live.Scene
import ChatServer.Proofs.Live.Traffic

/-! The courses of sessions. A turn is a course that is followed to its end at once, and a course
comes to one of three things: the session goes on by itself, or it begins to deliver a message, or
it begins to end.
-/

namespace ChatServer.Live

variable {σ : Type} {services : Services σ} {world : World σ} {number : Nat} {session : Session}
  {channel : Channel Item}

-----------------------------------------------------------------------------------------
-- Turns are courses
-----------------------------------------------------------------------------------------

namespace World

/-- Asking whether a recipient exists is a course that is followed at once, by cases on the answer.
-/
theorem check_eq (services : Services σ) (world : World σ) (number : Nat) (session : Session)
    (request : Outgoing)
    : world.check services number session request
      = (world.checking services number session request).conclude number := by
  rcases asked : services.directory.userExists (Identity.normalize request.recipient)
    world.backend with ⟨known, backend⟩
  rw [check, checking, asked]
  rcases known with (e | (_ | _)) | _ <;> rfl

theorem store_eq (services : Services σ) (world : World σ) (number : Nat) (session : Session)
    (request : Outgoing)
    : world.store services number session request
      = (world.storing services number session request).conclude number := by
  rcases answered : services.messages.persist session.identity
    (Identity.normalize request.recipient) request.content world.now world.backend with
    ⟨stored, backend⟩
  rw [store, storing, answered]
  rcases stored with (e | persisted) | _ <;> rfl

/-- A turn is the course of a session that looks for its mark right before, followed to its end; by
cases on where the session is.
-/
theorem turn_eq_course (services : Services σ) (world : World σ) (number : Nat)
    : world.turn services number
      = (world.course services number (world.endpoints.isEvicted number)).map
          (Course.conclude number) := by
  unfold turn course
  cases world.sessions.get? number with
  | none => rfl
  | some session =>
      cases world.endpoints.channel? number with
      | none => rfl
      | some channel =>
          simp only [Option.bind_eq_bind, Option.bind_some]
          cases session.stage with
          | receiving =>
              simp only [receive]
              split
              next => rfl
              next =>
                rcases session.input with _ | ⟨_ | _, _⟩
                · cases session.inputEnded <;> rfl
                · rfl
                · rfl
          | checking request => exact congrArg some (world.check_eq services number session request)
          | storing request => exact congrArg some (world.store_eq services number session request)
          | acknowledging message recipient =>
              simp only [acknowledge]
              split
              next => rfl
              next =>
                split
                next => rfl
                next => split <;> rfl
          | waiting message recipient =>
              simp only
              split
              next => rfl
              next =>
                split
                next => rfl
                next => split <;> rfl
          | spreading message recipient => rfl
          | reporting ending status =>
              simp only
              split
              next => rfl
              next => split <;> rfl
          | ended ending => rfl

end World

-----------------------------------------------------------------------------------------
-- What a course can be
-----------------------------------------------------------------------------------------

/-- Does a session wait for room in its own mailbox? -/
def Stage.isInLine : Stage → Bool
  | .waiting _ _ | .reporting _ _ => true
  | _ => false

/-- Whether a session is running can be read from its stage. -/
theorem Session.isRunning_of_stage {session : Session} {stage : Stage}
    (there : session.stage = stage)
    (running : ({ session with stage } : Session).isRunning = true)
    : session.isRunning = true := by
  rw [isRunning, ending?, there]
  exact running

/-- A session has gone on by itself, as far as its own mailbox is concerned: it has acknowledged a
message or got in line to do so, or its last status has found room or nobody to read it, or it has
come to another stage.
-/
inductive Moved (session : Session) (channel : Channel Item) : Session → Channel Item → Prop where
  | goesOn {session' : Session} (reports : session'.reports = session.reports)
    (running : session.isRunning = true) (free : session.stage.isInLine = false)
    (stillRunning : session'.isRunning = true) (stillFree : session'.stage.isInLine = false)
    : Moved session channel session' channel
  | acknowledges {message : Delivery} {recipient : String}
    (stage : session.stage = .acknowledging message recipient) (room : channel.hasRoom = true)
    : Moved session channel { session with stage := .spreading message recipient }
        (channel.enqueue (.message message))
  | getsInLine {message : Delivery} {recipient : String}
    (stage : session.stage = .acknowledging message recipient) (there : channel.isOpen = true)
    (full : channel.hasRoom = false)
    : Moved session channel { session with stage := .waiting message recipient } channel.await
  | fills {message : Delivery} {recipient : String}
    (stage : session.stage = .waiting message recipient) (there : channel.isOpen = true)
    (granted : channel.owner = .granted)
    : Moved session channel { session with stage := .spreading message recipient }
        (channel.fill (.message message))
  | leaves {ending : Ending} {status : Status} (stage : session.stage = .reporting ending status)
    (gone : channel.isOpen = false)
    : Moved session channel { session with stage := .ended ending } channel
  | reports {ending : Ending} {status : Status} (stage : session.stage = .reporting ending status)
    (there : channel.isOpen = true) (granted : channel.owner = .granted)
    : Moved session channel { session with stage := .ended ending }
        (channel.fill (.failure status))

/-- Going on by itself, a session neither ends nor begins anew. -/
theorem Moved.isRunning {session' : Session} {channel' : Channel Item}
    (moved : Moved session channel session' channel')
    : session'.isRunning = session.isRunning := by
  cases moved with
  | goesOn _ running _ stillRunning => exact stillRunning.trans running.symm
  | acknowledges stage | getsInLine stage | fills stage =>
      exact (Session.isRunning_of_stage stage rfl).symm
  | leaves stage | reports stage =>
      simp only [Session.isRunning, Session.ending?, stage]

/-- What the course of a session can be. Going on by itself, a session changes nothing that others
see but its own mailbox.
-/
inductive Leads (world : World σ) (number : Nat) (session : Session) (channel : Channel Item)
    : Course σ → Prop where
  | goesOn {base : World σ} {session' : Session} {channel' : Channel Item}
    (calm : World.Calm world base)
    (own : base.endpoints.channel? number = some channel')
    (apart : ∀ {other}, other ≠ number →
      base.endpoints.channel? other = world.endpoints.channel? other)
    (identity : session'.identity = session.identity)
    (connection : session'.connection = session.connection)
    (moved : Moved session channel session' channel')
    : Leads world number session channel (.goesOn (base.setSession number session'))
  | delivers {message : Delivery} {recipient : String}
    (stage : session.stage = .spreading message recipient)
    : Leads world number session channel
        (.delivers (world.enter number session .receiving) recipient message)
  | ends (running : session.isRunning = true) (backend : σ) (input : List Inbound)
    (ending : Ending)
    : Leads world number session channel
        (.ends { world with backend } { session with input } ending)

namespace Leads

/-- A session goes on to another stage, with another input. -/
theorem enters (mailbox : world.endpoints.channel? number = some channel)
    (running : session.isRunning = true) (free : session.stage.isInLine = false)
    {base : World σ} (calm : World.Calm world base) (same : base.endpoints = world.endpoints)
    (input : List Inbound) (stage : Stage)
    (stillRunning : ({ session with stage } : Session).isRunning = true)
    (stillFree : stage.isInLine = false)
    : Leads world number session channel
        (.goesOn (base.enter number { session with input } stage)) := by
  refine .goesOn calm (by rw [same, mailbox]) (fun _ => by rw [same]) rfl rfl ?_
  exact .goesOn rfl running free stillRunning stillFree

/-- A session goes on to another stage, and does something to its mailbox. -/
theorem updates (mailbox : world.endpoints.channel? number = some channel)
    (change : Channel Item → Channel Item) {stage : Stage}
    (moved : Moved session channel { session with stage } (change channel))
    : Leads world number session channel
        (.goesOn ((world.updateChannel number change).enter number session stage)) := by
  refine .goesOn (.updateChannel world number change) ?_ (fun differ => ?_) rfl rfl moved
  · refine (Endpoints.channel?_updateChannel _ _ _ _).trans ?_
    rw [if_pos rfl, mailbox, Option.map_some]
  · exact (Endpoints.channel?_updateChannel _ _ _ _).trans (if_neg differ)

theorem of_checking (mailbox : world.endpoints.channel? number = some channel)
    {request : Outgoing} (stage : session.stage = .checking request)
    : Leads world number session channel (world.checking services number session request) := by
  have running : session.isRunning = true := Session.isRunning_of_stage stage rfl
  rcases asked : services.directory.userExists (Identity.normalize request.recipient)
    world.backend with ⟨known, backend⟩
  rw [World.checking, asked]
  rcases known with (e | (_ | _)) | _
  · exact .ends running backend session.input _
  · exact .ends running backend session.input _
  · have calm : World.Calm world { world with backend } := ⟨rfl, rfl, .refl _, fun _ => rfl⟩
    exact enters mailbox running (stage ▸ rfl) calm rfl session.input (.storing request) rfl rfl
  · exact .ends running backend session.input _

theorem of_storing (mailbox : world.endpoints.channel? number = some channel)
    {request : Outgoing} (stage : session.stage = .storing request)
    : Leads world number session channel (world.storing services number session request) := by
  have running : session.isRunning = true := Session.isRunning_of_stage stage rfl
  rcases answered : services.messages.persist session.identity
    (Identity.normalize request.recipient) request.content world.now world.backend with
    ⟨stored, backend⟩
  rw [World.storing, answered]
  rcases stored with (e | persisted) | _
  · exact .ends running backend session.input _
  · let counted := ({ world with backend } : World σ).updateMetrics (·.increment .messagesPersisted)
    have calm : World.Calm world counted := ⟨rfl, rfl, .refl _, fun _ => rfl⟩
    exact enters mailbox running (stage ▸ rfl) calm rfl session.input (.acknowledging _ _) rfl rfl
  · exact .ends running backend session.input _

end Leads

/-- Every course is one of those, by cases on where the session is. -/
theorem World.leads_of_course {evicted : Bool} {course : Course σ}
    (taken : world.course services number evicted = some course)
    : ∃ session channel,
        world.sessions.get? number = some session
        ∧ world.endpoints.channel? number = some channel
        ∧ Leads world number session channel course := by
  obtain ⟨session, found, taken⟩ := Option.bind_eq_some_iff.mp taken
  obtain ⟨channel, mailbox, taken⟩ := Option.bind_eq_some_iff.mp taken
  refine ⟨session, channel, found, mailbox, ?_⟩
  have fails (running : session.isRunning = true) (failure : Failure)
      : Leads world number session channel (world.failing session failure) :=
    .ends running world.backend session.input _
  split at taken
  next stage =>
    have running : session.isRunning = true := Session.isRunning_of_stage stage rfl
    split at taken
    next => exact Option.some.inj taken ▸ fails running .evicted
    next =>
      split at taken
      next =>
        split at taken
        next => exact Option.some.inj taken ▸ .ends running world.backend session.input _
        next => cases taken
      next => exact Option.some.inj taken ▸ .ends running world.backend _ _
      next =>
        obtain rfl := Option.some.inj taken
        exact .enters mailbox running (stage ▸ rfl) (.refl world) rfl _ _ rfl rfl
  next stage => exact Option.some.inj taken ▸ .of_checking mailbox stage
  next stage => exact Option.some.inj taken ▸ .of_storing mailbox stage
  next stage =>
    have running : session.isRunning = true := Session.isRunning_of_stage stage rfl
    split at taken
    next => exact Option.some.inj taken ▸ fails running .evicted
    next =>
      split at taken
      next => exact Option.some.inj taken ▸ fails running _
      next there =>
        have there : channel.isOpen = true := by simpa using there
        split at taken
        next room => exact Option.some.inj taken ▸ .updates mailbox _ (.acknowledges stage room)
        next full =>
          have full : channel.hasRoom = false := by simpa using full
          exact Option.some.inj taken ▸ .updates mailbox _ (.getsInLine stage there full)
  next stage =>
    have running : session.isRunning = true := Session.isRunning_of_stage stage rfl
    split at taken
    next => exact Option.some.inj taken ▸ fails running .evicted
    next =>
      split at taken
      next => exact Option.some.inj taken ▸ fails running _
      next there =>
        have there : channel.isOpen = true := by simpa using there
        split at taken
        next granted =>
          exact Option.some.inj taken ▸ .updates mailbox _ (.fills stage there granted)
        next => cases taken
  next stage => exact Option.some.inj taken ▸ .delivers stage
  next stage =>
    split at taken
    next gone =>
      have gone : channel.isOpen = false := by simpa using gone
      obtain rfl := Option.some.inj taken
      exact .goesOn (.refl world) mailbox (fun _ => rfl) rfl rfl (.leaves stage gone)
    next there =>
      have there : channel.isOpen = true := by simpa using there
      split at taken
      next granted =>
        exact Option.some.inj taken ▸ .updates mailbox _ (.reports stage there granted)
      next => cases taken
  next => cases taken

end ChatServer.Live
