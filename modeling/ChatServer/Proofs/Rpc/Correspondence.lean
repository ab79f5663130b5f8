import ChatServer.Proofs.Rpc.Serving
import ChatServer.Proofs.Store.Histories

/-! How a message gets from its sender to its recipient, turn by turn: it is asked whether there is
such a user, then the message is stored, acknowledged and delivered. A client that reads what it
gets may write any number of messages to a user who is away: each of them takes its session through
one round of turns, after which all is as it was but for the store.
-/

namespace ChatServer.Rpc

variable {deps : Deps Backend}

-----------------------------------------------------------------------------------------
-- The way of a message
-----------------------------------------------------------------------------------------

section

variable {world : Live.World Backend} {number : Nat} {session : Live.Session}

/-- There is a user if there is an account under the identity. -/
theorem userExists_of_account {store : Store} {identity : String} {user : User}
    (account : store.users.get? (Identity.normalize identity) = some user)
    : store.userExists (Identity.normalize identity) = true := by
  rw [Store.userExists, Table.contains, Identity.normalize_normalize, account]
  rfl

/-- A session that asks for a user goes on to store its message. -/
theorem turn_of_known (shared : deps.ShareStore)
    (found : world.sessions.get? number = some session)
    (there : (world.endpoints.channel? number).isSome = true) {request : Outgoing}
    (stage : session.stage = .checking request)
    (known : world.backend.store.userExists (Identity.normalize request.recipient) = true)
    : world.turn deps.services number = some (world.enter number session (.storing request)) := by
  obtain ⟨channel, mailbox⟩ := Option.isSome_iff_exists.mp there
  simp only [Live.World.turn, found, mailbox, stage, Option.bind_eq_bind, Option.bind_some,
    Live.World.check, shared.services, Directory.memory, Use.look, Use.answer, known]

/-- A session that stores its message has it in hand for the recipient, in normalized spelling. -/
theorem turn_of_storing (shared : deps.ShareStore) (tidy : Live.Tidy world)
    (found : world.sessions.get? number = some session) {request : Outgoing}
    (stage : session.stage = .storing request)
    : ∃ next stored, world.turn deps.services number = some next
        ∧ next.backend.store.messages = world.backend.store.messages ++ [stored]
        ∧ Live.Stems session.identity request stored
        ∧ next.sessions.get? number
          = some { session with
              stage := .acknowledging (Live.shown stored) stored.recipient } := by
  obtain ⟨channel, mailbox⟩ := Option.isSome_iff_exists.mp (tidy.mailbox found)
  let recipient := Identity.normalize request.recipient
  let stored := (world.backend.store.persist session.identity recipient request.content
    world.now).1
  have stems : Live.Stems session.identity request stored :=
    ⟨tidy.normal found, Identity.normalize_normalize request.recipient, rfl⟩
  have acknowledged : Live.World.deliveryOf session.identity request.content
      ⟨stored.id, stored.sentAt⟩ = Live.shown stored := by
    rw [Live.shown, stems.sender, stems.content]
    rfl
  have turned : world.turn deps.services number
      = some (world.store ⟨.memory, .memory⟩ number session request) := by
    simp only [Live.World.turn, found, mailbox, stage, Option.bind_eq_bind, Option.bind_some,
      shared.services]
  refine ⟨_, stored, turned, rfl, stems, ?_⟩
  rw [← acknowledged, stems.recipient]
  exact Live.World.get?_setSession _ number _

/-- What a session has in hand to acknowledge it keeps, or it ends. -/
theorem kept_in_hand (shared : deps.ShareStore) (tidy : Live.Tidy world)
    (found : world.sessions.get? number = some session) {message : Delivery} {recipient : String}
    (stage : session.stage = .acknowledging message recipient
      ∨ session.stage = .waiting message recipient)
    {next : Live.World Backend} (taken : world.turn deps.services number = some next)
    : ∃ session', next.sessions.get? number = some session'
        ∧ (session'.isRunning = false ∨ session'.stage.HasInHand message recipient) := by
  obtain ⟨session', stored, posted, progress, advanced⟩ :=
    Live.progress_of_turn shared.storesIn tidy found taken
  refine ⟨session', ?_, ?_⟩
  · rw [advanced.sessions]
    exact (Table.get?_set _ _ _ _).trans (if_pos rfl)
  · cases progress with
    | takes other | finds other | stores other | spreads other =>
        rcases stage with here | here <;> cases other.symm.trans here
    | waits other =>
        rcases stage with here | here
        · cases other.symm.trans here
          exact .inr (.inr (.inl rfl))
        · cases other.symm.trans here
    | acknowledges other =>
        refine .inr (.inr (.inr ?_))
        rcases stage with here | here <;> rcases other with there | there <;>
          cases there.symm.trans here <;> rfl
    | ends ended _ =>
        left
        rcases ended with rfl | ⟨status, rfl⟩ <;> rfl

/-- A session delivers a message that it has acknowledged. -/
theorem turn_of_acknowledged (found : world.sessions.get? number = some session)
    (there : (world.endpoints.channel? number).isSome = true) {message : Delivery}
    {recipient : String} (stage : session.stage = .spreading message recipient)
    : world.turn deps.services number
      = some ((world.enter number session .receiving).spread recipient message) := by
  obtain ⟨channel, mailbox⟩ := Option.isSome_iff_exists.mp there
  simp only [Live.World.turn, found, mailbox, stage, Option.bind_eq_bind, Option.bind_some]

end

-----------------------------------------------------------------------------------------
-- Rounds
-----------------------------------------------------------------------------------------

/-- Turns of sessions are steps of the service, by induction on them. A session that waits is left
out.
-/
theorem Proceeds.turns (state : State Backend) (numbers : List Nat)
    : Relation.ReflTransGen (Proceeds deps) state
        { state with world := state.world.afterTurns deps.services numbers } := by
  induction numbers generalizing state with
  | nil => exact .refl
  | cons number rest ih =>
      rw [Live.World.afterTurns]
      cases taken : state.world.turn deps.services number with
      | none => exact ih state
      | some next => exact .head (.works (.turns taken)) (ih { state with world := next })

/-- The session of a caller who has opened the first stream. -/
def firstSession (caller : Token.Caller) (input : List Live.Inbound) (stage : Live.Stage)
    : Live.Session where
  identity := caller.identity
  connection := 1
  reports := true
  input
  stage

/-- A world with a single stream, that of a session, and with what waits in its mailbox. -/
def soleStream (deps : Deps Backend) (session : Live.Session) (queue : List Live.Item)
    (store : Store) (metrics : Metrics) (now : Instant) : Live.World Backend where
  exchange := {
    registry := (({} : Live.Registry Nat).register session.identity 1).2
    outside := ⟨[(1, .mailbox { capacity := deps.streamBuffer, queue } false)]⟩
    metrics
  }
  sessions := ⟨[(1, session)]⟩
  backend := { store }
  now

/-- Nobody but the caller of the only stream is connected. -/
theorem spread_of_away {caller : Token.Caller} {recipient : String}
    (away : Identity.normalize recipient ≠ Identity.normalize caller.identity)
    (input : List Live.Inbound) (stage : Live.Stage) (queue : List Live.Item) (store : Store)
    (metrics : Metrics) (now : Instant) (message : Delivery)
    : let world := soleStream deps (firstSession caller input stage) queue store metrics now
      world.spread recipient message = world := by
  intro world
  have none : (world.exchange.registry.connectionsOf recipient).entries = [] := by
    have connections := Live.Registry.connectionsOf_register {} caller.identity recipient (1 : Nat)
    rw [if_neg away] at connections
    exact congrArg Table.entries connections
  rw [Live.World.spread, Live.Exchange.sendTo_of_none none]

/-- A request for a user who is away takes its session through one round: its message is stored, and
all else is as before when the client has read the acknowledgement.
-/
theorem Proceeds.round (shared : deps.ShareStore) (room : 0 < deps.streamBuffer)
    {caller : Token.Caller} {request : Outgoing} {store : Store}
    (known : store.userExists (Identity.normalize request.recipient) = true)
    (away : Identity.normalize request.recipient ≠ Identity.normalize caller.identity)
    (state : State Backend) (metrics : Metrics) (now : Instant)
    : let quiet (store : Store) (metrics : Metrics) : State Backend :=
        { state with
          world := soleStream deps (firstSession caller [] .receiving) [] store metrics now }
      Relation.ReflTransGen (Proceeds deps) (quiet store metrics)
        (quiet (store.persist caller.identity (Identity.normalize request.recipient)
          request.content now).2 (metrics.increment .messagesPersisted)) := by
  intro quiet
  let recipient := Identity.normalize request.recipient
  let later := store.persist caller.identity recipient request.content now
  let counted := metrics.increment .messagesPersisted
  let message := Live.World.deliveryOf caller.identity request.content
    ⟨later.1.id, later.1.sentAt⟩
  let reached (input : List Live.Inbound) (stage : Live.Stage) (queue : List Live.Item)
      (store : Store) (metrics : Metrics) : Live.World Backend :=
    soleStream deps (firstSession caller input stage) queue store metrics now
  have turn {world next : Live.World Backend} (taken : world.turn deps.services 1 = some next)
      : Proceeds deps { state with world } { state with world := next } :=
    .works (.turns taken)
  have takes : (reached [.ok request] .receiving [] store metrics).turn deps.services 1
      = some (reached [] (.checking request) [] store metrics) :=
    rfl
  have finds : (reached [] (.checking request) [] store metrics).turn deps.services 1
      = some (reached [] (.storing request) [] store metrics) := by
    have asked := @turn_of_known deps (reached [] (.checking request) [] store metrics) 1
      (firstSession caller [] (.checking request)) shared rfl rfl request rfl known
    exact asked
  have stores : (reached [] (.storing request) [] store metrics).turn deps.services 1
      = some (reached [] (.acknowledging message recipient) [] later.2 counted) := by
    rw [shared.services]
    rfl
  have acknowledges
      : (reached [] (.acknowledging message recipient) [] later.2 counted).turn deps.services 1
        = some (reached [] (.spreading message recipient) [.message message] later.2 counted) := by
    have free : ({ capacity := deps.streamBuffer } : Live.Channel Live.Item).hasRoom = true := by
      simp [Live.Channel.hasRoom, Live.Channel.taken, Live.Turn.places, room]
    change some (Live.World.acknowledge _ 1 _ { capacity := deps.streamBuffer } _ _) = _
    rw [Live.World.acknowledge, if_neg (by simp), if_pos free]
    rfl
  have spreads : (reached [] (.spreading message recipient) [.message message] later.2
        counted).turn deps.services 1
      = some (reached [] .receiving [.message message] later.2 counted) := by
    have delivers := @turn_of_acknowledged deps
      (reached [] (.spreading message recipient) [.message message] later.2 counted) 1
      (firstSession caller [] (.spreading message recipient)) rfl rfl message recipient rfl
    have absent : Identity.normalize recipient ≠ Identity.normalize caller.identity := by
      rwa [Identity.normalize_normalize]
    have nobody := @spread_of_away deps caller recipient absent [] .receiving [.message message]
      later.2 counted now message
    exact delivers.trans (congrArg some nobody)
  refine .head (.works (.feeds 1 [.ok request])) ?_
  refine .head (turn takes) (.head (turn finds) (.head (turn stores) ?_))
  exact .head (turn acknowledges) (.head (turn spreads) (.single (.takes 1)))

/-- By induction on their number, there is a round for each of any number of messages. -/
theorem Proceeds.rounds (shared : deps.ShareStore) (room : 0 < deps.streamBuffer)
    {caller : Token.Caller} {request : Outgoing} {store : Store}
    (known : store.userExists (Identity.normalize request.recipient) = true)
    (away : Identity.normalize request.recipient ≠ Identity.normalize caller.identity)
    (state : State Backend) (metrics : Metrics) (now : Instant) (n : Nat)
    : ∃ counted,
        Relation.ReflTransGen (Proceeds deps)
          { state with
            world := soleStream deps (firstSession caller [] .receiving) [] store metrics now }
          { state with
            world := soleStream deps (firstSession caller [] .receiving) []
              (store.filled caller.identity (Identity.normalize request.recipient)
                request.content now n) counted now } := by
  induction n with
  | zero => exact ⟨metrics, .refl⟩
  | succ n ih =>
      obtain ⟨counted, before⟩ := ih
      obtain ⟨_, _, users⟩ := store.messages_filled caller.identity
        (Identity.normalize request.recipient) request.content now n
      have still : (store.filled caller.identity (Identity.normalize request.recipient)
          request.content now n).userExists (Identity.normalize request.recipient) = true := by
        rwa [Store.userExists, users]
      exact ⟨_, before.trans (Proceeds.round shared room still away state counted now)⟩

/-- Opening a stream in a world without connections and endpoints makes it the only one. -/
theorem Proceeds.opens_sole (room : Live.isCapacity deps.streamBuffer = true)
    {caller : Token.Caller}
    (normal : Identity.normalize caller.identity = caller.identity) {state : State Backend}
    {store : Store} {metrics : Metrics} {now : Instant}
    (blank : state.world = { exchange := { outside := {}, metrics }, backend := { store }, now })
    : ∃ counted,
        Proceeds deps state
          { state with
            world := soleStream deps (firstSession caller [] .receiving) [] store counted
              now } := by
  let blankWorld : Live.World Backend :=
    { exchange := { outside := {}, metrics }, backend := { store }, now }
  have sole : ∃ counted, blankWorld.openSession 1 caller.identity deps.streamBuffer true
      = soleStream deps (firstSession caller [] .receiving) [] store counted now := by
    rw [Live.World.openSession, normal]
    exact ⟨_, rfl⟩
  obtain ⟨counted, same⟩ := sole
  have opened : chatStream deps (some caller) state.world.freshNumber state = _ :=
    (chatStream_eq caller _ state).trans (if_pos room)
  have first : state.world.freshNumber = 1 := by rw [blank]; rfl
  refine ⟨counted, .opens (opened.trans ?_)⟩
  rw [first, ← same, blank]

end ChatServer.Rpc
