import ChatServer.Live.Endpoint
import ChatServer.Store.Collaborators

/-!
Sessions: each drives one client's stream. A session takes one request after the other; it asks
whether the recipient exists, stores the message, acknowledges it to its own client, waiting for
room if it must, and delivers it to the recipient's connections. It ends with its input, with the
first failure, or when its own connection has been evicted, and its connection is removed however
it ends.

Sessions take turns. A turn does one thing: it takes a request, asks, stores, acknowledges, delivers
or ends. Between two turns of a session anything else may happen, but nothing happens during one:
here a message is delivered to all connections at once, and a session ends at once. Sessions that
run side by side can come in between. `Scene` takes turns apart for that, and the turns of a world
are the runs of scenes in which nobody does.
-/

namespace ChatServer.Live

/-- What comes in from a client: a request, or the failure to receive one. -/
abbrev Inbound := Except Status Outgoing

inductive Ending where
  | closed
  | failed (status : Status)
  /-- A part that the session relies on broke off. -/
  | brokenOff
  deriving DecidableEq

inductive Stage where
  /-- Ready for the next request. -/
  | receiving
  /-- About to ask whether the recipient of a request exists. -/
  | checking (request : Outgoing)
  /-- About to store the message of a request. -/
  | storing (request : Outgoing)
  /-- The message is stored, and is about to be acknowledged. -/
  | acknowledging (message : Delivery) (recipient : String)
  /-- The message is stored, and its acknowledgement waits for room. -/
  | waiting (message : Delivery) (recipient : String)
  /-- The message is acknowledged, and is about to be delivered to its recipient. -/
  | spreading (message : Delivery) (recipient : String)
  /-- The session has ended, and the last status waits for room. -/
  | reporting (ending : Ending) (status : Status)
  | ended (ending : Ending)
  deriving DecidableEq

/-- A session. Its mailbox is the endpoint of its number. -/
structure Session where
  identity : String
  /-- The number of its connection in the registry. -/
  connection : Nat
  /-- Does its client get to know the status that it ends with? -/
  reports : Bool
  input : List Inbound := []
  inputEnded : Bool := false
  stage : Stage := .receiving

/-- How the session ended, if it has. -/
def Session.ending? (session : Session) : Option Ending :=
  match session.stage with
  | .reporting ending _ | .ended ending => some ending
  | _ => none

def Session.isRunning (session : Session) : Bool :=
  session.ending?.isNone

/-- A bound on the turns that a session can take without new input. -/
def Session.work (session : Session) : Nat :=
  6 * session.input.length + match session.stage with
    | .checking _ => 7
    | .storing _ => 6
    | .acknowledging _ _ => 5
    | .waiting _ _ => 4
    | .spreading _ _ => 3
    | .receiving => 2
    | .reporting _ _ => 1
    | .ended _ => 0

/-- The status that a client gets to know when a session ends. What broke off is not told. -/
def Ending.status? : Ending → Option Status
  | closed => none
  | failed status => some status
  | brokenOff => some ⟨.internal, "Internal server error"⟩

/-- Everything that sessions act on: the connections, the sessions by number, the state behind
the capabilities, and the time. -/
structure World (σ : Type) where
  exchange : Exchange Nat Endpoints := { outside := {} }
  sessions : Table Nat Session := {}
  backend : σ
  now : Instant

structure Services (σ : Type) where
  directory : Directory σ
  messages : MessageStore σ

namespace World

variable {σ : Type}

def endpoints (world : World σ) : Endpoints :=
  world.exchange.outside

def setEndpoints (world : World σ) (endpoints : Endpoints) : World σ :=
  { world with exchange := { world.exchange with outside := endpoints } }

def updateChannel (world : World σ) (number : Nat) (change : Channel Item → Channel Item)
    : World σ :=
  world.setEndpoints (world.endpoints.updateChannel number change)

def updateMetrics (world : World σ) (change : Metrics → Metrics) : World σ :=
  { world with exchange := { world.exchange with metrics := change world.exchange.metrics } }

/-- Puts a session in the place of its number. -/
def setSession (world : World σ) (number : Nat) (session : Session) : World σ :=
  { world with sessions := world.sessions.set number session }

/-- A number that no endpoint has yet, if they have been numbered in order. -/
def freshNumber (world : World σ) : Nat :=
  world.endpoints.size + 1

/-! ## Starting and ending -/

/-- Starts a session with a mailbox of its own. -/
def openSession (world : World σ) (number : Nat) (identity : String) (capacity : Nat)
    (reports : Bool) : World σ :=
  let identity := Identity.normalize identity
  let mailbox := Endpoint.mailbox { capacity } false
  let world := world.setEndpoints (world.endpoints.set number mailbox)
  let (connection, exchange) := world.exchange.register identity number
  let world := { world with exchange }.updateMetrics (·.increment (.sessions .started))
  world.setSession number { identity, connection, reports }

/-- The event that the end of a session is counted as. One that breaks off is not counted. -/
def countEnding (ending : Ending) (metrics : Metrics) : Metrics :=
  match ending with
  | .closed => metrics.increment (.sessions .closed)
  | .failed _ => metrics.increment (.sessions .failed)
  | .brokenOff => metrics

/-- Sends the last status to the client, or lets it wait for room. -/
def report (world : World σ) (number : Nat) (session : Session) (ending : Ending)
    (status : Status) : World σ :=
  match world.endpoints.channel? number with
  | some channel =>
    if !channel.isOpen then world.setSession number { session with stage := .ended ending }
    else if channel.hasRoom then
      (world.updateChannel number (·.enqueue (.failure status))).setSession number
        { session with stage := .ended ending }
    else
      (world.updateChannel number Channel.await).setSession number
        { session with stage := .reporting ending status }
  | none => world.setSession number { session with stage := .ended ending }

/-- Ends a session: its end is counted, it no longer waits for room, its connection is removed,
and its client gets to know the status if it is to. This is one step here; `Scene.follow`,
`Scene.depart` and `Scene.conclude` are the steps that it is made of. -/
def finish (world : World σ) (number : Nat) (session : Session) (ending : Ending) : World σ :=
  let world := world.updateMetrics (countEnding ending)
  let world := world.updateChannel number Channel.withdraw
  let (_, exchange) := world.exchange.unregister session.identity session.connection
  let world := { world with exchange }
  match session.reports, ending.status? with
  | true, some status => world.report number session ending status
  | _, _ => world.setSession number { session with stage := .ended ending }

/-- Ends a session with a failure. -/
def fail (world : World σ) (number : Nat) (session : Session) (failure : Failure) : World σ :=
  world.finish number session (.failed failure.status)

/-! ## Turns -/

/-- A session goes to another stage. -/
def enter (world : World σ) (number : Nat) (session : Session) (stage : Stage) : World σ :=
  world.setSession number { session with stage }

/-- Takes the next request or the failure to receive one, or ends with the input. Without either
the session has to wait. -/
def receive (world : World σ) (number : Nat) (session : Session) : Option (World σ) :=
  match session.input with
  | [] => if session.inputEnded then some (world.finish number session .closed) else none
  | .error status :: input => some (world.finish number { session with input } (.failed status))
  | .ok request :: input => some (world.enter number { session with input } (.checking request))

/-- Asks whether the recipient of a request exists. -/
def check (services : Services σ) (world : World σ) (number : Nat) (session : Session)
    (request : Outgoing) : World σ :=
  let (known, backend) :=
    services.directory.userExists (Identity.normalize request.recipient) world.backend
  let world := { world with backend }
  match known with
  | .brokenOff => world.finish number session .brokenOff
  | .returned (.error e) => world.fail number session (.storage e.message)
  | .returned (.ok false) => world.fail number session (.notFound "recipient")
  | .returned (.ok true) => world.enter number session (.storing request)

/-- The message that goes to the clients for a stored one. -/
def deliveryOf (identity content : String) (persisted : Persisted) : Delivery :=
  ⟨persisted.id.simple, identity, content, some (.ofInstant persisted.sentAt)⟩

def store (services : Services σ) (world : World σ) (number : Nat) (session : Session)
    (request : Outgoing) : World σ :=
  let recipient := Identity.normalize request.recipient
  let (stored, backend) := services.messages.persist session.identity recipient request.content
    world.now world.backend
  let world := { world with backend }
  match stored with
  | .brokenOff => world.finish number session .brokenOff
  | .returned (.error e) => world.fail number session (.storage e.message)
  | .returned (.ok persisted) =>
    (world.updateMetrics (·.increment .messagesPersisted)).enter number session
      (.acknowledging (deliveryOf session.identity request.content persisted) recipient)

/-- Acknowledges a stored message, or lets the acknowledgement wait for room. -/
def acknowledge (world : World σ) (number : Nat) (session : Session) (channel : Channel Item)
    (message : Delivery) (recipient : String) : World σ :=
  if !channel.isOpen then world.fail number session (.transport "sender stream closed")
  else if channel.hasRoom then
    (world.updateChannel number (·.enqueue (.message message))).enter number session
      (.spreading message recipient)
  else
    (world.updateChannel number Channel.await).enter number session (.waiting message recipient)

/-- Sends an item for which a place is kept, in a session that waits for it. -/
def fillPlace (world : World σ) (number : Nat) (item : Item) (session : Session) (stage : Stage)
    : World σ :=
  (world.updateChannel number (·.fill item)).enter number session stage

/-- Delivers a message that has been acknowledged to the connections of its recipient. How that
comes out is of no concern to the session. This is one step here; `Scene.send` and `Scene.advance`
are the steps that it is made of. -/
def spread (world : World σ) (recipient : String) (message : Delivery) : World σ :=
  let (_, exchange) := world.exchange.sendTo endpointOps recipient message
  { world with exchange }

/-- A turn of a session, if it need not wait. Eviction comes before a request or a place. It is the
whole of the `World.course` that the session takes if it looks for its mark at the same time. -/
def turn (services : Services σ) (world : World σ) (number : Nat) : Option (World σ) := do
  let session ← world.sessions.get? number
  let channel ← world.endpoints.channel? number
  let evicted := world.endpoints.isEvicted number
  match session.stage with
  | .receiving =>
    if evicted then some (world.fail number session .evicted) else world.receive number session
  | .checking request => some (world.check services number session request)
  | .storing request => some (world.store services number session request)
  | .acknowledging message recipient =>
    if evicted then some (world.fail number session .evicted)
    else some (world.acknowledge number session channel message recipient)
  | .waiting message recipient =>
    if evicted then some (world.fail number session .evicted)
    else if !channel.isOpen then
      some (world.fail number session (.transport "sender stream closed"))
    else if channel.owner = .granted then
      some (world.fillPlace number (.message message) session (.spreading message recipient))
    else
      none
  | .spreading message recipient =>
    some ((world.enter number session .receiving).spread recipient message)
  | .reporting ending status =>
    if !channel.isOpen then some (world.enter number session (.ended ending))
    else if channel.owner = .granted then
      some (world.fillPlace number (.failure status) session (.ended ending))
    else
      none
  | .ended _ => none

/-! ## Runs -/

/-- The first session that need not wait takes a turn. -/
def turnOfAny (services : Services σ) (world : World σ) : Option (World σ) :=
  world.sessions.keys.findSome? (world.turn services)

/-- Sessions take turns until all wait, for at most a number of turns. -/
def runFor (services : Services σ) : Nat → World σ → World σ
  | 0, world => world
  | n + 1, world =>
    match world.turnOfAny services with
    | some next => runFor services n next
    | none => world

/-- A bound on the turns that all sessions can take without new input. -/
def work (world : World σ) : Nat :=
  world.sessions.entries.foldr (fun (_, session) n => session.work + n) 0

/-- Sessions take turns until all wait. -/
def settle (services : Services σ) (world : World σ) : World σ :=
  world.runFor services world.work

/-! ## Clients -/

/-- A client sends something in; this does nothing once its input has ended. -/
def feed (world : World σ) (number : Nat) (inbound : List Inbound) : World σ :=
  match world.sessions.get? number with
  | some session =>
    if session.inputEnded then world
    else world.setSession number { session with input := session.input ++ inbound }
  | none => world

def endInput (world : World σ) (number : Nat) : World σ :=
  match world.sessions.get? number with
  | some session => world.setSession number { session with inputEnded := true }
  | none => world

/-- A client takes the first item out of a mailbox. -/
def take (world : World σ) (number : Nat) : Option Item × World σ :=
  match world.endpoints.channel? number with
  | some channel =>
    let (item, channel) := channel.pop
    (item, world.updateChannel number fun _ => channel)
  | none => (none, world)

/-- A client goes away from a mailbox. -/
def closeMailbox (world : World σ) (number : Nat) : World σ :=
  world.updateChannel number Channel.close

/-- A client goes away altogether. -/
def leave (world : World σ) (number : Nat) : World σ :=
  (world.closeMailbox number).endInput number

/-- Is some connection one to the endpoint of a number? -/
def isRegistered (world : World σ) (number : Nat) : Bool :=
  world.exchange.registry.connections.entries.any fun (_, connections) =>
    connections.entries.any (·.2 == number)

/-- Could anything still come into a mailbox? Nothing could after its session has ended and its
connection is gone. -/
def isLive (world : World σ) (number : Nat) : Bool :=
  world.isRegistered number || match world.sessions.get? number with
    | some session => match session.stage with
      | .ended _ => false
      | _ => true
    | none => false

end World

end ChatServer.Live
