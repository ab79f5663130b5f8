import ChatServer.Live.Dispatch
import ChatServer.Live.Session

/-!
Scenes: worlds in which several parties are in the middle of something. A turn of a session is
whole in a world: the delivery of a message comes to all its recipient's connections, and the end of
a session comes to its last status, before anything else happens. Sessions run side by side, though,
so here a turn is taken apart where others can see it or come in between. A session looks for its
mark before it acts on what it has found. A fan-out goes from sink to sink. A session that ends
first removes its connection, and reports its end to its client when it is done.
-/

namespace ChatServer.Live

/-- What a session comes to when it goes on. -/
inductive Course (σ : Type) where
  /-- It is at its next stage. -/
  | goesOn (next : World σ)
  /-- It begins to deliver the message that it has acknowledged. -/
  | delivers (next : World σ) (recipient : String) (message : Delivery)
  /-- It begins to end. -/
  | ends (next : World σ) (session : Session) (ending : Ending)

namespace World

variable {σ : Type}

/-- How a session goes on after a failure: it begins to end. -/
def failing (world : World σ) (session : Session) (failure : Failure) : Course σ :=
  .ends world session (.failed failure.status)

/-- A session asks whether the recipient of a request exists. -/
def checking (services : Services σ) (world : World σ) (number : Nat) (session : Session)
    (request : Outgoing) : Course σ :=
  let (known, backend) :=
    services.directory.userExists (Identity.normalize request.recipient) world.backend
  let world := { world with backend }
  match known with
  | .brokenOff => .ends world session .brokenOff
  | .returned (.error e) => world.failing session (.storage e.message)
  | .returned (.ok false) => world.failing session (.notFound "recipient")
  | .returned (.ok true) => .goesOn (world.enter number session (.storing request))

/-- A session stores the message of a request. -/
def storing (services : Services σ) (world : World σ) (number : Nat) (session : Session)
    (request : Outgoing) : Course σ :=
  let recipient := Identity.normalize request.recipient
  let (stored, backend) := services.messages.persist session.identity recipient request.content
    world.now world.backend
  let world := { world with backend }
  match stored with
  | .brokenOff => .ends world session .brokenOff
  | .returned (.error e) => world.failing session (.storage e.message)
  | .returned (.ok persisted) =>
    .goesOn ((world.updateMetrics (·.increment .messagesPersisted)).enter number session
      (.acknowledging (deliveryOf session.identity request.content persisted) recipient))

/-- How a session goes on, if it need not wait, when it has found its mark or has found none. -/
def course (services : Services σ) (world : World σ) (number : Nat) (evicted : Bool)
    : Option (Course σ) := do
  let session ← world.sessions.get? number
  let channel ← world.endpoints.channel? number
  match session.stage with
  | .receiving =>
    if evicted then some (world.failing session .evicted)
    else
      match session.input with
      | [] => if session.inputEnded then some (.ends world session .closed) else none
      | .error status :: input => some (.ends world { session with input } (.failed status))
      | .ok request :: input =>
        some (.goesOn (world.enter number { session with input } (.checking request)))
  | .checking request => some (world.checking services number session request)
  | .storing request => some (world.storing services number session request)
  | .acknowledging message recipient =>
    if evicted then some (world.failing session .evicted)
    else if !channel.isOpen then
      some (world.failing session (.transport "sender stream closed"))
    else if channel.hasRoom then
      some (.goesOn ((world.updateChannel number (·.enqueue (.message message))).enter number
        session (.spreading message recipient)))
    else
      some (.goesOn ((world.updateChannel number Channel.await).enter number session
        (.waiting message recipient)))
  | .waiting message recipient =>
    if evicted then some (world.failing session .evicted)
    else if !channel.isOpen then
      some (world.failing session (.transport "sender stream closed"))
    else if channel.owner = .granted then
      some (.goesOn (world.fillPlace number (.message message) session
        (.spreading message recipient)))
    else none
  | .spreading message recipient =>
    some (.delivers (world.enter number session .receiving) recipient message)
  | .reporting ending status =>
    if !channel.isOpen then some (.goesOn (world.enter number session (.ended ending)))
    else if channel.owner = .granted then
      some (.goesOn (world.fillPlace number (.failure status) session (.ended ending)))
    else none
  | .ended _ => none

end World

/-- Where a course leads when nothing happens in between. -/
def Course.conclude {σ : Type} (number : Nat) : Course σ → World σ
  | goesOn next => next
  | delivers next recipient message => next.spread recipient message
  | ends next session ending => next.finish number session ending

/-- A fan-out under way, and the session that goes on when it is done, if there is one. -/
structure Errand where
  sender? : Option Nat
  dispatch : Dispatch Nat

/-- How a session is about to end, and whether it has removed its connection. -/
structure Departure where
  ending : Ending
  removed : Bool := false
  deriving DecidableEq

/-- A world with what is under way in it. A session on its way out is kept as one that is receiving,
since it is at no stage any more. -/
structure Scene (σ : Type) where
  world : World σ
  errands : List Errand := []
  /-- The sessions on their way out. -/
  departures : Table Nat Departure := {}
  /-- The sessions that have found no mark, and have not acted on that yet. -/
  passed : List Nat := []

namespace Scene

variable {σ : Type}

/-- Is a session free to go on? It is not while it delivers a message or is on its way out. -/
def isFree (scene : Scene σ) (number : Nat) : Bool :=
  (scene.departures.get? number).isNone && scene.errands.all (·.sender? ≠ some number)

/-- Does a session that goes on know that it has been evicted? -/
def finds (scene : Scene σ) (number : Nat) : Bool :=
  !scene.passed.contains number && scene.world.endpoints.isEvicted number

/-- A session has acted on what it found. -/
def acted (scene : Scene σ) (number : Nat) : Scene σ :=
  { scene with passed := scene.passed.filter (· ≠ number) }

/-- Begins a fan-out, if there is anybody to deliver to. -/
def send (scene : Scene σ) (sender? : Option Nat) (recipient : String) (message : Delivery)
    : Scene σ :=
  let dispatch? := scene.world.exchange.dispatch? recipient message
  { scene with errands := scene.errands ++ dispatch?.toList.map (Errand.mk sender?) }

/-- A fan-out that is under way goes a step further, with others before and after it. -/
def advance (scene : Scene σ) (front : List Errand) (errand : Errand) (back : List Errand)
    : Scene σ :=
  let (dispatch?, exchange) := scene.world.exchange.advance endpointOps errand.dispatch
  { scene with
    world := { scene.world with exchange }
    errands := front ++ dispatch?.toList.map (Errand.mk errand.sender?) ++ back }

/-- A session takes its course. One that ends is counted and no longer waits for room. -/
def follow (scene : Scene σ) (number : Nat) (course : Course σ) : Scene σ :=
  let scene := scene.acted number
  match course with
  | .goesOn next => { scene with world := next }
  | .delivers next recipient message =>
    { scene with world := next }.send (some number) recipient message
  | .ends next session ending =>
    let counted := next.updateMetrics (World.countEnding ending)
    let withdrawn := counted.updateChannel number Channel.withdraw
    { scene with
      world := withdrawn.setSession number { session with stage := .receiving }
      departures := scene.departures.set number { ending } }

/-- A session on its way out removes its connection. -/
def depart (scene : Scene σ) (number : Nat) (session : Session) (ending : Ending) : Scene σ :=
  let (_, exchange) := scene.world.exchange.unregister session.identity session.connection
  { scene with
    world := { scene.world with exchange }
    departures := scene.departures.set number { ending, removed := true } }

/-- A session that is out lets its client know the last status, if it is to. -/
def conclude (scene : Scene σ) (number : Nat) (session : Session) (ending : Ending) : Scene σ :=
  { scene with
    world :=
      match session.reports, ending.status? with
      | true, some status => scene.world.report number session ending status
      | _, _ => scene.world.setSession number { session with stage := .ended ending }
    departures := scene.departures.erase number }

/-- How a session ended or is about to end, if it does. -/
def ending? (scene : Scene σ) (number : Nat) : Option Ending :=
  match scene.departures.get? number with
  | some departure => some departure.ending
  | none => (scene.world.sessions.get? number).bind (·.ending?)

/-- What the fan-outs under way are still to deliver to a sink. -/
def owed (scene : Scene σ) (sink : Nat) : List Delivery :=
  scene.errands.flatMap (·.dispatch.owed sink)

/-- Could anything still come into a mailbox? The stream of a session is open as long as a fan-out
holds on to its mailbox, too. -/
def isLive (scene : Scene σ) (number : Nat) : Bool :=
  scene.world.isLive number || scene.errands.any (·.dispatch.holds number)

end Scene

end ChatServer.Live
