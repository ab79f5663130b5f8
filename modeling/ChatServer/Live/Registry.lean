import ChatServer.Identity
import ChatServer.Live.Channel
import ChatServer.Metrics
import ChatServer.Table
import ChatServer.Text.Described
import ChatServer.Wire.Message

/-!
The registry of live connections. A connection is a sink for messages, registered under an
identity with a number that is never used again; an identity is there only as long as it has a
connection. A message for an identity is delivered to each of its connections, and those to which
it could not be delivered are removed, so a connection that is still there has missed nothing.

Sinks are values of any type. What delivering to one does is given by operations on a state that
the registry does not look into, so sinks may fail as they like and may depend on each other.
-/

namespace ChatServer.Live

/-- Why a message was not delivered to all connections of an identity. -/
inductive SendError where
  | notConnected
  /-- The first fault, how many deliveries failed, and how many there were. -/
  | failed (first : DeliveryFault) (failures attempts : Nat)
  deriving DecidableEq

def SendError.message : SendError → String
  | notConnected => "recipient not connected"
  | failed first failures attempts =>
    "delivery failed on " ++ toString failures ++ " of " ++ toString attempts ++ " connections: "
      ++ first.message

/-- Connections of identities to sinks. -/
structure Registry (κ : Type) where
  next : Nat := 1
  active : Nat := 0
  connections : Table String (Table Nat κ) := {}

namespace Registry

variable {κ : Type}

instance : Inhabited (Registry κ) := ⟨{}⟩

/-- The connections of an identity in any spelling. -/
def connectionsOf (registry : Registry κ) (identity : String) : Table Nat κ :=
  (registry.connections.get? (Identity.normalize identity)).getD {}

/-- Adds a connection, and gives its number. -/
def register (registry : Registry κ) (identity : String) (sink : κ) : Nat × Registry κ :=
  let connections := (registry.connectionsOf identity).set registry.next sink
  (registry.next, {
    next := registry.next + 1
    active := registry.active + 1
    connections := registry.connections.set (Identity.normalize identity) connections })

/-- All connections, with others for one identity. An identity without any is left out. -/
def replaced (registry : Registry κ) (identity : String) (connections : Table Nat κ)
    : Table String (Table Nat κ) :=
  if connections.size = 0 then registry.connections.erase (Identity.normalize identity)
  else registry.connections.set (Identity.normalize identity) connections

/-- Removes a connection of an identity, if it is there, and tells whether it was. -/
def unregister (registry : Registry κ) (identity : String) (id : Nat) : Bool × Registry κ :=
  let connections := registry.connectionsOf identity
  if connections.contains id then
    (true, { registry with
      active := registry.active - 1
      connections := registry.replaced identity (connections.erase id) })
  else
    (false, registry)

def connectionCount (registry : Registry κ) (identity : String) : Nat :=
  (registry.connectionsOf identity).size

def isConnected (registry : Registry κ) (identity : String) : Bool :=
  registry.connectionCount identity > 0

def identityCount (registry : Registry κ) : Nat :=
  registry.connections.size

def describe (registry : Registry κ) : String :=
  "ConnectionRegistry \x7b active: " ++ toString registry.active ++ ", .. \x7d"

end Registry

/-- What delivering to a sink and evicting it do to the state that sinks live in. -/
structure SinkOps (κ ω : Type) where
  deliver : κ → Delivery → ω → Option DeliveryFault × ω
  evicted : κ → ω → ω

/-- The registry with the state that its sinks live in, and the metrics. -/
structure Exchange (κ ω : Type) where
  registry : Registry κ := {}
  outside : ω
  metrics : Metrics := {}

namespace Exchange

variable {κ ω : Type}

def register (exchange : Exchange κ ω) (identity : String) (sink : κ) : Nat × Exchange κ ω :=
  let (id, registry) := exchange.registry.register identity sink
  (id, { exchange with
    registry
    metrics := exchange.metrics.set .activeConnections registry.active })

/-- Removes a connection, and tells whether it was there. -/
def unregister (exchange : Exchange κ ω) (identity : String) (id : Nat)
    : Bool × Exchange κ ω :=
  let (removed, registry) := exchange.registry.unregister identity id
  if removed then
    (true, { exchange with
      registry
      metrics := exchange.metrics.set .activeConnections registry.active })
  else
    (false, exchange)

/-- An attempt to deliver a message: the connection, its sink and the fault, if there was one. -/
structure Attempt (κ : Type) where
  id : Nat
  sink : κ
  fault? : Option DeliveryFault

def Attempt.failed (attempt : Attempt κ) : Bool :=
  attempt.fault?.isSome

/-- Delivers a message to one connection after the other, also after a failure. -/
def deliverAll (ops : SinkOps κ ω) (message : Delivery)
    : List (Nat × κ) → ω → List (Attempt κ) × ω
  | [], outside => ([], outside)
  | (id, sink) :: rest, outside =>
    let (fault?, outside) := ops.deliver sink message outside
    let (attempts, outside) := deliverAll ops message rest outside
    (⟨id, sink, fault?⟩ :: attempts, outside)

/-- Removes a connection whose delivery failed, and tells its sink, unless it is gone already. -/
def evict (ops : SinkOps κ ω) (identity : String) (exchange : Exchange κ ω)
    (failure : Attempt κ) : Exchange κ ω :=
  let (removed, exchange) := exchange.unregister identity failure.id
  if removed then { exchange with outside := ops.evicted failure.sink exchange.outside }
  else exchange

/-- Delivers a message to every connection of an identity, and removes those where it failed. Nothing
else happens before that is done; `Exchange.advance` takes it step by step. -/
def sendTo (ops : SinkOps κ ω) (exchange : Exchange κ ω) (identity : String)
    (message : Delivery) : Except SendError Nat × Exchange κ ω :=
  let targets := (exchange.registry.connectionsOf identity).entries
  if targets.isEmpty then (.error .notConnected, exchange)
  else
    let (attempts, outside) := deliverAll ops message targets exchange.outside
    let failures := attempts.filter Attempt.failed
    let delivered := attempts.length - failures.length
    let counted := { exchange with
      outside
      metrics := exchange.metrics.recordFanout delivered failures.length }
    let exchange := failures.foldl (evict ops identity) counted
    match attempts.findSome? Attempt.fault? with
    | none => (.ok delivered, exchange)
    | some first => (.error (.failed first failures.length attempts.length), exchange)

end Exchange

end ChatServer.Live
