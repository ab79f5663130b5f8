import ChatServer.Live.Registry
import ChatServer.Status

/-!
Endpoints: the sinks that the service connects and their state. A recorder keeps every message, a
refuser fails at every attempt, and a mailbox is a channel to a client. Sinks are the numbers of
endpoints; a number without an endpoint counts as closed.
-/

namespace ChatServer.Live

/-- What a client finds in its mailbox: messages, and at most one status, which is the last. -/
inductive Item where
  | message (delivery : Delivery)
  | failure (status : Status)
  deriving DecidableEq

/-- The state of a sink. -/
inductive Endpoint where
  | recorder (received : List Delivery)
  | refuser (fault : DeliveryFault) (attempts : Nat)
  | mailbox (channel : Channel Item) (evicted : Bool)

abbrev Endpoints := Table Nat Endpoint

namespace Endpoint

def deliver (message : Delivery) : Endpoint → Option DeliveryFault × Endpoint
  | recorder received => (none, recorder (received ++ [message]))
  | refuser fault attempts => (some fault, refuser fault (attempts + 1))
  | mailbox channel evicted =>
    let (fault, channel) := channel.push (.message message)
    (fault, mailbox channel evicted)

def evict : Endpoint → Endpoint
  | mailbox channel _ => mailbox channel true
  | endpoint => endpoint

end Endpoint

def endpointOps : SinkOps Nat Endpoints where
  deliver number message endpoints :=
    match endpoints.get? number with
    | some endpoint =>
      let (fault, endpoint) := endpoint.deliver message
      (fault, endpoints.set number endpoint)
    | none => (some .closed, endpoints)
  evicted number endpoints :=
    match endpoints.get? number with
    | some endpoint => endpoints.set number endpoint.evict
    | none => endpoints

namespace Endpoints

def channel? (endpoints : Endpoints) (number : Nat) : Option (Channel Item) :=
  match endpoints.get? number with
  | some (.mailbox channel _) => some channel
  | _ => none

/-- Has a mailbox been evicted? -/
def isEvicted (endpoints : Endpoints) (number : Nat) : Bool :=
  match endpoints.get? number with
  | some (.mailbox _ evicted) => evicted
  | _ => false

def updateChannel (endpoints : Endpoints) (number : Nat)
    (change : Channel Item → Channel Item) : Endpoints :=
  match endpoints.get? number with
  | some (.mailbox channel evicted) => endpoints.set number (.mailbox (change channel) evicted)
  | _ => endpoints

end Endpoints

end ChatServer.Live
