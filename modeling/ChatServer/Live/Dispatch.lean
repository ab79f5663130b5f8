import ChatServer.Live.Registry

/-!
Fan-outs under way. A fan-out looks the connections of its recipient up once. From then on it goes
from one sink to the next without holding on to the registry, and anything may happen between two of
its steps: a connection that it has found may be gone when its turn comes, and the message is
offered to its sink all the same.
-/

namespace ChatServer.Live

/-- How far a fan-out has come. -/
inductive Phase (κ : Type) where
  /-- These connections are still to be tried. -/
  | delivering (targets : List (Nat × κ))
  /-- All have been tried, and the connections of these failures are still to be removed. -/
  | removing (failures : List (Exchange.Attempt κ))
  /-- The connection of a failure has been removed, and its sink is about to be told. -/
  | telling (failure : Exchange.Attempt κ) (failures : List (Exchange.Attempt κ))

/-- A fan-out under way. -/
structure Dispatch (κ : Type) where
  recipient : String
  message : Delivery
  /-- The attempts so far. -/
  attempts : List (Exchange.Attempt κ) := []
  phase : Phase κ

def Phase.targets {κ : Type} : Phase κ → List (Nat × κ)
  | delivering targets => targets
  | _ => []

namespace Dispatch

variable {κ : Type} [DecidableEq κ]

/-- Does a fan-out still hold on to a sink? It lets go of one when it has delivered there, and of
those where it failed when it is done with all of them. -/
def holds (dispatch : Dispatch κ) (sink : κ) : Bool :=
  dispatch.phase.targets.any (·.2 = sink)
    || dispatch.attempts.any fun attempt => attempt.failed && attempt.sink = sink

/-- What a fan-out is still to deliver to a sink. -/
def owed (dispatch : Dispatch κ) (sink : κ) : List Delivery :=
  (dispatch.phase.targets.filter (·.2 = sink)).map fun _ => dispatch.message

end Dispatch

namespace Exchange

variable {κ ω : Type}

/-- Begins a fan-out to the connections that there are, if there are any. -/
def dispatch? (exchange : Exchange κ ω) (identity : String) (message : Delivery)
    : Option (Dispatch κ) :=
  let targets := (exchange.registry.connectionsOf identity).entries
  if targets.isEmpty then none
  else some { recipient := identity, message, phase := .delivering targets }

/-- Takes a fan-out a step further. Nothing is left of one that is done. -/
def advance (ops : SinkOps κ ω) (exchange : Exchange κ ω) (dispatch : Dispatch κ)
    : Option (Dispatch κ) × Exchange κ ω :=
  match dispatch.phase with
  | .delivering ((id, sink) :: targets) =>
    let (fault?, outside) := ops.deliver sink dispatch.message exchange.outside
    let attempts := dispatch.attempts ++ [⟨id, sink, fault?⟩]
    (some { dispatch with attempts, phase := .delivering targets }, { exchange with outside })
  | .delivering [] =>
    let failures := dispatch.attempts.filter Attempt.failed
    let delivered := dispatch.attempts.length - failures.length
    (some { dispatch with phase := .removing failures },
      { exchange with metrics := exchange.metrics.recordFanout delivered failures.length })
  | .removing (failure :: failures) =>
    let (removed, exchange) := exchange.unregister dispatch.recipient failure.id
    let phase := if removed then .telling failure failures else .removing failures
    (some { dispatch with phase }, exchange)
  | .telling failure failures =>
    (some { dispatch with phase := .removing failures },
      { exchange with outside := ops.evicted failure.sink exchange.outside })
  | .removing [] => (none, exchange)

end Exchange

end ChatServer.Live
