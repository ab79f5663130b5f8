import ChatServer.Admission.Limiter
import ChatServer.Live.Session
import ChatServer.Token.Counted

/-!
Calls of methods: work over the state of the service that ends in an answer or in a status for
the caller, or breaks off. What a call has changed before it fails or breaks off stays changed.
-/

namespace ChatServer.Rpc

/-- The state of the service: the sessions and what they act on, and the limiter with its own
time in nanoseconds. -/
structure State (σ : Type) where
  world : Live.World σ
  limiter : Admission.Limiter Float
  ticks : Nat := 0
  /-- How many salts have been used. -/
  salts : Nat := 0

/-- What the methods rely on. -/
structure Deps (σ : Type) where
  broker : Token.Broker
  accounts : Accounts σ
  conversations : Conversations σ
  services : Live.Services σ
  passwordCost : Nat
  streamBuffer : Nat
  /-- Where the salts of new password hashes come from. -/
  salt : Nat → List UInt8

/-- The work of a call. -/
def Call (σ α : Type) : Type := State σ → Completion (Except Status α) × State σ

namespace Call

variable {σ α β : Type}

/-- Answers without doing anything. -/
def answer (value : α) : Call σ α := fun state => (.returned (.ok value), state)

/-- Goes on with the answer, if there is one. -/
def bind (call : Call σ α) (next : α → Call σ β) : Call σ β := fun state =>
  match call state with
  | (.returned (.ok value), state) => next value state
  | (.returned (.error status), state) => (.returned (.error status), state)
  | (.brokenOff, state) => (.brokenOff, state)

instance : Monad (Call σ) where
  pure := answer
  bind := bind

def refuse (status : Status) : Call σ α := fun state => (.returned (.error status), state)

/-- Breaks the call off. -/
def breakOff : Call σ α := fun state => (.brokenOff, state)

def fail (failure : Failure) : Call σ α :=
  refuse failure.status

/-- Goes on with a result, or ends with its failure. -/
def orFail : Except Failure α → Call σ α
  | .ok value => answer value
  | .error failure => fail failure

/-- Looks at the state. -/
def look : Call σ (State σ) := fun state => (.returned (.ok state), state)

def change (f : State σ → State σ) : Call σ Unit := fun state => (.returned (.ok ()), f state)

/-- Uses a capability, and turns its error into a status. -/
def use (use : Use σ α) (statusOf : CollaboratorError → Status) : Call σ α := fun state =>
  let (result, backend) := use state.world.backend
  let state := { state with world := { state.world with backend } }
  match result with
  | .returned (.ok value) => (.returned (.ok value), state)
  | .returned (.error e) => (.returned (.error (statusOf e)), state)
  | .brokenOff => (.brokenOff, state)

end Call

end ChatServer.Rpc
