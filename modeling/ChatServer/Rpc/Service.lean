import ChatServer.Admission.Key
import ChatServer.Password.Hash
import ChatServer.Rpc.Call
import ChatServer.Rpc.Guard

/-!
The methods of the service. Registering and logging in are limited, check what they are given, and
answer with a token; listing chats and reading a history answer for whoever calls; a chat stream
is a session of the caller.
-/

namespace ChatServer.Rpc

variable {σ : Type}

/-! ## Registering and logging in -/

/-- Lets the limiter decide about a call that names an account. -/
def admission (email : String) (peer : Option Net.Address) : Call σ Unit := fun state =>
  let key := (Admission.Key.ofCall (some email) peer).render
  let exchange := state.world.exchange
  let (allowed, limiter, metrics) := state.limiter.allowCounted state.ticks key exchange.metrics
  let state := { state with
    limiter
    world := { state.world with exchange := { exchange with metrics } } }
  if allowed then (.returned (.ok ()), state)
  else (.returned (.error Failure.rateLimited.status), state)

/-- The identity of credentials that could be those of a user. -/
def validate (credentials : Credentials) : Except Failure String :=
  let identity := Identity.normalize credentials.email
  if !Identity.looksLikeEmail identity then
    .error (.invalidArgument "A valid email is required")
  else if credentials.password = "" then
    .error (.invalidArgument "Password is required")
  else
    .ok identity

def hashPassword (deps : Deps σ) (password : String) : Call σ String := fun state =>
  (.returned ((Password.hash deps.passwordCost (deps.salt state.salts) password).mapError
    Failure.status), { state with salts := state.salts + 1 })

/-- Issues a token for an account. -/
def issueFor (deps : Deps σ) (user : User) : Call σ Grant := fun state =>
  let exchange := state.world.exchange
  match deps.broker.issueCounted state.world.now user.id.simple user.email exchange.metrics with
  | .brokenOff => (.brokenOff, state)
  | .returned (result, metrics) =>
    let state := { state with world := { state.world with exchange := { exchange with metrics } } }
    match result with
    | .ok issued =>
      (.returned (.ok ⟨issued.token, user.id.simple, .ofInstant issued.expiresAt⟩), state)
    | .error e => (.returned (.error (Failure.ofToken e).status), state)

/-- The status for an error of what keeps the accounts. -/
def accountStatus (e : CollaboratorError) : Status :=
  (Failure.ofCollaborator e).status

def register (deps : Deps σ) (credentials : Credentials) (peer : Option Net.Address)
    : Call σ Grant := do
  admission credentials.email peer
  let identity ← Call.orFail (validate credentials)
  let hash ← hashPassword deps credentials.password
  let now := (← Call.look).world.now
  let user ← Call.use (deps.accounts.createUser identity hash now) accountStatus
  issueFor deps user

def login (deps : Deps σ) (credentials : Credentials) (peer : Option Net.Address)
    : Call σ Grant := do
  admission credentials.email peer
  let identity ← Call.orFail (validate credentials)
  let user? ← Call.use (deps.accounts.findByEmail identity) accountStatus
  match user? with
  | none => Call.fail (.notFound "user")
  | some user =>
    if ← Call.orFail (Password.verify credentials.password user.passwordHash) then
      issueFor deps user
    else
      Call.fail .invalidCredentials

/-! ## Looking up conversations -/

/-- The status for any error of what keeps the conversations. -/
def internalError (_ : CollaboratorError) : Status :=
  ⟨.internal, "Internal server error"⟩

/-- Who calls, if it is known. -/
def callerOf (caller : Option Token.Caller) : Call σ Token.Caller :=
  match caller with
  | some caller => Call.answer caller
  | none => Call.refuse unauthenticated

/-- How many chats are listed: a default for a request of none, and no more than a greatest
number. -/
def listLimit (requested : Nat) : Nat :=
  if requested = 0 then 50 else min requested 500

/-- How many messages of a history are given. -/
def historyLimit : Nat := 100

/-- Lists the caller's chats. -/
def listChats (deps : Deps σ) (caller : Option Token.Caller) (requested : Nat)
    : Call σ (List ChatSummary) := do
  let caller ← callerOf caller
  Call.use (deps.conversations.recentChats caller.identity (listLimit requested)) internalError

/-- Gives the history of the caller with somebody. -/
def getHistory (deps : Deps σ) (caller : Option Token.Caller) (partner : String)
    : Call σ (List StoredMessage) := do
  let caller ← callerOf caller
  let partner := Identity.normalize partner
  if partner = "" then Call.fail (.invalidArgument "with_email is required")
  else Call.use (deps.conversations.history caller.identity partner historyLimit) internalError

/-! ## Chat streams -/

/-- Opens a chat stream of the caller: a session with a number. It breaks off if no mailbox of the
configured size can be made. -/
def chatStream (deps : Deps σ) (caller : Option Token.Caller) (number : Nat) : Call σ Unit := do
  let caller ← callerOf caller
  if Live.isCapacity deps.streamBuffer then
    Call.change fun state => { state with
      world := state.world.openSession number caller.identity deps.streamBuffer true }
  else
    Call.breakOff

/-! ## The guard -/

/-- Lets a call through the guard, which finds out who calls. -/
def throughGuard (deps : Deps σ) (path : String) (authorization : List (List UInt8))
    : Call σ (Option Token.Caller) := fun state =>
  let exchange := state.world.exchange
  let (verdict, metrics) :=
    judge deps.broker state.world.now.seconds path authorization exchange.metrics
  let state := { state with world := { state.world with exchange := { exchange with metrics } } }
  match verdict with
  | .passed caller => (.returned (.ok caller), state)
  | .refused => (.returned (.error unauthenticated), state)

end ChatServer.Rpc
