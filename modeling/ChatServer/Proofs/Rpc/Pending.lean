import ChatServer.Rpc.Service

/-! Calls in flight. While a call waits for one part of the service, other calls and the sessions go
on, so a call is a row of steps between which the state may change. Taken without a pause, the steps
are the call.
-/

namespace ChatServer.Rpc

variable {σ α β : Type}

-----------------------------------------------------------------------------------------
-- Steps
-----------------------------------------------------------------------------------------

/-- A call in flight: it has ended, or there is a step to take, after which the call goes on as the
state before the step has it.
-/
inductive Pending (σ α : Type) where
  | ended (outcome : Completion (Except Status α))
  | step (run : State σ → State σ) (rest : State σ → Pending σ α)

namespace Pending

/-- A step that is followed by others if it answers. -/
def first (call : Call σ α) (next : α → Pending σ β) : Pending σ β :=
  .step (fun state => (call state).2) fun state =>
    match (call state).1 with
    | .returned (.ok value) => next value
    | .returned (.error status) => .ended (.returned (.error status))
    | .brokenOff => .ended .brokenOff

def last (call : Call σ α) : Pending σ α :=
  .step (fun state => (call state).2) fun state => .ended (call state).1

/-- Takes the steps that are left without a pause. -/
def finish : Pending σ α → Call σ α
  | ended outcome => fun state => (outcome, state)
  | step run rest => fun state => (rest state).finish (run state)

@[simp] theorem finish_first (call : Call σ α) (next : α → Pending σ β)
    : (first call next).finish = call >>= fun value => (next value).finish := by
  funext state
  change _ = Call.bind call _ state
  simp only [first, finish, Call.bind]
  rcases call state with ⟨(status | value) | _, later⟩ <;> rfl

@[simp] theorem finish_last (call : Call σ α) : (last call).finish = call :=
  rfl

end Pending

-----------------------------------------------------------------------------------------
-- Methods step by step
-----------------------------------------------------------------------------------------

/-- Creates an account at the time at which this is done. -/
def creating (deps : Deps σ) (identity hash : String) : Call σ User := do
  let now := (← Call.look).world.now
  Call.use (deps.accounts.createUser identity hash now) accountStatus

def Pending.register (deps : Deps σ) (credentials : Credentials) (peer : Option Net.Address)
    : Pending σ Grant :=
  .first (admission credentials.email peer) fun _ =>
  .first (Call.orFail (validate credentials)) fun identity =>
  .first (hashPassword deps credentials.password) fun hash =>
  .first (creating deps identity hash) fun user =>
  .last (issueFor deps user)

/-- Compares a password with that of the account that was found, if one was, and issues a token. -/
def Pending.compare (deps : Deps σ) (password : String) : Option User → Pending σ Grant
  | none => .last (Call.fail (.notFound "user"))
  | some user =>
    .first (Call.orFail (Password.verify password user.passwordHash)) fun same =>
      if same then .last (issueFor deps user) else .last (Call.fail .invalidCredentials)

def Pending.login (deps : Deps σ) (credentials : Credentials) (peer : Option Net.Address)
    : Pending σ Grant :=
  .first (admission credentials.email peer) fun _ =>
  .first (Call.orFail (validate credentials)) fun identity =>
  .first (Call.use (deps.accounts.findByEmail identity) accountStatus) fun user? =>
  Pending.compare deps credentials.password user?

/-- Without a pause, the steps of registering are the call. -/
theorem Pending.finish_register (deps : Deps σ) (credentials : Credentials)
    (peer : Option Net.Address)
    : (Pending.register deps credentials peer).finish = Rpc.register deps credentials peer := by
  simp only [Pending.register, Pending.finish_first, Pending.finish_last]
  rfl

theorem Pending.finish_compare (deps : Deps σ) (password : String) (user? : Option User)
    : (Pending.compare deps password user?).finish
      = match user? with
        | none => Call.fail (.notFound "user")
        | some user =>
          Call.orFail (Password.verify password user.passwordHash) >>= fun same =>
            if same then issueFor deps user else Call.fail .invalidCredentials := by
  cases user? with
  | none => rfl
  | some user =>
      simp only [Pending.compare, Pending.finish_first]
      congr 1
      funext same
      split <;> rfl

/-- Without a pause, the steps of logging in are the call. -/
theorem Pending.finish_login (deps : Deps σ) (credentials : Credentials) (peer : Option Net.Address)
    : (Pending.login deps credentials peer).finish = Rpc.login deps credentials peer := by
  simp only [Pending.login, Pending.finish_first, Pending.finish_compare]
  rfl

-----------------------------------------------------------------------------------------
-- Requests
-----------------------------------------------------------------------------------------

/-- What a client asks for. -/
inductive Request where
  | register (credentials : Credentials)
  | login (credentials : Credentials)
  | listChats (limit : Nat)
  | getHistory (partner : String)
  | chatStream
  deriving DecidableEq

def Request.method : Request → Method
  | register _ => .register
  | login _ => .login
  | listChats _ => .listChats
  | getHistory _ => .getHistory
  | chatStream => .chatStream

/-- A request with what comes along with it: the authorization headers, and where it is from. -/
structure Arrival where
  request : Request
  authorization : List (List UInt8) := []
  peer : Option Net.Address := none

/-- What an answer holds. That of a stream is the number of its session. -/
inductive Content where
  | grant (grant : Grant)
  | chats (chats : List ChatSummary)
  | messages (messages : List StoredMessage)
  | stream (number : Nat)
  deriving DecidableEq

/-- The answer of a call with what it holds. -/
def Call.holding (call : Call σ α) (content : α → Content) : Call σ Content := do
  return content (← call)

/-- The answer of a call in flight with what it holds. -/
def Pending.holding (content : α → Content) : Pending σ α → Pending σ Content
  | .ended outcome => .ended (outcome.bind fun result => .returned (result.map content))
  | .step run rest => .step run fun state => (rest state).holding content

/-- Opens a stream under a number that no session has yet. -/
def opening (deps : Deps σ) (caller : Option Token.Caller) : Call σ Nat := do
  let number := (← Call.look).world.freshNumber
  chatStream deps caller number
  return number

/-- The steps of a request that has come past the guard. -/
def Pending.serve (deps : Deps σ) (request : Request) (peer : Option Net.Address)
    (caller : Option Token.Caller) : Pending σ Content :=
  match request with
  | .register credentials => (Pending.register deps credentials peer).holding .grant
  | .login credentials => (Pending.login deps credentials peer).holding .grant
  | .listChats limit => .last ((listChats deps caller limit).holding .chats)
  | .getHistory partner => .last ((getHistory deps caller partner).holding .messages)
  | .chatStream => .last ((opening deps caller).holding .stream)

/-- The steps of a request, of which the first is the guard's. -/
def Pending.handle (deps : Deps σ) (arrival : Arrival) : Pending σ Content :=
  .first (throughGuard deps arrival.request.method.path arrival.authorization)
    (Pending.serve deps arrival.request arrival.peer)

end ChatServer.Rpc
