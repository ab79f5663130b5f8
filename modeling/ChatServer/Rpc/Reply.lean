import ChatServer.Rpc.Service
import ChatServer.Rpc.Streaming

/-!
Whole calls: from a path, the values of the authorization headers and a body to a reply. The guard
comes first, then the method has to be known, then the body has to be read; only then the method
is called. Of the reply it is told what its caller sees first: the code of its status, and whether
anything was sent before it.
-/

namespace ChatServer.Rpc

variable {σ : Type}

structure Reply where
  code : Code
  hasBody : Bool
  deriving DecidableEq

/-- The reply of a call that sent something or nothing and was well. -/
def Reply.ofSent (hasBody : Bool) : Reply :=
  ⟨.ok, hasBody⟩

/-- The reply that items make: they have a body if there is a message among them, and a status
among them is that of the reply. -/
def Reply.ofItems (items : List Live.Item) : Reply where
  code := (items.findSome? fun
    | .failure status => some status.code
    | .message _ => none).getD .ok
  hasBody := items.any fun
    | .message _ => true
    | .failure _ => false

/-- Reads the one message of a body. -/
def receive (type : Wire.MessageType) (body : List UInt8) : Call σ (Wire.Values type.kinds) :=
  match firstMessage type.kinds body with
  | .ok values => Call.answer values
  | .error status => Call.refuse status

/-- Reads credentials, which have the same layout in both requests. -/
def receiveCredentials (body : List UInt8) : Call σ Credentials := do
  let (email, password, _) ← receive .registerRequest body
  return ⟨email, password⟩

/-- What comes in from the client of a chat stream. -/
def inboundOf (body : List UInt8) : List Live.Inbound :=
  (messagesIn Wire.MessageType.chatStreamRequest.kinds body).map fun message =>
    message.map fun (recipient, content, _) => ⟨recipient, content⟩

/-- Runs a chat stream whose input is there from the start, and reads it to its end. -/
def converse (deps : Deps σ) (number : Nat) (body : List UInt8) : Call σ (List Live.Item) :=
  fun state =>
    let world := (state.world.feed number (inboundOf body)).endInput number
    let (items, world) := readAlong deps.services world number
    (.returned (.ok items), { state with world := world.closeMailbox number })

/-- Calls a method with a body. -/
def dispatch (deps : Deps σ) (method : Method) (caller : Option Token.Caller)
    (peer : Option Net.Address) (body : List UInt8) : Call σ Reply :=
  match method with
  | .register => do
    let _ ← register deps (← receiveCredentials body) peer
    return .ofSent true
  | .login => do
    let _ ← login deps (← receiveCredentials body) peer
    return .ofSent true
  | .listChats => do
    let (limit, _) ← receive .listChatsRequest body
    return .ofSent !(← listChats deps caller limit.toNat).isEmpty
  | .getHistory => do
    let (partner, _) ← receive .getHistoryRequest body
    return .ofSent !(← getHistory deps caller partner).isEmpty
  | .chatStream => do
    let number := (← Call.look).world.freshNumber
    chatStream deps caller number
    return .ofItems (← converse deps number body)

def reply (deps : Deps σ) (path : String) (authorization : List (List UInt8))
    (peer : Option Net.Address) (body : List UInt8) : Call σ Reply := fun state =>
  let call : Call σ Reply := do
    let caller ← throughGuard deps path authorization
    match Method.ofPath? path with
    | some method => dispatch deps method caller peer body
    | none => Call.refuse ⟨.unimplemented, ""⟩
  match call state with
  | (.returned (.error status), state) => (.returned (.ok ⟨status.code, false⟩), state)
  | result => result

end ChatServer.Rpc
