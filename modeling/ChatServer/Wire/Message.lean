import ChatServer.Instant
import ChatServer.Wire.Codec

/-!
The messages of the service: their types with the names and the kinds of their values, and the
records that the methods take and give.
-/

namespace ChatServer.Wire

/-- The types of messages. -/
inductive MessageType where
  | registerRequest | registerResponse | loginRequest | loginResponse
  | listChatsRequest | listChatsResponse | getHistoryRequest | getHistoryResponse
  | chatStreamRequest | chatStreamResponse
  deriving DecidableEq

namespace MessageType

def all : List MessageType :=
  [registerRequest, registerResponse, loginRequest, loginResponse, listChatsRequest,
    listChatsResponse, getHistoryRequest, getHistoryResponse, chatStreamRequest,
    chatStreamResponse]

def name : MessageType → String
  | registerRequest => "RegisterRequest"
  | registerResponse => "RegisterResponse"
  | loginRequest => "LoginRequest"
  | loginResponse => "LoginResponse"
  | listChatsRequest => "ListChatsRequest"
  | listChatsResponse => "ListChatsResponse"
  | getHistoryRequest => "GetHistoryRequest"
  | getHistoryResponse => "GetHistoryResponse"
  | chatStreamRequest => "ChatStreamRequest"
  | chatStreamResponse => "ChatStreamResponse"

/-- The names and kinds of the values, in the order of their numbers. -/
def layout : MessageType → List (String × Kind)
  | registerRequest | loginRequest => [("email", .text), ("password", .text)]
  | registerResponse | loginResponse =>
    [("token", .text), ("user_id", .text), ("expires_at", .time)]
  | listChatsRequest => [("limit", .number)]
  | listChatsResponse => [("email", .text), ("last_message", .text), ("last_message_at", .time)]
  | getHistoryRequest => [("with_email", .text)]
  | getHistoryResponse =>
    [("msg_id", .text), ("from_email", .text), ("to_email", .text), ("content", .text),
      ("sent_at", .time)]
  | chatStreamRequest => [("to_email", .text), ("content", .text)]
  | chatStreamResponse =>
    [("msg_id", .text), ("from_email", .text), ("content", .text), ("sent_at", .time)]

def kinds (type : MessageType) : List Kind :=
  type.layout.map (·.2)

def ofName? (name : String) : Option MessageType :=
  all.find? (·.name = name)

end MessageType

/-- A point of time on the wire. -/
def Timestamp.ofInstant (instant : Instant) : Timestamp :=
  ⟨Int64.ofInt instant.seconds, Int32.ofInt instant.nanos⟩

end ChatServer.Wire

namespace ChatServer

/-- An email address with a password. -/
structure Credentials where
  email : String
  password : String
  deriving DecidableEq

/-- What a user gets who has registered or logged in. -/
structure Grant where
  token : String
  userId : String
  expiresAt : Wire.Timestamp
  deriving DecidableEq

/-- A message that a client sends: its recipient in any spelling, and its text. -/
structure Outgoing where
  recipient : String
  content : String
  deriving DecidableEq

/-- A message that a client receives, either its own as an acknowledgement or somebody else's. -/
structure Delivery where
  messageId : String
  sender : String
  content : String
  sentAt : Option Wire.Timestamp
  deriving DecidableEq

end ChatServer
