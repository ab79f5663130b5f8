import ChatServer.Store.Basic

/-!
Conversations in the store: the latest message with each partner, newest first, and the messages
between two identities, oldest first. Of two messages at one time, the one stored later counts as
the later one.
-/

namespace ChatServer.Store

/-- The other party of a message from or to an identity. A message to oneself has oneself. -/
def partner? (identity : String) (message : StoredMessage) : Option String :=
  if message.sender = identity then some message.recipient
  else if message.recipient = identity then some message.sender
  else none

/-- Takes a message into the latest messages by partner, unless the one that is there is later. -/
def noteLatest (identity : String) (latest : Table String StoredMessage) (message : StoredMessage)
    : Table String StoredMessage :=
  match partner? identity message with
  | none => latest
  | some partner =>
    match latest.get? partner with
    | some earlier =>
      if earlier.sentAt.isLater message.sentAt then latest else latest.set partner message
    | none => latest.set partner message

/-- The latest message with each partner. -/
def latestByPartner (identity : String) (messages : List StoredMessage)
    : Table String StoredMessage :=
  messages.foldl (noteLatest identity) {}

/-- Does a summary come first in a list? The newer one does, and of two at one time the one whose
partner comes first. -/
def comesFirst (first second : ChatSummary) : Bool :=
  if first.lastMessageAt = second.lastMessageAt then first.partner ≤ second.partner
  else first.lastMessageAt.isLater second.lastMessageAt

/-- The conversations of an identity, newest first, up to a limit. -/
def recentChats (store : Store) (identity : String) (limit : Nat) : List ChatSummary :=
  let latest := latestByPartner (Identity.normalize identity) store.messages
  let summaries := latest.entries.map fun (partner, message) =>
    ChatSummary.mk partner message.content message.sentAt
  (summaries.mergeSort comesFirst).take limit

/-- Is a message between two identities, in either direction? -/
def isBetween (one other : String) (message : StoredMessage) : Bool :=
  (message.sender = one && message.recipient = other)
    || (message.sender = other && message.recipient = one)

/-- Is a message not later than another? -/
def isNotLater (first second : StoredMessage) : Bool :=
  !first.sentAt.isLater second.sentAt

/-- The latest messages between two identities up to a limit, oldest first. -/
def history (store : Store) (identity other : String) (limit : Nat) : List StoredMessage :=
  let messages := store.messages.filter
    (isBetween (Identity.normalize identity) (Identity.normalize other))
  let sorted := messages.mergeSort isNotLater
  sorted.drop (sorted.length - limit)

end ChatServer.Store
