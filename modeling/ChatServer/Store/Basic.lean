import ChatServer.Identity
import ChatServer.Failure
import ChatServer.Instant
import ChatServer.Table
import ChatServer.Uuid

/-!
The store in memory: accounts under their identities, and messages in the order in which they
were stored. Whatever spelling of an identity is given, the normalized one is kept and looked up.
-/

namespace ChatServer

/-- Where new identifiers come from: a sequence of draws, of which some have been used. -/
structure IdSource where
  draw : Nat → Uuid
  used : Nat := 0

instance : Inhabited IdSource := ⟨{ draw := fun n => ⟨BitVec.ofNat 128 n⟩ }⟩

/-- The next identifier, and the source without it. -/
def IdSource.next (source : IdSource) : Uuid × IdSource :=
  (source.draw source.used, { source with used := source.used + 1 })

/-- A registered account. -/
structure User where
  id : Uuid
  email : String
  passwordHash : String
  createdAt : Instant
  deriving DecidableEq

/-- A message that has been stored. -/
structure StoredMessage where
  id : Uuid
  sender : String
  recipient : String
  content : String
  sentAt : Instant
  deriving DecidableEq

/-- The latest message of a conversation with one partner. -/
structure ChatSummary where
  partner : String
  lastMessage : String
  lastMessageAt : Instant
  deriving DecidableEq

structure Store where
  users : Table String User := {}
  messages : List StoredMessage := []
  ids : IdSource := default

namespace Store

def userExists (store : Store) (identity : String) : Bool :=
  store.users.contains (Identity.normalize identity)

def findByEmail (store : Store) (email : String) : Option User :=
  store.users.get? (Identity.normalize email)

/-- Creates an account, unless there is one of the identity. -/
def createUser (store : Store) (email passwordHash : String) (now : Instant)
    : Except CollaboratorError User × Store :=
  let email := Identity.normalize email
  if store.users.contains email then
    (.error (.alreadyExists "user"), store)
  else
    let (id, ids) := store.ids.next
    let user : User := ⟨id, email, passwordHash, now⟩
    (.ok user, { store with users := store.users.set email user, ids })

def persist (store : Store) (sender recipient content : String) (sentAt : Instant)
    : StoredMessage × Store :=
  let (id, ids) := store.ids.next
  let message : StoredMessage :=
    ⟨id, Identity.normalize sender, Identity.normalize recipient, content, sentAt⟩
  (message, { store with messages := store.messages ++ [message], ids })

end Store

end ChatServer
