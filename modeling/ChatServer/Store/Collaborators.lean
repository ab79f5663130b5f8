import ChatServer.Completion
import ChatServer.Store.Conversation

/-!
What the service needs of the parts that keep its data, as capabilities over a state of their
own. Each use may answer, fail, or break off. The store in memory has all capabilities; the
others here know a fixed set of users, keep a record, or always fail.
-/

namespace ChatServer

/-- A use of a capability: it ends in an answer or an error, or breaks off, and leaves a state. -/
abbrev Use (σ α : Type) := σ → Completion (Except CollaboratorError α) × σ

/-- A use that always answers. -/
def Use.answer {σ α : Type} (use : σ → α × σ) : Use σ α := fun state =>
  let (value, state) := use state
  (.returned (.ok value), state)

/-- A use that answers from the state and does not change it. -/
def Use.look {σ α : Type} (view : σ → α) : Use σ α :=
  .answer fun state => (view state, state)

/-- A use that always fails. -/
def Use.fail {σ α : Type} (e : CollaboratorError) : Use σ α := fun state =>
  (.returned (.error e), state)

/-- A use that always breaks off. -/
def Use.breakOff {σ α : Type} : Use σ α := fun state => (.brokenOff, state)

/-- What is known of a message after it has been stored. -/
structure Persisted where
  id : Uuid
  sentAt : Instant
  deriving DecidableEq

/-- Knows which users there are. -/
structure Directory (σ : Type) where
  userExists (identity : String) : Use σ Bool

/-- Stores messages. -/
structure MessageStore (σ : Type) where
  persist (sender recipient content : String) (sentAt : Instant) : Use σ Persisted

/-- Creates and finds accounts. -/
structure Accounts (σ : Type) where
  createUser (email passwordHash : String) (now : Instant) : Use σ User
  findByEmail (email : String) : Use σ (Option User)

/-- Looks up conversations. -/
structure Conversations (σ : Type) where
  recentChats (identity : String) (limit : Nat) : Use σ (List ChatSummary)
  history (identity other : String) (limit : Nat) : Use σ (List StoredMessage)

/-- What is kept of a message by a store that keeps a record only. -/
structure PersistCall where
  sender : String
  recipient : String
  content : String
  deriving DecidableEq

/-- A state with the store in memory and a record of messages. -/
structure Backend where
  store : Store := {}
  calls : List PersistCall := []

namespace Directory

def memory : Directory Backend where
  userExists identity := .look (·.store.userExists identity)

/-- Knows a fixed set of users. -/
def fixed (users : List String) : Directory Backend where
  userExists identity :=
    .look fun _ => (users.map Identity.normalize).contains (Identity.normalize identity)

def failing (e : CollaboratorError) : Directory Backend where
  userExists _ := .fail e

end Directory

namespace MessageStore

def memory : MessageStore Backend where
  persist sender recipient content sentAt := .answer fun backend =>
    let (message, store) := backend.store.persist sender recipient content sentAt
    (⟨message.id, message.sentAt⟩, { backend with store })

/-- Keeps a record of each message as it was given. -/
def recording : MessageStore Backend where
  persist sender recipient content sentAt := .answer fun backend =>
    let (id, ids) := backend.store.ids.next
    (⟨id, sentAt⟩, { backend with
      calls := backend.calls ++ [⟨sender, recipient, content⟩]
      store := { backend.store with ids } })

def failing (e : CollaboratorError) : MessageStore Backend where
  persist _ _ _ _ := .fail e

def breaking : MessageStore Backend where
  persist _ _ _ _ := .breakOff

end MessageStore

namespace Accounts

def memory : Accounts Backend where
  createUser email passwordHash now := fun backend =>
    let (result, store) := backend.store.createUser email passwordHash now
    (.returned result, { backend with store })
  findByEmail email := .look (·.store.findByEmail email)

def failing (e : CollaboratorError) : Accounts Backend where
  createUser _ _ _ := .fail e
  findByEmail _ := .fail e

end Accounts

namespace Conversations

def memory : Conversations Backend where
  recentChats identity limit := .look (·.store.recentChats identity limit)
  history identity other limit := .look (·.store.history identity other limit)

def failing (e : CollaboratorError) : Conversations Backend where
  recentChats _ _ := .fail e
  history _ _ _ := .fail e

end Conversations

end ChatServer
