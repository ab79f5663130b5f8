import ChatServer.Proofs.Rpc.Operation
import ChatServer.Proofs.Token.Migration

/-! Nobody reads other people's messages. Whatever a caller is shown, by a list of chats, by a
history or by a stream, tells of a stored message from or to the caller's identity; and what is
looked up depends on those messages only, so that nothing about other messages can be found out
from it either.
-/

namespace ChatServer.Rpc

variable {deps : Deps Backend}

-----------------------------------------------------------------------------------------
-- Rows
-----------------------------------------------------------------------------------------

/-- A row that an identity gets tells of a message: as the latest one with the other party, in full,
or as it is delivered.
-/
def Row.TellsOf (identity : String) (stored : StoredMessage) : Row → Prop
  | .chat summary =>
      Store.partner? identity stored = some summary.partner
      ∧ summary.lastMessage = stored.content
      ∧ summary.lastMessageAt = stored.sentAt
  | .message whole => whole = stored
  | .delivery delivered => delivered = Live.shown stored

/-- A caller has been shown a row of a stored message from or to the caller's identity. -/
def Receipt.IsOwn (store : Store) (receipt : Receipt) : Prop :=
  ∃ stored ∈ store.messages,
    stored.Involves receipt.caller.identity
    ∧ receipt.row.TellsOf receipt.caller.identity stored

/-- A receipt stays one's own when more is stored. -/
theorem Receipt.IsOwn.later {before after : Store} {receipt : Receipt} (own : receipt.IsOwn before)
    (grows : ∀ message ∈ before.messages, message ∈ after.messages)
    : receipt.IsOwn after := by
  obtain ⟨stored, member, rest⟩ := own
  exact ⟨stored, grows stored member, rest⟩

section

variable {caller : Token.Caller} {state : State Backend} {receipt : Receipt}

/-- The rows of a list of chats are the caller's own. -/
theorem isOwn_of_listChats (shared : deps.ShareStore)
    (normal : Identity.normalize caller.identity = caller.identity) (requested : Nat)
    (among : receipt
      ∈ receiptsOf caller .chat (listChats deps (some caller) requested state).1)
    : receipt.IsOwn state.world.backend.store := by
  rw [listChats_eq shared] at among
  obtain ⟨summary, listed, rfl⟩ := List.mem_map.mp among
  obtain ⟨stored, member, partner, rest⟩ := Store.mem_recentChats listed
  rw [normal] at partner
  exact ⟨stored, member, Store.involves_of_partner? partner, partner, rest⟩

/-- The rows of a history are the caller's own. -/
theorem isOwn_of_getHistory (shared : deps.ShareStore)
    (normal : Identity.normalize caller.identity = caller.identity) (partner : String)
    (among : receipt
      ∈ receiptsOf caller .message (getHistory deps (some caller) partner state).1)
    : receipt.IsOwn state.world.backend.store := by
  rw [getHistory_eq shared] at among
  simp only at among
  split at among
  next => cases among
  next =>
    obtain ⟨message, inHistory, rfl⟩ := List.mem_map.mp among
    obtain ⟨member, involves⟩ := Store.mem_history inHistory
    rw [normal] at involves
    exact ⟨message, member, involves, rfl⟩

/-- What a caller takes from a stream of its own is the caller's own. -/
theorem isOwn_of_take {number : Nat} {session : Live.Session}
    (discreet : Live.Discreet Backend.store state.world)
    (found : state.world.sessions.get? number = some session)
    (identity : session.identity = caller.identity)
    (among : receipt ∈ receiptOf caller (state.world.take number).1)
    : receipt.IsOwn state.world.backend.store := by
  obtain ⟨delivery, shown, rfl⟩ := Option.map_eq_some_iff.mp (Option.mem_toList.mp among)
  obtain ⟨item, taken, isMessage⟩ := Option.bind_eq_some_iff.mp shown
  have held : delivery ∈ state.world.endpoints.contents number := by
    cases item with
    | failure status => cases isMessage
    | message other =>
        obtain rfl := Option.some.inj isMessage
        exact (state.world.contents_take number).1 other taken
  obtain ⟨stored, member, same, involves⟩ := discreet.held found held
  exact ⟨stored, member, identity ▸ involves, same⟩

end

-----------------------------------------------------------------------------------------
-- Runs
-----------------------------------------------------------------------------------------

/-- Everything that is shown in a run is the caller's own, by induction on the run. -/
theorem Operates.receipts_isOwn (shared : deps.ShareStore) {config : Config} {ids : IdSource}
    {now : Instant} {operation : Operation} {receipts : List Receipt}
    (run : Operates deps (State.ofConfig config ids now) operation receipts)
    : ∀ receipt ∈ receipts, receipt.IsOwn operation.state.world.backend.store := by
  induction run with
  | starts => nofun
  | works run works ih =>
      have messages := (works.moves shared.accounts).messages shared
        (run.orderly shared).discreet.tidy
      exact fun receipt among => (ih receipt among).later messages
  | @passes operation _ state path authorization _ run passed ih =>
      have counted := counted_throughGuard deps path authorization operation.state
      rw [passed] at counted
      rw [counted.backend]
      exact ih
  | lists run known requested ih =>
      have normal := (run.orderly shared).normal _ known
      intro receipt among
      rw [listChats_eq shared]
      rcases List.mem_append.mp among with old | new
      · exact ih receipt old
      · exact isOwn_of_listChats shared normal requested new
  | looksBack run known partner ih =>
      have normal := (run.orderly shared).normal _ known
      intro receipt among
      rw [getHistory_eq shared]
      rcases List.mem_append.mp among with old | new
      · exact ih receipt old
      · exact isOwn_of_getHistory shared normal partner new
  | opens run _ opened ih =>
      have messages := (chatStream_opens opened).1.messages shared
        (run.orderly shared).discreet.tidy
      exact fun receipt among => (ih receipt among).later messages
  | @takes operation _ number caller run own ih =>
      obtain ⟨session, found, identity⟩ := (run.orderly shared).own number caller own
      intro receipt among
      rw [Live.World.backend_take]
      rcases List.mem_append.mp among with old | new
      · exact ih receipt old
      · exact isOwn_of_take (run.orderly shared).discreet found identity new

/-- Whatever is shown to a caller in a run tells of a stored message from or to the caller's
identity; and a caller who has come past the guard gets the same answers to all requests for chats
and histories from any two states with the same messages from or to that identity.
-/
theorem shown_only_own_messages {config : Config} {salt : Nat → List UInt8} {deps : Deps Backend}
    (deployed : Deps.ofConfig config salt = .ok deps) {ids : IdSource} {now : Instant}
    {operation : Operation} {receipts : List Receipt}
    (run : Operates deps (State.ofConfig config ids now) operation receipts)
    : (∀ receipt ∈ receipts, ∃ stored ∈ operation.state.world.backend.store.messages,
        stored.Involves receipt.caller.identity
        ∧ receipt.row.TellsOf receipt.caller.identity stored)
      ∧ ∀ caller ∈ operation.callers, ∀ first second : State Backend,
        first.world.backend.store.messagesOf caller.identity
          = second.world.backend.store.messagesOf caller.identity →
        (∀ requested,
          (listChats deps (some caller) requested first).1
            = (listChats deps (some caller) requested second).1)
        ∧ ∀ partner,
          (getHistory deps (some caller) partner first).1
            = (getHistory deps (some caller) partner second).1 := by
  have shared := Deps.shareStore_of_ofConfig deployed
  refine ⟨run.receipts_isOwn shared, fun caller known first second same => ?_⟩
  rw [← (run.orderly shared).normal caller known] at same
  constructor
  · intro requested
    rw [listChats_eq shared, listChats_eq shared, Store.recentChats_congr same]
  · intro partner
    rw [getHistory_eq shared, getHistory_eq shared, Store.history_congr same]

/-- Two callers with streams, of whom one writes to the other. Each of them gets to see the one
message, and a message between others makes no difference to what they look up.
-/
theorem shown_only_own_messages_of_one_message
    : let key : SigningKey := ⟨"k", ⟨"first-secret-first-secret-first-se"⟩⟩
      let config := Config.plain [key] "k" none
      let a : Token.Caller := ⟨"u1", "a@x"⟩
      let b : Token.Caller := ⟨"u2", "b@x"⟩
      let foreign : StoredMessage := ⟨default, "c@x", "d@x", "psst", ⟨1700000000, 0⟩⟩
      ∃ deps operation receipts,
        Deps.ofConfig config (fun _ => []) = .ok deps
        ∧ Operates deps (State.ofConfig config default ⟨1700000000, 0⟩) operation receipts
        ∧ receipts.map (·.caller) = [a, b, b, a]
        ∧ (∀ receipt ∈ receipts, receipt.IsOwn operation.state.world.backend.store)
        ∧ let store := operation.state.world.backend.store
          let other := operation.state.withBackend
            { store := { store with messages := foreign :: store.messages } }
          (listChats deps (some a) 0 operation.state).1 = (listChats deps (some a) 0 other).1 := by
  intro key config a b foreign
  let broker : Token.Broker := ⟨⟨[key], key⟩, none, config.tokenLifetime, config.clockSkew⟩
  let deps := Deps.inMemory config broker fun _ => []
  have deployed : Deps.ofConfig config (fun _ => []) = .ok deps := rfl
  let claimsOf (caller : Token.Caller) : Token.TokenClaims :=
    ⟨caller.subject, caller.identity, 1700000000, 1700003600⟩
  have verified (caller : Token.Caller)
      (small : (Text.utf8 (Token.Broker.encode key (claimsOf caller))).length ≤ Token.maxSize)
      (settled : Identity.normalize caller.identity = caller.identity)
      (named : caller.identity ≠ "")
      : broker.verify 1700000000 (Token.Broker.encode key (claimsOf caller))
        = .ok ⟨caller.subject, caller.identity, 1700000000, 1700003600, some "k"⟩ := by
    have known : broker.secretFor? (some key.id) = some key.secret := by decide +kernel
    have issued : 0 ≤ (1700000000 : Int) ∧ 1700000000 ≤ Int64.maxValue.toInt := by decide
    have expires : 0 ≤ (1700003600 : Int) ∧ 1700003600 ≤ Int64.maxValue.toInt := by decide
    rw [Token.Broker.verify_encode 1700000000 (by decide) small known issued expires]
    simp only [claimsOf, settled]
    rw [if_pos ⟨by decide, by decide +kernel, named⟩]
  have small (caller : Token.Caller) (among : caller ∈ [a, b])
      : (Text.utf8 (Token.Broker.encode key (claimsOf caller))).length ≤ Token.maxSize := by
    rw [Token.Broker.utf8_encode]
    revert caller
    decide +kernel
  have closed : isPublic Method.listChats.path = false := by decide +kernel
  have room : Live.isCapacity deps.streamBuffer = true := by decide
  have run : Operates deps (State.ofConfig config default ⟨1700000000, 0⟩) _ _ := .starts
  have run := run.passes_of_verified closed rfl
    (verified a (small a (by decide)) (by decide +kernel) (by decide))
  have run := run.passes_of_verified closed rfl
    (verified b (small b (by decide)) (by decide +kernel) (by decide))
  have run := run.works (.creates "b@x" "hash" ⟨0, 0⟩)
  have run := run.opens (show a ∈ _ by decide) ((chatStream_eq a _ _).trans (if_pos room))
  have run := run.opens (show b ∈ _ by decide) ((chatStream_eq b _ _).trans (if_pos room))
  have run := run.works (.feeds 1 [.ok ⟨" B@X", "hello"⟩])
  -- The session of the first stream takes, asks, stores, acknowledges and delivers.
  have run := run.turns [1, 1, 1, 1, 1]
  have run := run.takes (show (1, a) ∈ _ by decide +kernel)
  have run := run.takes (show (2, b) ∈ _ by decide +kernel)
  have run := run.lists (show b ∈ _ by decide) 0
  have run := run.looksBack (show a ∈ _ by decide) "b@x"
  obtain ⟨own, alike⟩ := shown_only_own_messages deployed run
  refine ⟨deps, _, _, deployed, run, by decide +kernel, own, ?_⟩
  exact (alike a (by decide) _ _ (by decide +kernel)).1 0

end ChatServer.Rpc
