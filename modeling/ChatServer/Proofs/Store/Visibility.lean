import ChatServer.Proofs.Tables
import ChatServer.Store.Conversation

/-! What the store shows to whom. Both ways to look up conversations see only messages from or to
the identity that asks: what they show comes from such a message, and stores with the same ones in
the same order show the same.
-/

namespace ChatServer

/-- An identity is the sender or the recipient of a message. -/
def StoredMessage.Involves (identity : String) (message : StoredMessage) : Prop :=
  message.sender = identity ∨ message.recipient = identity

instance (identity : String) : DecidablePred (StoredMessage.Involves identity) := fun message =>
  inferInstanceAs (Decidable (message.sender = identity ∨ message.recipient = identity))

/-- An entry of a table in which a value has been set is the new one or an old one. -/
theorem Table.mem_set {κ ν : Type} [DecidableEq κ] {table : Table κ ν} {key : κ} {value : ν}
    {entry : κ × ν} (member : entry ∈ (table.set key value).entries)
    : entry = (key, value) ∨ entry ∈ table.entries := by
  have within (entries : List (κ × ν)) (member : entry ∈ setIn key value entries)
      : entry = (key, value) ∨ entry ∈ entries := by
    induction entries with
    | nil => exact .inl (List.mem_singleton.mp member)
    | cons first rest ih =>
        rw [setIn] at member
        split at member
        next =>
          rcases List.mem_cons.mp member with new | old
          · exact .inl new
          · exact .inr (List.mem_cons_of_mem first old)
        next =>
          rcases List.mem_cons.mp member with same | later
          · exact .inr (List.mem_cons.mpr (.inl same))
          · exact (ih later).imp_right (List.mem_cons_of_mem first)
  exact within table.entries member

namespace Store

-----------------------------------------------------------------------------------------
-- The latest messages
-----------------------------------------------------------------------------------------

/-- The messages of a store that an identity is part of, in the order in which they were stored. -/
def messagesOf (store : Store) (identity : String) : List StoredMessage :=
  store.messages.filter (StoredMessage.Involves identity)

/-- A message that does not involve an identity has no partner for it. -/
theorem partner?_of_not_involves {identity : String} {message : StoredMessage}
    (foreign : ¬ message.Involves identity)
    : partner? identity message = none := by
  obtain ⟨sender, recipient⟩ := not_or.mp foreign
  rw [partner?, if_neg sender, if_neg recipient]

theorem involves_of_partner? {identity partner : String} {message : StoredMessage}
    (found : partner? identity message = some partner)
    : message.Involves identity := by
  refine Decidable.byContradiction fun foreign => ?_
  rw [partner?_of_not_involves foreign] at found
  cases found

/-- Messages that do not involve an identity make no difference to its latest ones, by induction on
the messages.
-/
theorem foldl_noteLatest_filter (identity : String) (messages : List StoredMessage)
    (latest : Table String StoredMessage)
    : (messages.filter (StoredMessage.Involves identity)).foldl (noteLatest identity) latest
      = messages.foldl (noteLatest identity) latest := by
  induction messages generalizing latest with
  | nil => rfl
  | cons message rest ih =>
      by_cases own : message.Involves identity
      · rw [List.filter_cons_of_pos (by simpa using own)]
        exact ih _
      · have passedOver : noteLatest identity latest message = latest := by
          rw [noteLatest, partner?_of_not_involves own]
        rw [List.filter_cons_of_neg (by simpa using own), List.foldl_cons, passedOver]
        exact ih latest

/-- Every entry of a table of latest messages is a message with the partner that it stands under. -/
def AreNoted (identity : String) (messages : List StoredMessage)
    (latest : Table String StoredMessage) : Prop :=
  ∀ entry ∈ latest.entries,
    entry.2 ∈ messages ∧ partner? identity entry.2 = some entry.1

theorem AreNoted.noteLatest {identity : String} {messages : List StoredMessage}
    {latest : Table String StoredMessage} (h : AreNoted identity messages latest)
    {message : StoredMessage} (member : message ∈ messages)
    : AreNoted identity messages (Store.noteLatest identity latest message) := by
  have putting {partner : String} (found : partner? identity message = some partner)
      : AreNoted identity messages (latest.set partner message) := by
    intro entry held
    rcases Table.mem_set held with rfl | old
    · exact ⟨member, found⟩
    · exact h entry old
  unfold Store.noteLatest
  split
  next => exact h
  next partner found =>
    split
    next =>
      split
      next => exact h
      next => exact putting found
    next => exact putting found

/-- The latest messages are some of the messages, by induction on those that are still to come. -/
theorem areNoted_latestByPartner (identity : String) (messages : List StoredMessage)
    : AreNoted identity messages (latestByPartner identity messages) := by
  have along (rest : List StoredMessage) (among : ∀ message ∈ rest, message ∈ messages)
      {latest : Table String StoredMessage} (h : AreNoted identity messages latest)
      : AreNoted identity messages (rest.foldl (noteLatest identity) latest) := by
    induction rest generalizing latest with
    | nil => exact h
    | cons message rest ih =>
        obtain ⟨first, later⟩ := List.forall_mem_cons.mp among
        exact ih later (h.noteLatest first)
  exact along messages (fun _ => id) (fun _ held => by cases held)

-----------------------------------------------------------------------------------------
-- Chats and histories
-----------------------------------------------------------------------------------------

/-- A chat that is listed shows the text and the time of a message from or to the identity that
asks, under the other party.
-/
theorem mem_recentChats {store : Store} {identity : String} {limit : Nat} {summary : ChatSummary}
    (listed : summary ∈ store.recentChats identity limit)
    : ∃ message ∈ store.messages,
        partner? (Identity.normalize identity) message = some summary.partner
        ∧ summary.lastMessage = message.content
        ∧ summary.lastMessageAt = message.sentAt := by
  have sorted := List.mem_mergeSort.mp (List.mem_of_mem_take listed)
  obtain ⟨⟨partner, message⟩, held, rfl⟩ := List.mem_map.mp sorted
  obtain ⟨member, found⟩ :=
    areNoted_latestByPartner (Identity.normalize identity) store.messages _ held
  exact ⟨message, member, found, rfl, rfl⟩

/-- A history shows messages from or to the identity that asks. -/
theorem mem_history {store : Store} {identity other : String} {limit : Nat}
    {message : StoredMessage} (shown : message ∈ store.history identity other limit)
    : message ∈ store.messages ∧ message.Involves (Identity.normalize identity) := by
  have sorted := List.mem_mergeSort.mp (List.mem_of_mem_drop shown)
  obtain ⟨member, between⟩ := List.mem_filter.mp sorted
  refine ⟨member, ?_⟩
  simp only [isBetween, Bool.or_eq_true, Bool.and_eq_true, decide_eq_true_eq] at between
  exact between.imp And.left And.right

/-- The chats of an identity depend on its own messages only. -/
theorem recentChats_congr {first second : Store} {identity : String}
    (same : first.messagesOf (Identity.normalize identity)
      = second.messagesOf (Identity.normalize identity))
    (limit : Nat)
    : first.recentChats identity limit = second.recentChats identity limit := by
  have latest : latestByPartner (Identity.normalize identity) first.messages
      = latestByPartner (Identity.normalize identity) second.messages := by
    rw [latestByPartner, ← foldl_noteLatest_filter, ← messagesOf, same, messagesOf,
      foldl_noteLatest_filter, latestByPartner]
  rw [recentChats, latest, recentChats]

/-- The history of an identity with anybody depends on its own messages only. -/
theorem history_congr {first second : Store} {identity : String}
    (same : first.messagesOf (Identity.normalize identity)
      = second.messagesOf (Identity.normalize identity))
    (other : String) (limit : Nat)
    : first.history identity other limit = second.history identity other limit := by
  have own (store : Store)
      : store.messages.filter
          (isBetween (Identity.normalize identity) (Identity.normalize other))
        = (store.messagesOf (Identity.normalize identity)).filter
          (isBetween (Identity.normalize identity) (Identity.normalize other)) := by
    rw [messagesOf, List.filter_filter]
    refine List.filter_congr fun message _ => ?_
    rw [Bool.eq_iff_iff, Bool.and_eq_true, decide_eq_true_eq]
    refine ⟨fun between => ⟨between, ?_⟩, And.left⟩
    simp only [isBetween, Bool.or_eq_true, Bool.and_eq_true, decide_eq_true_eq] at between
    exact between.imp And.left And.right
  rw [history, own first, same, ← own second, history]

end Store

end ChatServer
