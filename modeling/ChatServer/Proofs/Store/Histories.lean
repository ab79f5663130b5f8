import ChatServer.Proofs.Store.Visibility
import ChatServer.Proofs.Text.Normalization

/-! Histories of conversations. Either party may ask, and either may be given in any spelling; it is
the same history. A message is in it unless the limit is used up by others that are as late or
later.
-/

namespace ChatServer.Store

/-- The messages of a store between two identities, in the order in which they were stored. -/
def conversation (store : Store) (one other : String) : List StoredMessage :=
  store.messages.filter (isBetween (Identity.normalize one) (Identity.normalize other))

variable {store : Store} {one other : String} {limit : Nat}

-----------------------------------------------------------------------------------------
-- Who asks for whom
-----------------------------------------------------------------------------------------

theorem history_eq (store : Store) (one other : String) (limit : Nat)
    : store.history one other limit
      = ((store.conversation one other).mergeSort isNotLater).drop
          (((store.conversation one other).mergeSort isNotLater).length - limit) :=
  rfl

/-- A history does not depend on how the parties are spelled. -/
theorem history_spelled {one' other' : String}
    (same : Identity.normalize one = Identity.normalize one')
    (alike : Identity.normalize other = Identity.normalize other')
    : store.history one other limit = store.history one' other' limit := by
  simp only [history_eq, conversation, same, alike]

/-- It does not depend on which of the parties asks, either. -/
theorem history_comm (store : Store) (one other : String) (limit : Nat)
    : store.history one other limit = store.history other one limit := by
  have either (first second : String) : isBetween first second = isBetween second first :=
    funext fun _ => Bool.or_comm _ _
  simp only [history_eq, conversation, either (Identity.normalize one)]

-----------------------------------------------------------------------------------------
-- The latest messages
-----------------------------------------------------------------------------------------

theorem isNotLater_refl (message : StoredMessage) : isNotLater message message = true := by
  simp [isNotLater, Instant.isLater]

theorem isNotLater_trans {first second third : StoredMessage}
    (early : isNotLater first second = true) (late : isNotLater second third = true)
    : isNotLater first third = true := by
  simp only [isNotLater, Instant.isLater, Bool.not_eq_true', Bool.or_eq_false_iff,
    Bool.and_eq_false_iff, decide_eq_false_iff_not, beq_eq_false_iff_ne] at *
  omega

theorem isNotLater_total (first second : StoredMessage)
    : (isNotLater first second || isNotLater second first) = true := by
  cases later : first.sentAt.isLater second.sentAt with
  | false => simp [isNotLater, later]
  | true => simp [isNotLater, Instant.isLater_asymm later]

/-- A message of a conversation is in its history if no more messages than the limit, with itself,
are as late or later.
-/
theorem mem_history_of_recent {message : StoredMessage}
    (member : message ∈ store.conversation one other)
    (recent : (store.conversation one other).countP (isNotLater message) ≤ limit)
    : message ∈ store.history one other limit := by
  rw [history_eq]
  have perm := List.mergeSort_perm (store.conversation one other) isNotLater
  have sorted := @List.pairwise_mergeSort _ isNotLater (fun _ _ _ => isNotLater_trans)
    isNotLater_total (store.conversation one other)
  rw [← perm.countP_eq] at recent
  generalize (store.conversation one other).mergeSort isNotLater = messages at perm sorted recent ⊢
  obtain ⟨earlier, later, rfl⟩ := List.append_of_mem (perm.mem_iff.mpr member)
  have behind : ∀ next ∈ message :: later, isNotLater message next = true := by
    refine List.forall_mem_cons.mpr ⟨isNotLater_refl message, ?_⟩
    exact (List.pairwise_cons.mp (List.pairwise_append.mp sorted).2.1).1
  have counted := List.countP_eq_length.mpr behind
  rw [List.countP_append, counted] at recent
  rw [List.length_append, List.drop_append_of_le_length (by omega)]
  exact List.mem_append_right _ List.mem_cons_self

/-- Of messages that were stored in the order of time the history shows the last ones. -/
theorem history_of_inOrder
    (inOrder : (store.conversation one other).Pairwise fun first second =>
      isNotLater first second = true)
    : store.history one other limit
      = (store.conversation one other).drop ((store.conversation one other).length - limit) := by
  rw [history_eq, List.mergeSort_of_pairwise inOrder]

-----------------------------------------------------------------------------------------
-- Many messages at one time
-----------------------------------------------------------------------------------------

/-- A store after so many messages of one party to another, all at one time. -/
def filled (store : Store) (sender recipient content : String) (sentAt : Instant) : Nat → Store
  | 0 => store
  | n + 1 => ((store.filled sender recipient content sentAt n).persist sender recipient content
      sentAt).2

/-- The messages are the same but for their ids, by induction on their number. -/
theorem messages_filled (store : Store) (sender recipient content : String) (sentAt : Instant)
    (n : Nat)
    : let later := store.filled sender recipient content sentAt n
      later.messages = store.messages ++ (List.range n).map (fun i =>
        ⟨store.ids.draw (store.ids.used + i), Identity.normalize sender,
          Identity.normalize recipient, content, sentAt⟩)
      ∧ later.ids = { store.ids with used := store.ids.used + n }
      ∧ later.users = store.users := by
  induction n with
  | zero => simp [filled]
  | succ n ih =>
      obtain ⟨messages, ids, users⟩ := ih
      refine ⟨?_, ?_, users⟩
      · change (store.filled sender recipient content sentAt n).messages ++ [_] = _
        rw [messages, List.range_succ, List.map_append, List.append_assoc, ids]
        rfl
      · change (store.filled sender recipient content sentAt n).ids.next.2 = _
        rw [ids]
        rfl

/-- Of messages at one time the history shows those that were stored last. -/
theorem history_filled {store : Store} (empty : store.messages = [])
    (sender recipient content : String) (sentAt : Instant) (n limit : Nat)
    : let later := store.filled sender recipient content sentAt n
      later.history sender recipient limit = later.messages.drop (n - limit) := by
  intro later
  obtain ⟨messages, _, _⟩ := messages_filled store sender recipient content sentAt n
  rw [empty, List.nil_append] at messages
  have between : later.conversation sender recipient = later.messages := by
    refine List.filter_eq_self.mpr fun message among => ?_
    obtain ⟨_, _, rfl⟩ := List.mem_map.mp (messages ▸ among)
    simp [isBetween]
  have inOrder : (later.conversation sender recipient).Pairwise fun first second =>
      isNotLater first second = true := by
    rw [between]
    refine List.pairwise_of_forall_mem_list fun first among second also => ?_
    obtain ⟨_, _, rfl⟩ := List.mem_map.mp (messages ▸ among)
    obtain ⟨_, _, rfl⟩ := List.mem_map.mp (messages ▸ also)
    simp [isNotLater, Instant.isLater]
  have length : later.messages.length = n := by
    rw [messages, List.length_map, List.length_range]
  rw [history_of_inOrder inOrder, between, length]

end ChatServer.Store
