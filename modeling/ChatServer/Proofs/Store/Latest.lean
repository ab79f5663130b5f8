import ChatServer.Proofs.Store.Histories
import Mathlib.Data.List.Basic
import Mathlib.Data.List.Induction

/-! The latest of some messages, of which the one stored last counts among those at one time. Both
ways to look up conversations come to it: the table of latest messages keeps it by comparing as
messages are passed, and a history ends with it since sorting keeps messages of one time in order.
-/

namespace ChatServer

-----------------------------------------------------------------------------------------
-- The order of time
-----------------------------------------------------------------------------------------

namespace Instant

theorem isLater_iff {first second : Instant}
    : first.isLater second = true
      ↔ second.seconds < first.seconds
        ∨ first.seconds = second.seconds ∧ second.nanos < first.nanos := by
  simp only [isLater, Bool.or_eq_true, Bool.and_eq_true, decide_eq_true_eq, beq_iff_eq, gt_iff_lt]

theorem isLater_trans {first second third : Instant} (early : first.isLater second = true)
    (late : second.isLater third = true)
    : first.isLater third = true := by
  rw [isLater_iff] at *
  omega

/-- Of two points of time neither of which is later, there is one only. -/
theorem eq_of_not_isLater {first second : Instant} (one : first.isLater second = false)
    (other : second.isLater first = false)
    : first = second := by
  obtain ⟨seconds, nanos⟩ := first
  obtain ⟨seconds', nanos'⟩ := second
  rw [← Bool.not_eq_true, isLater_iff] at one other
  simp only [mk.injEq] at *
  omega

end Instant

namespace Store

-----------------------------------------------------------------------------------------
-- The latest message
-----------------------------------------------------------------------------------------

theorem isNotLater_iff {first second : StoredMessage}
    : isNotLater first second = true ↔ first.sentAt.isLater second.sentAt = false := by
  rw [isNotLater, Bool.not_eq_true']

/-- A message is the latest of some messages: none before it is later, and each behind it is
earlier.
-/
def IsLatest (messages : List StoredMessage) (message : StoredMessage) : Prop :=
  ∃ before behind,
    messages = before ++ message :: behind
    ∧ (∀ other ∈ before, other.sentAt.isLater message.sentAt = false)
    ∧ ∀ other ∈ behind, message.sentAt.isLater other.sentAt = true

/-- The later of the latest message so far and one that comes behind it. -/
def laterOf : Option StoredMessage → StoredMessage → StoredMessage
  | none, message => message
  | some earlier, message =>
    if earlier.sentAt.isLater message.sentAt then earlier else message

/-- The latest message, found by passing the messages in order. -/
def latest? (messages : List StoredMessage) : Option StoredMessage :=
  messages.foldl (fun latest message => some (laterOf latest message)) none

theorem latest?_concat (messages : List StoredMessage) (message : StoredMessage)
    : latest? (messages ++ [message]) = some (laterOf (latest? messages) message) := by
  rw [latest?, List.foldl_append]
  rfl

theorem latest?_eq_none_iff {messages : List StoredMessage}
    : latest? messages = none ↔ messages = [] := by
  rcases List.eq_nil_or_concat' messages with rfl | ⟨before, message, rfl⟩
  · exact iff_of_true rfl rfl
  · simp [latest?_concat]

/-- No message is later than the latest. -/
theorem IsLatest.not_later {messages : List StoredMessage} {message : StoredMessage}
    (h : IsLatest messages message)
    : ∀ other ∈ messages, other.sentAt.isLater message.sentAt = false := by
  obtain ⟨before, behind, rfl, notLater, earlier⟩ := h
  intro other among
  rcases List.mem_append.mp among with first | rest
  · exact notLater other first
  · rcases List.mem_cons.mp rest with rfl | last
    · exact isNotLater_iff.mp (isNotLater_refl other)
    · exact Instant.isLater_asymm (earlier other last)

theorem IsLatest.mem {messages : List StoredMessage} {message : StoredMessage}
    (h : IsLatest messages message) : message ∈ messages := by
  obtain ⟨before, behind, rfl, _⟩ := h
  exact List.mem_append_right before List.mem_cons_self

/-- Passing the messages finds the latest one, by induction from the last. -/
theorem isLatest_of_latest? {messages : List StoredMessage} {message : StoredMessage}
    (found : latest? messages = some message)
    : IsLatest messages message := by
  induction messages using List.reverseRecOn generalizing message with
  | nil => cases found
  | append_singleton before last ih =>
      rw [latest?_concat, Option.some.injEq] at found
      cases sofar : latest? before with
      | none =>
          obtain rfl := latest?_eq_none_iff.mp sofar
          subst found
          exact ⟨[], [], rfl, by simp, by simp⟩
      | some earlier =>
          have latest := ih sofar
          rw [sofar, laterOf] at found
          split at found
          next later =>
            subst found
            obtain ⟨front, behind, rfl, notLater, after⟩ := latest
            refine ⟨front, behind ++ [last], by simp, notLater, ?_⟩
            exact List.forall_mem_append.mpr ⟨after, List.forall_mem_singleton.mpr later⟩
          next notLater =>
            subst found
            refine ⟨before, [], rfl, fun other among => ?_, by simp⟩
            have upTo := isNotLater_iff.mpr (latest.not_later other among)
            exact isNotLater_iff.mp
              (isNotLater_trans upTo (isNotLater_iff.mpr (Bool.not_eq_true _ ▸ notLater)))

/-- Between a message that is later than those behind it and one that none before it is later than,
there is nothing: they are at one place.
-/
theorem eq_of_gap {message message' : StoredMessage} {behind behind' gap : List StoredMessage}
    (same : message :: behind = gap ++ message' :: behind')
    (earlier : ∀ other ∈ behind, message.sentAt.isLater other.sentAt = true)
    (notLater : ∀ other ∈ gap, other.sentAt.isLater message'.sentAt = false)
    : message = message' := by
  cases gap with
  | nil => exact (List.cons.inj same).1
  | cons head gap =>
      obtain ⟨rfl, rest⟩ := List.cons.inj same
      have after := earlier message' (rest ▸ by simp)
      rw [notLater message List.mem_cons_self] at after
      cases after

/-- There is one latest message only. -/
theorem IsLatest.unique {messages : List StoredMessage} {one other : StoredMessage}
    (first : IsLatest messages one) (second : IsLatest messages other)
    : one = other := by
  obtain ⟨before, behind, split, notLater, earlier⟩ := first
  obtain ⟨before', behind', split', notLater', earlier'⟩ := second
  rw [split] at split'
  rcases List.append_eq_append_iff.mp split' with ⟨gap, rfl, same⟩ | ⟨gap, rfl, same⟩
  · exact eq_of_gap same earlier fun next among => notLater' next (List.mem_append_right _ among)
  · exact (eq_of_gap same earlier' fun next among =>
      notLater next (List.mem_append_right _ among)).symm

theorem latest?_eq_some_iff {messages : List StoredMessage} {message : StoredMessage}
    : latest? messages = some message ↔ IsLatest messages message := by
  refine ⟨isLatest_of_latest?, fun latest => ?_⟩
  cases found : latest? messages with
  | none =>
      rw [latest?_eq_none_iff.mp found] at latest
      cases latest.mem
  | some other => rw [(isLatest_of_latest? found).unique latest]

-----------------------------------------------------------------------------------------
-- Sorting
-----------------------------------------------------------------------------------------

/-- Sorting keeps what has messages of one time in its order, whatever else there is about it. -/
theorem filter_mergeSort {α : Type} (message : α → StoredMessage) (entries : List α)
    (time : Instant)
    : (entries.mergeSort fun first second => isNotLater (message first) (message second)).filter
        (fun entry => (message entry).sentAt = time)
      = entries.filter (fun entry => (message entry).sentAt = time) := by
  have level : (entries.filter fun entry => (message entry).sentAt = time).Pairwise
      fun first second => isNotLater (message first) (message second) = true := by
    refine List.pairwise_of_forall_mem_list fun first among second also => ?_
    have same := of_decide_eq_true (List.mem_filter.mp among).2
    have alike := of_decide_eq_true (List.mem_filter.mp also).2
    simp [isNotLater, Instant.isLater, same, alike]
  have inOrder : (entries.filter fun entry => (message entry).sentAt = time).Sublist
      (entries.mergeSort fun first second => isNotLater (message first) (message second)) :=
    @List.sublist_mergeSort _ (fun first second => isNotLater (message first) (message second)) _
      (fun _ _ _ => isNotLater_trans) (fun _ _ => isNotLater_total _ _) _ level List.filter_sublist
  have kept := inOrder.filter fun entry => (message entry).sentAt = time
  rw [List.filter_filter, List.filter_congr fun _ _ => Bool.and_self _] at kept
  refine (kept.eq_of_length ?_).symm
  exact ((List.mergeSort_perm entries _).filter _).length_eq.symm

/-- The last of sorted messages is the latest. -/
theorem getLast?_mergeSort (messages : List StoredMessage)
    : (messages.mergeSort isNotLater).getLast? = latest? messages := by
  cases found : latest? messages with
  | none => rw [latest?_eq_none_iff.mp found, List.mergeSort_nil, List.getLast?_nil]
  | some message =>
      have latest := isLatest_of_latest? found
      have perm := List.mergeSort_perm messages isNotLater
      have sorted := @List.pairwise_mergeSort _ isNotLater (fun _ _ _ => isNotLater_trans)
        isNotLater_total messages
      have stable : (messages.mergeSort isNotLater).filter (·.sentAt = message.sentAt)
          = messages.filter (·.sentAt = message.sentAt) :=
        filter_mergeSort id messages message.sentAt
      generalize messages.mergeSort isNotLater = inOrder at perm sorted stable ⊢
      have among := perm.mem_iff.mpr latest.mem
      rcases List.eq_nil_or_concat' inOrder with rfl | ⟨front, last, rfl⟩
      · cases among
      -- The last one is at the same time as the latest, and so is the last one of that time.
      have atMost := latest.not_later last (perm.mem_iff.mp (by simp))
      have atLeast : message.sentAt.isLater last.sentAt = false := by
        rcases List.mem_append.mp among with before | itself
        · exact isNotLater_iff.mp ((List.pairwise_append.mp sorted).2.2 _ before _ (by simp))
        · obtain rfl := List.mem_singleton.mp itself
          exact isNotLater_iff.mp (isNotLater_refl message)
      have same : last.sentAt = message.sentAt := Instant.eq_of_not_isLater atMost atLeast
      obtain ⟨before, behind, rfl, _, earlier⟩ := latest
      have nobody : behind.filter (·.sentAt = message.sentAt) = [] := by
        refine List.filter_eq_nil_iff.mpr fun other member alike => ?_
        have after := earlier other member
        rw [of_decide_eq_true alike] at after
        exact Bool.noConfusion (after.symm.trans (isNotLater_iff.mp (isNotLater_refl message)))
      have ends := congrArg List.getLast? stable
      simp only [List.filter_append, List.filter_cons, nobody, same, decide_true, if_true,
        List.filter_nil, List.getLast?_append, List.getLast?_singleton, Option.some_or] at ends
      rw [List.getLast?_concat, ends]

-----------------------------------------------------------------------------------------
-- The table of latest messages
-----------------------------------------------------------------------------------------

/-- The other party of a message is somebody if it is between the two. -/
theorem partner?_eq_some_iff {identity partner : String} {message : StoredMessage}
    : partner? identity message = some partner ↔ isBetween identity partner message = true := by
  simp only [partner?, isBetween, Bool.or_eq_true, Bool.and_eq_true, decide_eq_true_eq]
  by_cases sent : message.sender = identity
  · rw [if_pos sent, Option.some.injEq]
    constructor
    · exact fun recipient => .inl ⟨sent, recipient⟩
    · rintro (⟨_, recipient⟩ | ⟨sender, recipient⟩)
      · exact recipient
      · rw [recipient, ← sent, sender]
  · rw [if_neg sent]
    by_cases received : message.recipient = identity
    · simp [received, sent]
    · simp [received, sent]

/-- Taking in a message makes it the latest with its partner unless there is a later one, and
changes nothing for anybody else.
-/
theorem get?_noteLatest (identity partner : String) (latest : Table String StoredMessage)
    (message : StoredMessage)
    : (noteLatest identity latest message).get? partner
      = if isBetween identity partner message then some (laterOf (latest.get? partner) message)
        else latest.get? partner := by
  cases found : partner? identity message with
  | none =>
      have apart : ¬ isBetween identity partner message = true := by
        rw [← partner?_eq_some_iff, found]
        simp
      simp only [noteLatest, found, if_neg apart]
  | some other =>
      by_cases same : partner = other
      · subst same
        have between := partner?_eq_some_iff.mp found
        cases held : latest.get? partner with
        | none => simp only [noteLatest, found, held, between, if_true, Table.get?_set, laterOf]
        | some earlier =>
            simp only [noteLatest, found, held, between, if_true, laterOf]
            split
            next => exact held
            next => rw [Table.get?_set, if_pos rfl]
      · have apart : ¬ isBetween identity partner message = true := by
          rw [← partner?_eq_some_iff, found, Option.some.injEq]
          exact Ne.symm same
        have kept : (latest.set other message).get? partner = latest.get? partner := by
          rw [Table.get?_set, if_neg same]
        cases held : latest.get? other with
        | none => simp only [noteLatest, found, held, if_neg apart, kept]
        | some earlier =>
            simp only [noteLatest, found, held, if_neg apart]
            split
            next => rfl
            next => exact kept

/-- The table holds the latest message with each partner, by induction from the last message. -/
theorem get?_latestByPartner (identity partner : String) (messages : List StoredMessage)
    : (latestByPartner identity messages).get? partner
      = latest? (messages.filter (isBetween identity partner)) := by
  induction messages using List.reverseRecOn with
  | nil => rfl
  | append_singleton before last ih =>
      have step : latestByPartner identity (before ++ [last])
          = noteLatest identity (latestByPartner identity before) last := by
        rw [latestByPartner, List.foldl_append]
        rfl
      rw [step, get?_noteLatest, ih, List.filter_append]
      cases between : isBetween identity partner last with
      | true => simp [between, latest?_concat]
      | false => simp [between]

/-- No partner is in the table twice, by induction from the last message. -/
theorem distinct_latestByPartner (identity : String) (messages : List StoredMessage)
    : (latestByPartner identity messages).Distinct := by
  have step {latest : Table String StoredMessage} (h : latest.Distinct) (message : StoredMessage)
      : (noteLatest identity latest message).Distinct := by
    unfold noteLatest
    split
    next => exact h
    next =>
      split
      next =>
        split
        next => exact h
        next => exact h.set _ _
      next => exact h.set _ _
  exact List.foldlRecOn messages (noteLatest identity) List.nodup_nil fun _ h message _ =>
    step h message

end Store

end ChatServer
