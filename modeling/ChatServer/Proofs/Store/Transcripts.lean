import ChatServer.Proofs.Store.Latest
import Mathlib.Data.List.Perm.Basic
import Mathlib.Data.List.Nodup

/-! Transcripts. A transcript of a conversation has every message of it once, with its place in the
log, in the order of time and, at one time, in the order in which the messages were stored. This
says which list it is, and a history is the end of it.
-/

namespace ChatServer.Store

-----------------------------------------------------------------------------------------
-- Messages with their places
-----------------------------------------------------------------------------------------

/-- A message stands before another one: it was sent earlier, or at the same time and stored
earlier.
-/
def StandsBefore (first second : StoredMessage × Nat) : Prop :=
  second.1.sentAt.isLater first.1.sentAt = true
    ∨ first.1.sentAt = second.1.sentAt ∧ first.2 < second.2

instance (first second : StoredMessage × Nat) : Decidable (StandsBefore first second) :=
  inferInstanceAs (Decidable (_ ∨ _))

/-- No two messages stand before each other. -/
theorem StandsBefore.asymm {first second : StoredMessage × Nat} (front : StandsBefore first second)
    (back : StandsBefore second first) : False := by
  have still (time : Instant) : time.isLater time = false := by simp [Instant.isLater]
  rcases front with later | ⟨same, early⟩ <;> rcases back with earlier | ⟨alike, late⟩
  · rw [Instant.isLater_asymm later] at earlier
    cases earlier
  · rw [alike, still] at later
    cases later
  · rw [same, still] at earlier
    cases earlier
  · exact Nat.lt_asymm early late

/-- The messages between two identities, whoever of them sent them, with their places in the log:
each is there once, and they stand in the order of time and of storing.
-/
structure IsTranscript (store : Store) (one other : String)
    (transcript : List (StoredMessage × Nat)) : Prop where
  complete
    : ∀ message place, (message, place) ∈ transcript ↔
        store.messages[place]? = some message
        ∧ (message.sender = Identity.normalize one ∧ message.recipient = Identity.normalize other
          ∨ message.sender = Identity.normalize other ∧ message.recipient = Identity.normalize one)
  once : (transcript.map (·.2)).Nodup
  ordered : transcript.Pairwise StandsBefore

/-- There is one transcript only. -/
theorem IsTranscript.unique {store : Store} {one other : String}
    {transcript another : List (StoredMessage × Nat)} (h : store.IsTranscript one other transcript)
    (also : store.IsTranscript one other another)
    : transcript = another := by
  have perm : transcript.Perm another := by
    refine (List.perm_ext_iff_of_nodup (List.Nodup.of_map _ h.once)
      (List.Nodup.of_map _ also.once)).mpr ?_
    rintro ⟨message, place⟩
    exact (h.complete message place).trans (also.complete message place).symm
  exact perm.eq_of_pairwise (fun _ _ _ _ front back => (front.asymm back).elim) h.ordered
    also.ordered

-----------------------------------------------------------------------------------------
-- Sorting with places
-----------------------------------------------------------------------------------------

/-- The messages of a conversation with their places in the log, as they were stored. -/
def numbered (store : Store) (one other : String) : List (StoredMessage × Nat) :=
  store.messages.zipIdx.filter fun entry =>
    isBetween (Identity.normalize one) (Identity.normalize other) entry.1

/-- They are sorted by the times of the messages alone. -/
def transcribed (store : Store) (one other : String) : List (StoredMessage × Nat) :=
  (store.numbered one other).mergeSort fun first second => isNotLater first.1 second.1

variable {store : Store} {one other : String}

/-- The places in the log go up. -/
theorem pairwise_numbered (store : Store) (one other : String)
    : (store.numbered one other).Pairwise fun first second => first.2 < second.2 := by
  have places : (store.messages.zipIdx.map (·.2)).Pairwise (· < ·) := by
    rw [List.zipIdx_map_snd]
    exact List.pairwise_lt_range'
  exact (List.pairwise_map.mp places).sublist List.filter_sublist

theorem map_numbered (store : Store) (one other : String)
    : (store.numbered one other).map (·.1) = store.conversation one other := by
  rw [conversation, ← List.zipIdx_map_fst 0 store.messages, List.filter_map]
  rfl

/-- Without their places, they are the sorted messages of the conversation. -/
theorem map_transcribed (store : Store) (one other : String)
    : (store.transcribed one other).map (·.1)
      = (store.conversation one other).mergeSort isNotLater := by
  rw [transcribed, ← map_numbered]
  exact List.map_mergeSort fun _ _ _ _ => rfl

/-- Sorting by time keeps the order of storing among messages of one time. -/
theorem pairwise_transcribed (store : Store) (one other : String)
    : (store.transcribed one other).Pairwise StandsBefore := by
  have sorted := @List.pairwise_mergeSort _ (fun first second : StoredMessage × Nat =>
    isNotLater first.1 second.1) (fun _ _ _ => isNotLater_trans) (fun _ _ => isNotLater_total _ _)
    (store.numbered one other)
  refine List.pairwise_iff_forall_sublist.mpr fun {first second} pair => ?_
  have notLater := isNotLater_iff.mp
    (List.pairwise_iff_forall_sublist.mp sorted pair)
  cases later : second.1.sentAt.isLater first.1.sentAt with
  | true => exact .inl later
  | false =>
      have same := Instant.eq_of_not_isLater notLater later
      have level := pair.filter fun entry => entry.1.sentAt = second.1.sentAt
      rw [transcribed, filter_mergeSort Prod.fst] at level
      have stored : [first, second].Sublist (store.numbered one other) := by
        simpa [same] using level.trans List.filter_sublist
      exact .inr ⟨same, List.pairwise_iff_forall_sublist.mp
        (pairwise_numbered store one other) stored⟩

/-- The messages of a conversation with their places make a transcript when they are in order. -/
theorem isTranscript_of_perm {transcript : List (StoredMessage × Nat)}
    (perm : transcript.Perm (store.numbered one other)) (ordered : transcript.Pairwise StandsBefore)
    : store.IsTranscript one other transcript where
  complete message place := by
    rw [perm.mem_iff, numbered, List.mem_filter, List.mk_mem_zipIdx_iff_getElem?]
    simp only [isBetween, Bool.or_eq_true, Bool.and_eq_true, decide_eq_true_eq]
  once := by
    apply (perm.map (·.2)).nodup_iff.mpr
    apply List.pairwise_map.mpr
    exact (pairwise_numbered store one other).imp Nat.ne_of_lt
  ordered := ordered

theorem isTranscript_transcribed (store : Store) (one other : String)
    : store.IsTranscript one other (store.transcribed one other) :=
  isTranscript_of_perm (List.mergeSort_perm _ _) (pairwise_transcribed store one other)

-----------------------------------------------------------------------------------------
-- Histories
-----------------------------------------------------------------------------------------

/-- A history is the end of the transcript, as long as the limit allows. -/
theorem IsTranscript.history_eq {transcript : List (StoredMessage × Nat)}
    (h : store.IsTranscript one other transcript) (limit : Nat)
    : store.history one other limit
      = (transcript.drop (transcript.length - limit)).map (·.1) := by
  obtain rfl := h.unique (isTranscript_transcribed store one other)
  rw [Store.history_eq, ← map_transcribed, List.length_map, List.map_drop]

/-- With a greater limit, a history begins earlier and ends the same. -/
theorem history_suffix (store : Store) (one other : String) {limit more : Nat}
    (le : limit ≤ more)
    : store.history one other limit <:+ store.history one other more := by
  rw [Store.history_eq, Store.history_eq]
  exact List.drop_suffix_drop_left _ (Nat.sub_le_sub_left le _)

end ChatServer.Store
