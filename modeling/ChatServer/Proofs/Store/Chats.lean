import ChatServer.Proofs.Store.Ids
import ChatServer.Proofs.Store.Latest
import Mathlib.Data.List.Perm.Subperm
import Mathlib.Data.List.Nodup

/-! The list of chats. For each partner it has the text and the time of the latest message with the
partner, newest first, and this together says which list it is: the order in which a table gives its
entries makes no difference. What it shows of a partner is how the history with the partner ends.
-/

namespace ChatServer.Store

-----------------------------------------------------------------------------------------
-- The order of chats
-----------------------------------------------------------------------------------------

/-- A chat stands before another one: it is newer, or as new and its partner comes first. -/
def Precedes (first second : ChatSummary) : Prop :=
  first.lastMessageAt.isLater second.lastMessageAt = true
    ∨ first.lastMessageAt = second.lastMessageAt ∧ first.partner < second.partner

theorem comesFirst_iff {first second : ChatSummary}
    : comesFirst first second = true
      ↔ first.lastMessageAt.isLater second.lastMessageAt = true
        ∨ first.lastMessageAt = second.lastMessageAt ∧ first.partner ≤ second.partner := by
  unfold comesFirst
  by_cases same : first.lastMessageAt = second.lastMessageAt
  · simp [same, Instant.isLater]
  · simp [same]

theorem comesFirst_trans (first second third : ChatSummary) (front : comesFirst first second = true)
    (back : comesFirst second third = true)
    : comesFirst first third = true := by
  rw [comesFirst_iff] at *
  rcases front with newer | ⟨same, early⟩
  · rcases back with later | ⟨alike, _⟩
    · exact .inl (Instant.isLater_trans newer later)
    · exact .inl (alike ▸ newer)
  · rcases back with later | ⟨alike, late⟩
    · exact .inl (same ▸ later)
    · exact .inr ⟨same.trans alike, String.le_trans early late⟩

theorem comesFirst_total (first second : ChatSummary)
    : (comesFirst first second || comesFirst second first) = true := by
  rw [Bool.or_eq_true, comesFirst_iff, comesFirst_iff]
  cases newer : first.lastMessageAt.isLater second.lastMessageAt with
  | true => exact .inl (.inl rfl)
  | false =>
      cases older : second.lastMessageAt.isLater first.lastMessageAt with
      | true => exact .inr (.inl rfl)
      | false =>
          have same := Instant.eq_of_not_isLater newer older
          rcases String.le_total first.partner second.partner with before | behind
          · exact .inl (.inr ⟨same, before⟩)
          · exact .inr (.inr ⟨same.symm, behind⟩)

/-- No two chats stand before each other. -/
theorem Precedes.asymm {first second : ChatSummary} (front : Precedes first second)
    (back : Precedes second first) : False := by
  have still (time : Instant) : time.isLater time = false := by simp [Instant.isLater]
  rcases front with newer | ⟨same, early⟩ <;> rcases back with older | ⟨alike, late⟩
  · rw [Instant.isLater_asymm newer] at older
    cases older
  · rw [alike, still] at newer
    cases newer
  · rw [same, still] at older
    cases older
  · exact String.lt_irrefl _ (String.lt_trans early late)

/-- Sorted chats with different partners stand one before the other. -/
theorem pairwise_precedes {chats : List ChatSummary}
    (once : (chats.map (·.partner)).Nodup)
    : (chats.mergeSort comesFirst).Pairwise Precedes := by
  have sorted := List.pairwise_mergeSort comesFirst_trans comesFirst_total chats
  have perm := (List.mergeSort_perm chats comesFirst).map (·.partner)
  have apart := List.pairwise_map.mp (perm.nodup_iff.mpr once)
  refine (sorted.and apart).imp ?_
  rintro first second ⟨comes, differ⟩
  rcases comesFirst_iff.mp comes with newer | ⟨same, early⟩
  · exact .inl newer
  · exact .inr ⟨same, String.not_le.mp fun late => differ (String.le_antisymm early late)⟩

-----------------------------------------------------------------------------------------
-- Listings
-----------------------------------------------------------------------------------------

/-- The messages of a store between an identity and a partner in normal form. -/
def messagesWith (store : Store) (identity partner : String) : List StoredMessage :=
  store.messages.filter (isBetween (Identity.normalize identity) partner)

/-- The messages with a partner in any spelling are those of the conversation. -/
theorem messagesWith_normalize (store : Store) (identity other : String)
    : store.messagesWith identity (Identity.normalize other) = store.conversation identity other :=
  rfl

/-- A list of all chats of an identity: one for each partner, with the latest message between the
two, the newest first and those of one time by partner.
-/
structure IsListing (store : Store) (identity : String) (chats : List ChatSummary) : Prop where
  complete
    : ∀ partner, partner ∈ chats.map (·.partner) ↔ store.messagesWith identity partner ≠ []
  once : (chats.map (·.partner)).Nodup
  latest
    : ∀ summary ∈ chats, ∃ message,
        IsLatest (store.messagesWith identity summary.partner) message
        ∧ summary.lastMessage = message.content
        ∧ summary.lastMessageAt = message.sentAt
  ordered : chats.Pairwise Precedes

/-- A chat of one list is in any other. -/
theorem IsListing.mem_of_mem {store : Store} {identity : String} {chats others : List ChatSummary}
    (h : store.IsListing identity chats) (other : store.IsListing identity others)
    {summary : ChatSummary} (listed : summary ∈ chats)
    : summary ∈ others := by
  have partner := (h.complete summary.partner).mp (List.mem_map_of_mem listed)
  obtain ⟨twin, also, same⟩ := List.mem_map.mp ((other.complete summary.partner).mpr partner)
  obtain ⟨message, latest, text, time⟩ := h.latest summary listed
  obtain ⟨message', latest', text', time'⟩ := other.latest twin also
  rw [same] at latest'
  obtain rfl := latest.unique latest'
  have equal : summary = twin := by
    cases summary
    cases twin
    simp_all
  exact equal ▸ also

/-- There is one list of all chats only. -/
theorem IsListing.unique {store : Store} {identity : String} {chats others : List ChatSummary}
    (h : store.IsListing identity chats) (other : store.IsListing identity others)
    : chats = others := by
  have perm : chats.Perm others :=
    (List.perm_ext_iff_of_nodup (List.Nodup.of_map _ h.once) (List.Nodup.of_map _ other.once)).mpr
      fun _ => ⟨h.mem_of_mem other, other.mem_of_mem h⟩
  exact perm.eq_of_pairwise (fun _ _ _ _ front back => (front.asymm back).elim) h.ordered
    other.ordered

/-- The chat with a partner that a message tells of. -/
def summaryOf (entry : String × StoredMessage) : ChatSummary :=
  ⟨entry.1, entry.2.content, entry.2.sentAt⟩

/-- All chats of an identity, from the entries of the table of latest messages in some order. -/
def sortedChats (entries : List (String × StoredMessage)) : List ChatSummary :=
  (entries.map summaryOf).mergeSort comesFirst

theorem recentChats_eq (store : Store) (identity : String) (limit : Nat)
    : store.recentChats identity limit
      = (sortedChats (latestByPartner (Identity.normalize identity) store.messages).entries).take
          limit :=
  rfl

/-- In whatever order the table gives its entries, the sorted chats are a list of all chats. -/
theorem isListing_sortedChats (store : Store) (identity : String)
    {entries : List (String × StoredMessage)}
    (perm : entries.Perm (latestByPartner (Identity.normalize identity) store.messages).entries)
    : store.IsListing identity (sortedChats entries) := by
  have distinct := distinct_latestByPartner (Identity.normalize identity) store.messages
  have held (partner : String)
      : (latestByPartner (Identity.normalize identity) store.messages).get? partner
        = latest? (store.messagesWith identity partner) :=
    get?_latestByPartner (Identity.normalize identity) partner store.messages
  have sorted : (sortedChats entries).Perm (entries.map summaryOf) :=
    List.mergeSort_perm (entries.map summaryOf) comesFirst
  have names : ((entries.map summaryOf).map (·.partner)).Perm
      (latestByPartner (Identity.normalize identity) store.messages).keys := by
    rw [List.map_map]
    exact perm.map (·.1)
  have once := names.nodup_iff.mpr distinct
  refine ⟨fun partner => ?_, (sorted.map _).nodup_iff.mpr once, ?_, pairwise_precedes once⟩
  · rw [((sorted.map (·.partner)).trans names).mem_iff, Table.mem_keys_iff, held partner,
      ← Option.isSome_iff_exists, Option.isSome_iff_ne_none, ne_eq, latest?_eq_none_iff]
  · intro summary among
    obtain ⟨entry, listed, rfl⟩ := List.mem_map.mp (sorted.mem_iff.mp among)
    have found := Table.get?_of_mem distinct (perm.mem_iff.mp listed)
    rw [held entry.1] at found
    exact ⟨entry.2, isLatest_of_latest? found, rfl, rfl⟩

/-- The chats up to a limit are the first ones of the list of all. -/
theorem isListing_recentChats (store : Store) (identity : String)
    : ∃ chats, store.IsListing identity chats
        ∧ ∀ limit, store.recentChats identity limit = chats.take limit :=
  ⟨_, isListing_sortedChats store identity (.refl _), recentChats_eq store identity⟩

/-- There are no more partners than messages. -/
theorem IsListing.length_le {store : Store} {identity : String} {chats : List ChatSummary}
    (h : store.IsListing identity chats)
    : chats.length ≤ store.messages.length := by
  have within : chats.map (·.partner)
      ⊆ store.messages.filterMap (partner? (Identity.normalize identity)) := by
    intro partner among
    obtain ⟨message, shared⟩ := List.exists_mem_of_ne_nil _ ((h.complete partner).mp among)
    obtain ⟨stored, between⟩ := List.mem_filter.mp shared
    exact List.mem_filterMap.mpr ⟨message, stored, partner?_eq_some_iff.mpr between⟩
  calc
    chats.length = (chats.map (·.partner)).length := (List.length_map _).symm
    _ ≤ (store.messages.filterMap (partner? (Identity.normalize identity))).length :=
      (List.subperm_of_subset h.once within).length_le
    _ ≤ store.messages.length := List.length_filterMap_le _ _

-----------------------------------------------------------------------------------------
-- Histories
-----------------------------------------------------------------------------------------

/-- Every message names its parties in normal form. -/
def IsNormalized (store : Store) : Prop :=
  ∀ message ∈ store.messages,
    Identity.normalize message.sender = message.sender
    ∧ Identity.normalize message.recipient = message.recipient

/-- Whatever uses the store names the parties of its messages in normal form. -/
theorem Used.isNormalized {before after : Store} (used : Used before after)
    (h : before.IsNormalized)
    : after.IsNormalized := by
  cases used with
  | looked => exact h
  | created email passwordHash now =>
      have kept : (before.createUser email passwordHash now).2.messages = before.messages := by
        rw [createUser]
        split <;> rfl
      rw [IsNormalized, kept]
      exact h
  | persisted sender recipient content sentAt =>
      refine List.forall_mem_append.mpr ⟨h, List.forall_mem_singleton.mpr ?_⟩
      exact ⟨Identity.normalize_normalize sender, Identity.normalize_normalize recipient⟩

/-- The partners of chats are then in normal form, too. -/
theorem IsListing.normalize_partner {store : Store} {identity : String} {chats : List ChatSummary}
    (h : store.IsListing identity chats) (normal : store.IsNormalized) {summary : ChatSummary}
    (listed : summary ∈ chats)
    : Identity.normalize summary.partner = summary.partner := by
  obtain ⟨message, latest, _⟩ := h.latest summary listed
  obtain ⟨stored, between⟩ := List.mem_filter.mp latest.mem
  obtain ⟨sender, recipient⟩ := normal message stored
  simp only [isBetween, Bool.or_eq_true, Bool.and_eq_true, decide_eq_true_eq] at between
  rcases between with ⟨_, same⟩ | ⟨same, _⟩
  · exact same ▸ recipient
  · exact same ▸ sender

/-- A history that may show something ends with the latest message of the conversation. -/
theorem getLast?_history (store : Store) (identity other : String) {limit : Nat}
    (positive : 0 < limit)
    : (store.history identity other limit).getLast?
      = latest? (store.conversation identity other) := by
  rw [history_eq, List.getLast?_drop, getLast?_mergeSort]
  split
  next short =>
    have empty : (store.conversation identity other).mergeSort isNotLater = [] := by
      apply List.eq_nil_of_length_eq_zero
      omega
    rw [← getLast?_mergeSort, empty, List.getLast?_nil]
  next => rfl

/-- A history is empty if there is no message between the two. -/
theorem history_ne_nil_iff (store : Store) (identity other : String) {limit : Nat}
    (positive : 0 < limit)
    : store.history identity other limit ≠ [] ↔ store.conversation identity other ≠ [] := by
  rw [ne_eq, ne_eq, ← List.getLast?_eq_none_iff, getLast?_history store identity other positive,
    latest?_eq_none_iff]

/-- The list of chats and the histories agree. With room for as many chats as there are messages,
somebody is listed if the history with them, by whatever spelling, shows something. What is listed
is the text and the time of the last message it shows. A store of names in normal form lists no
partner that is not in normal form, so nothing is listed without a history.
-/
theorem chats_agree_with_histories (store : Store) (identity : String) {limit shown : Nat}
    (room : store.messages.length ≤ limit) (positive : 0 < shown)
    : (∀ other,
        (∃ summary ∈ store.recentChats identity limit,
          summary.partner = Identity.normalize other)
        ↔ store.history identity other shown ≠ [])
      ∧ (∀ summary ∈ store.recentChats identity limit, ∀ other,
          summary.partner = Identity.normalize other →
          ∃ message,
            (store.history identity other shown).getLast? = some message
            ∧ summary.lastMessage = message.content
            ∧ summary.lastMessageAt = message.sentAt)
      ∧ (store.IsNormalized → ∀ summary ∈ store.recentChats identity limit,
          Identity.normalize summary.partner = summary.partner) := by
  obtain ⟨chats, listing, cut⟩ := isListing_recentChats store identity
  rw [cut limit, List.take_of_length_le (Nat.le_trans listing.length_le room)]
  refine ⟨fun other => ?_, ?_, fun normal _ listed => listing.normalize_partner normal listed⟩
  · rw [history_ne_nil_iff store identity other positive, ← messagesWith_normalize,
      ← listing.complete, List.mem_map]
  · intro summary listed other same
    obtain ⟨message, latest, text, time⟩ := listing.latest summary listed
    refine ⟨message, ?_, text, time⟩
    rw [getLast?_history store identity other positive, latest?_eq_some_iff,
      ← messagesWith_normalize, ← same]
    exact latest

/-- Two messages at one time, one before them that was stored behind, one to oneself and one between
others: the partner and oneself are listed with what their histories end with, and nobody else is.
-/
theorem chats_agree_with_histories_of_equal_times
    : let late := (persist {} "A@x" "b@x" "late" ⟨5, 0⟩).2
      let asLate := (late.persist "b@x" " a@X" "as late" ⟨5, 0⟩).2
      let early := (asLate.persist "a@x" "b@x" "early" ⟨3, 0⟩).2
      let note := (early.persist "a@x" "A@X" "note" ⟨4, 0⟩).2
      let store := (note.persist "b@x" "c@x" "aside" ⟨9, 0⟩).2
      store.messages.length ≤ 5
        ∧ store.IsNormalized
        ∧ ⟨"b@x", "as late", ⟨5, 0⟩⟩ ∈ store.recentChats " A@X" 5
        ∧ ⟨"a@x", "note", ⟨4, 0⟩⟩ ∈ store.recentChats " A@X" 5
        ∧ (∀ summary ∈ store.recentChats " A@X" 5, summary.partner ≠ "c@x")
        ∧ ∀ summary ∈ store.recentChats " A@X" 5,
            Identity.normalize summary.partner = summary.partner := by
  intro late asLate early note store
  have room : store.messages.length ≤ 5 := by decide
  have normal : late.IsNormalized := (Used.persisted ..).isNormalized (List.forall_mem_nil _)
  have normal : asLate.IsNormalized := (Used.persisted ..).isNormalized normal
  have normal : early.IsNormalized := (Used.persisted ..).isNormalized normal
  have normal : note.IsNormalized := (Used.persisted ..).isNormalized normal
  have normal : store.IsNormalized := (Used.persisted ..).isNormalized normal
  obtain ⟨listed, shown, partners⟩ := chats_agree_with_histories store " A@X" room Nat.one_pos
  have entry (other text : String) (time : Instant)
      (latest : (latest? (store.conversation " A@X" other)).map (fun message =>
        (message.content, message.sentAt)) = some (text, time))
      : ⟨Identity.normalize other, text, time⟩ ∈ store.recentChats " A@X" 5 := by
    have last := getLast?_history store " A@X" other Nat.one_pos
    have something : store.history " A@X" other 1 ≠ [] := by
      intro nothing
      rw [nothing] at last
      rw [← last] at latest
      cases latest
    obtain ⟨summary, among, partner⟩ := (listed other).mpr something
    obtain ⟨found, ends, content, sentAt⟩ := shown summary among other partner
    rw [← last, ends, Option.map_some, Option.some.injEq, Prod.mk.injEq] at latest
    rw [← latest.1, ← latest.2, ← content, ← sentAt, ← partner]
    exact among
  have nobody : store.conversation " A@X" "c@x" = [] := by decide +kernel
  have settled : Identity.normalize "c@x" = "c@x" := by decide +kernel
  refine ⟨room, normal, ?_, ?_, ?_, partners normal⟩
  · exact entry "B@x" "as late" ⟨5, 0⟩ (by decide +kernel)
  · exact entry "a@x" "note" ⟨4, 0⟩ (by decide +kernel)
  · intro summary among partner
    have something := (listed "c@x").mp ⟨summary, among, partner.trans settled.symm⟩
    exact (history_ne_nil_iff store " A@X" "c@x" Nat.one_pos).mp something nobody

end ChatServer.Store
