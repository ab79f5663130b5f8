import ChatServer.Proofs.Admission.RateBound
import Mathlib.Data.List.Induction
import Mathlib.Data.Set.Card

/-! What the limiter remembers. Which keys it keeps track of can be told from what it has done: those
that have been called, unless a sweep since their latest call came when the idle window was over. A
sweep that comes earlier leaves the entry of a key as it is, so that it changes no answer.
-/

namespace ChatServer.Admission

-----------------------------------------------------------------------------------------
-- Latest calls
-----------------------------------------------------------------------------------------

/-- The latest call under a key came at a time, with some acts since. -/
structure IsLatestCall (acts : List Act) (key : String) (last : Nat) (since : List Act)
    : Prop where
  called : ∃ before, acts = before ++ .call key last :: since
  silent : ∀ act ∈ since, act.isCallOf key = false

/-- One more act is the latest call, or one of those since. -/
theorem isLatestCall_concat_iff {acts : List Act} {act : Act} {key : String} {last : Nat}
    {since : List Act}
    : IsLatestCall (acts ++ [act]) key last since
      ↔ act = .call key last ∧ since = []
        ∨ ∃ earlier, since = earlier ++ [act]
          ∧ IsLatestCall acts key last earlier ∧ act.isCallOf key = false := by
  constructor
  · rintro ⟨⟨before, split⟩, silent⟩
    rcases List.eq_nil_or_concat' since with rfl | ⟨earlier, final, rfl⟩
    · obtain ⟨_, same⟩ := List.append_inj' split rfl
      exact .inl ⟨List.singleton_inj.mp same, rfl⟩
    · rw [← List.cons_append, ← List.append_assoc] at split
      obtain ⟨rest, same⟩ := List.append_inj' split rfl
      obtain rfl := List.singleton_inj.mp same
      obtain ⟨quiet, other⟩ := List.forall_mem_append.mp silent
      exact .inr ⟨earlier, rfl, ⟨⟨before, rest⟩, quiet⟩, other act (List.mem_singleton_self act)⟩
  · rintro (⟨rfl, rfl⟩ | ⟨earlier, rfl, ⟨⟨before, rfl⟩, quiet⟩, other⟩)
    · exact ⟨⟨acts, rfl⟩, List.forall_mem_nil _⟩
    · refine ⟨⟨before, List.append_assoc ..⟩, List.forall_mem_append.mpr ⟨quiet, ?_⟩⟩
      exact List.forall_mem_singleton.mpr other

theorem IsLatestCall.mem {acts since : List Act} {key : String} {last : Nat}
    (h : IsLatestCall acts key last since) : .call key last ∈ acts := by
  obtain ⟨before, rfl⟩ := h.called
  exact List.mem_append_right before List.mem_cons_self

/-- There is one latest call only, by induction from the last act. -/
theorem IsLatestCall.unique {acts since others : List Act} {key : String} {last time : Nat}
    (h : IsLatestCall acts key last since) (other : IsLatestCall acts key time others)
    : last = time := by
  induction acts using List.reverseRecOn generalizing since others with
  | nil => cases h.mem
  | append_singleton acts act ih =>
      rcases isLatestCall_concat_iff.mp h with ⟨rfl, _⟩ | ⟨_, _, earlier, apart⟩ <;>
        rcases isLatestCall_concat_iff.mp other with ⟨same, _⟩ | ⟨_, _, also, differ⟩
      · exact (Act.call.inj same).2
      · simp [Act.isCallOf] at differ
      · simp [same, Act.isCallOf] at apart
      · exact ih earlier also

/-- A key has been called, and every sweep since its latest call came before the window was over. -/
def IsRemembered (window : Nat) (acts : List Act) (key : String) : Prop :=
  ∃ last since,
    IsLatestCall acts key last since ∧ ∀ time, .sweep time ∈ since → time < last + window

namespace Limiter

variable {α : Type} [Quantity α] {limiter other : Limiter α}

-----------------------------------------------------------------------------------------
-- Tracked keys
-----------------------------------------------------------------------------------------

/-- No act makes a key come twice. -/
theorem distinct_after (distinct : limiter.entries.Distinct) (act : Act)
    : (limiter.after act).entries.Distinct := by
  cases act with
  | call key now => exact distinct.set key _
  | sweep now => exact distinct_sweep distinct now

theorem distinct_afterAll (distinct : limiter.entries.Distinct) (acts : List Act)
    : (limiter.afterAll acts).entries.Distinct := by
  induction acts generalizing limiter with
  | nil => exact distinct
  | cons act rest ih => exact ih (distinct_after distinct act)

/-- A key is kept track of with the time of its last call. -/
def IsSeen (limiter : Limiter α) (key : String) (last : Nat) : Prop :=
  ∃ entry, limiter.entries.get? key = some entry ∧ entry.lastSeen = last

omit [Quantity α] in
theorem mem_keys_iff_isSeen {key : String}
    : key ∈ limiter.entries.keys ↔ ∃ last, limiter.IsSeen key last := by
  rw [Table.mem_keys_iff]
  exact ⟨fun ⟨entry, found⟩ => ⟨_, entry, found, rfl⟩, fun ⟨_, entry, found, _⟩ => ⟨entry, found⟩⟩

omit [Quantity α] in
/-- A sweep forgets the keys for which the window is over. -/
theorem isSeen_sweep_iff (distinct : limiter.entries.Distinct) {now : Nat} {key : String}
    {last : Nat} (past : limiter.IsSeen key last → last ≤ now)
    : (limiter.sweep now).IsSeen key last
      ↔ limiter.IsSeen key last ∧ now < last + limiter.limits.idleWindow := by
  simp only [IsSeen, get?_sweep distinct, Option.filter_eq_some_iff]
  constructor
  · rintro ⟨entry, ⟨found, recent⟩, rfl⟩
    exact ⟨⟨entry, found, rfl⟩, (isRecent_iff (past ⟨entry, found, rfl⟩)).mp recent⟩
  · rintro ⟨⟨entry, found, rfl⟩, early⟩
    exact ⟨entry, ⟨found, (isRecent_iff (past ⟨entry, found, rfl⟩)).mpr early⟩, rfl⟩

/-- A key is seen by a call under it, and stays so until the next call, or until a sweep comes when
the window is over.
-/
theorem isSeen_after_iff (distinct : limiter.entries.Distinct) {act : Act} {key : String}
    {last : Nat} (past : limiter.IsSeen key last → last ≤ act.now)
    : (limiter.after act).IsSeen key last
      ↔ act = .call key last
        ∨ limiter.IsSeen key last ∧ act.isCallOf key = false
          ∧ ∀ time, act = .sweep time → time < last + limiter.limits.idleWindow := by
  cases act with
  | call caller now =>
      have found := get?_allow limiter now caller key
      by_cases same : key = caller
      · subst same
        simp [IsSeen, after, found, Act.isCallOf]
      · simp [IsSeen, after, found, same, Act.isCallOf, Ne.symm same]
  | sweep now =>
      simp only [reduceCtorEq, Act.isCallOf, Act.sweep.injEq, forall_eq', true_and, false_or]
      exact isSeen_sweep_iff distinct past

/-- After any run a key is kept track of with the time of its latest call, unless a sweep since has
forgotten it: by induction from the last act.
-/
theorem isSeen_afterAll_iff (limits : Limits) {acts : List Act} (ordered : InTime acts)
    (key : String) (last : Nat)
    : (afterAll { limits } acts : Limiter α).IsSeen key last
      ↔ ∃ since, IsLatestCall acts key last since
        ∧ ∀ time, .sweep time ∈ since → time < last + limits.idleWindow := by
  induction acts using List.reverseRecOn with
  | nil =>
      constructor
      · rintro ⟨_, found, _⟩
        cases found
      · rintro ⟨_, latest, _⟩
        cases latest.mem
  | append_singleton acts act ih =>
      obtain ⟨earlier, _, upTo⟩ := List.pairwise_append.mp ordered
      have known := ih earlier
      have limitsKept := limits_afterAll ({ limits } : Limiter α) acts
      have past (seen : (afterAll { limits } acts : Limiter α).IsSeen key last)
          : last ≤ act.now := by
        obtain ⟨_, latest, _⟩ := known.mp seen
        exact upTo _ latest.mem act (List.mem_singleton_self act)
      have start : ({ limits } : Limiter α).entries.Distinct := List.nodup_nil
      have step := isSeen_after_iff (distinct_afterAll start acts) past
      rw [limitsKept, known] at step
      rw [afterAll, List.foldl_append]
      refine step.trans ?_
      constructor
      · rintro (rfl | ⟨⟨since, latest, early⟩, apart, inTime⟩)
        · exact ⟨[], isLatestCall_concat_iff.mpr (.inl ⟨rfl, rfl⟩), by simp⟩
        · refine ⟨since ++ [act],
            isLatestCall_concat_iff.mpr (.inr ⟨since, rfl, latest, apart⟩), fun time swept => ?_⟩
          rcases List.mem_append.mp swept with before | now
          · exact early time before
          · exact inTime time (List.mem_singleton.mp now).symm
      · rintro ⟨_, latest, early⟩
        rcases isLatestCall_concat_iff.mp latest with ⟨same, _⟩ | ⟨since, rfl, latest, apart⟩
        · exact .inl same
        · refine .inr ⟨⟨since, latest, fun time swept => early time ?_⟩, apart, ?_⟩
          · exact List.mem_append_left _ swept
          · rintro time rfl
            exact early time (List.mem_append_right _ (List.mem_singleton_self _))

theorem mem_keys_afterAll_iff (limits : Limits) {acts : List Act} (ordered : InTime acts)
    (key : String)
    : key ∈ (afterAll { limits } acts : Limiter α).entries.keys
      ↔ IsRemembered limits.idleWindow acts key := by
  rw [mem_keys_iff_isSeen]
  exact exists_congr fun last => isSeen_afterAll_iff limits ordered key last

omit [Quantity α] in
/-- As many keys are kept track of as there are. -/
theorem tracked_eq_ncard (distinct : limiter.entries.Distinct)
    : limiter.tracked = {key | key ∈ limiter.entries.keys}.ncard := by
  have same : {key | key ∈ limiter.entries.keys} = (limiter.entries.keys.toFinset : Set String) := by
    ext key
    simp
  rw [same, Set.ncard_coe_finset, List.toFinset_card_of_nodup distinct, tracked, Table.length_keys]

omit [Quantity α] in
/-- A sweep tells how many keys were kept track of before it and are not after it. -/
theorem forgotten_eq_ncard (distinct : limiter.entries.Distinct) (now : Nat)
    : limiter.forgotten now
      = {key | key ∈ limiter.entries.keys
          ∧ key ∉ (limiter.sweep now).entries.keys}.ncard := by
  have kept : {key | key ∈ (limiter.sweep now).entries.keys}
      ⊆ {key | key ∈ limiter.entries.keys} :=
    fun _ among => (List.filter_sublist.map _).subset among
  have few : {key | key ∈ (limiter.sweep now).entries.keys}.Finite :=
    (limiter.sweep now).entries.keys.finite_toSet
  rw [forgotten, tracked_eq_ncard distinct, tracked_eq_ncard (distinct_sweep distinct now),
    ← Set.ncard_sdiff kept few]
  rfl

-----------------------------------------------------------------------------------------
-- Answers under a key
-----------------------------------------------------------------------------------------

/-- What the answers under a key depend on is the same for both limiters. -/
structure AgreesUnder (key : String) (limiter other : Limiter α) : Prop where
  limits : limiter.limits = other.limits
  entry : limiter.entries.get? key = other.entries.get? key
  distinct : limiter.entries.Distinct
  otherDistinct : other.entries.Distinct

namespace AgreesUnder

variable {key : String}

theorem answer (agrees : AgreesUnder key limiter other) (now : Nat)
    : (limiter.bucketOf now key).answer limiter.limits now
      = (other.bucketOf now key).answer other.limits now := by
  rw [bucketOf, bucketOf, agrees.entry, agrees.limits]

theorem after (agrees : AgreesUnder key limiter other) (act : Act)
    : AgreesUnder key (limiter.after act) (other.after act) := by
  refine ⟨?_, ?_, distinct_after agrees.distinct act, distinct_after agrees.otherDistinct act⟩
  · rw [limits_after, limits_after, agrees.limits]
  · cases act with
    | call caller now =>
        refine (get?_allow limiter now caller key).trans ?_
        refine Eq.trans ?_ (get?_allow other now caller key).symm
        by_cases same : key = caller
        · subst same
          rw [if_pos rfl, if_pos rfl, agrees.answer]
        · rw [if_neg same, if_neg same, agrees.entry]
    | sweep now =>
        refine (get?_sweep agrees.distinct now key).trans ?_
        rw [agrees.entry, agrees.limits]
        exact (get?_sweep agrees.otherDistinct now key).symm

/-- The calls under the key get the same answers, by induction on the acts. -/
theorem answersTo_rulings (agrees : AgreesUnder key limiter other) (acts : List Act)
    : answersTo key (limiter.rulings acts) = answersTo key (other.rulings acts) := by
  induction acts generalizing limiter other with
  | nil => rfl
  | cons act rest ih =>
      have later := ih (agrees.after act)
      cases act with
      | call caller now =>
          by_cases same : caller = key
          · subst same
            have decided : (limiter.allow now caller).1 = (other.allow now caller).1 := by
              change ((limiter.bucketOf now caller).answer limiter.limits now).1 = _
              rw [agrees.answer]
              rfl
            simp only [answersTo, rulings, ruling?, decided] at later ⊢
            simp [later]
          · simpa [answersTo, rulings, ruling?, same] using later
      | sweep now => exact later

end AgreesUnder

omit [Quantity α] in
/-- A sweep leaves the entry of a key as it is before the window is over for it. -/
theorem agreesUnder_sweep (distinct : limiter.entries.Distinct) {key : String} {now : Nat}
    (early : ∀ last, limiter.IsSeen key last →
      last ≤ now ∧ now < last + limiter.limits.idleWindow)
    : AgreesUnder key (limiter.sweep now) limiter := by
  refine ⟨rfl, ?_, distinct_sweep distinct now, distinct⟩
  rw [get?_sweep distinct]
  cases found : limiter.entries.get? key with
  | none => rfl
  | some entry =>
      obtain ⟨past, soon⟩ := early entry.lastSeen ⟨entry, found, rfl⟩
      rw [Option.filter_some, if_pos ((isRecent_iff past).mpr soon)]

/-- Under any limits, whatever is called and swept one after the other: the keys that are kept track
of are those that have been called and not been swept since their latest call when the window was
over. Their number is what is told; a sweep tells how many of them it forgets; and one that comes
before the window is over for a key changes no answer to a later call under it.
-/
theorem remembered_exactly (limits : Limits) {acts : List Act} (ordered : InTime acts)
    : let limiter : Limiter α := afterAll { limits } acts
      let window := limits.idleWindow
      (∀ key, key ∈ limiter.entries.keys ↔ IsRemembered window acts key)
        ∧ limiter.tracked = {key | IsRemembered window acts key}.ncard
        ∧ (∀ now, InTime (acts ++ [.sweep now]) →
            limiter.forgotten now
              = {key | IsRemembered window acts key
                  ∧ ¬ IsRemembered window (acts ++ [.sweep now]) key}.ncard)
        ∧ ∀ now key last since, InTime (acts ++ [.sweep now]) →
            IsLatestCall acts key last since → now < last + window →
            ∀ rest, answersTo key ((limiter.sweep now).rulings rest)
              = answersTo key (limiter.rulings rest) := by
  intro limiter window
  have start : ({ limits } : Limiter α).entries.Distinct := List.nodup_nil
  have distinct : limiter.entries.Distinct := distinct_afterAll start acts
  have tracked (key : String) : key ∈ limiter.entries.keys ↔ IsRemembered window acts key :=
    mem_keys_afterAll_iff limits ordered key
  refine ⟨tracked, ?_, fun now orderedNow => ?_, ?_⟩
  · rw [tracked_eq_ncard distinct]
    simp only [tracked]
  · have left (key : String) : key ∈ (limiter.sweep now).entries.keys
        ↔ IsRemembered window (acts ++ [.sweep now]) key := by
      rw [← mem_keys_afterAll_iff (α := α) limits orderedNow, afterAll, List.foldl_append]
      rfl
    rw [forgotten_eq_ncard distinct]
    simp only [tracked, left]
  · intro now key last since orderedNow latest early rest
    refine (agreesUnder_sweep distinct fun time seen => ?_).answersTo_rulings rest
    obtain ⟨_, also, _⟩ := (isSeen_afterAll_iff limits ordered key time).mp seen
    obtain rfl := also.unique latest
    obtain ⟨_, _, upTo⟩ := List.pairwise_append.mp orderedNow
    have past := upTo _ latest.mem (.sweep now) (List.mem_singleton_self _)
    exact ⟨past, early.trans_eq (by rw [limits_afterAll])⟩

/-- A window of ten and a bucket of one. The second call under the first key is refused, and yet the
sweep at the end of the other key's window forgets that one only.
-/
theorem remembered_exactly_of_two_keys
    : let limits : Limits := ⟨60, 1, 10⟩
      let acts : List Act := [.call "a" 0, .call "b" 0, .call "a" 6, .sweep 10]
      let limiter : Limiter Float := afterAll { limits } acts
      InTime acts
        ∧ IsRemembered 10 acts "a" ∧ ¬ IsRemembered 10 acts "b"
        ∧ {key | IsRemembered 10 acts key}.ncard = 1
        ∧ {key | IsRemembered 10 acts key ∧ ¬ IsRemembered 10 (acts ++ [.sweep 16]) key}.ncard = 1
        ∧ answersTo "a" ((limiter.sweep 15).rulings [.call "a" 17])
          = answersTo "a" (limiter.rulings [.call "a" 17]) := by
  intro limits acts limiter
  have ordered : InTime acts := by decide
  obtain ⟨keys, tracked, forgotten, kept⟩ :=
    remembered_exactly (α := Float) limits ordered
  have names : limiter.entries.keys = ["a"] := by decide +kernel
  refine ⟨ordered, (keys "a").mp ?_, fun remembered => ?_, ?_, ?_, ?_⟩
  · rw [names]
    exact List.mem_singleton_self _
  · have among := (keys "b").mpr remembered
    rw [names] at among
    exact absurd among (by decide)
  · exact tracked.symm.trans (by decide +kernel)
  · exact (forgotten 16 (by decide)).symm.trans (by decide +kernel)
  · have latest : IsLatestCall acts "a" 6 [.sweep 10] :=
      ⟨⟨[.call "a" 0, .call "b" 0], rfl⟩, by decide⟩
    exact kept 15 "a" 6 [.sweep 10] (by decide) latest (by decide) _

end Limiter

end ChatServer.Admission
