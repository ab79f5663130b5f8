import ChatServer.Proofs.Admission.RateBound

/-! Calls that are refused. A refusal is not without effect: it brings the bucket up to date, and that
is where the next refill begins. But it leaves every level as it is, and levels alone decide about
calls. So refused calls may be left out of a run, and hammering delays nobody.
-/

namespace ChatServer.Admission

/-- The call that a ruling is about. -/
def Ruling.call (ruling : Ruling) : Act :=
  .call ruling.key ruling.now

/-- Some rulings are left of a run, and all the others were refusals. -/
inductive LeavesOutRefused : List Ruling → List Ruling → Prop where
  | nil : LeavesOutRefused [] []
  | keep {rulings left : List Ruling} (ruling : Ruling) (rest : LeavesOutRefused rulings left)
    : LeavesOutRefused (ruling :: rulings) (ruling :: left)
  | drop {rulings left : List Ruling} {ruling : Ruling} (refused : ruling.admitted = false)
    (rest : LeavesOutRefused rulings left)
    : LeavesOutRefused (ruling :: rulings) left

namespace Limiter

/-- At a time, two limiters are in order and have the same levels under the same limits. -/
structure IsAsFullAs (limiter other : Limiter Rat) (now : Nat) : Prop where
  limits : limiter.limits = other.limits
  inOrder : limiter.InOrder now
  otherInOrder : other.InOrder now
  levels : ∀ key, limiter.level key now = other.level key now

namespace IsAsFullAs

variable {limiter other : Limiter Rat} {now : Nat}

theorem refl (h : limiter.InOrder now) : limiter.IsAsFullAs limiter now :=
  ⟨rfl, h, h, fun _ => rfl⟩

theorem later (h : limiter.IsAsFullAs other now) {later : Nat} (forward : now ≤ later)
    : limiter.IsAsFullAs other later := by
  refine ⟨h.limits, h.inOrder.later forward, h.otherInOrder.later forward, fun key => ?_⟩
  rw [level_later h.inOrder key forward, level_later h.otherInOrder key forward, h.levels, h.limits]

/-- A call is decided alike. -/
theorem decides (h : limiter.IsAsFullAs other now) (key : String)
    : (limiter.allow now key).1 = (other.allow now key).1 := by
  rw [fst_allow, fst_allow, h.levels]

/-- A call under both leaves them as full as each other. -/
theorem call (h : limiter.IsAsFullAs other now) (key : String)
    : (limiter.allow now key).2.IsAsFullAs (other.allow now key).2 now := by
  refine ⟨h.limits, h.inOrder.allow key, h.otherInOrder.allow key, fun name => ?_⟩
  rw [level_allow h.inOrder, level_allow h.otherInOrder, h.levels, h.levels]

/-- So does one that is refused under one of them and not made under the other. -/
theorem refusal (h : limiter.IsAsFullAs other now) {key : String}
    (refused : (limiter.allow now key).1 = false)
    : (limiter.allow now key).2.IsAsFullAs other now := by
  refine ⟨h.limits, h.inOrder.allow key, h.otherInOrder, fun name => ?_⟩
  rw [fst_allow, decide_eq_false_iff_not] at refused
  rw [level_allow h.inOrder, if_neg fun both => refused both.2, h.levels]

/-- Without some of the refused calls the other rulings are as they were, by induction on the acts:
the limiter that is not asked stays as full as the one that is.
-/
theorem rulings (h : limiter.IsAsFullAs other now) {acts : List Act} (ordered : InTime acts)
    (onwards : ∀ act ∈ acts, now ≤ act.now) (unswept : ∀ time, .sweep time ∉ acts)
    {left : List Ruling} (leaves : LeavesOutRefused (limiter.rulings acts) left)
    : other.rulings (left.map Ruling.call) = left := by
  induction acts generalizing limiter other now left with
  | nil =>
      cases leaves
      rfl
  | cons act rest ih =>
      obtain ⟨next, orderedRest⟩ := List.pairwise_cons.mp ordered
      have unsweptRest (time : Nat) := List.not_mem_of_not_mem_cons (unswept time)
      cases act with
      | sweep time => exact absurd List.mem_cons_self (unswept time)
      | call key time =>
          have here : limiter.IsAsFullAs other time :=
            h.later (onwards (.call key time) List.mem_cons_self)
          cases leaves with
          | keep ruling leaves =>
              have goesOn := ih (here.call key) orderedRest next unsweptRest leaves
              change ⟨key, time, (other.allow time key).1⟩
                :: (other.allow time key).2.rulings _ = _
              rw [goesOn, here.decides]
          | drop refused leaves => exact ih (here.refusal refused) orderedRest next unsweptRest leaves

/-- Calls that are all refused leave the limiter as full as it was, by induction on them. -/
theorem hammering (h : limiter.IsAsFullAs other now) {acts : List Act} (ordered : InTime acts)
    (onwards : ∀ act ∈ acts, now ≤ act.now) (unswept : ∀ time, .sweep time ∉ acts)
    (refused : ∀ ruling ∈ limiter.rulings acts, ruling.admitted = false) {later : Nat}
    (before : ∀ act ∈ acts, act.now ≤ later) (forward : now ≤ later)
    : (limiter.afterAll acts).IsAsFullAs other later := by
  induction acts generalizing limiter now with
  | nil => exact h.later forward
  | cons act rest ih =>
      obtain ⟨next, orderedRest⟩ := List.pairwise_cons.mp ordered
      obtain ⟨upTo, beforeRest⟩ := List.forall_mem_cons.mp before
      have unsweptRest (time : Nat) := List.not_mem_of_not_mem_cons (unswept time)
      cases act with
      | sweep time => exact absurd List.mem_cons_self (unswept time)
      | call key time =>
          obtain ⟨first, others⟩ := List.forall_mem_cons.mp refused
          have here : limiter.IsAsFullAs other time :=
            h.later (onwards (.call key time) List.mem_cons_self)
          exact ih (here.refusal first) orderedRest next unsweptRest others beforeRest upTo

end IsAsFullAs

/-- Under any limits, as long as nothing is swept: without some of the calls that are refused, the
answers to all the others are what they were. So calls that are refused, under whatever key and
however many, make no difference to when the next call is admitted.
-/
theorem refused_without_effect (limits : Limits)
    : let limiter : Limiter Rat := { limits }
      (∀ acts left, InTime acts → (∀ time, .sweep time ∉ acts) →
        LeavesOutRefused (limiter.rulings acts) left →
          limiter.rulings (left.map Ruling.call) = left)
      ∧ ∀ past acts, InTime (past ++ acts) → (∀ time, .sweep time ∉ acts) →
        (∀ ruling ∈ (limiter.afterAll past).rulings acts, ruling.admitted = false) →
          ∀ now key, (∀ act ∈ past ++ acts, act.now ≤ now) →
            ((limiter.afterAll (past ++ acts)).allow now key).1
              = ((limiter.afterAll past).allow now key).1 := by
  intro limiter
  have start : limiter.InOrder 0 := .start limits 0
  constructor
  · intro acts left ordered unswept leaves
    exact (IsAsFullAs.refl start).rulings ordered (fun _ _ => Nat.zero_le _) unswept leaves
  · intro past acts ordered unswept refused now key before
    obtain ⟨earlier, orderedActs, upTo⟩ := List.pairwise_append.mp ordered
    obtain ⟨beforePast, beforeActs⟩ := List.forall_mem_append.mp before
    have whole : limiter.afterAll (past ++ acts) = (limiter.afterAll past).afterAll acts :=
      List.foldl_append
    rw [whole]
    cases acts with
    | nil => rfl
    | cons act rest =>
        have first := List.mem_cons_self (a := act) (l := rest)
        have inOrder : (limiter.afterAll past).InOrder act.now :=
          start.afterAll earlier (fun _ _ => Nat.zero_le _) (fun old among => upTo old among act first)
            (Nat.zero_le _)
        have onwards : ∀ later ∈ act :: rest, act.now ≤ later.now :=
          List.forall_mem_cons.mpr ⟨Nat.le_refl _, (List.pairwise_cons.mp orderedActs).1⟩
        exact ((IsAsFullAs.refl inOrder).hammering orderedActs onwards unswept refused beforeActs
          (beforeActs act first)).decides key

/-- A token a second and a bucket of one. Two calls within the first second are refused, and the one
at its end is admitted, whether they are made or not.
-/
theorem refused_without_effect_of_early_calls
    : let limits : Limits := ⟨60, 1, nanosPerSecond⟩
      let limiter : Limiter Rat := { limits }
      let early : List Act := [.call "a" 300000000, .call "a" 600000000]
      let acts : List Act := .call "a" 0 :: early ++ [.call "a" nanosPerSecond]
      let left : List Ruling := [⟨"a", 0, true⟩, ⟨"a", 600000000, false⟩, ⟨"a", nanosPerSecond, true⟩]
      InTime acts ∧ (∀ time, .sweep time ∉ acts)
        ∧ LeavesOutRefused (limiter.rulings acts) left
        ∧ limiter.rulings (left.map Ruling.call) = left
        ∧ (∀ ruling ∈ (limiter.afterAll [.call "a" 0]).rulings early, ruling.admitted = false)
        ∧ ((limiter.afterAll ([.call "a" 0] ++ early)).allow nanosPerSecond "a").1
          = ((limiter.afterAll [.call "a" 0]).allow nanosPerSecond "a").1 := by
  intro limits limiter early acts left
  have ordered : InTime acts := by decide
  have unswept (time : Nat) : .sweep time ∉ acts := by simp [acts, early]
  have leaves : LeavesOutRefused (limiter.rulings acts) left := by
    have all : limiter.rulings acts = [⟨"a", 0, true⟩, ⟨"a", 300000000, false⟩,
        ⟨"a", 600000000, false⟩, ⟨"a", nanosPerSecond, true⟩] := by
      decide +kernel
    rw [all]
    exact .keep _ (.drop rfl (.keep _ (.keep _ .nil)))
  have refused : ∀ ruling ∈ (limiter.afterAll [.call "a" 0]).rulings early,
      ruling.admitted = false := by
    decide +kernel
  obtain ⟨leftOut, hammering⟩ := refused_without_effect limits
  refine ⟨ordered, unswept, leaves, leftOut acts left ordered unswept leaves, refused, ?_⟩
  exact hammering [.call "a" 0] early (by decide) (by simp [early]) refused nanosPerSecond "a"
    (by decide)

end Limiter

end ChatServer.Admission
