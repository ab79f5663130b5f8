import ChatServer.Proofs.Admission.Levels

/-! How many calls a limiter admits. In any interval of time it admits at most the burst and what a
bucket gains in it, wherever the interval lies and whatever is swept meanwhile. The level of the key
is the potential that carries the bound: each admission takes one from it, and it never grows faster
than a bucket gains.
-/

namespace ChatServer.Admission

/-- A call under the key was admitted in an interval of seconds, both ends included. -/
def Ruling.AdmitsWithin (key : String) (first last : Rat) (ruling : Ruling) : Prop :=
  ruling.key = key ∧ ruling.admitted = true
    ∧ first ≤ secondsOf ruling.now ∧ secondsOf ruling.now ≤ last

instance (key : String) (first last : Rat) : DecidablePred (Ruling.AdmitsWithin key first last) :=
  fun ruling => inferInstanceAs (Decidable (ruling.key = key ∧ ruling.admitted = true
    ∧ first ≤ secondsOf ruling.now ∧ secondsOf ruling.now ≤ last))

/-- How many calls under the key were admitted in an interval of seconds. -/
def admittedWithin (key : String) (first last : Rat) (rulings : List Ruling) : Nat :=
  rulings.countP (Ruling.AdmitsWithin key first last)

/-- The answers that the calls under a key got. -/
def answersTo (key : String) (rulings : List Ruling) : List Bool :=
  (rulings.filter (·.key = key)).map (·.admitted)

/-- Acts come one after the other in time. -/
def InTime (acts : List Act) : Prop :=
  acts.Pairwise fun earlier later => earlier.now ≤ later.now

instance (acts : List Act) : Decidable (InTime acts) :=
  inferInstanceAs (Decidable (acts.Pairwise fun earlier later => earlier.now ≤ later.now))

namespace Limiter

variable {limiter : Limiter Rat}

-----------------------------------------------------------------------------------------
-- One act
-----------------------------------------------------------------------------------------

/-- A call under the key comes when its level is one or more. -/
def Admits (limiter : Limiter Rat) (key : String) (act : Act) : Prop :=
  act.isCallOf key = true ∧ 1 ≤ limiter.level key act.now

instance (limiter : Limiter Rat) (key : String) : DecidablePred (limiter.Admits key) := fun act =>
  inferInstanceAs (Decidable (act.isCallOf key = true ∧ 1 ≤ limiter.level key act.now))

/-- An act takes one from the level of a key if it is a call that is admitted under it. -/
theorem level_after {act : Act} (h : limiter.InOrder act.now) (late : limiter.limits.ForgetsLate)
    (key : String)
    : (limiter.after act).level key act.now
      = if limiter.Admits key act then limiter.level key act.now - 1
        else limiter.level key act.now := by
  cases act with
  | call other now =>
      by_cases same : other = key
      · subst same
        exact (level_allow h other other).trans (by simp [Admits, Act.isCallOf, Act.now])
      · exact (level_allow h other key).trans
          (by simp [Admits, Act.isCallOf, Act.now, same, Ne.symm same])
  | sweep now => exact (level_sweep h late key).trans (by simp [Admits, Act.isCallOf, Act.now])

theorem answersTo_rulings_cons (limiter : Limiter Rat) (key : String) (act : Act)
    (rest : List Act)
    : answersTo key (limiter.rulings (act :: rest))
      = (if act.isCallOf key = true then [decide (limiter.Admits key act)] else [])
        ++ answersTo key ((limiter.after act).rulings rest) := by
  cases act with
  | call other now =>
      by_cases same : other = key
      · subst same
        simp [rulings, ruling?, answersTo, Admits, Act.isCallOf, Act.now, fst_allow]
      · simp [rulings, ruling?, answersTo, Act.isCallOf, same]
  | sweep now => simp [rulings, ruling?, answersTo, Act.isCallOf]

theorem admittedWithin_rulings_cons (limiter : Limiter Rat) (key : String) (first last : Rat)
    (act : Act) (rest : List Act)
    : admittedWithin key first last (limiter.rulings (act :: rest))
      = (if limiter.Admits key act ∧ first ≤ secondsOf act.now ∧ secondsOf act.now ≤ last then 1
          else 0)
        + admittedWithin key first last ((limiter.after act).rulings rest) := by
  cases act with
  | call other now =>
      simp only [rulings, ruling?, admittedWithin, Admits, Act.isCallOf, Act.now, fst_allow,
        Ruling.AdmitsWithin, Option.toList_some, List.singleton_append, List.countP_cons]
      by_cases same : other = key
      · subst same
        simp [Nat.add_comm]
      · simp [same]
  | sweep now => simp [rulings, ruling?, admittedWithin, Admits, Act.isCallOf]

-----------------------------------------------------------------------------------------
-- Intervals
-----------------------------------------------------------------------------------------

/-- From a time on, no more calls are admitted up to another time than the level has room for and
the bucket gains, by induction on the acts.
-/
theorem admittedWithin_le_level {acts : List Act} {now : Nat} (h : limiter.InOrder now)
    (late : limiter.limits.ForgetsLate) (ordered : InTime acts)
    (onwards : ∀ act ∈ acts, now ≤ act.now) (key : String) (first last : Rat)
    : (admittedWithin key first last (limiter.rulings acts) : Rat)
      ≤ max 0 (limiter.level key now + limiter.limits.gain (last - secondsOf now)) := by
  induction acts generalizing limiter now with
  | nil => exact le_max_left _ _
  | cons act rest ih =>
      obtain ⟨forward, _⟩ := List.forall_mem_cons.mp onwards
      obtain ⟨next, ordered⟩ := List.pairwise_cons.mp ordered
      have inOrder := h.later forward
      have bound := ih inOrder.after (by simpa using late) ordered next
      have rises : limiter.level key act.now
          ≤ limiter.level key now + limiter.limits.gain (secondsOf act.now - secondsOf now) :=
        (level_later h key forward).trans_le (min_le_left _ _)
      have whole : limiter.limits.gain (last - secondsOf now)
          = limiter.limits.gain (secondsOf act.now - secondsOf now)
            + limiter.limits.gain (last - secondsOf act.now) := by
        rw [← Limits.gain_add, sub_add_sub_cancel']
      rw [level_after inOrder late, limits_after] at bound
      rw [admittedWithin_rulings_cons, Nat.cast_add, whole]
      by_cases counts
          : limiter.Admits key act ∧ first ≤ secondsOf act.now ∧ secondsOf act.now ≤ last
      · have gained := limiter.limits.gain_nonneg (sub_nonneg.mpr counts.2.2)
        have one := counts.1.2
        rw [if_pos counts.1, max_eq_right (by linarith)] at bound
        rw [if_pos counts, Nat.cast_one]
        exact le_max_of_le_right (by linarith)
      · rw [if_neg counts, Nat.cast_zero, zero_add]
        refine bound.trans (max_le_max_left 0 ?_)
        split <;> linarith

/-- In any interval of seconds no more calls are admitted under a key than the burst and what a
bucket gains in it: the first of them meets a level of at most the burst.
-/
theorem admittedWithin_le {acts : List Act} {now : Nat} (h : limiter.InOrder now)
    (late : limiter.limits.ForgetsLate) (ordered : InTime acts)
    (onwards : ∀ act ∈ acts, now ≤ act.now) (key : String) (first : Rat) {seconds : Rat}
    (forward : 0 ≤ seconds)
    : (admittedWithin key first (first + seconds) (limiter.rulings acts) : Rat)
      ≤ limiter.limits.burst + limiter.limits.gain seconds := by
  have room : 0 ≤ limiter.limits.burst + limiter.limits.gain seconds :=
    add_nonneg (Nat.cast_nonneg _) (limiter.limits.gain_nonneg forward)
  induction acts generalizing limiter now with
  | nil => exact room
  | cons act rest ih =>
      have inOrder := h.later (onwards act List.mem_cons_self)
      obtain ⟨next, orderedRest⟩ := List.pairwise_cons.mp ordered
      by_cases begun : first ≤ secondsOf act.now
      · refine (admittedWithin_le_level inOrder late ordered ?_ key first _).trans (max_le room ?_)
        · exact List.forall_mem_cons.mpr ⟨Nat.le_refl _, next⟩
        · exact add_le_add (level_le inOrder key) (limiter.limits.gain_le (by linarith))
      · rw [admittedWithin_rulings_cons, if_neg (fun counts => begun counts.2.1), zero_add]
        have bound := ih inOrder.after (by simpa using late) orderedRest next (by simpa using room)
        rwa [limits_after] at bound

-----------------------------------------------------------------------------------------
-- Calls at one time
-----------------------------------------------------------------------------------------

/-- A limiter stays in order along acts that come one after the other. -/
theorem InOrder.afterAll {acts : List Act} {now : Nat} (h : limiter.InOrder now)
    (ordered : InTime acts) (onwards : ∀ act ∈ acts, now ≤ act.now) {later : Nat}
    (before : ∀ act ∈ acts, act.now ≤ later) (forward : now ≤ later)
    : (limiter.afterAll acts).InOrder later := by
  induction acts generalizing limiter now with
  | nil => exact h.later forward
  | cons act rest ih =>
      obtain ⟨next, ordered⟩ := List.pairwise_cons.mp ordered
      obtain ⟨upTo, before⟩ := List.forall_mem_cons.mp before
      exact ih (h.later (onwards act List.mem_cons_self)).after ordered next before upTo

/-- A key that nobody has called under is not kept track of. -/
theorem untracked_afterAll {acts : List Act} {key : String}
    (untracked : limiter.entries.get? key = none) (silent : ∀ act ∈ acts, act.isCallOf key = false)
    : (limiter.afterAll acts).entries.get? key = none := by
  induction acts generalizing limiter with
  | nil => exact untracked
  | cons act rest ih =>
      obtain ⟨other, silent⟩ := List.forall_mem_cons.mp silent
      refine ih ?_ silent
      cases act with
      | call caller now =>
          have differ : key ≠ caller := fun same => by simp [Act.isCallOf, same] at other
          exact (get?_allow limiter now caller key).trans ((if_neg differ).trans untracked)
      | sweep now =>
          exact List.lookup_eq_none_iff.mpr fun entry kept =>
            List.lookup_eq_none_iff.mp untracked entry (List.mem_filter.mp kept).1

/-- Of calls at one time, as many are admitted as the level says, and they are the first ones, by
induction on the acts.
-/
theorem answersTo_rulings_at {acts : List Act} {now : Nat} (h : limiter.InOrder now)
    (late : limiter.limits.ForgetsLate) (same : ∀ act ∈ acts, act.now = now) {key : String}
    {tokens : Nat} (level : limiter.level key now = tokens)
    : let calls := acts.countP (·.isCallOf key)
      answersTo key (limiter.rulings acts)
        = List.replicate (min calls tokens) true ++ List.replicate (calls - tokens) false := by
  induction acts generalizing limiter tokens with
  | nil => simp [rulings, answersTo]
  | cons act rest ih =>
      obtain ⟨rfl, same⟩ := List.forall_mem_cons.mp same
      have left := level_after h late key
      have goesOn {tokens : Nat} (level : (limiter.after act).level key act.now = tokens) :=
        ih h.after (by simpa using late) same level
      simp only [answersTo_rulings_cons, List.countP_cons]
      cases called : act.isCallOf key with
      | false =>
          rw [if_neg (by simp [Admits, called]), level] at left
          simpa using goesOn left
      | true =>
          cases tokens with
          | zero =>
              have refuses : ¬ limiter.Admits key act := by simp [Admits, level]
              rw [if_neg refuses, level] at left
              rw [goesOn left, decide_eq_false refuses]
              simp [List.replicate_succ]
          | succ tokens =>
              have admits : limiter.Admits key act := by simp [Admits, called, level]
              rw [if_pos admits, level, Nat.cast_succ, add_sub_cancel_right] at left
              rw [goesOn left, decide_eq_true admits]
              simp [List.replicate_succ]

/-- Under limits that forget nobody too early, whatever is called and swept one after the other: in
an interval of so many seconds, both ends included, no more calls are admitted under a key than the
burst and what is refilled in those seconds; and of the calls under a new key at one time exactly
the first ones are admitted, as many as the burst.
-/
theorem admitted_at_most {limits : Limits} (late : limits.ForgetsLate) (key : String)
    : let limiter : Limiter Rat := { limits }
      (∀ acts, InTime acts → ∀ first seconds : Rat, 0 ≤ seconds →
        (admittedWithin key first (first + seconds) (limiter.rulings acts) : Rat)
          ≤ limits.burst + seconds * limits.perMinute / 60)
      ∧ ∀ past acts now, InTime (past ++ acts) →
        (∀ act ∈ past, act.isCallOf key = false) → (∀ act ∈ acts, act.now = now) →
        let calls := acts.countP (·.isCallOf key)
        answersTo key ((limiter.afterAll past).rulings acts)
          = List.replicate (min calls limits.burst) true
            ++ List.replicate (calls - limits.burst) false := by
  intro limiter
  have start := InOrder.start limits 0
  constructor
  · intro acts ordered first seconds forward
    rw [mul_div_assoc]
    exact admittedWithin_le start late ordered (fun _ _ => Nat.zero_le _) key first forward
  · intro past acts now ordered silent same
    obtain ⟨earlier, _, upTo⟩ := List.pairwise_append.mp ordered
    cases acts with
    | nil => simp [rulings, answersTo]
    | cons act rest =>
        have before : ∀ old ∈ past, old.now ≤ now := fun old member =>
          (upTo old member act List.mem_cons_self).trans_eq (same act List.mem_cons_self)
        have inOrder : (limiter.afterAll past).InOrder now :=
          start.afterAll earlier (fun _ _ => Nat.zero_le _) before (Nat.zero_le _)
        have limitsKept := limits_afterAll limiter past
        have unknown : limiter.entries.get? key = none := rfl
        have full := level_of_untracked (untracked_afterAll unknown silent) now
        rw [limitsKept] at full
        exact answersTo_rulings_at inOrder (limitsKept ▸ late) same full

/-- A burst of two, three calls, a silence in which the key is forgotten, and three calls again: the
bound is met exactly.
-/
theorem admitted_at_most_of_two_bursts
    : let limits : Limits := ⟨60, 2, 2 * nanosPerSecond⟩
      let early := List.replicate 3 (Act.call "a" 0)
      let acts := early ++ .sweep (2 * nanosPerSecond)
        :: List.replicate 3 (.call "a" (2 * nanosPerSecond))
      let limiter : Limiter Rat := { limits }
      limits.ForgetsLate ∧ InTime acts
        ∧ (limiter.afterAll (acts.take 4)).tracked = 0
        ∧ admittedWithin "a" 0 2 (limiter.rulings acts) = 4
        ∧ (admittedWithin "a" 0 (0 + 2) (limiter.rulings acts) : Rat)
          ≤ limits.burst + 2 * limits.perMinute / 60
        ∧ answersTo "a" (limiter.rulings early) = [true, true, false] := by
  intro limits early acts limiter
  have late : limits.ForgetsLate := by decide +kernel
  have ordered : InTime acts := by decide +kernel
  obtain ⟨bounded, first⟩ := admitted_at_most late "a"
  refine ⟨late, ordered, by decide +kernel, by decide +kernel, ?_, ?_⟩
  · exact bounded acts ordered 0 2 (by norm_num)
  · exact first [] early 0 (by decide) (List.forall_mem_nil _) (by decide)

end Limiter

end ChatServer.Admission
