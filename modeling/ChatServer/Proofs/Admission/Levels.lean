import ChatServer.Admission.Limiter
import ChatServer.Proofs.Tables
import Mathlib.Algebra.Order.Field.Rat
import Mathlib.Tactic.FieldSimp
import Mathlib.Tactic.Linarith
import Mathlib.Tactic.Ring

/-! How full buckets are that are kept in exact fractions. The level of a key rises steadily with
time up to the burst and sinks by one with each call that is admitted. Nothing else moves it: not a
call that is refused, not a call under another key, and not a sweep, as long as nobody is forgotten
before an empty bucket could have filled up.
-/

namespace ChatServer.Admission

-----------------------------------------------------------------------------------------
-- Runs
-----------------------------------------------------------------------------------------

/-- What a limiter does at a time: it decides about a call under a key, or sweeps. -/
inductive Act where
  | call (key : String) (now : Nat)
  | sweep (now : Nat)

namespace Act

def now : Act → Nat
  | call _ now | sweep now => now

def isCallOf (key : String) : Act → Bool
  | call other _ => other = key
  | sweep _ => false

end Act

/-- A call with the ruling about it. -/
structure Ruling where
  key : String
  now : Nat
  admitted : Bool
  deriving DecidableEq

namespace Limiter

section

variable {α : Type} [Quantity α]

def after (limiter : Limiter α) : Act → Limiter α
  | .call key now => (limiter.allow now key).2
  | .sweep now => limiter.sweep now

def afterAll (limiter : Limiter α) (acts : List Act) : Limiter α :=
  acts.foldl after limiter

/-- The ruling about an act, if it is a call. -/
def ruling? (limiter : Limiter α) : Act → Option Ruling
  | .call key now => some ⟨key, now, (limiter.allow now key).1⟩
  | .sweep _ => none

/-- The rulings about the calls among some acts, one act after the other. -/
def rulings (limiter : Limiter α) : List Act → List Ruling
  | [] => []
  | act :: rest => (limiter.ruling? act).toList ++ (limiter.after act).rulings rest

@[simp] theorem limits_after (limiter : Limiter α) (act : Act)
    : (limiter.after act).limits = limiter.limits := by
  cases act <;> rfl

theorem limits_afterAll (limiter : Limiter α) (acts : List Act)
    : (limiter.afterAll acts).limits = limiter.limits := by
  induction acts generalizing limiter with
  | nil => rfl
  | cons act rest ih => exact (ih _).trans (limits_after limiter act)

theorem get?_allow (limiter : Limiter α) (now : Nat) (key other : String)
    : (limiter.allow now key).2.entries.get? other
      = if other = key then
          some ⟨((limiter.bucketOf now key).answer limiter.limits now).2, now⟩
        else limiter.entries.get? other :=
  Table.get?_set _ _ _ _

end

section

variable {α : Type} {limiter : Limiter α}

theorem distinct_sweep (distinct : limiter.entries.Distinct) (now : Nat)
    : (limiter.sweep now).entries.Distinct :=
  distinct.sublist (List.filter_sublist.map _)

/-- An entry is recent until the window is over, counted from its last call. -/
theorem isRecent_iff {limits : Limits} {now : Nat} {entry : Entry α} (past : entry.lastSeen ≤ now)
    : isRecent limits now entry = true ↔ now < entry.lastSeen + limits.idleWindow := by
  rw [isRecent, decide_eq_true_eq]
  omega

/-- A sweep leaves exactly the entries that are recent. -/
theorem get?_sweep (distinct : limiter.entries.Distinct) (now : Nat) (key : String)
    : (limiter.sweep now).entries.get? key
      = (limiter.entries.get? key).filter (isRecent limiter.limits now) := by
  have kept {entry : Entry α}
      : (key, entry) ∈ (limiter.sweep now).entries.entries
        ↔ (key, entry) ∈ limiter.entries.entries ∧ isRecent limiter.limits now entry = true :=
    List.mem_filter
  apply Option.ext
  intro entry
  rw [Option.filter_eq_some_iff]
  constructor
  · intro found
    obtain ⟨member, recent⟩ := kept.mp (Table.mem_of_get? found)
    exact ⟨Table.get?_of_mem distinct member, recent⟩
  · rintro ⟨found, recent⟩
    exact Table.get?_of_mem (distinct_sweep distinct now)
      (kept.mpr ⟨Table.mem_of_get? found, recent⟩)

end

end Limiter

-----------------------------------------------------------------------------------------
-- Exact seconds and tokens
-----------------------------------------------------------------------------------------

theorem secondsOf_eq (nanos : Nat) : (secondsOf nanos : Rat) = nanos / nanosPerSecond := by
  have whole : ((nanosPerSecond * (nanos / nanosPerSecond) + nanos % nanosPerSecond : Nat) : Rat)
      = nanos :=
    congrArg Nat.cast (Nat.div_add_mod nanos nanosPerSecond)
  have positive : (nanosPerSecond : Rat) ≠ 0 := by decide
  change ((nanos / nanosPerSecond : Nat) : Rat) + ((nanos % nanosPerSecond : Nat) : Rat)
    / (nanosPerSecond : Rat) = nanos / nanosPerSecond
  rw [← whole]
  push_cast
  field_simp

theorem secondsOf_sub {earlier later : Nat} (forward : earlier ≤ later)
    : (secondsOf (later - earlier) : Rat) = secondsOf later - secondsOf earlier := by
  rw [secondsOf_eq, secondsOf_eq, secondsOf_eq, Nat.cast_sub forward, sub_div]

theorem secondsOf_le {earlier later : Nat} (forward : earlier ≤ later)
    : (secondsOf earlier : Rat) ≤ secondsOf later := by
  rw [secondsOf_eq, secondsOf_eq]
  exact div_le_div_of_nonneg_right (Nat.cast_le.mpr forward) (Nat.cast_nonneg _)

/-- The tokens that come into a bucket in so many seconds while there is room. -/
def Limits.gain (limits : Limits) (seconds : Rat) : Rat :=
  seconds * (limits.perMinute / 60)

theorem Limits.gain_nonneg (limits : Limits) {seconds : Rat} (forward : 0 ≤ seconds)
    : 0 ≤ limits.gain seconds :=
  mul_nonneg forward (div_nonneg (Nat.cast_nonneg _) (by norm_num))

theorem Limits.gain_add (limits : Limits) (first second : Rat)
    : limits.gain (first + second) = limits.gain first + limits.gain second :=
  add_mul _ _ _

theorem Limits.gain_le (limits : Limits) {less more : Rat} (le : less ≤ more)
    : limits.gain less ≤ limits.gain more :=
  mul_le_mul_of_nonneg_right le (div_nonneg (Nat.cast_nonneg _) (by norm_num))

/-- A bucket brought up to date has gained tokens for the time since, up to the burst. -/
theorem Bucket.tokens_refill {limits : Limits} {bucket : Bucket Rat} {now : Nat}
    (past : bucket.updated ≤ now) (held : bucket.tokens ≤ limits.burst)
    : (bucket.refill limits now).tokens
      = min (bucket.tokens + limits.gain (secondsOf now - secondsOf bucket.updated))
          limits.burst := by
  rw [refill]
  split
  next upToDate =>
    rw [Nat.le_antisymm upToDate past, sub_self, Limits.gain, zero_mul, add_zero, min_eq_left held]
  next =>
    rw [← secondsOf_sub past, min_def]
    change (if decide _ = true then _ else _) = _
    simp only [decide_eq_true_eq]
    rfl

/-- A bucket that is up to date gives a token away if it holds one. -/
theorem Bucket.take_eq (bucket : Bucket Rat)
    : bucket.take
      = if 1 ≤ bucket.tokens then (true, { bucket with tokens := bucket.tokens - 1 })
        else (false, bucket) := by
  have one : ((1 : Nat) : Rat) = 1 := Nat.cast_one
  change (if decide (((1 : Nat) : Rat) ≤ bucket.tokens) = true then
    (true, { bucket with tokens := bucket.tokens - ((1 : Nat) : Rat) }) else (false, bucket)) = _
  simp only [decide_eq_true_eq, one]

theorem Bucket.updated_take (bucket : Bucket Rat) : bucket.take.2.updated = bucket.updated := by
  rw [take_eq]
  split <;> rfl

theorem Bucket.updated_refill {limits : Limits} {bucket : Bucket Rat} {now : Nat}
    (past : bucket.updated ≤ now)
    : (bucket.refill limits now).updated = now := by
  rw [refill]
  split
  next upToDate => exact Nat.le_antisymm past upToDate
  next => rfl

/-- A bucket is in order at a time: it has been brought up to date before, and holds some tokens but
not more than the burst.
-/
structure Bucket.InOrder (limits : Limits) (now : Nat) (bucket : Bucket Rat) : Prop where
  past : bucket.updated ≤ now
  some : 0 ≤ bucket.tokens
  held : bucket.tokens ≤ limits.burst

namespace Bucket.InOrder

variable {limits : Limits} {now : Nat} {bucket : Bucket Rat}

theorem full (limits : Limits) (now : Nat) : InOrder limits now (.full limits now) :=
  ⟨Nat.le_refl now, Nat.cast_nonneg limits.burst, le_refl (limits.burst : Rat)⟩

theorem later (h : bucket.InOrder limits now) {later : Nat} (forward : now ≤ later)
    : bucket.InOrder limits later :=
  ⟨Nat.le_trans h.past forward, h.some, h.held⟩

theorem refill (h : bucket.InOrder limits now)
    : (bucket.refill limits now).InOrder limits now := by
  have gained := limits.gain_nonneg (sub_nonneg.mpr (secondsOf_le h.past))
  refine ⟨Nat.le_of_eq (updated_refill h.past), ?_, ?_⟩ <;> rw [tokens_refill h.past h.held]
  · exact le_min (add_nonneg h.some gained) (Nat.cast_nonneg _)
  · exact min_le_right _ _

theorem take (h : bucket.InOrder limits now) : bucket.take.2.InOrder limits now := by
  rw [take_eq]
  split
  next one => exact ⟨h.past, sub_nonneg.mpr one, le_trans (by simp) h.held⟩
  next => exact h

end Bucket.InOrder

-----------------------------------------------------------------------------------------
-- Levels
-----------------------------------------------------------------------------------------

namespace Limiter

/-- How full the bucket of a key is at a time. -/
def level (limiter : Limiter Rat) (key : String) (now : Nat) : Rat :=
  ((limiter.bucketOf now key).refill limiter.limits now).tokens

/-- A limiter is in order at a time: no key is kept twice, each was seen when its bucket was last
brought up to date, and its bucket is in order.
-/
structure InOrder (limiter : Limiter Rat) (now : Nat) : Prop where
  distinct : limiter.entries.Distinct
  seen
    : ∀ {key entry}, limiter.entries.get? key = some entry →
        entry.lastSeen = entry.bucket.updated
  bucket
    : ∀ {key entry}, limiter.entries.get? key = some entry →
        entry.bucket.InOrder limiter.limits now

variable {limiter : Limiter Rat} {now : Nat}

theorem InOrder.start (limits : Limits) (now : Nat) : InOrder { limits } now where
  distinct := List.nodup_nil
  seen found := by cases found
  bucket found := by cases found

theorem InOrder.later (h : limiter.InOrder now) {later : Nat} (forward : now ≤ later)
    : limiter.InOrder later :=
  { h with bucket := fun found => (h.bucket found).later forward }

theorem InOrder.bucketOf (h : limiter.InOrder now) (key : String)
    : (limiter.bucketOf now key).InOrder limiter.limits now := by
  rw [Limiter.bucketOf]
  split
  next entry found => exact h.bucket found
  next => exact .full limiter.limits now

theorem InOrder.allow (h : limiter.InOrder now) (key : String)
    : (limiter.allow now key).2.InOrder now where
  distinct := h.distinct.set key _
  seen {other entry} found := by
    rw [get?_allow] at found
    split at found
    next =>
      obtain rfl := Option.some.inj found
      exact ((Bucket.updated_take _).trans (Bucket.updated_refill (h.bucketOf key).past)).symm
    next => exact h.seen found
  bucket {other entry} found := by
    rw [get?_allow] at found
    split at found
    next =>
      obtain rfl := Option.some.inj found
      exact (h.bucketOf key).refill.take
    next => exact h.bucket found

theorem InOrder.sweep (h : limiter.InOrder now) : (limiter.sweep now).InOrder now where
  distinct := distinct_sweep h.distinct now
  seen found := by
    rw [get?_sweep h.distinct] at found
    exact h.seen (Option.filter_eq_some_iff.mp found).1
  bucket found := by
    rw [get?_sweep h.distinct] at found
    exact h.bucket (Option.filter_eq_some_iff.mp found).1

/-- Every act keeps a limiter in order. -/
theorem InOrder.after {act : Act} (h : limiter.InOrder act.now)
    : (limiter.after act).InOrder act.now := by
  cases act with
  | call key now => exact h.allow key
  | sweep now => exact h.sweep

theorem level_le (h : limiter.InOrder now) (key : String)
    : limiter.level key now ≤ limiter.limits.burst :=
  (h.bucketOf key).refill.held

/-- The bucket of a key that is not kept track of is full. -/
theorem level_of_untracked {key : String} (untracked : limiter.entries.get? key = none) (now : Nat)
    : limiter.level key now = limiter.limits.burst := by
  have same : limiter.bucketOf now key = .full limiter.limits now := by
    rw [bucketOf, untracked]
  rw [level, same, Bucket.tokens_refill (Bucket.InOrder.full _ now).past
    (Bucket.InOrder.full _ now).held]
  exact min_eq_right (le_add_of_nonneg_right (by simp [Limits.gain, Bucket.full]))

theorem level_of_tracked (h : limiter.InOrder now) {key : String} {entry : Entry Rat}
    (tracked : limiter.entries.get? key = some entry)
    : limiter.level key now
      = min (entry.bucket.tokens
            + limiter.limits.gain (secondsOf now - secondsOf entry.bucket.updated))
          limiter.limits.burst := by
  have same : limiter.bucketOf now key = entry.bucket := by
    rw [bucketOf, tracked]
  rw [level, same, Bucket.tokens_refill (h.bucket tracked).past (h.bucket tracked).held]

/-- A level rises steadily with time, up to the burst. -/
theorem level_later (h : limiter.InOrder now) (key : String) {later : Nat} (forward : now ≤ later)
    : limiter.level key later
      = min (limiter.level key now + limiter.limits.gain (secondsOf later - secondsOf now))
          limiter.limits.burst := by
  have gained := limiter.limits.gain_nonneg (sub_nonneg.mpr (secondsOf_le forward))
  cases tracked : limiter.entries.get? key with
  | none =>
      rw [level_of_untracked tracked, level_of_untracked tracked,
        min_eq_right (le_add_of_nonneg_right gained)]
  | some entry =>
      have whole : (secondsOf later - secondsOf entry.bucket.updated : Rat)
          = (secondsOf now - secondsOf entry.bucket.updated)
            + (secondsOf later - secondsOf now) := by
        ring
      rw [level_of_tracked h tracked, level_of_tracked (h.later forward) tracked, whole,
        Limits.gain_add, ← min_add_add_right, ← add_assoc, min_assoc,
        min_eq_right (le_add_of_nonneg_right gained)]

/-- A call is admitted if the level of its key is one or more. -/
theorem fst_allow (limiter : Limiter Rat) (now : Nat) (key : String)
    : (limiter.allow now key).1 = decide (1 ≤ limiter.level key now) := by
  change ((limiter.bucketOf now key).refill limiter.limits now).take.1 = _
  rw [Bucket.take_eq, level]
  split <;> simp_all

/-- A call that is admitted takes one from the level of its key, and any other leaves it. -/
theorem level_allow (h : limiter.InOrder now) (key other : String)
    : (limiter.allow now key).2.level other now
      = if other = key ∧ 1 ≤ limiter.level key now then limiter.level key now - 1
        else limiter.level other now := by
  by_cases same : other = key
  · subst same
    have tracked := get?_allow limiter now other other
    rw [if_pos rfl] at tracked
    have upToDate : ((limiter.bucketOf now other).refill limiter.limits now).updated = now :=
      Bucket.updated_refill (h.bucketOf other).past
    have taken := (h.bucketOf other).refill.take.held
    rw [level_of_tracked (h.allow other) tracked]
    change min ((Bucket.take _).2.tokens + limiter.limits.gain (secondsOf now
      - secondsOf (Bucket.take _).2.updated)) (limiter.limits.burst : Rat) = _
    rw [Bucket.updated_take, upToDate, sub_self, Limits.gain, zero_mul, add_zero, min_eq_left taken,
      Bucket.take_eq, level]
    split <;> simp_all
  · have kept : (limiter.allow now key).2.bucketOf now other = limiter.bucketOf now other := by
      rw [bucketOf, bucketOf, get?_allow, if_neg same]
      rfl
    rw [if_neg (fun both => same both.1), level, kept]
    rfl

end Limiter

/-- Nobody is forgotten before an empty bucket could have filled up. -/
def Limits.ForgetsLate (limits : Limits) : Prop :=
  60 * limits.burst * nanosPerSecond ≤ limits.idleWindow * limits.perMinute

instance (limits : Limits) : Decidable limits.ForgetsLate :=
  inferInstanceAs (Decidable (_ ≤ _))

/-- Then, and only then, a silence of the idle window brings in as much as a bucket can hold. -/
theorem Limits.forgetsLate_iff {limits : Limits}
    : limits.ForgetsLate ↔ (limits.burst : Rat) ≤ limits.gain (secondsOf limits.idleWindow) := by
  have positive : (0 : Rat) < nanosPerSecond := by decide
  have nanos : limits.ForgetsLate
      ↔ (60 * limits.burst * nanosPerSecond : Rat) ≤ limits.idleWindow * limits.perMinute := by
    rw [ForgetsLate]
    exact_mod_cast Iff.rfl
  rw [nanos, gain, secondsOf_eq, div_mul_div_comm, le_div_iff₀ (mul_pos positive (by norm_num))]
  constructor <;> intro le <;> linarith

/-- A sweep leaves every level as it is: the bucket of a key that is forgotten was full. -/
theorem Limiter.level_sweep {limiter : Limiter Rat} {now : Nat} (h : limiter.InOrder now)
    (late : limiter.limits.ForgetsLate) (key : String)
    : (limiter.sweep now).level key now = limiter.level key now := by
  have found := get?_sweep h.distinct now key
  cases tracked : limiter.entries.get? key with
  | none =>
      rw [tracked, Option.filter_none] at found
      rw [level_of_untracked tracked, level_of_untracked found]
      rfl
  | some entry =>
      rw [tracked] at found
      cases recent : isRecent limiter.limits now entry with
      | true =>
          rw [Option.filter_some, if_pos recent] at found
          rw [level_of_tracked h tracked, level_of_tracked h.sweep found]
          rfl
      | false =>
          have silent : limiter.limits.idleWindow ≤ now - entry.bucket.updated := by
            have old : ¬ (now - entry.lastSeen < limiter.limits.idleWindow) :=
              of_decide_eq_false recent
            rw [h.seen tracked] at old
            omega
          have gained := limiter.limits.gain_le (secondsOf_le silent)
          rw [secondsOf_sub (h.bucket tracked).past] at gained
          rw [Option.filter_some, recent, if_neg Bool.false_ne_true] at found
          rw [level_of_untracked found, level_of_tracked h tracked]
          refine (min_eq_right ?_).symm
          exact ((Limits.forgetsLate_iff.mp late).trans gained).trans
            (le_add_of_nonneg_left (h.bucket tracked).some)

end ChatServer.Admission
