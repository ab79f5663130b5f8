import ChatServer.Proofs.Admission.Memory
import ChatServer.Proofs.Admission.Sweeping

/-! How long the sweeper lets a silent key stay. A sweep leaves no key that has been silent for the
idle window, and the next one comes within an interval, whether time passes slowly or in jumps. So
the limiter remembers nobody for longer than both together, as long as there was a sweep at all: if
the first tick comes so late that it swallows the second, nothing has been swept before the third.
-/

namespace ChatServer.Admission

variable {α : Type}

/-- What happens to a limiter between two calls makes it forget only keys that have been silent for
the window: by induction on what happens.
-/
theorem Limiter.Drifts.isSeen {limiter next : Limiter α} {now later : Nat}
    (drifts : limiter.Drifts now next later) (distinct : limiter.entries.Distinct)
    (past : ∀ key last, limiter.IsSeen key last → last ≤ now)
    : now ≤ later ∧ next.limits = limiter.limits ∧ next.entries.Distinct
      ∧ (∀ key last, next.IsSeen key last → limiter.IsSeen key last)
      ∧ ∀ key last, limiter.IsSeen key last → later < last + limiter.limits.idleWindow →
        next.IsSeen key last := by
  induction drifts with
  | still => exact ⟨Nat.le_refl _, rfl, distinct, fun _ _ => id, fun _ _ seen _ => seen⟩
  | wait _ forward ih =>
      obtain ⟨onwards, limits, distinct, known, kept⟩ := ih
      refine ⟨Nat.le_trans onwards forward, limits, distinct, known, fun key last seen early => ?_⟩
      exact kept key last seen (Nat.lt_of_le_of_lt forward early)
  | @sweep next later _ ih =>
      obtain ⟨onwards, limits, distinct, known, kept⟩ := ih
      have swept (key : String) (last : Nat) := isSeen_sweep_iff distinct fun seen =>
        Nat.le_trans (past key last (known key last seen)) onwards
      rw [limits] at swept
      refine ⟨onwards, limits, distinct_sweep distinct later, ?_, ?_⟩
      · exact fun key last seen => known key last ((swept key last).mp seen).1
      · exact fun key last seen early => (swept key last).mpr ⟨kept key last seen early, early⟩

namespace Station

variable {limits : Limits} {station next : Station α} {record : List Act}

-----------------------------------------------------------------------------------------
-- What is remembered of the calls
-----------------------------------------------------------------------------------------

/-- What is done, with the time, if it is a call. -/
def call? (station : Station α) : Doing → Option Act
  | .call key => some (.call key station.now)
  | _ => none

/-- The calls with their times, one after the other. -/
def calls [Quantity α] (station : Station α) : List Doing → List Act
  | [] => []
  | doing :: rest => (station.call? doing).toList ++ (station.after doing).calls rest

theorem calls_concat [Quantity α] (station : Station α) (earlier : List Doing) (doing : Doing)
    : station.calls (earlier ++ [doing])
      = station.calls earlier ++ ((station.afterAll earlier).call? doing).toList := by
  induction earlier generalizing station with
  | nil => exact List.append_nil _
  | cons first rest ih => rw [List.cons_append, calls, ih, calls, List.append_assoc]; rfl

/-- The limiter keeps track of no key but with its latest call, and of all that have not been silent
for the window.
-/
structure Remembers (station : Station α) (limits : Limits) (record : List Act) : Prop where
  under : station.limiter.limits = limits
  caughtUp : station.IsCaughtUp
  distinct : station.limiter.entries.Distinct
  latest : ∀ {key last}, station.limiter.IsSeen key last →
    ∃ since, IsLatestCall record key last since
  past : ∀ {key last since}, IsLatestCall record key last since → last ≤ station.now
  kept : ∀ {key last since}, IsLatestCall record key last since →
    station.now < last + limits.idleWindow → station.limiter.IsSeen key last

namespace Remembers

theorem start (limits : Limits) (now : Nat)
    : Remembers ({ limiter := { limits }, now } : Station α) limits [] := by
  refine ⟨rfl, .of_stopped rfl, List.nodup_nil, ?_,
    fun latest => (List.not_mem_nil latest.mem).elim,
    fun latest => (List.not_mem_nil latest.mem).elim⟩
  rintro key last ⟨entry, found, _⟩
  cases found

theorem seen_past (remembers : station.Remembers limits record) (key : String) (last : Nat)
    (seen : station.limiter.IsSeen key last)
    : last ≤ station.now := by
  obtain ⟨since, latest⟩ := remembers.latest seen
  exact remembers.past latest

/-- Time that passes, and sweeps in it, take nothing from what is remembered. -/
theorem drift (remembers : station.Remembers limits record)
    (drifts : station.Drifts next ∧ next.IsCaughtUp)
    : next.Remembers limits record := by
  obtain ⟨onwards, same, distinct, known, kept⟩ :=
    Limiter.Drifts.isSeen drifts.1 remembers.distinct remembers.seen_past
  refine ⟨same.trans remembers.under, drifts.2, distinct,
    fun seen => remembers.latest (known _ _ seen),
    fun latest => Nat.le_trans (remembers.past latest) onwards, fun latest early => ?_⟩
  refine kept _ _ (remembers.kept latest (Nat.lt_of_le_of_lt onwards early)) ?_
  rwa [remembers.under]

variable [Quantity α]

theorem call (remembers : station.Remembers limits record) (key : String)
    : (station.allow key).2.Remembers limits (record ++ [.call key station.now]) := by
  have seen_iff (other : String) (last : Nat)
      : (station.limiter.after (.call key station.now)).IsSeen other last ↔ _ :=
    Limiter.isSeen_after_iff remembers.distinct (remembers.seen_past other last)
  simp only [reduceCtorEq, false_imp_iff, implies_true, and_true] at seen_iff
  have distinct := Limiter.distinct_after remembers.distinct (.call key station.now)
  refine ⟨remembers.under, ⟨remembers.caughtUp.ahead⟩, distinct, fun seen => ?_, fun latest => ?_,
    fun latest early => (seen_iff _ _).mpr ?_⟩
  · rcases (seen_iff _ _).mp seen with now | ⟨before, other⟩
    · exact ⟨[], isLatestCall_concat_iff.mpr (.inl ⟨now, rfl⟩)⟩
    · obtain ⟨since, latest⟩ := remembers.latest before
      exact ⟨_, isLatestCall_concat_iff.mpr (.inr ⟨since, rfl, latest, other⟩)⟩
  · rcases isLatestCall_concat_iff.mp latest with ⟨now, _⟩ | ⟨since, _, earlier, _⟩
    · exact Nat.le_of_eq (Act.call.inj now).2.symm
    · exact remembers.past earlier
  · rcases isLatestCall_concat_iff.mp latest with ⟨now, _⟩ | ⟨since, _, earlier, other⟩
    · exact .inl now
    · exact .inr ⟨remembers.kept earlier early, other⟩

theorem after (remembers : station.Remembers limits record) (doing : Doing)
    : (station.after doing).Remembers limits (record ++ (station.call? doing).toList) := by
  have drift {next : Station α} (drifts : station.Drifts next ∧ next.IsCaughtUp)
      : next.Remembers limits (record ++ []) := by
    rw [List.append_nil]
    exact remembers.drift drifts
  cases doing with
  | call key => exact remembers.call key
  | sweep => exact drift ⟨Limiter.Drifts.still.sweep, ⟨remembers.caughtUp.ahead⟩⟩
  | jump nanos => exact drift (station.drifts_jump nanos)
  | pass nanos => exact drift ((glides_pass remembers.caughtUp nanos).drifts remembers.caughtUp)
  | start seconds => exact drift (station.drifts_startSweeper _)
  | stop => exact drift ⟨Limiter.Drifts.still, .of_stopped rfl⟩

/-- By induction from what is done last. -/
theorem afterAll (remembers : station.Remembers limits record) (doings : List Doing)
    : (station.afterAll doings).Remembers limits (record ++ station.calls doings) := by
  induction doings using List.reverseRecOn with
  | nil => exact (List.append_nil record).symm ▸ remembers
  | append_singleton earlier doing ih =>
      rw [calls_concat, afterAll_append, ← List.append_assoc]
      exact ih.after doing

end Remembers

-----------------------------------------------------------------------------------------
-- The sweeper on its grid
-----------------------------------------------------------------------------------------

/-- When the next tick comes, no key has been silent for longer than the window and an interval. -/
def IsYoung (station : Station α) (sweeper : Sweeper) : Prop :=
  ∀ key last, station.limiter.IsSeen key last →
    sweeper.next ≤ last + station.limiter.limits.idleWindow + sweeper.interval

/-- A sweeper that was started at a time is on its grid, and its next tick comes within an interval.
Either it has swept and all entries are young, or that tick is one that can come before any sweep.
-/
structure OnDuty (station : Station α) (start interval : Nat) (unswept : Nat → Prop)
    (sweeper : Sweeper)
    : Prop where
  running : station.sweeper = some sweeper
  apart : sweeper.interval = interval
  onGrid : ∃ n, sweeper.next = start + n * interval
  fresh : sweeper.isFresh = true → sweeper.next = start
  near : sweeper.next ≤ station.now + interval
  swept : unswept sweeper.next ∨ station.IsYoung sweeper

namespace OnDuty

variable {start interval : Nat} {unswept : Nat → Prop} {sweeper later : Sweeper}

theorem imp (onDuty : station.OnDuty start interval unswept sweeper) {others : Nat → Prop}
    (more : ∀ next, unswept next → others next)
    : station.OnDuty start interval others sweeper :=
  ⟨onDuty.running, onDuty.apart, onDuty.onGrid, onDuty.fresh, onDuty.near,
    onDuty.swept.imp_left (more _)⟩

theorem wait (onDuty : station.OnDuty start interval unswept sweeper) {time : Nat}
    (forward : station.now ≤ time)
    : OnDuty { station with now := time } start interval unswept sweeper :=
  ⟨onDuty.running, onDuty.apart, onDuty.onGrid, onDuty.fresh,
    Nat.le_trans onDuty.near (Nat.add_le_add_right forward _), onDuty.swept⟩

/-- The sweeper stays on its grid when it goes on to a later tick. -/
theorem goOn (onDuty : station.OnDuty start interval unswept sweeper)
    (goesOn : sweeper.GoesOn next.now later) (running : next.sweeper = some later)
    (swept : unswept later.next ∨ next.IsYoung later)
    : next.OnDuty start interval unswept later := by
  obtain ⟨n, first⟩ := onDuty.onGrid
  obtain ⟨m, rest⟩ := goesOn.onGrid
  obtain rfl := onDuty.apart
  refine ⟨running, goesOn.interval, ⟨n + (m + 1), ?_⟩, ?_, goesOn.near, swept⟩
  · rw [rest, first, Nat.add_assoc, ← Nat.add_mul]
  · intro fresh
    cases fresh.symm.trans goesOn.begun

/-- A tick leaves nobody who has been silent for the window, unless it is the first. -/
theorem tick (onDuty : station.OnDuty start interval unswept sweeper)
    (distinct : station.limiter.entries.Distinct)
    (past : ∀ key last, station.limiter.IsSeen key last → last ≤ station.now)
    (first : sweeper.isFresh = true → sweeper.isDue station.now = true →
      unswept (sweeper.begin station.now).next)
    : ∃ later, station.tick.OnDuty start interval unswept later := by
  generalize ticked : station.tick = next
  cases ticked ▸ station.isTicked_tick with
  | idle => exact ⟨sweeper, onDuty⟩
  | first running fresh due =>
      obtain rfl := Option.some.inj (onDuty.running.symm.trans running)
      exact ⟨_, onDuty.goOn (Sweeper.goesOn_begin due) rfl (.inl (first fresh due))⟩
  | @swept _ later running _ goesOn =>
      obtain rfl := Option.some.inj (onDuty.running.symm.trans running)
      refine ⟨later, onDuty.goOn goesOn rfl (.inr fun key last seen => ?_)⟩
      have recent := ((Limiter.isSeen_sweep_iff distinct (past key last)).mp seen).2
      have near := goesOn.near
      rw [goesOn.interval]
      change later.next ≤ last + station.limiter.limits.idleWindow + sweeper.interval
      omega

theorem jump (onDuty : station.OnDuty start interval unswept sweeper)
    (remembers : station.Remembers limits record) {nanos : Nat}
    (first : sweeper.isFresh = true → sweeper.isDue (station.now + nanos) = true →
      unswept (sweeper.begin (station.now + nanos)).next)
    : ∃ later, (station.jump nanos).OnDuty start interval unswept later :=
  (onDuty.wait (Nat.le_add_right _ _)).tick remembers.distinct
    (fun key last seen => Nat.le_trans (remembers.seen_past key last seen) (Nat.le_add_right _ _))
    first

theorem call [Quantity α] (onDuty : station.OnDuty start interval unswept sweeper)
    (remembers : station.Remembers limits record) (key : String)
    : (station.allow key).2.OnDuty start interval unswept sweeper := by
  refine ⟨onDuty.running, onDuty.apart, onDuty.onGrid, onDuty.fresh, onDuty.near,
    onDuty.swept.imp_right fun young other last seen => ?_⟩
  have seen_iff : (station.limiter.after (.call key station.now)).IsSeen other last ↔ _ :=
    Limiter.isSeen_after_iff remembers.distinct (remembers.seen_past other last)
  rcases seen_iff.mp seen with now | ⟨before, _⟩
  · have near := onDuty.near
    rw [(Act.call.inj now).2, ← onDuty.apart] at near
    change sweeper.next ≤ last + station.limiter.limits.idleWindow + sweeper.interval
    omega
  · exact young other last before

theorem next_begin_of_inTime (onDuty : station.OnDuty start interval unswept sweeper)
    (fresh : sweeper.isFresh = true) {time : Nat} (inTime : sweeper.isLate time = false)
    : (sweeper.begin time).next = start + interval := by
  rw [← onDuty.fresh fresh, ← onDuty.apart]
  simp [Sweeper.begin, inTime]

/-- If time passes without a late tick, the first tick is followed by the second. -/
theorem glides (onDuty : station.OnDuty start interval unswept sweeper)
    (remembers : station.Remembers limits record) (second : unswept (start + interval))
    (glides : station.Glides next)
    : ∃ later, next.OnDuty start interval unswept later := by
  suffices along : next.Remembers limits record
      ∧ ∃ later, next.OnDuty start interval unswept later from
    along.2
  induction glides with
  | still => exact ⟨remembers, sweeper, onDuty⟩
  | @jump next nanos _ inTime ih =>
      obtain ⟨remembers, later, onDuty⟩ := ih
      refine ⟨remembers.drift (next.drifts_jump nanos), ?_⟩
      refine onDuty.jump remembers fun fresh due => ?_
      rwa [onDuty.next_begin_of_inTime fresh (inTime onDuty.running due)]

end OnDuty

/-- A jump of the clock overshoots: it takes the sweeper that waits for its first tick past the
second, too, and so late that none of them sweeps. Then the next one comes at a given time.
-/
def Overshoots (station : Station α) (nanos next : Nat) : Prop :=
  ∃ sweeper, station.sweeper = some sweeper ∧ sweeper.isFresh = true
    ∧ sweeper.next + sweeper.interval ≤ station.now + nanos
    ∧ sweeper.isLate (station.now + nanos) = true
    ∧ next = sweeper.following (station.now + nanos)

/-- A jump among the doings overshoots. -/
def OvershootsAmong [Quantity α] (station : Station α) (doings : List Doing) (next : Nat) : Prop :=
  ∃ before nanos after, doings = before ++ .jump nanos :: after
    ∧ (station.afterAll before).Overshoots nanos next

namespace OnDuty

variable {start interval : Nat} {unswept : Nat → Prop} {sweeper : Sweeper}

/-- After its first tick the sweeper waits for the second, unless the clock overshoots. -/
theorem next_begin (onDuty : station.OnDuty start interval unswept sweeper)
    (fresh : sweeper.isFresh = true) (nanos : Nat)
    : let next := (sweeper.begin (station.now + nanos)).next
      next = start + interval ∨ station.Overshoots nanos next := by
  intro next
  cases late : sweeper.isLate (station.now + nanos) with
  | false => exact .inl (onDuty.next_begin_of_inTime fresh late)
  | true =>
      have begun : next = sweeper.following (station.now + nanos) := by
        simp [next, Sweeper.begin, late]
      by_cases second : sweeper.next + sweeper.interval ≤ station.now + nanos
      · exact .inr ⟨sweeper, onDuty.running, fresh, second, late, begun⟩
      · -- The landing lies between the first two ticks, so the second is the next of the grid.
        have short : (station.now + nanos - sweeper.next) / sweeper.interval = 0 := by
          have passed : sweeper.next + Sweeper.patience < station.now + nanos :=
            of_decide_eq_true late
          exact Nat.div_eq_of_lt (by omega)
        left
        rw [begun, Sweeper.following, short, onDuty.fresh fresh, onDuty.apart, Nat.zero_add,
          Nat.one_mul]

variable [Quantity α]

theorem after (onDuty : station.OnDuty start interval unswept sweeper)
    (remembers : station.Remembers limits record) {doing : Doing} (plain : doing.isSweeping = false)
    (second : unswept (start + interval))
    (third : ∀ nanos next, doing = .jump nanos → station.Overshoots nanos next → unswept next)
    : ∃ later, (station.after doing).OnDuty start interval unswept later := by
  cases doing with
  | call key => exact ⟨sweeper, onDuty.call remembers key⟩
  | pass nanos => exact onDuty.glides remembers second (glides_pass remembers.caughtUp nanos)
  | jump nanos =>
      refine onDuty.jump remembers fun fresh _ => ?_
      rcases onDuty.next_begin fresh nanos with begun | overshoots
      · rwa [begun]
      · exact third nanos _ rfl overshoots
  | sweep | start | stop => cases plain

/-- By induction from what is done last: a jump that overshoots stays among the doings. -/
theorem afterAll (onDuty : station.OnDuty start interval (· ≤ start + interval) sweeper)
    (remembers : station.Remembers limits record) {doings : List Doing}
    (plain : ∀ doing ∈ doings, doing.isSweeping = false)
    : ∃ later, (station.afterAll doings).OnDuty start interval
        (fun next => next ≤ start + interval ∨ station.OvershootsAmong doings next) later := by
  induction doings using List.reverseRecOn with
  | nil => exact ⟨sweeper, onDuty.imp fun _ => .inl⟩
  | append_singleton earlier doing ih =>
      obtain ⟨plainBefore, plainLast⟩ := List.forall_mem_append.mp plain
      obtain ⟨later, onDuty⟩ := ih plainBefore
      rw [afterAll_append]
      have more (next : Nat) (among : station.OvershootsAmong earlier next)
          : station.OvershootsAmong (earlier ++ [doing]) next := by
        obtain ⟨before, nanos, after, rfl, overshoots⟩ := among
        exact ⟨before, nanos, after ++ [doing], by simp, overshoots⟩
      refine (onDuty.imp fun next => Or.imp_right (more next)).after (remembers.afterAll earlier)
        (plainLast doing (List.mem_singleton_self doing)) (.inl (Nat.le_refl _)) ?_
      rintro nanos next rfl overshoots
      exact .inr ⟨earlier, nanos, [], rfl, overshoots⟩

end OnDuty

/-- A sweeper that is started is on duty: if its first tick is due at once, it is not late. -/
theorem onDuty_startSweeper (remembers : station.Remembers limits record) (interval : Nat)
    : ∃ sweeper, (station.startSweeper interval).OnDuty station.now interval
        (· ≤ station.now + interval) sweeper := by
  let started : Station α := { station with sweeper := some { interval, next := station.now } }
  have onDuty : started.OnDuty station.now interval (· ≤ station.now + interval)
      { interval, next := station.now } :=
    ⟨rfl, rfl, ⟨0, by simp⟩, fun _ => rfl, Nat.le_add_right _ _, .inl (Nat.le_add_right _ _)⟩
  refine onDuty.tick remembers.distinct remembers.seen_past fun fresh _ => ?_
  have inTime : Sweeper.isLate { interval, next := station.now } station.now = false := by
    simp [Sweeper.isLate]
  exact Nat.le_of_eq (onDuty.next_begin_of_inTime fresh inTime)

-----------------------------------------------------------------------------------------
-- A sweeper that has begun
-----------------------------------------------------------------------------------------

/-- The sweeper, if one is running, has had its first tick. -/
def HasBegun (station : Station α) : Prop :=
  ∀ sweeper, station.sweeper = some sweeper → sweeper.isFresh = false

theorem HasBegun.tick (begun : station.HasBegun) : station.tick.HasBegun := by
  generalize ticked : station.tick = next
  cases ticked ▸ station.isTicked_tick with
  | idle => exact begun
  | first running fresh => cases fresh.symm.trans (begun _ running)
  | swept _ _ goesOn =>
      intro sweeper found
      obtain rfl := Option.some.inj found
      exact goesOn.begun

theorem HasBegun.jump (begun : station.HasBegun) (nanos : Nat) : (station.jump nanos).HasBegun :=
  have waits : HasBegun { station with now := station.now + nanos } := begun
  waits.tick

theorem HasBegun.glides (begun : station.HasBegun) (glides : station.Glides next)
    : next.HasBegun := by
  induction glides with
  | still => exact begun
  | @jump _ nanos _ _ ih => exact ih.jump nanos

/-- A tick is due at once for a sweeper that is started on a whole millisecond. -/
theorem hasBegun_startSweeper {interval : Nat} (moves : 0 < interval)
    (whole : station.now % millisecond = 0)
    : (station.startSweeper interval).HasBegun := by
  let started : Station α := { station with sweeper := some { interval, next := station.now } }
  have reached : station.now ≤ millisecondOf station.now := by
    have inside := millisecondOf_add_mod station.now
    omega
  have due : Sweeper.isDue { interval, next := station.now } started.now = true :=
    Sweeper.isDue_iff.mpr ⟨moves, reached⟩
  obtain ⟨later, running, goesOn⟩ := started.goesOn_tick rfl due
  intro sweeper found
  obtain rfl := Option.some.inj (running.symm.trans found)
  exact goesOn.begun

variable [Quantity α]

theorem HasBegun.after (begun : station.HasBegun) (caughtUp : station.IsCaughtUp) {doing : Doing}
    (plain : doing.isSweeping = false)
    : (station.after doing).HasBegun := by
  cases doing with
  | call key => exact begun
  | jump nanos => exact begun.jump nanos
  | pass nanos => exact begun.glides (glides_pass caughtUp nanos)
  | sweep | start | stop => cases plain

theorem HasBegun.afterAll (begun : station.HasBegun) (remembers : station.Remembers limits record)
    {doings : List Doing} (plain : ∀ doing ∈ doings, doing.isSweeping = false)
    : (station.afterAll doings).HasBegun := by
  induction doings generalizing station record with
  | nil => exact begun
  | cons doing rest ih =>
      obtain ⟨first, later⟩ := List.forall_mem_cons.mp plain
      exact ih (begun.after remembers.caughtUp first) (remembers.after doing) later

/-- There is no first tick any more that could be late. -/
theorem HasBegun.not_overshootsAmong (begun : station.HasBegun)
    (remembers : station.Remembers limits record) {doings : List Doing}
    (plain : ∀ doing ∈ doings, doing.isSweeping = false) (next : Nat)
    : ¬ station.OvershootsAmong doings next := by
  rintro ⟨before, nanos, after, rfl, sweeper, running, fresh, _⟩
  have plainBefore := (List.forall_mem_append.mp plain).1
  cases fresh.symm.trans (begun.afterAll remembers plainBefore sweeper running)

-----------------------------------------------------------------------------------------
-- A stopped sweeper
-----------------------------------------------------------------------------------------

/-- What is done while no sweeper is running makes nobody be forgotten. -/
theorem stopped_after (stopped : station.sweeper = none) {doing : Doing}
    (plain : doing.isSweeping = false)
    : (station.after doing).sweeper = none
      ∧ station.limiter.entries.keys ⊆ (station.after doing).limiter.entries.keys := by
  cases doing with
  | call key =>
      refine ⟨stopped, ?_⟩
      change _ ⊆ (station.limiter.entries.set key _).keys
      rw [Table.keys_set]
      split
      next => exact List.Subset.refl _
      next => exact List.subset_append_left _ _
  | jump nanos =>
      rw [after, jump_of_stopped stopped]
      exact ⟨stopped, List.Subset.refl _⟩
  | pass nanos =>
      rw [after, pass_of_stopped stopped]
      exact ⟨stopped, List.Subset.refl _⟩
  | sweep | start | stop => cases plain

theorem keys_subset_of_stopped (stopped : station.sweeper = none) {doings : List Doing}
    (plain : ∀ doing ∈ doings, doing.isSweeping = false)
    : station.limiter.entries.keys ⊆ (station.afterAll doings).limiter.entries.keys := by
  induction doings generalizing station with
  | nil => exact List.Subset.refl _
  | cons doing rest ih =>
      obtain ⟨first, later⟩ := List.forall_mem_cons.mp plain
      obtain ⟨stopped, kept⟩ := stopped_after stopped first
      exact List.Subset.trans kept (ih stopped later)

/-- Under any limits, with a sweeper that is started at some time and whatever is called before and
after, while time passes slowly or in jumps: the sweeper stays on its grid, and its next tick comes
within an interval. Once an interval is over and no tick is due, nobody is kept track of who has
been silent for the window and an interval, unless the clock overshot and the tick after that has
yet to come; it cannot overshoot if the sweeper is started on a whole millisecond. No key is
forgotten whose latest call came less than the window ago, and none at all when the sweeper has been
stopped.
-/
theorem memory_bounded (limits : Limits) (now interval : Nat) (early : List Doing)
    {late further : List Doing}
    (plain : ∀ doing ∈ late ++ further, doing.isSweeping = false)
    : let station : Station α := { limiter := { limits }, now }
      let waiting := station.afterAll early
      let started := waiting.startSweeper interval
      let ended := started.afterAll late
      let record := station.calls early ++ started.calls late
      let tracked := ended.limiter.entries.keys
      ∃ sweeper, ended.sweeper = some sweeper ∧ sweeper.interval = interval
        ∧ (∃ n, sweeper.next = waiting.now + n * interval) ∧ sweeper.next ≤ ended.now + interval
        ∧ (waiting.now + interval ≤ ended.now → ended.now < sweeper.next →
            (∀ next, started.OvershootsAmong late next → next ≤ ended.now) →
            ∀ key ∈ tracked, ∃ last since, IsLatestCall record key last since
              ∧ ended.now < last + limits.idleWindow + interval)
        ∧ (0 < interval → waiting.now % millisecond = 0 →
            ∀ next, ¬ started.OvershootsAmong late next)
        ∧ (∀ key last since, IsLatestCall record key last since →
            ended.now < last + limits.idleWindow → key ∈ tracked)
        ∧ tracked ⊆ (ended.stopSweeper.2.afterAll further).limiter.entries.keys := by
  intro station waiting started ended record tracked
  obtain ⟨plainLate, plainFurther⟩ := List.forall_mem_append.mp plain
  have atStart : waiting.Remembers limits (station.calls early) :=
    (Remembers.start limits now).afterAll early
  have atFirst : started.Remembers limits (station.calls early) :=
    atStart.drift (waiting.drifts_startSweeper interval)
  have atEnd : ended.Remembers limits record := atFirst.afterAll late
  obtain ⟨_, begun⟩ := onDuty_startSweeper atStart interval
  obtain ⟨sweeper, onDuty⟩ := begun.afterAll atFirst plainLate
  refine ⟨sweeper, onDuty.running, onDuty.apart, onDuty.onGrid, onDuty.near, ?_, ?_, ?_, ?_⟩
  · intro due ahead swept key among
    obtain ⟨last, seen⟩ := Limiter.mem_keys_iff_isSeen.mp among
    obtain ⟨since, latest⟩ := atEnd.latest seen
    refine ⟨last, since, latest, Nat.lt_of_lt_of_le ahead ?_⟩
    rcases onDuty.swept with (second | overshoots) | young
    · exact absurd (Nat.le_trans second due) (Nat.not_le_of_lt ahead)
    · exact absurd (swept _ overshoots) (Nat.not_le_of_lt ahead)
    · have soon := young key last seen
      rwa [onDuty.apart, atEnd.under] at soon
  · intro moves whole next
    exact (hasBegun_startSweeper moves whole).not_overshootsAmong atFirst plainLate next
  · intro key last since latest early
    exact Limiter.mem_keys_iff_isSeen.mpr ⟨last, atEnd.kept latest early⟩
  · have stopped : ended.stopSweeper.2.sweeper = none := rfl
    exact keys_subset_of_stopped stopped plainFurther

/-- A window of 210 ms and an interval of 60. The clock jumps over the ticks from the second on, and
the sweep at its landing forgets the first key and keeps the other two; nothing is forgotten any
more when the sweeper has been stopped.
-/
theorem memory_bounded_of_three_keys
    : let limits : Limits := ⟨60, 5, 210 * millisecond⟩
      let interval := 60 * millisecond
      let late : List Doing :=
        [.pass (50 * millisecond), .call "b", .jump (200 * millisecond), .call "c"]
      let station : Station Float := { limiter := { limits } }
      let started := (station.afterAll [.call "a"]).startSweeper interval
      let ended := started.afterAll late
      let record := station.calls [.call "a"] ++ started.calls late
      let tracked := ended.limiter.entries.keys
      ended.now = 250 * millisecond
        ∧ ended.sweeper = some ⟨interval, 300 * millisecond, false⟩
        ∧ tracked = ["b", "c"]
        ∧ (∀ key ∈ tracked, ∃ last since, IsLatestCall record key last since
            ∧ ended.now < last + limits.idleWindow + interval)
        ∧ tracked
          ⊆ (ended.stopSweeper.2.afterAll [.pass (1000 * millisecond)]).limiter.entries.keys := by
  intro limits interval late station started ended record tracked
  have now : ended.now = 250 * millisecond := by decide +kernel
  have running : ended.sweeper = some ⟨interval, 300 * millisecond, false⟩ := by decide +kernel
  have names : tracked = ["b", "c"] := by decide +kernel
  have plain : ∀ doing ∈ late ++ [.pass (1000 * millisecond)], doing.isSweeping = false := by
    simp [late, Doing.isSweeping]
  obtain ⟨sweeper, found, _, _, _, young, begun, _, kept⟩ :=
    @memory_bounded Float _ limits 0 interval [.call "a"] late _ plain
  obtain rfl := Option.some.inj (running.symm.trans found)
  have unswept (next : Nat) (among : started.OvershootsAmong late next) : next ≤ ended.now :=
    absurd among (begun (by decide) (by decide +kernel) next)
  exact ⟨now, running, names, young (by decide +kernel) (by decide +kernel) unswept, kept⟩

/-- A window of 10 ms and an interval of 60. The sweeper is started a nanosecond after a millisecond
has begun, so that its first tick waits for the next one to begin, and then the clock jumps by 200
ms. Three more ticks are over and the next has yet to come, but the key is still kept track of.
-/
theorem second_tick_swallowed
    : let limits : Limits := ⟨60, 5, 10 * millisecond⟩
      let interval := 60 * millisecond
      let early : List Doing := [.jump 1, .call "k"]
      let late : List Doing := [.jump (200 * millisecond)]
      let station : Station Float := { limiter := { limits } }
      let waiting := station.afterAll early
      let started := waiting.startSweeper interval
      let ended := started.afterAll late
      let record := station.calls early ++ started.calls late
      (waiting.now + interval ≤ ended.now
          ∧ ∃ sweeper, ended.sweeper = some sweeper ∧ ended.now < sweeper.next)
        ∧ ¬ ∀ key ∈ ended.limiter.entries.keys, ∃ last since,
            IsLatestCall record key last since
              ∧ ended.now < last + limits.idleWindow + interval := by
  intro limits interval early late station waiting started ended record
  have running : ended.sweeper = some ⟨interval, 240 * millisecond + 1, false⟩ := by decide +kernel
  have names : ended.limiter.entries.keys = ["k"] := by decide +kernel
  have calls : record = [.call "k" 1] := rfl
  refine ⟨⟨by decide +kernel, _, running, by decide +kernel⟩, fun young => ?_⟩
  obtain ⟨last, since, latest, soon⟩ := young "k" (names ▸ List.mem_singleton_self "k")
  obtain rfl : last = 1 := by simpa [calls] using latest.mem
  exact absurd soon (by decide +kernel)

end Station

end ChatServer.Admission
