import ChatServer.Admission.Sweeper

/-! What the sweeper does. A tick that is due takes it on along its grid of instants, and all ticks but
the first sweep the limiter. Waiting is a row of jumps, each to the alarm for the next tick, and no
alarm goes off too late. So whatever happens to time, the limiter is left alone or swept, and then the
sweeper waits for a tick that lies ahead.
-/

namespace ChatServer.Admission

-----------------------------------------------------------------------------------------
-- Milliseconds
-----------------------------------------------------------------------------------------

theorem millisecondOf_le (instant : Nat) : millisecondOf instant ≤ instant :=
  Nat.div_mul_le_self instant millisecond

theorem millisecondOf_add_mod (instant : Nat)
    : millisecondOf instant + instant % millisecond = instant :=
  Nat.div_add_mod' instant millisecond

/-- The first millisecond that begins at or after an instant begins less than one after it. -/
theorem le_millisecondOf_add (instant : Nat)
    : instant ≤ millisecondOf (instant + (millisecond - 1))
      ∧ millisecondOf (instant + (millisecond - 1)) < instant + millisecond := by
  have whole := millisecondOf_add_mod (instant + (millisecond - 1))
  have part := Nat.mod_lt (instant + (millisecond - 1)) (show 0 < millisecond by decide)
  simp only [millisecond] at *
  omega

/-- A millisecond that begins at or after an instant begins after the first that does. -/
theorem millisecondOf_add_le {instant target : Nat} (reached : instant ≤ millisecondOf target)
    : millisecondOf (instant + (millisecond - 1)) ≤ millisecondOf target := by
  simp only [millisecondOf, millisecond] at *
  omega

theorem alarm_mod (now instant : Nat) : alarm now instant % millisecond = now % millisecond := by
  simp [alarm, millisecondOf, Nat.add_mod]

theorem millisecondOf_alarm (now instant : Nat)
    : millisecondOf (alarm now instant) = millisecondOf (instant + (millisecond - 1)) := by
  have whole := millisecondOf_add_mod (alarm now instant)
  rw [alarm_mod] at whole
  exact Nat.add_right_cancel whole

/-- An alarm for an instant that does not lie in the past goes off now or later. -/
theorem le_alarm {now instant : Nat} (ahead : millisecondOf now ≤ instant)
    : now ≤ alarm now instant := by
  have whole := millisecondOf_add_mod now
  have reached := (le_millisecondOf_add instant).1
  rw [alarm]
  omega

/-- An alarm goes off by a target that is as far into its millisecond as now is. -/
theorem alarm_le {now instant target : Nat} (phase : target % millisecond = now % millisecond)
    (reached : instant ≤ millisecondOf target)
    : alarm now instant ≤ target := by
  have whole := millisecondOf_add_mod target
  have first := millisecondOf_add_le reached
  rw [alarm]
  omega

-----------------------------------------------------------------------------------------
-- Sweepers
-----------------------------------------------------------------------------------------

namespace Sweeper

variable {sweeper : Sweeper} {now : Nat}

theorem isDue_iff
    : sweeper.isDue now = true ↔ 0 < sweeper.interval ∧ sweeper.next ≤ millisecondOf now := by
  simp [isDue]

/-- A sweeper that has ticks, none of which is due, waits for one that its millisecond does not
reach.
-/
theorem lt_next_of_ahead (moves : 0 < sweeper.interval) (ahead : sweeper.isDue now = false)
    : millisecondOf now < sweeper.next := by
  have notDue : ¬ sweeper.isDue now = true := Bool.eq_false_iff.mp ahead
  rw [isDue_iff] at notDue
  omega

/-- The grid goes on within one interval after every instant that is not before the next tick. -/
theorem following_le {instant : Nat} (reached : sweeper.next ≤ instant)
    : sweeper.following instant ≤ instant + sweeper.interval := by
  have part := Nat.div_mul_le_self (instant - sweeper.next) sweeper.interval
  rw [following, Nat.succ_mul]
  omega

/-- An alarm for the next tick does not go off too late. -/
theorem isLate_alarm (sweeper : Sweeper) (now : Nat)
    : sweeper.isLate (alarm now sweeper.next) = false := by
  have soon := (le_millisecondOf_add sweeper.next).2
  have part := Nat.mod_lt now (show 0 < millisecond by decide)
  rw [isLate, alarm, patience, decide_eq_false_iff_not]
  omega

/-- A sweeper has gone on from another along the grid, by one tick at least, up to the one that
follows a time.
-/
structure GoesOn (sweeper : Sweeper) (now : Nat) (later : Sweeper) : Prop where
  interval : later.interval = sweeper.interval
  begun : later.isFresh = false
  onGrid : ∃ n, later.next = sweeper.next + (n + 1) * sweeper.interval
  near : later.next ≤ now + sweeper.interval

theorem GoesOn.trans {second third : Sweeper} (before : sweeper.GoesOn now second)
    (after : second.GoesOn now third)
    : sweeper.GoesOn now third := by
  obtain ⟨n, first⟩ := before.onGrid
  obtain ⟨m, rest⟩ := after.onGrid
  refine ⟨after.interval.trans before.interval, after.begun, ⟨n + m + 1, ?_⟩, ?_⟩
  · rw [rest, first, before.interval, Nat.add_assoc, ← Nat.add_mul]
    congr 2
    omega
  · rw [← before.interval]
    exact after.near

theorem GoesOn.beyond {later : Sweeper} (goesOn : sweeper.GoesOn now later)
    : sweeper.next + sweeper.interval ≤ later.next := by
  obtain ⟨n, next⟩ := goesOn.onGrid
  rw [next, Nat.succ_mul]
  omega

theorem goesOn_following {instant : Nat} (reached : sweeper.next ≤ instant)
    (inside : instant ≤ now)
    : sweeper.GoesOn now { sweeper with next := sweeper.following instant, isFresh := false } :=
  ⟨rfl, rfl, ⟨_, rfl⟩, Nat.le_trans (following_le reached) (Nat.add_le_add_right inside _)⟩

theorem goesOn_begin (due : sweeper.isDue now = true) : sweeper.GoesOn now (sweeper.begin now) := by
  have reached : sweeper.next ≤ now := Nat.le_trans (isDue_iff.mp due).2 (millisecondOf_le now)
  rw [begin]
  split
  next => exact goesOn_following reached (Nat.le_refl now)
  next =>
    have one : sweeper.next + sweeper.interval = sweeper.next + (0 + 1) * sweeper.interval := by
      rw [Nat.zero_add, Nat.one_mul]
    exact ⟨rfl, rfl, ⟨0, one⟩, Nat.add_le_add_right reached _⟩

theorem goesOn_advance (due : sweeper.isDue now = true) (begun : sweeper.isFresh = false)
    : sweeper.GoesOn now (sweeper.advance now) := by
  have reached := (isDue_iff.mp due).2
  have inside := millisecondOf_le now
  rw [advance, begun]
  split
  next => exact goesOn_following (Nat.le_trans reached inside) (Nat.le_refl now)
  next => exact goesOn_following reached inside

end Sweeper

variable {α : Type}

-----------------------------------------------------------------------------------------
-- Left alone or swept
-----------------------------------------------------------------------------------------

/-- Between two times a limiter has been left alone, or swept any number of times. -/
inductive Limiter.Drifts (limiter : Limiter α) (now : Nat) : Limiter α → Nat → Prop where
  | still : Drifts limiter now limiter now
  | wait {next : Limiter α} {earlier later : Nat} (past : Drifts limiter now next earlier)
    (forward : earlier ≤ later)
    : Drifts limiter now next later
  | sweep {next : Limiter α} {later : Nat} (past : Drifts limiter now next later)
    : Drifts limiter now (next.sweep later) later

theorem Limiter.Drifts.trans {first second third : Limiter α} {early middle late : Nat}
    (before : first.Drifts early second middle) (after : second.Drifts middle third late)
    : first.Drifts early third late := by
  induction after with
  | still => exact before
  | wait _ forward ih => exact ih.wait forward
  | sweep _ ih => exact ih.sweep

namespace Station

variable {station : Station α}

/-- Time has passed, and the limiter has been left alone or swept. -/
def Drifts (station next : Station α) : Prop :=
  station.limiter.Drifts station.now next.limiter next.now

theorem Drifts.trans {first second third : Station α} (before : first.Drifts second)
    (after : second.Drifts third)
    : first.Drifts third :=
  Limiter.Drifts.trans before after

/-- No tick of the sweeper is due. -/
structure IsCaughtUp (station : Station α) : Prop where
  ahead : ∀ {sweeper}, station.sweeper = some sweeper → sweeper.isDue station.now = false

theorem IsCaughtUp.of_stopped (stopped : station.sweeper = none) : station.IsCaughtUp :=
  ⟨fun running => nomatch stopped.symm.trans running⟩

theorem IsCaughtUp.of_running {sweeper : Sweeper} (running : station.sweeper = some sweeper)
    (ahead : sweeper.isDue station.now = false)
    : station.IsCaughtUp := by
  refine ⟨fun found => ?_⟩
  obtain rfl := Option.some.inj (running.symm.trans found)
  exact ahead

-----------------------------------------------------------------------------------------
-- One tick
-----------------------------------------------------------------------------------------

/-- What a tick comes to: none is due and nothing happens, or it is the first, or it sweeps. The
first may be so late that it is not alone; then it sweeps, too.
-/
inductive IsTicked (station : Station α) : Station α → Prop where
  | idle (caughtUp : station.IsCaughtUp) : IsTicked station station
  | first {sweeper : Sweeper} (running : station.sweeper = some sweeper)
    (fresh : sweeper.isFresh = true) (due : sweeper.isDue station.now = true)
    (ahead : (sweeper.begin station.now).isDue station.now = false)
    : IsTicked station { station with sweeper := some (sweeper.begin station.now) }
  | swept {sweeper later : Sweeper} (running : station.sweeper = some sweeper)
    (due : sweeper.isDue station.now = true) (goesOn : sweeper.GoesOn station.now later)
    (ahead : later.isDue station.now = false)
    : IsTicked station { station.sweep with sweeper := some later }

theorem isTicked_tick (station : Station α) : station.IsTicked station.tick := by
  rw [tick]
  split
  next stopped => exact .idle (.of_stopped stopped)
  next sweeper running =>
    cases due : sweeper.isDue station.now with
    | false =>
        have same : { station with sweeper := some sweeper } = station := by rw [← running]
        have caughtUp : station.IsCaughtUp := .of_running running due
        simpa [sweepIfDue, due, same] using IsTicked.idle caughtUp
    | true =>
        have begun := Sweeper.goesOn_begin due
        cases fresh : sweeper.isFresh with
        | true =>
            rw [if_pos rfl, if_pos rfl, sweepIfDue]
            split
            next more =>
              exact .swept running due (begun.trans (Sweeper.goesOn_advance more rfl))
                (Sweeper.isDue_advance more)
            next ahead => exact .first running fresh due (Bool.eq_false_iff.mpr ahead)
        | false =>
            rw [if_neg (by decide), sweepIfDue, if_pos due]
            exact .swept running due (Sweeper.goesOn_advance due fresh) (Sweeper.isDue_advance due)

@[simp] theorem now_tick (station : Station α) : station.tick.now = station.now := by
  generalize ticked : station.tick = next
  cases ticked ▸ station.isTicked_tick <;> rfl

theorem drifts_tick (station : Station α) : station.Drifts station.tick := by
  generalize ticked : station.tick = next
  cases ticked ▸ station.isTicked_tick with
  | idle => exact .still
  | first => exact .still
  | swept => exact Limiter.Drifts.still.sweep

/-- After a tick the sweeper has caught up. -/
theorem isCaughtUp_tick (station : Station α) : station.tick.IsCaughtUp := by
  generalize ticked : station.tick = next
  cases ticked ▸ station.isTicked_tick with
  | idle caughtUp => exact caughtUp
  | first _ _ _ ahead => exact .of_running rfl ahead
  | swept _ _ _ ahead => exact .of_running rfl ahead

/-- A tick that is not due is none. -/
theorem tick_of_isCaughtUp (caughtUp : station.IsCaughtUp) : station.tick = station := by
  generalize ticked : station.tick = next
  cases ticked ▸ station.isTicked_tick with
  | idle => rfl
  | first running _ due => cases due.symm.trans (caughtUp.ahead running)
  | swept running due => cases due.symm.trans (caughtUp.ahead running)

/-- A tick that is due takes the sweeper on. -/
theorem goesOn_tick {sweeper : Sweeper} (running : station.sweeper = some sweeper)
    (due : sweeper.isDue station.now = true)
    : ∃ later, station.tick.sweeper = some later ∧ sweeper.GoesOn station.now later := by
  generalize ticked : station.tick = next
  cases ticked ▸ station.isTicked_tick with
  | idle caughtUp => cases due.symm.trans (caughtUp.ahead running)
  | first found =>
      obtain rfl := Option.some.inj (running.symm.trans found)
      exact ⟨_, rfl, Sweeper.goesOn_begin due⟩
  | @swept _ later found _ goesOn =>
      obtain rfl := Option.some.inj (running.symm.trans found)
      exact ⟨later, rfl, goesOn⟩

-----------------------------------------------------------------------------------------
-- Jumps
-----------------------------------------------------------------------------------------

theorem now_jump (station : Station α) (nanos : Nat)
    : (station.jump nanos).now = station.now + nanos :=
  now_tick _

/-- A jump of the clock is followed by a tick. -/
theorem drifts_jump (station : Station α) (nanos : Nat)
    : station.Drifts (station.jump nanos) ∧ (station.jump nanos).IsCaughtUp :=
  have waits : station.Drifts { station with now := station.now + nanos } :=
    Limiter.Drifts.still.wait (Nat.le_add_right _ _)
  ⟨waits.trans (drifts_tick _), isCaughtUp_tick _⟩

theorem jump_of_stopped (stopped : station.sweeper = none) (nanos : Nat)
    : station.jump nanos = { station with now := station.now + nanos } := by
  rw [jump, tick, stopped]

/-- A sweeper that is started is caught up from its first tick on. -/
theorem drifts_startSweeper (station : Station α) (interval : Nat)
    : station.Drifts (station.startSweeper interval)
      ∧ (station.startSweeper interval).IsCaughtUp :=
  ⟨drifts_tick { station with sweeper := some { interval, next := station.now } },
    isCaughtUp_tick _⟩

/-- The clock has gone on in jumps, none of which was so long that a tick came too late. -/
inductive Glides (station : Station α) : Station α → Prop where
  | still : station.Glides station
  | jump {next : Station α} {nanos : Nat} (past : station.Glides next)
    (inTime : ∀ {sweeper}, next.sweeper = some sweeper →
      sweeper.isDue (next.now + nanos) = true → sweeper.isLate (next.now + nanos) = false)
    : station.Glides (next.jump nanos)

theorem Glides.jumpTo {next : Station α} {later : Nat} (past : station.Glides next)
    (forward : next.now ≤ later)
    (inTime : ∀ {sweeper}, next.sweeper = some sweeper →
      sweeper.isDue later = true → sweeper.isLate later = false)
    : station.Glides { next with now := later }.tick := by
  obtain ⟨nanos, rfl⟩ := Nat.exists_eq_add_of_le forward
  exact past.jump inTime

/-- By induction on the jumps. -/
theorem Glides.drifts {next : Station α} (glides : station.Glides next)
    (caughtUp : station.IsCaughtUp)
    : station.Drifts next ∧ next.IsCaughtUp := by
  induction glides with
  | still => exact ⟨.still, caughtUp⟩
  | @jump next nanos _ _ ih =>
      obtain ⟨drifts, caughtUp⟩ := drifts_jump next nanos
      exact ⟨ih.1.trans drifts, caughtUp⟩

-----------------------------------------------------------------------------------------
-- Waiting
-----------------------------------------------------------------------------------------

/-- By induction on the number of ticks that are allowed for: if the grid is beyond a target after
them, the sweeper has caught up with the target when they are over.
-/
theorem glides_passTicks {start : Station α} {target : Nat} (n : Nat)
    (past : start.Glides station) (caughtUp : station.IsCaughtUp) (before : station.now ≤ target)
    (phase : target % millisecond = station.now % millisecond)
    (enough : ∀ {sweeper}, station.sweeper = some sweeper → sweeper.isDue target = true →
      millisecondOf target < sweeper.next + n * sweeper.interval)
    : let passed := station.passTicks target n
      start.Glides passed ∧ passed.now ≤ target
        ∧ IsCaughtUp { passed with now := target } := by
  induction n generalizing station with
  | zero =>
      refine ⟨past, before, ⟨fun running => Bool.eq_false_iff.mpr fun due => ?_⟩⟩
      have beyond := enough running due
      have reached : _ ≤ millisecondOf target := (Sweeper.isDue_iff.mp due).2
      omega
  | succ n ih =>
      cases running : station.sweeper with
      | none =>
          have passed : station.passTicks target (n + 1) = station := by simp [passTicks, running]
          rw [passed]
          exact ⟨past, before, .of_stopped running⟩
      | some sweeper =>
          cases due : sweeper.isDue target with
          | false =>
              have passed : station.passTicks target (n + 1) = station := by
                simp [passTicks, running, due]
              rw [passed]
              exact ⟨past, before, .of_running running due⟩
          | true =>
              let later := alarm station.now sweeper.next
              let ticked := { station with now := later }.tick
              have passed : station.passTicks target (n + 1) = ticked.passTicks target n := by
                simp [passTicks, running, due, ticked, later]
              obtain ⟨moves, reached⟩ := Sweeper.isDue_iff.mp due
              -- The alarm lies ahead, goes off when the tick is due, and not beyond the target.
              have waiting := Sweeper.lt_next_of_ahead moves (caughtUp.ahead running)
              have goesOff : sweeper.isDue later = true :=
                Sweeper.isDue_iff.mpr ⟨moves, by
                  rw [millisecondOf_alarm]
                  exact (le_millisecondOf_add _).1⟩
              obtain ⟨next, runs, goesOn⟩
                  : ∃ next, ticked.sweeper = some next ∧ sweeper.GoesOn later next :=
                goesOn_tick running goesOff
              have now : ticked.now = later := now_tick _
              rw [passed]
              refine ih (past.jumpTo (le_alarm (Nat.le_of_lt waiting)) fun found _ => ?_)
                (isCaughtUp_tick _) ?_ ?_ fun found _ => ?_
              · obtain rfl := Option.some.inj (running.symm.trans found)
                exact sweeper.isLate_alarm station.now
              · rw [now]
                exact alarm_le phase reached
              · rw [now, alarm_mod, phase]
              · obtain rfl := Option.some.inj (runs.symm.trans found)
                have beyond := enough running due
                have further := goesOn.beyond
                rw [Nat.succ_mul] at beyond
                rw [goesOn.interval]
                omega

/-- The grid is beyond a target after as many ticks as are due until then. -/
theorem lt_of_ticksUntil {sweeper : Sweeper} {target : Nat}
    (running : station.sweeper = some sweeper) (due : sweeper.isDue target = true)
    : millisecondOf target < sweeper.next + station.ticksUntil target * sweeper.interval := by
  obtain ⟨moves, reached⟩ := Sweeper.isDue_iff.mp due
  have beyond := Nat.lt_mul_div_succ (millisecondOf target - sweeper.next) moves
  rw [Nat.mul_comm] at beyond
  simp only [ticksUntil, running, due, if_true]
  omega

/-- Waiting takes the clock to the alarm for its end, and no tick on the way comes too late. -/
theorem glides_pass (caughtUp : station.IsCaughtUp) (nanos : Nat)
    : station.Glides (station.pass nanos) := by
  rw [pass]
  generalize ending : alarm station.now (station.now + nanos) = target
  have forward : station.now ≤ target :=
    ending ▸ le_alarm (Nat.le_trans (millisecondOf_le _) (Nat.le_add_right _ _))
  have phase : target % millisecond = station.now % millisecond := ending ▸ alarm_mod _ _
  obtain ⟨glides, inTime, arrived⟩ :=
    glides_passTicks (station.ticksUntil target) .still caughtUp forward phase lt_of_ticksUntil
  have last := glides.jumpTo inTime fun running due =>
    nomatch due.symm.trans (arrived.ahead running)
  rwa [tick_of_isCaughtUp arrived] at last

theorem pass_of_stopped (stopped : station.sweeper = none) (nanos : Nat)
    : station.pass nanos = { station with now := alarm station.now (station.now + nanos) } := by
  simp only [pass, ticksUntil, passTicks, stopped]

end Station

end ChatServer.Admission
