import ChatServer.Admission.Limiter

/-!
The sweeper: it sweeps the limiter at every tick of a grid of instants. The first tick, at the
start, sweeps nothing. Ticks that are missed because the clock jumps over them come down to one
sweep, and the next tick is then the first of the grid that lies ahead.

Instants are counted in nanoseconds, but alarms only go off at whole milliseconds: a tick is due
when the first millisecond at or after it has begun.
-/

namespace ChatServer.Admission

variable {α : Type} [Quantity α]

/-! ## Alarms -/

def millisecond : Nat := 1000000

/-- The beginning of the millisecond that an instant lies in. -/
def millisecondOf (instant : Nat) : Nat :=
  instant / millisecond * millisecond

/-- When an alarm for an instant goes off, for one who waits for it from now on: at the first
millisecond that begins at or after the instant, and as far into it as now is into its own. -/
def alarm (now instant : Nat) : Nat :=
  millisecondOf (instant + (millisecond - 1)) + now % millisecond

/-! ## Ticks -/

/-- A running sweeper: the distance of its ticks, the next one, and whether that is the first. -/
structure Sweeper where
  interval : Nat
  next : Nat
  isFresh : Bool := true
  deriving DecidableEq

namespace Sweeper

/-- How late a tick may come for the next one to be kept even if it is over, too. -/
def patience : Nat := 5 * millisecond

/-- Is a tick due? A sweeper whose ticks have no distance does nothing. -/
def isDue (sweeper : Sweeper) (now : Nat) : Bool :=
  0 < sweeper.interval && sweeper.next ≤ millisecondOf now

/-- The first instant of the grid after a given one. -/
def following (sweeper : Sweeper) (instant : Nat) : Nat :=
  sweeper.next + ((instant - sweeper.next) / sweeper.interval + 1) * sweeper.interval

/-- Does the tick that is due come too late for those after it to be kept? -/
def isLate (sweeper : Sweeper) (now : Nat) : Bool :=
  sweeper.next + patience < now

/-- The sweeper after its first tick. -/
def begin (sweeper : Sweeper) (now : Nat) : Sweeper :=
  { sweeper with
    next := if sweeper.isLate now then sweeper.following now else sweeper.next + sweeper.interval
    isFresh := false }

/-- The sweeper after the ticks that are due: its next tick lies ahead, or is at least not due. -/
def advance (sweeper : Sweeper) (now : Nat) : Sweeper :=
  { sweeper with
    next := sweeper.following (if sweeper.isLate now then now else millisecondOf now) }

/-- The grid goes on beyond every instant that is not before the next tick. -/
theorem lt_following {sweeper : Sweeper} {instant : Nat} (moves : 0 < sweeper.interval)
    (reached : sweeper.next ≤ instant) : instant < sweeper.following instant := by
  have beyond := Nat.lt_mul_div_succ (instant - sweeper.next) moves
  rw [Nat.mul_comm] at beyond
  rw [following]
  omega

/-- No tick is due any more when the sweeper has acted. -/
theorem isDue_advance {sweeper : Sweeper} {now : Nat} (due : sweeper.isDue now)
    : (sweeper.advance now).isDue now = false := by
  simp only [isDue, Bool.and_eq_true, decide_eq_true_eq] at due
  obtain ⟨moves, reached⟩ := due
  have inside : millisecondOf now ≤ now := Nat.div_mul_le_self now millisecond
  have ahead : millisecondOf now < (sweeper.advance now).next := by
    rw [advance]
    split
    next => exact Nat.lt_of_le_of_lt inside (lt_following moves (Nat.le_trans reached inside))
    next => exact lt_following moves reached
  rw [isDue, decide_eq_false (Nat.not_le_of_lt ahead), Bool.and_false]

end Sweeper

/-- The limiter with the sweeper that may be running, the time and the metrics. -/
structure Station (α : Type) where
  limiter : Limiter α
  sweeper : Option Sweeper := none
  now : Nat := 0
  metrics : Metrics := {}

namespace Station

def sweep (station : Station α) : Station α :=
  let (limiter, metrics) := station.limiter.sweepCounted station.now station.metrics
  { station with limiter, metrics }

def allow (station : Station α) (key : String) : Bool × Station α :=
  let (allowed, limiter, metrics) :=
    station.limiter.allowCounted station.now key station.metrics
  (allowed, { station with limiter, metrics })

/-- Sweeps if a tick is due. -/
def sweepIfDue (station : Station α) (sweeper : Sweeper) : Station α :=
  if sweeper.isDue station.now then
    { station.sweep with sweeper := some (sweeper.advance station.now) }
  else
    { station with sweeper := some sweeper }

def tick (station : Station α) : Station α :=
  match station.sweeper with
  | none => station
  | some sweeper =>
    if sweeper.isFresh then
      if sweeper.isDue station.now then station.sweepIfDue (sweeper.begin station.now) else station
    else
      station.sweepIfDue sweeper

def jump (station : Station α) (nanos : Nat) : Station α :=
  { station with now := station.now + nanos }.tick

/-- How many ticks are due up to an instant. -/
def ticksUntil (station : Station α) (target : Nat) : Nat :=
  match station.sweeper with
  | some sweeper =>
    if sweeper.isDue target then
      (millisecondOf target - sweeper.next) / sweeper.interval + 1
    else
      0
  | none => 0

/-- Goes from tick to tick up to a target, each at its time. Ticks that share an alarm are over
together, so it may be there before all are counted. -/
def passTicks (station : Station α) (target : Nat) : Nat → Station α
  | 0 => station
  | n + 1 =>
    match station.sweeper with
    | some sweeper =>
      if sweeper.isDue target then
        passTicks { station with now := alarm station.now sweeper.next }.tick target n
      else
        station
    | none => station

/-- Waits for a time, and the sweeper acts at each of its ticks up to the end. -/
def pass (station : Station α) (nanos : Nat) : Station α :=
  let target := alarm station.now (station.now + nanos)
  { station.passTicks target (station.ticksUntil target) with now := target }

def startSweeper (station : Station α) (interval : Nat) : Station α :=
  { station with sweeper := some { interval, next := station.now } }.tick

/-- Stops the sweeper, and tells whether one was running. -/
def stopSweeper (station : Station α) : Bool × Station α :=
  (station.sweeper.isSome, { station with sweeper := none })

end Station

end ChatServer.Admission
