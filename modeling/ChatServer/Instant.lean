/-!
Points of time: seconds since 1970 and nanoseconds after them, within the years the service's
calendar has. During a leap second the nanoseconds run on past a thousand million.
-/

namespace ChatServer

structure Instant where
  seconds : Int
  nanos : Nat
  deriving DecidableEq, Inhabited

namespace Instant

def firstSecond : Int := -8334601228800

def lastSecond : Int := 8210266876799

def nanosPerSecond : Nat := 1000000000

/-- A point of time from its parts, if the calendar has it. Only the last second of a minute
can be a leap second. -/
def ofParts? (seconds : Int) (nanos : Nat) : Option Instant :=
  if firstSecond ≤ seconds ∧ seconds ≤ lastSecond ∧ nanos < 2 * nanosPerSecond
      ∧ (nanos < nanosPerSecond ∨ seconds % 60 = 59) then
    some ⟨seconds, nanos⟩
  else
    none

/-- The point of time a number of seconds later, if the calendar has it. The end of a leap
second counts as one second passed. -/
def addSeconds? (start : Instant) (n : Nat) : Option Instant :=
  let target := start.seconds + n
  if target > lastSecond then
    none
  else if n = 0 ∨ start.nanos < nanosPerSecond then
    some ⟨target, start.nanos⟩
  else
    some ⟨target, start.nanos - nanosPerSecond⟩

def addNanos (start : Instant) (n : Nat) : Instant :=
  let total := start.nanos + n
  ⟨start.seconds + (total / nanosPerSecond : Nat), total % nanosPerSecond⟩

/-- The order of time: by seconds, then by nanoseconds. -/
def isLater (first second : Instant) : Bool :=
  first.seconds > second.seconds
    || first.seconds == second.seconds && first.nanos > second.nanos

/-- A later instant lies after an earlier one and not before. -/
theorem isLater_asymm {first second : Instant} (h : first.isLater second = true)
    : second.isLater first = false := by
  simp only [isLater, Bool.or_eq_true, Bool.and_eq_true, decide_eq_true_eq, beq_iff_eq,
    Bool.or_eq_false_iff, Bool.and_eq_false_iff, decide_eq_false_iff_not] at *
  simp only [beq_eq_false_iff_ne]
  omega

end Instant

end ChatServer
