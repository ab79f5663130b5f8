/-!
Buckets of tokens. A bucket holds at most a given number of tokens, fills up at a steady rate,
and gives one away for each call that it admits. Buckets are kept in doubles when the service
runs; the rules are the same for every kind of number that can be added, multiplied and
compared, exact fractions among them.
-/

namespace ChatServer.Admission

/-- Numbers in which buckets can be kept. -/
class Quantity (α : Type) extends Add α, Sub α, Mul α, Div α where
  ofNat : Nat → α
  le : α → α → Bool

instance : Quantity Float where
  ofNat := Float.ofNat
  le a b := decide (a ≤ b)

instance : Quantity Rat where
  ofNat n := (n : Rat)
  le a b := decide (a ≤ b)

/-- Limits of admission. Time is in nanoseconds. -/
structure Limits where
  perMinute : Nat
  burst : Nat
  /-- How long a key may be silent before it is forgotten. -/
  idleWindow : Nat
  deriving DecidableEq

/-- The nanoseconds of one second. -/
def nanosPerSecond : Nat := 1000000000

variable {α : Type} [Quantity α]

def secondsOf (nanos : Nat) : α :=
  Quantity.ofNat (nanos / nanosPerSecond)
    + Quantity.ofNat (nanos % nanosPerSecond) / Quantity.ofNat nanosPerSecond

namespace Limits

def capacity (limits : Limits) : α :=
  Quantity.ofNat limits.burst

def rate (limits : Limits) : α :=
  Quantity.ofNat limits.perMinute / Quantity.ofNat 60

end Limits

/-- A bucket: its tokens, and when they were last brought up to date. -/
structure Bucket (α : Type) where
  tokens : α
  updated : Nat

namespace Bucket

def full (limits : Limits) (now : Nat) : Bucket α :=
  ⟨limits.capacity, now⟩

def least (a b : α) : α :=
  if Quantity.le a b then a else b

/-- Brings the tokens up to date. -/
def refill (limits : Limits) (now : Nat) (bucket : Bucket α) : Bucket α :=
  if now ≤ bucket.updated then bucket
  else
    ⟨least (bucket.tokens + secondsOf (now - bucket.updated) * limits.rate) limits.capacity, now⟩

def take (bucket : Bucket α) : Bool × Bucket α :=
  if Quantity.le (Quantity.ofNat 1) bucket.tokens then
    (true, { bucket with tokens := bucket.tokens - Quantity.ofNat 1 })
  else
    (false, bucket)

/-- Decides about a call, and keeps what is left. -/
def answer (limits : Limits) (now : Nat) (bucket : Bucket α) : Bool × Bucket α :=
  (bucket.refill limits now).take

end Bucket

end ChatServer.Admission
