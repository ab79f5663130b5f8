import ChatServer.Admission.Bucket
import ChatServer.Metrics
import ChatServer.Table

/-!
The limiter: a bucket for each key that has called lately. A key that calls for the first time
gets a full bucket; a sweep forgets the keys that have been silent for the idle window.
-/

namespace ChatServer.Admission

variable {α : Type} [Quantity α]

/-- What is kept about a key: its bucket, and when it last called. -/
structure Entry (α : Type) where
  bucket : Bucket α
  lastSeen : Nat

structure Limiter (α : Type) where
  limits : Limits
  entries : Table String (Entry α) := {}

namespace Limiter

def tracked (limiter : Limiter α) : Nat :=
  limiter.entries.size

/-- The bucket of a key; one that is not kept track of has a full bucket. -/
def bucketOf (limiter : Limiter α) (now : Nat) (key : String) : Bucket α :=
  match limiter.entries.get? key with
  | some entry => entry.bucket
  | none => .full limiter.limits now

def allow (limiter : Limiter α) (now : Nat) (key : String) : Bool × Limiter α :=
  let (allowed, bucket) := (limiter.bucketOf now key).answer limiter.limits now
  (allowed, { limiter with entries := limiter.entries.set key ⟨bucket, now⟩ })

/-- Has a key been silent for less than the idle window? -/
def isRecent (limits : Limits) (now : Nat) (entry : Entry α) : Bool :=
  now - entry.lastSeen < limits.idleWindow

/-- Forgets the keys that have been silent for the idle window. -/
def sweep (limiter : Limiter α) (now : Nat) : Limiter α :=
  let kept := limiter.entries.entries.filter fun (_, entry) => isRecent limiter.limits now entry
  { limiter with entries := ⟨kept⟩ }

/-- How many keys a sweep forgets, as it tells by how many there were before it and are after it. -/
def forgotten (limiter : Limiter α) (now : Nat) : Nat :=
  limiter.tracked - (limiter.sweep now).tracked

def allowCounted (limiter : Limiter α) (now : Nat) (key : String) (metrics : Metrics)
    : Bool × Limiter α × Metrics :=
  let (allowed, limiter) := limiter.allow now key
  (allowed, limiter,
    metrics.increment (.admissionDecisions (if allowed then .allowed else .rejected)))

/-- Sweeps, and measures how many keys are left. -/
def sweepCounted (limiter : Limiter α) (now : Nat) (metrics : Metrics)
    : Limiter α × Metrics :=
  let limiter := limiter.sweep now
  (limiter, metrics.set .trackedKeys limiter.tracked)

end Limiter

end ChatServer.Admission
