/-!
Binary digits of square roots and cube roots, for the constants that hash functions take from
the roots of small primes. Roots are found by halving an interval, and the fractional digits of
a root are the low digits of the root of the scaled number.
-/

namespace ChatServer.Digest

/-- Narrows `low ≤ root < low + 2 ^ fuel` down to the root: the greatest number whose power
does not exceed `n`. -/
def rootFrom (power n low : Nat) : Nat → Nat
  | 0 => low
  | fuel + 1 =>
    let middle := low + 1 <<< fuel
    rootFrom power n (if middle.pow power ≤ n then middle else low) fuel

/-- The first `bits` binary digits of the fractional part of a root of `n`, for `n` of
16 bits. -/
def rootFraction (power bits n : Nat) : Nat :=
  rootFrom power (n <<< (power * bits)) 0 (bits + 16) % 1 <<< bits

/-- Is the number divisible by none of the numbers from two up to it? -/
def isPrime (n : Nat) : Bool :=
  2 ≤ n && (List.range n).all fun d => d < 2 || n % d ≠ 0

/-- The first primes, looked for below `limit`. -/
def primes (count limit : Nat) : List Nat :=
  ((List.range limit).filter isPrime).take count

/-- The search never gives a number whose power is too great. -/
theorem rootFrom_pow_le {power n low fuel : Nat} (h : low.pow power ≤ n)
    : (rootFrom power n low fuel).pow power ≤ n := by
  induction fuel generalizing low with
  | zero => exact h
  | succ fuel ih =>
    simp only [rootFrom]
    split
    next fits => exact ih fits
    next => exact ih h

end ChatServer.Digest
