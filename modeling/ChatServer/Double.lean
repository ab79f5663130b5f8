/-!
Whole numbers as doubles hold them. A double keeps 53 binary digits, so a greater number is rounded
to one that it can hold; it is shown by as few decimal digits as tell it from its neighbours.
`round_shortest` says that nothing is lost by that.
-/

namespace ChatServer.Double

/-- The number rounded to the 53 binary digits of a double, a half to the even neighbour. -/
def round (n : Nat) : Nat :=
  let excess := n.log2 + 1 - 53
  let unit := 1 <<< excess
  let quotient := n / unit
  let remainder := n % unit
  if 2 * remainder > unit ∨ (2 * remainder = unit ∧ quotient % 2 = 1) then
    (quotient + 1) * unit
  else
    quotient * unit

/-- The least number that rounds to no finite double. -/
def limit : Nat := (1 <<< 54 - 1) <<< 970

/-- A multiple of a unit that rounds to the same double as a number: of the two multiples next to
the number, the nearer one that does, or the greater one if both are as near. -/
def multiple? (n unit : Nat) : Option Nat :=
  let below := n / unit * unit
  let above := below + unit
  if round above = round n ∧ (round below ≠ round n ∨ above - n ≤ n - below) then some above
  else if round below = round n then some below
  else none

/-- The number that rounds to the same double as `n` and ends in as many decimal zeros as possible,
up to `zeros` of them. -/
def shortest (n : Nat) : Nat → Nat
  | 0 => n
  | zeros + 1 => (multiple? n (Nat.pow 10 (zeros + 1))).getD (shortest n zeros)

/-- A multiple that is taken rounds to the same double. -/
theorem round_of_multiple? {n unit m : Nat} (h : multiple? n unit = some m)
    : round m = round n := by
  simp only [multiple?] at h
  split at h
  next same => exact Option.some.inj h ▸ same.1
  next =>
    split at h
    next same => exact Option.some.inj h ▸ same
    next => simp at h

/-- What is shown of a number rounds to the same double. -/
theorem round_shortest (n zeros : Nat) : round (shortest n zeros) = round n := by
  induction zeros with
  | zero => rfl
  | succ zeros ih =>
    rw [shortest]
    cases found : multiple? n (Nat.pow 10 (zeros + 1)) with
    | none => simpa using ih
    | some m => simpa using round_of_multiple? found

/-- The text of the double that a number of 64 bits rounds to. -/
def text (n : Nat) : String :=
  toString (shortest (round n) 20)

end ChatServer.Double
