/-!
Reading natural numbers in decimal. The digits are those of ASCII; leading zeros are allowed.
-/

namespace ChatServer.Text

/-- The number that a run of digits stands for. -/
def ofDigits (cs : List Char) : Nat :=
  cs.foldl (fun n c => 10 * n + (c.toNat - 48)) 0

/-- Reads one or more digits and nothing else. -/
def decimal? (cs : List Char) : Option Nat :=
  if !cs.isEmpty && cs.all Char.isDigit then some (ofDigits cs) else none

/-- Reads digits after an optional plus sign, for a number below `limit`. -/
def naturalBelow? (limit : Nat) (cs : List Char) : Option Nat :=
  let digits := match cs with
    | '+' :: digits => digits
    | digits => digits
  (decimal? digits).filter (· < limit)

/-- A number that is read stays below its limit. -/
theorem naturalBelow?_lt {limit n : Nat} {cs : List Char} (h : naturalBelow? limit cs = some n)
    : n < limit := by
  unfold naturalBelow? at h
  simpa using (Option.filter_eq_some_iff.1 h).2

end ChatServer.Text
