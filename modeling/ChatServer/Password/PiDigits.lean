/-!
Binary digits of the number π, from which a block cipher takes the words it starts with. They
come from the difference of two arc tangents, whose series are summed with some digits to spare.
-/

namespace ChatServer.Password

/-- Sums the series of the arc tangent of `1 / x`, scaled: `power` is the scaled power of
`1 / x` whose term comes next, and `k` is the number of terms summed. -/
def arcTangentFrom (x : Nat) (power : Nat) (k : Nat) (sum : Int) : Nat → Int
  | 0 => sum
  | fuel + 1 =>
    if power = 0 then sum
    else
      let term : Int := (power / (2 * k + 1) : Nat)
      arcTangentFrom x (power / (x * x)) (k + 1) (if k % 2 = 0 then sum + term else sum - term) fuel

/-- The arc tangent of `1 / x` times `scale`. No power of `x` above the binary length of the
scale has a share in it. -/
def arcTangent (x scale : Nat) : Int :=
  arcTangentFrom x (scale / x) 0 0 (scale.log2 + 1)

/-- The digits that are computed beyond those that are wanted. -/
def spareBits : Nat := 64

/-- The first `bits` binary digits of the fractional part of π. -/
def piFraction (bits : Nat) : Nat :=
  let scale := 1 <<< (bits + spareBits)
  let pi := 16 * arcTangent 5 scale - 4 * arcTangent 239 scale
  (pi.toNat >>> spareBits) % 1 <<< bits

end ChatServer.Password
