import ChatServer.Double

/-!
Numbers as JSON writes them: an optional sign, digits without a needless leading zero, and
optional digits of a fraction and of an exponent. A numeral is an integer only when it has
neither a fraction nor an exponent, and it has a finite double only when its magnitude does not
round beyond the greatest one.
-/

namespace ChatServer.Json

/-- A number as it is written. Digits are bytes of ASCII. -/
structure Numeral where
  negative : Bool
  whole : List UInt8
  fraction : Option (List UInt8) := none
  /-- Is the exponent negative, and its digits. -/
  exponent : Option (Bool × List UInt8) := none
  deriving DecidableEq

def isDigit (b : UInt8) : Bool :=
  0x30 ≤ b && b ≤ 0x39

/-- The number that a run of digits stands for. -/
def ofDigits (digits : List UInt8) : Nat :=
  digits.foldl (fun n b => 10 * n + (b.toNat - 0x30)) 0

def digits (n : Nat) : List UInt8 :=
  if n < 10 then [UInt8.ofNat (0x30 + n)] else digits (n / 10) ++ [UInt8.ofNat (0x30 + n % 10)]

def integer (i : Int) : List UInt8 :=
  if i < 0 then 0x2D :: digits i.natAbs else digits i.natAbs

namespace Numeral

/-! ## Reading -/

/-- A run of at least one digit, and what follows. -/
def digitsOf (bytes : List UInt8) : Option (List UInt8 × List UInt8) :=
  let run := bytes.takeWhile isDigit
  if run.isEmpty then none else some (run, bytes.dropWhile isDigit)

/-- The digits before the point, which start with a zero only if that is all of them. -/
def readWhole (bytes : List UInt8) : Option (List UInt8 × List UInt8) := do
  let (run, rest) ← digitsOf bytes
  if run.length > 1 && run.head? == some 0x30 then none else some (run, rest)

/-- The digits after a point, if there is a point. -/
def readFraction : List UInt8 → Option (Option (List UInt8) × List UInt8)
  | b :: rest =>
    if b = 0x2E then (digitsOf rest).map fun (run, rest) => (some run, rest)
    else some (none, b :: rest)
  | [] => some (none, [])

/-- The sign that an exponent may have, and what follows. -/
def readSign : List UInt8 → Bool × List UInt8
  | b :: rest => if b = 0x2D then (true, rest) else if b = 0x2B then (false, rest) else
      (false, b :: rest)
  | [] => (false, [])

/-- The sign and the digits after the letter of an exponent, if there is one. -/
def readExponent : List UInt8 → Option (Option (Bool × List UInt8) × List UInt8)
  | b :: rest =>
    if b = 0x65 ∨ b = 0x45 then
      let (negative, rest) := readSign rest
      (digitsOf rest).map fun (run, rest) => (some (negative, run), rest)
    else
      some (none, b :: rest)
  | [] => some (none, [])

/-- Reads a number at the start of the bytes, and gives what follows it. -/
def read (bytes : List UInt8) : Option (Numeral × List UInt8) := do
  let (negative, bytes) := match bytes with
    | b :: rest => if b = 0x2D then (true, rest) else (false, b :: rest)
    | [] => (false, [])
  let (whole, bytes) ← readWhole bytes
  let (fraction, bytes) ← readFraction bytes
  let (exponent, bytes) ← readExponent bytes
  return (⟨negative, whole, fraction, exponent⟩, bytes)

/-! ## Values -/

/-- The integer between `least` and `greatest` that is written, if it is written as one.
Minus zero is not written as one. -/
def int? (least greatest : Int) (n : Numeral) : Option Int :=
  if n.fraction.isSome || n.exponent.isSome then none
  else
    let magnitude := ofDigits n.whole
    if n.negative && magnitude == 0 then none
    else
      let value : Int := if n.negative then -(magnitude : Int) else magnitude
      if least ≤ value ∧ value ≤ greatest then some value else none

def int64? (n : Numeral) : Option Int :=
  n.int? Int64.minValue.toInt Int64.maxValue.toInt

/-! ## Finite numbers -/

/-- The digits kept of a number, as an integer of at most 64 bits, and the power of ten it is
scaled by. -/
structure Scaled where
  significand : Nat
  exponent : Int

/-- Takes in digits before the point. The first digit that no longer fits and those after it
are dropped and raise the exponent. -/
def Scaled.takeWhole (significand : Nat) : List UInt8 → Scaled
  | [] => ⟨significand, 0⟩
  | b :: rest =>
    let next := 10 * significand + (b.toNat - 0x30)
    if next < UInt64.size then takeWhole next rest else ⟨significand, (rest.length + 1 : Nat)⟩

/-- Takes in digits after the point; the first digit that no longer fits and those after it
are dropped. -/
def Scaled.takeFraction (scaled : Scaled) : List UInt8 → Scaled
  | [] => scaled
  | b :: rest =>
    let next := 10 * scaled.significand + (b.toNat - 0x30)
    if next < UInt64.size then takeFraction ⟨next, scaled.exponent - 1⟩ rest else scaled

/-- The digits kept of the whole and of the fraction. -/
def kept (n : Numeral) : Scaled :=
  (Scaled.takeWhole 0 n.whole).takeFraction (n.fraction.getD [])

/-- Is there a finite double for the number? The kept digits and the power of ten are rounded
each on its own, and their product decides. -/
def isFinite (n : Numeral) : Bool :=
  let kept := n.kept
  let exponent : Int := match n.exponent with
    | none => kept.exponent
    | some (true, run) => kept.exponent - ofDigits run
    | some (false, run) => kept.exponent + ofDigits run
  if kept.significand = 0 ∨ exponent ≤ 0 then true
  else if exponent > 308 then false
  else Double.round kept.significand * Double.round (Nat.pow 10 exponent.toNat) < Double.limit

end Numeral

end ChatServer.Json
