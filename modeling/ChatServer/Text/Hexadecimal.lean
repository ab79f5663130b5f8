/-!
Hexadecimal digits as bytes of ASCII. Digits are written in lower case and read in both cases.
-/

namespace ChatServer.Text

/-- The digit for a number below sixteen. -/
def hexByte (n : Nat) : UInt8 :=
  UInt8.ofNat (if n < 10 then 0x30 + n else 0x57 + n)

/-- The number that a digit stands for. -/
def hexValue? (b : UInt8) : Option Nat :=
  let n := b.toNat
  if 0x30 ≤ n ∧ n ≤ 0x39 then some (n - 0x30)
  else if 0x61 ≤ n ∧ n ≤ 0x66 then some (n - 0x57)
  else if 0x41 ≤ n ∧ n ≤ 0x46 then some (n - 0x37)
  else none

/-- What is written for a number is read as that number. -/
theorem hexValue?_hexByte {n : Nat} (h : n < 16) : hexValue? (hexByte n) = some n := by
  have all : ∀ m : Fin 16, hexValue? (hexByte m) = some m.val := by decide
  exact all ⟨n, h⟩

end ChatServer.Text
