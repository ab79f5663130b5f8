import ChatServer.Text.Utf8

/-!
Texts in header lines of calls. Bytes that such a line cannot hold, and percent signs, are written
as a percent sign and two hexadecimal digits.
-/

namespace ChatServer.Text

/-- The visible characters that are not written as they are, since they have a meaning in
addresses or here. -/
def reservedBytes : List UInt8 :=
  [0x22, 0x23, 0x25, 0x3C, 0x3E, 0x3F, 0x60, 0x7B, 0x7D]

/-- Bytes that are written as they are. -/
def isPlainByte (b : UInt8) : Bool :=
  0x20 < b && b < 0x7F && !reservedBytes.contains b

/-- The capital hexadecimal digit of a number below sixteen. -/
def capitalHex (n : Nat) : Char :=
  Char.ofNat (if n < 10 then 0x30 + n else 0x37 + n)

/-- A byte as it is written. -/
def percentByte (b : UInt8) : List Char :=
  if isPlainByte b then [Char.ofNat b.toNat]
  else ['%', capitalHex (b.toNat / 16), capitalHex (b.toNat % 16)]

/-- A text as it is written in a header line. -/
def percentEncoded (s : String) : String :=
  .ofList ((utf8 s).flatMap percentByte)

end ChatServer.Text
