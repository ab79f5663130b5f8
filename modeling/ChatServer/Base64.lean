/-!
Base64 without padding over any alphabet of 64 symbols. Three bytes become four symbols; one or
two bytes at the end become two or three symbols, and the bits of the last symbol that no byte
fills are zero. Reading refuses everything that is not written so, and says where.
-/

namespace ChatServer.Base64

/-- The 64 symbols that stand for the numbers below 64, in order. -/
structure Alphabet where
  symbols : List UInt8

/-- The bytes of the characters of a text of ASCII. -/
def symbolsOf (s : String) : List UInt8 :=
  s.toList.map (·.toUInt8)

def urlSafe : Alphabet :=
  ⟨symbolsOf "ABCDEFGHIJKLMNOPQRSTUVWXYZabcdefghijklmnopqrstuvwxyz0123456789-_"⟩

def passwordHash : Alphabet :=
  ⟨symbolsOf "./ABCDEFGHIJKLMNOPQRSTUVWXYZabcdefghijklmnopqrstuvwxyz0123456789"⟩

/-- The symbol that fills up a last group where padding is used. -/
def padding : UInt8 := 0x3D

/-- Why symbols are not what bytes are written as. -/
inductive Fault where
  | invalidSymbol (symbol : UInt8) (offset : Nat)
  /-- The last symbol has bits that no byte fills. -/
  | invalidLastSymbol (symbol : UInt8) (offset : Nat)
  | invalidLength (length : Nat)
  | invalidPadding
  deriving DecidableEq

def Fault.message : Fault → String
  | invalidSymbol symbol offset =>
    "Invalid symbol " ++ toString symbol.toNat ++ ", offset " ++ toString offset ++ "."
  | invalidLastSymbol symbol offset =>
    "Invalid last symbol " ++ toString symbol.toNat ++ ", offset " ++ toString offset ++ "."
  | invalidLength length => "Invalid input length: " ++ toString length
  | invalidPadding => "Invalid padding"

namespace Alphabet

def symbol (alphabet : Alphabet) (n : Nat) : UInt8 :=
  (alphabet.symbols[n]?).getD padding

/-- The number that a symbol stands for. -/
def value? (alphabet : Alphabet) (symbol : UInt8) : Option Nat :=
  alphabet.symbols.idxOf? symbol

/-- The bytes as they are written. -/
def encode (alphabet : Alphabet) : List UInt8 → List UInt8
  | [] => []
  | [a] =>
    let n := a.toNat * 16
    [alphabet.symbol (n / 64), alphabet.symbol (n % 64)]
  | [a, b] =>
    let n := (a.toNat * 256 + b.toNat) * 4
    [alphabet.symbol (n / 4096), alphabet.symbol (n / 64 % 64), alphabet.symbol (n % 64)]
  | a :: b :: c :: rest =>
    let n := (a.toNat * 256 + b.toNat) * 256 + c.toNat
    alphabet.symbol (n / 262144) :: alphabet.symbol (n / 4096 % 64)
      :: alphabet.symbol (n / 64 % 64) :: alphabet.symbol (n % 64) :: encode alphabet rest

/-- The number that a symbol at an offset stands for, or the complaint about it. -/
def valueAt (alphabet : Alphabet) (offset : Nat) (symbol : UInt8) : Except Fault Nat :=
  match alphabet.value? symbol with
  | some n => .ok n
  | none => .error (.invalidSymbol symbol offset)

/-- The numbers of the symbols of the last group, and how much padding follows them. Padding
can only take the place of the last two symbols, and no symbol follows it. -/
def lastValues (alphabet : Alphabet) (start : Nat) (group : List UInt8)
    : Except Fault (List Nat × Nat) :=
  let rec go (index : Nat) (values : List Nat) (padded : Nat)
      : List UInt8 → Except Fault (List Nat × Nat)
    | [] => .ok (values, padded)
    | symbol :: rest =>
      if symbol = padding then
        if index < 2 then .error (.invalidSymbol symbol (start + index))
        else go (index + 1) values (padded + 1) rest
      else if padded > 0 then
        .error (.invalidSymbol padding (start + index - padded))
      else
        match alphabet.valueAt (start + index) symbol with
        | .ok n => go (index + 1) (values ++ [n]) padded rest
        | .error fault => .error fault
  go 0 [] 0 group

/-- The bytes of the last group, which has at most four symbols. -/
def decodeLast (alphabet : Alphabet) (start : Nat) (group : List UInt8)
    : Except Fault (List UInt8) := do
  let (values, padded) ← alphabet.lastValues start group
  let stray : Except Fault (List UInt8) :=
    .error (.invalidLastSymbol (group[values.length - 1]?.getD padding) (start + values.length - 1))
  match values with
  | [] => return []
  | [_] => throw (.invalidLength (start + 1))
  | _ =>
    if padded > 0 then throw .invalidPadding
    match values with
    | [a, b] =>
      if b % 16 ≠ 0 then stray else return [UInt8.ofNat (a * 4 + b / 16)]
    | [a, b, c] =>
      if c % 4 ≠ 0 then stray
      else return [UInt8.ofNat (a * 4 + b / 16), UInt8.ofNat (b % 16 * 16 + c / 4)]
    | [a, b, c, d] =>
      return [UInt8.ofNat (a * 4 + b / 16), UInt8.ofNat (b % 16 * 16 + c / 4),
        UInt8.ofNat (c % 4 * 64 + d)]
    | _ => throw (.invalidLength (start + group.length))

/-- The bytes that symbols from an offset on stand for. -/
def decodeFrom (alphabet : Alphabet) (start : Nat) : List UInt8 → Except Fault (List UInt8)
  | a :: b :: c :: d :: next :: rest => do
    let a ← alphabet.valueAt start a
    let b ← alphabet.valueAt (start + 1) b
    let c ← alphabet.valueAt (start + 2) c
    let d ← alphabet.valueAt (start + 3) d
    let bytes ← decodeFrom alphabet (start + 4) (next :: rest)
    return UInt8.ofNat (a * 4 + b / 16) :: UInt8.ofNat (b % 16 * 16 + c / 4)
      :: UInt8.ofNat (c % 4 * 64 + d) :: bytes
  | group => alphabet.decodeLast start group

/-- The bytes that symbols stand for, or the first complaint about them. -/
def decode (alphabet : Alphabet) (symbols : List UInt8) : Except Fault (List UInt8) :=
  alphabet.decodeFrom 0 symbols

end Alphabet

end ChatServer.Base64
