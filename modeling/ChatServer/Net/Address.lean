import ChatServer.Text.Split
import ChatServer.Text.Hexadecimal

/-!
Internet addresses as text. An address of version 4 is four numbers between dots. One of version
6 is eight hexadecimal groups between colons, and is shown with the first longest run of two or
more zero groups left out; an address of version 4 inside one of version 6 is shown with dots. An
address with a number is an endpoint.
-/

namespace ChatServer.Net

/-- An address. The groups of version 6 are numbers of 16 bits. -/
inductive Address where
  | v4 (a b c d : Nat)
  | v6 (groups : List Nat)
  deriving DecidableEq, Inhabited

/-! ## Writing -/

def dotted (a b c d : Nat) : List Char :=
  List.intercalate ['.'] ([a, b, c, d].map (Nat.toDigits 10))

def colons (groups : List Nat) : List Char :=
  List.intercalate [':'] (groups.map (Nat.toDigits 16))

/-- How many zero groups there are at the front. -/
def zerosAhead (groups : List Nat) : Nat :=
  (groups.takeWhile (· = 0)).length

/-- The place and the length of the first longest run of zero groups, from a place on. -/
def longestZeros (start : Nat) : List Nat → Nat × Nat
  | [] => (start, 0)
  | group :: groups =>
    let rest := longestZeros (start + 1) groups
    let here := zerosAhead (group :: groups)
    if rest.2 ≤ here then (start, here) else rest

/-- Groups with the first longest run of two or more zeros left out. -/
def compressed (groups : List Nat) : List Char :=
  let (start, length) := longestZeros 0 groups
  if length < 2 then colons groups
  else colons (groups.take start) ++ ':' :: ':' :: colons (groups.drop (start + length))

def Address.toChars : Address → List Char
  | v4 a b c d => dotted a b c d
  | v6 [0, 0, 0, 0, 0, 0xFFFF, high, low] =>
    "::ffff:".toList ++ dotted (high / 256) (high % 256) (low / 256) (low % 256)
  | v6 groups => compressed groups

def Address.render (address : Address) : String :=
  .ofList address.toChars

/-! ## Reading -/

/-- The value of a digit of any base up to sixteen. -/
def digitValue? (base : Nat) (c : Char) : Option Nat :=
  if c.toNat < 128 then (Text.hexValue? c.toUInt8).filter (· < base) else none

/-- A form of number: its base, how many digits it may have, its limit, and whether it may start
with needless zeros. -/
structure NumberForm where
  base : Nat
  maxDigits : Option Nat
  limit : Nat
  zeros : Bool

/-- One of the four numbers of version 4. -/
def octet : NumberForm := ⟨10, some 3, UInt8.size, false⟩

def hexGroup : NumberForm := ⟨16, some 4, UInt16.size, true⟩

/-- The number of an endpoint at its address. -/
def endpointNumber : NumberForm := ⟨10, none, UInt16.size, true⟩

/-- A scope of version 6. -/
def scopeNumber : NumberForm := ⟨10, none, UInt32.size, true⟩

/-- Reads a number of a form as far as its digits go, and gives what follows. -/
def NumberForm.read (form : NumberForm) (cs : List Char) : Option (Nat × List Char) :=
  let isDigit (c : Char) := (digitValue? form.base c).isSome
  let run := cs.takeWhile isDigit
  let value := run.foldl (fun n c => form.base * n + (digitValue? form.base c).getD 0) 0
  if run.isEmpty || form.maxDigits.any (· < run.length)
      || (!form.zeros && run.length > 1 && run.head? == some '0') || form.limit ≤ value then
    none
  else
    some (value, cs.dropWhile isDigit)

/-- The rest after one given character. -/
def expect (c : Char) : List Char → Option (List Char)
  | first :: rest => if first = c then some rest else none
  | [] => none

/-- Reads four numbers between dots. -/
def readDotted (cs : List Char) : Option ((Nat × Nat × Nat × Nat) × List Char) := do
  let (a, cs) ← octet.read cs
  let (b, cs) ← octet.read (← expect '.' cs)
  let (c, cs) ← octet.read (← expect '.' cs)
  let (d, cs) ← octet.read (← expect '.' cs)
  return ((a, b, c, d), cs)

/-- What follows the separator in front of a group; the first group has none. -/
def separated (isFirst : Bool) (cs : List Char) : Option (List Char) :=
  if isFirst then some cs else expect ':' cs

/-- Reads up to `room` groups, the last two of which may be written as four numbers between
dots. Tells whether they were. -/
def readGroups (isFirst : Bool) : Nat → List Char → List Nat × Bool × List Char
  | 0, cs => ([], false, cs)
  | room + 1, cs =>
    let inner := if room = 0 then none else (separated isFirst cs).bind readDotted
    match inner with
    | some ((a, b, c, d), rest) => ([a * 256 + b, c * 256 + d], true, rest)
    | none =>
      match (separated isFirst cs).bind hexGroup.read with
      | some (group, rest) =>
        let (groups, hasDots, rest) := readGroups false room rest
        (group :: groups, hasDots, rest)
      | none => ([], false, cs)

/-- Reads the groups of an address, where two colons stand for at least one zero group. -/
def readV6 (cs : List Char) : Option (List Nat × List Char) :=
  let (front, hasDots, rest) := readGroups true 8 cs
  if front.length = 8 then some (front, rest)
  else if hasDots then none
  else do
    let rest ← expect ':' (← expect ':' rest)
    let (back, _, rest) := readGroups true (7 - front.length) rest
    return (front ++ List.replicate (8 - front.length - back.length) 0 ++ back, rest)

/-- The address that a text is. -/
def Address.ofText? (text : String) : Option Address :=
  match readDotted text.toList with
  | some ((a, b, c, d), []) => some (.v4 a b c d)
  | _ =>
    match readV6 text.toList with
    | some (groups, []) => some (.v6 groups)
    | _ => none

/-- An address with a number and, for version 6, a scope, which is 0 if there is none. -/
structure Endpoint where
  address : Address
  number : Nat
  scope : Nat := 0
  deriving DecidableEq

def Endpoint.render (endpoint : Endpoint) : String :=
  let number := ":" ++ toString endpoint.number
  match endpoint.address with
  | .v4 _ _ _ _ => endpoint.address.render ++ number
  | .v6 _ =>
    let scope := if endpoint.scope = 0 then "" else "%" ++ toString endpoint.scope
    "[" ++ endpoint.address.render ++ scope ++ "]" ++ number

/-- The number after a colon, at the end of a text. -/
def lastNumber? (cs : List Char) : Option Nat := do
  let (number, rest) ← endpointNumber.read (← expect ':' cs)
  if rest.isEmpty then some number else none

/-- The endpoint that a text is. Version 6 stands in brackets, with an optional scope. -/
def Endpoint.ofText? (text : String) : Option Endpoint :=
  match readDotted text.toList with
  | some ((a, b, c, d), rest) => (lastNumber? rest).map (⟨.v4 a b c d, ·, 0⟩)
  | none => do
    let (groups, rest) ← readV6 (← expect '[' text.toList)
    let (scope, rest) ← match expect '%' rest with
      | some rest => scopeNumber.read rest
      | none => some (0, rest)
    let number ← lastNumber? (← expect ']' rest)
    return ⟨.v6 groups, number, scope⟩

end ChatServer.Net
