import ChatServer.Wire.Codec

/-!
How many bytes a message takes, told before it is written: what is announced in front of a message
inside another one, and how much room is made for a whole one. Nothing is written to find it out.
-/

namespace ChatServer.Wire

/-- The size of a number of 64 bits. It is one more than a seventh of the position of its highest
bit, and nine sixty-fourths come to the same up to there. -/
def varintSize (n : Nat) : Nat :=
  ((n ||| 1).log2 * 9 + 73) / 64

/-- The size of the key of a field. The form of the payload has no effect on it. -/
def keySize (number : Nat) : Nat :=
  varintSize (8 * number)

/-- The size of a field with a number that is left out when it is zero. -/
def numberSize (number n : Nat) : Nat :=
  if n = 0 then 0 else keySize number + varintSize n

/-- The size of a field with a content of a size. -/
def contentSize (number size : Nat) : Nat :=
  keySize number + varintSize size + size

def Timestamp.size (time : Timestamp) : Nat :=
  numberSize 1 time.seconds.toUInt64.toNat + numberSize 2 time.nanos.toInt64.toUInt64.toNat

/-- The size of a value with a number. -/
def Kind.size (number : Nat) : (kind : Kind) → kind.Value → Nat
  | text, s => if s = "" then 0 else contentSize number s.utf8ByteSize
  | Kind.number, n => numberSize number n.toNat
  | time, none => 0
  | time, some value => contentSize number value.size

/-- The size of values that are numbered from a number on. -/
def Values.sizeFrom (number : Nat) : (kinds : List Kind) → Values kinds → Nat
  | [], _ => 0
  | kind :: kinds, (value, values) =>
    kind.size number value + Values.sizeFrom (number + 1) kinds values

/-- The size of a message. -/
def encodedSize (kinds : List Kind) (values : Values kinds) : Nat :=
  Values.sizeFrom 1 kinds values

/-! ## Sizes of numbers -/

/-- Up to 64 bits the two fractions agree. -/
theorem varintSize_eq {n : Nat} (h : n < UInt64.size) : varintSize n = (n ||| 1).log2 / 7 + 1 := by
  have odd : n ||| 1 < UInt64.size := Nat.or_lt_two_pow (n := 64) h (by decide)
  have bits : (n ||| 1).log2 < 64 := (Nat.log2_lt (by simp)).mpr odd
  unfold varintSize
  omega

theorem varintSize_le {n : Nat} (h : n < UInt64.size) : varintSize n ≤ 10 := by
  have odd : n ||| 1 < UInt64.size := Nat.or_lt_two_pow (n := 64) h (by decide)
  have bits : (n ||| 1).log2 < 64 := (Nat.log2_lt (by simp)).mpr odd
  rw [varintSize_eq h]
  omega

end ChatServer.Wire
