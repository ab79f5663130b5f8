import ChatServer.Password.PiDigits

/-!
A block cipher whose tables depend on a key and a salt. The tables are eighteen round keys
followed by four boxes of 256 words; they start as digits of π, and taking in a key replaces all
of them by what the cipher itself makes of them.
-/

namespace ChatServer.Password

def tableSize : Nat := 1042

/-- The tables of the cipher: eighteen round keys, then the boxes. -/
abbrev Tables := Vector UInt32 1042

namespace Blowfish

/-- The digits of π that the tables start with. -/
def startDigits : Nat := piFraction (32 * tableSize)

/-- The tables before any key has been taken in. -/
def startTables : Tables :=
  Vector.ofFn fun i => UInt32.ofNat (startDigits >>> (32 * (1041 - i.val)))

/-- A word of a box, selected by a byte. -/
@[inline] def boxWord (tables : Tables) (box : Fin 4) (b : UInt8) : UInt32 :=
  have := b.toNat_lt
  have := box.isLt
  tables[18 + 256 * box.val + b.toNat]

/-- Mixes a half block with the boxes. -/
@[inline] def mix (tables : Tables) (x : UInt32) : UInt32 :=
  ((boxWord tables 0 (x >>> 24).toUInt8 + boxWord tables 1 (x >>> 16).toUInt8)
    ^^^ boxWord tables 2 (x >>> 8).toUInt8) + boxWord tables 3 x.toUInt8

/-- Two halves of a block. -/
structure Block where
  left : UInt32
  right : UInt32

/-- The last `2 * n` rounds of the cipher, two at a time. -/
def rounds (tables : Tables) (left right : UInt32) : (n : Nat) → n ≤ 8 → Block
  | 0, _ => ⟨right ^^^ tables[17], left ^^^ tables[16]⟩
  | n + 1, _ =>
    let left := left ^^^ tables[14 - 2 * n]
    let right := right ^^^ mix tables left ^^^ tables[15 - 2 * n]
    let left := left ^^^ mix tables right
    rounds tables left right n (by omega)

@[inline] def encipher (tables : Tables) (left right : UInt32) : Block :=
  rounds tables left right 8 (Nat.le_refl 8)

/-- Four words of salt. -/
abbrev Salt := Vector UInt32 4

/-- Replaces the last `2 * n` words of the tables by what the cipher makes of the block before
and of the salt. -/
def refill (salt : Salt) (tables : Tables) (left right : UInt32)
    : (n : Nat) → n ≤ 521 → Tables
  | 0, _ => tables
  | n + 1, _ =>
    let i := 1040 - 2 * n
    let block := encipher tables (left ^^^ salt[i % 4]) (right ^^^ salt[(i + 1) % 4])
    refill salt ((tables.set i block.left).set (i + 1) block.right) block.left block.right n
      (by omega)

/-- Combines the round keys with the words of a key. -/
def addKey (key : Vector UInt32 18) (tables : Tables) : (n : Nat) → n ≤ 18 → Tables
  | 0, _ => tables
  | n + 1, _ => addKey key (tables.set n (tables[n] ^^^ key[n])) n (by omega)

/-- Takes a key and a salt into the tables. -/
def expand (tables : Tables) (key : Vector UInt32 18) (salt : Salt) : Tables :=
  refill salt (addKey key tables 18 (Nat.le_refl 18)) 0 0 521 (Nat.le_refl 521)

/-- Enciphers a block a number of times. -/
def encipherTimes (tables : Tables) (block : Block) : Nat → Block
  | 0 => block
  | n + 1 => encipherTimes tables (encipher tables block.left block.right) n

end Blowfish

end ChatServer.Password
