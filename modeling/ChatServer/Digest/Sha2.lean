import ChatServer.BigEndian
import ChatServer.Digest.Root

/-!
The SHA-2 family. Its members share one compression function over words of 32 or 64 bits and
differ in the word, in the shifts, in the number of rounds, in where they start from and in
how much of the result they give.
-/

namespace ChatServer.Digest

/-- What the members of the family differ in, over words of `w` bits. -/
structure Sha2 (w : Nat) where
  rounds : Nat
  /-- Shifts that mix the message: two rotations and a shift for each of two steps. -/
  spread0 : Nat × Nat × Nat
  spread1 : Nat × Nat × Nat
  /-- Rotations that mix the state. -/
  turn0 : Nat × Nat × Nat
  turn1 : Nat × Nat × Nat
  start : List (BitVec w)
  constants : Array (BitVec w)
  size : Nat

namespace Sha2

variable {w : Nat}

def wordSize (w : Nat) : Nat := w / 8

/-- How many bytes a block has: sixteen words. -/
def blockSize (_ : Sha2 w) : Nat := 16 * wordSize w

/-- Three rotations combined. -/
def turn (amounts : Nat × Nat × Nat) (x : BitVec w) : BitVec w :=
  x.rotateRight amounts.1 ^^^ x.rotateRight amounts.2.1 ^^^ x.rotateRight amounts.2.2

/-- Two rotations and a shift combined. -/
def spread (amounts : Nat × Nat × Nat) (x : BitVec w) : BitVec w :=
  x.rotateRight amounts.1 ^^^ x.rotateRight amounts.2.1 ^^^ (x >>> amounts.2.2)

/-- The message with a one bit, zeros up to a whole number of blocks, and its length in bits in
the last two words. -/
def pad (variant : Sha2 w) (message : List UInt8) : List UInt8 :=
  let block := variant.blockSize
  let used := (message.length + 1 + 2 * wordSize w) % block
  let zeros := (block - used) % block
  message ++ 0x80 :: List.replicate zeros 0
    ++ BigEndian.write (2 * wordSize w) (8 * message.length)

/-- The words of a block. -/
def wordsOf (size : Nat) : Nat → List UInt8 → List (BitVec w)
  | 0, _ => []
  | n + 1, bytes =>
    BitVec.ofNat w (BigEndian.read (bytes.take size)) :: wordsOf size n (bytes.drop size)

/-- The words of a block followed by the words mixed from them, one for each round. -/
def schedule (variant : Sha2 w) (words : Array (BitVec w)) : Array (BitVec w) :=
  (List.range (variant.rounds - 16)).foldl (fun words i =>
    words.push (spread variant.spread1 (words.getD (i + 14) 0) + words.getD (i + 9) 0
      + spread variant.spread0 (words.getD (i + 1) 0) + words.getD i 0)) words

/-- The eight words that are mixed round by round. -/
structure State (w : Nat) where
  a : BitVec w
  b : BitVec w
  c : BitVec w
  d : BitVec w
  e : BitVec w
  f : BitVec w
  g : BitVec w
  h : BitVec w

/-- The state with given words; missing words are zero. -/
def State.ofList (words : List (BitVec w)) : State w :=
  let word (i : Nat) := (words[i]?).getD 0
  ⟨word 0, word 1, word 2, word 3, word 4, word 5, word 6, word 7⟩

def State.toList (s : State w) : List (BitVec w) :=
  [s.a, s.b, s.c, s.d, s.e, s.f, s.g, s.h]

/-- One round with one word of the schedule and one constant. -/
def round (variant : Sha2 w) (s : State w) (word constant : BitVec w) : State w :=
  let choice := (s.e &&& s.f) ^^^ (~~~s.e &&& s.g)
  let majority := (s.a &&& s.b) ^^^ (s.a &&& s.c) ^^^ (s.b &&& s.c)
  let first := s.h + turn variant.turn1 s.e + choice + constant + word
  let second := turn variant.turn0 s.a + majority
  ⟨first + second, s.a, s.b, s.c, s.d + first, s.e, s.f, s.g⟩

/-- Takes one block into the state. -/
def compress (variant : Sha2 w) (state : State w) (block : List UInt8) : State w :=
  let words := variant.schedule (wordsOf (wordSize w) 16 block).toArray
  let mixed := (List.range variant.rounds).foldl (fun s i =>
    variant.round s (words.getD i 0) (variant.constants.getD i 0)) state
  State.ofList (state.toList.zipWith (· + ·) mixed.toList)

/-- Takes a number of blocks into the state. -/
def absorb (variant : Sha2 w) (state : State w) : Nat → List UInt8 → State w
  | 0, _ => state
  | n + 1, bytes =>
    absorb variant (variant.compress state (bytes.take variant.blockSize)) n
      (bytes.drop variant.blockSize)

def hash (variant : Sha2 w) (message : List UInt8) : List UInt8 :=
  let padded := variant.pad message
  let blocks := padded.length / variant.blockSize
  let final := variant.absorb (State.ofList variant.start) blocks padded
  (final.toList.flatMap fun word => BigEndian.write (wordSize w) word.toNat).take variant.size

end Sha2

/-! ## Members of the family -/

/-- The round constants: the first 64 bits of the fractional parts of the cube roots of the
first eighty primes. -/
def roundConstants : Array Nat :=
  ((primes 80 410).map (rootFraction 3 64)).toArray

/-- The first 64 bits of the fractional parts of the square roots of the first sixteen primes. -/
def startConstants : List Nat :=
  (primes 16 54).map (rootFraction 2 64)

/-- SHA-256, whose constants are the first halves of those of the longer words. -/
def sha256 : Sha2 32 where
  rounds := 64
  spread0 := (7, 18, 3)
  spread1 := (17, 19, 10)
  turn0 := (2, 13, 22)
  turn1 := (6, 11, 25)
  start := (startConstants.take 8).map fun n => BitVec.ofNat 32 (n >>> 32)
  constants := roundConstants.map fun n => BitVec.ofNat 32 (n >>> 32)
  size := 32

def sha512 : Sha2 64 where
  rounds := 80
  spread0 := (1, 8, 7)
  spread1 := (19, 61, 6)
  turn0 := (28, 34, 39)
  turn1 := (14, 18, 41)
  start := (startConstants.take 8).map (BitVec.ofNat 64)
  constants := roundConstants.map (BitVec.ofNat 64)
  size := 64

/-- SHA-384: another start and a shorter result. -/
def sha384 : Sha2 64 :=
  { sha512 with start := (startConstants.drop 8).map (BitVec.ofNat 64), size := 48 }

end ChatServer.Digest
