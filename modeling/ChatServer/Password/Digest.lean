import ChatServer.Password.Blowfish

/-!
Digests of passwords. The password and a salt are taken into the tables of a cipher over and
over, a number of times that doubles with the cost; the digest is a fixed text enciphered with
the tables that come out. Only the first 72 bytes of a password count.
-/

namespace ChatServer.Password

/-- How many bytes of a password count. -/
def keySize : Nat := 72

/-- The bytes of a password that count: with a zero byte behind them, cut to the size. -/
def keyBytes (password : List UInt8) : List UInt8 :=
  (password ++ [0]).take keySize

/-- A word from four bytes of a list that is repeated without end, from a place on. -/
def wordAt (bytes : Array UInt8) (start : Nat) : UInt32 :=
  let byte (i : Nat) : UInt32 := (bytes.getD ((start + i) % bytes.size) 0).toUInt32
  byte 0 <<< 24 ||| byte 1 <<< 16 ||| byte 2 <<< 8 ||| byte 3

/-- Words from a list of bytes that is repeated without end. -/
def wordsOf (n : Nat) (bytes : List UInt8) : Vector UInt32 n :=
  let bytes := bytes.toArray
  Vector.ofFn fun i => wordAt bytes (4 * i.val)

/-- The words of nothing. -/
def noSalt : Blowfish.Salt := Vector.replicate 4 0

/-- Takes the key and then the salt into the tables, a number of times. -/
def stretch (key salt : Vector UInt32 18) (tables : Tables) : Nat → Tables
  | 0 => tables
  | n + 1 =>
    stretch key salt (Blowfish.expand (Blowfish.expand tables key noSalt) salt noSalt) n

/-- The text that is enciphered, as three blocks. -/
def magicBlocks : List Blowfish.Block :=
  let words := wordsOf 6 "OrpheanBeholderScryDoubt".toUTF8.data.toList
  [⟨words[0], words[1]⟩, ⟨words[2], words[3]⟩, ⟨words[4], words[5]⟩]

def bytesOf (word : UInt32) : List UInt8 :=
  [(word >>> 24).toUInt8, (word >>> 16).toUInt8, (word >>> 8).toUInt8, word.toUInt8]

/-- The digest of a password with a salt at a cost: all bytes but the last of the enciphered
text. -/
def digest (cost : Nat) (salt password : List UInt8) : List UInt8 :=
  let key := wordsOf 18 (keyBytes password)
  let start := Blowfish.expand Blowfish.startTables key (wordsOf 4 salt)
  let tables := stretch key (wordsOf 18 salt) start (1 <<< cost)
  let blocks := magicBlocks.map (Blowfish.encipherTimes tables · 64)
  (blocks.flatMap fun block => bytesOf block.left ++ bytesOf block.right).take 23

/-- A digest has 23 bytes. -/
theorem length_digest (cost : Nat) (salt password : List UInt8)
    : (digest cost salt password).length = 23 := by
  simp [digest, magicBlocks, bytesOf]

/-- Passwords with the same bytes that count have the same digest. -/
theorem digest_congr {first second : List UInt8} (h : keyBytes first = keyBytes second)
    (cost : Nat) (salt : List UInt8) : digest cost salt first = digest cost salt second := by
  simp [digest, h]

end ChatServer.Password
