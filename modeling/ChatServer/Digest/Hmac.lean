import ChatServer.Digest.Sha2

/-!
Keyed hashes: a message is hashed together with a key twice, each time behind a block made from
the key.
-/

namespace ChatServer.Digest

variable {w : Nat}

/-- The key as one block: hashed first if it is longer, and filled up with zeros. -/
def keyBlock (variant : Sha2 w) (key : List UInt8) : List UInt8 :=
  let short := if key.length > variant.blockSize then variant.hash key else key
  short ++ List.replicate (variant.blockSize - short.length) 0

def hmac (variant : Sha2 w) (key message : List UInt8) : List UInt8 :=
  let block := keyBlock variant key
  let inner := variant.hash (block.map (· ^^^ 0x36) ++ message)
  variant.hash (block.map (· ^^^ 0x5C) ++ inner)

end ChatServer.Digest
