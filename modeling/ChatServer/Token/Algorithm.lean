import ChatServer.Digest.Hmac
import ChatServer.Base64
import ChatServer.Text.Utf8

/-!
Signatures of tokens. Three algorithms are known, all of them keyed hashes of the SHA-2 family;
a signature is the keyed hash in Base64.
-/

namespace ChatServer.Token

/-- How a token is signed. -/
inductive Algorithm where
  | hs256 | hs384 | hs512
  deriving DecidableEq, Inhabited

namespace Algorithm

def name : Algorithm → String
  | hs256 => "HS256"
  | hs384 => "HS384"
  | hs512 => "HS512"

def ofName? (name : String) : Option Algorithm :=
  [hs256, hs384, hs512].find? (·.name = name)

/-- The keyed hash of a message. -/
def digest (algorithm : Algorithm) (key message : List UInt8) : List UInt8 :=
  match algorithm with
  | hs256 => Digest.hmac Digest.sha256 key message
  | hs384 => Digest.hmac Digest.sha384 key message
  | hs512 => Digest.hmac Digest.sha512 key message

/-- The signature of a message as it stands in a token. -/
def sign (algorithm : Algorithm) (secret : String) (message : List UInt8) : List UInt8 :=
  Base64.urlSafe.encode (algorithm.digest (Text.utf8 secret) message)

/-- A name is the name of one algorithm only. -/
theorem ofName?_eq_some_iff {text : String} {algorithm : Algorithm}
    : ofName? text = some algorithm ↔ algorithm.name = text := by
  constructor
  · intro h
    simpa [ofName?] using List.find?_some h
  · rintro rfl
    cases algorithm <;> decide

end Algorithm

end ChatServer.Token
