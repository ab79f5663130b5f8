import ChatServer.Completion
import ChatServer.Config
import ChatServer.Failure
import ChatServer.Identity
import ChatServer.Instant
import ChatServer.Token.Claims
import ChatServer.Token.Header

/-!
The broker of tokens. It issues tokens that name the key they are signed with, and verifies
tokens with the key they name, so tokens from before a change of the signing key stay valid as
long as their key is kept. A token that names no key is verified with the legacy secret.
-/

namespace ChatServer.Token

/-- Keys under different ids, one of which signs. -/
structure KeySet where
  keys : List SigningKey
  active : SigningKey

namespace KeySet

/-- The key of an id among keys. -/
def find? (keys : List SigningKey) (id : String) : Option SigningKey :=
  keys.find? (·.id == id)

/-- The first id that an earlier key has. -/
def firstRepeated? : List SigningKey → List SigningKey → Option String
  | _, [] => none
  | earlier, key :: keys =>
    if (find? earlier key.id).isSome then some key.id else firstRepeated? (key :: earlier) keys

/-- A key set from its keys and the id of the one that signs. -/
def ofKeys (keys : List SigningKey) (activeId : String) : Except TokenError KeySet :=
  match firstRepeated? [] keys with
  | some id => .error (.keySet ("duplicate key id '" ++ id ++ "'"))
  | none =>
    if keys.isEmpty then .error (.keySet "no signing keys")
    else
      match find? keys activeId with
      | none => .error (.keySet ("active key id '" ++ activeId ++ "' is not configured"))
      | some active => .ok ⟨keys, active⟩

/-- The key set as logs show it: the ids in order. -/
def describe (set : KeySet) : String :=
  let ids := (set.keys.map (·.id)).mergeSort fun first second => first ≤ second
  Text.record "SigningKeySet" [("key_ids", Text.sequence (ids.map Text.quoted)),
    ("active_key_id", Text.quoted set.active.id)]

end KeySet

/-- Issues and verifies tokens. Times are in seconds. -/
structure Broker where
  keys : KeySet
  legacySecret : Option Secret
  lifetime : Nat
  /-- How far in the future a token may have been issued. -/
  clockSkew : Nat

structure IssuedToken where
  token : String
  expiresAt : Instant

/-- The latest time at which a token may have been issued. Times are signed numbers of 64 bits, so
a skew that leads out of them leads back in at the other end. -/
def latestIssue (now : Int) (clockSkew : Nat) : Int :=
  Int.bmod (now + clockSkew) UInt64.size

/-- Refuses a token that was issued further in the future than clocks differ. -/
def isIssuedInTime (now : Int) (clockSkew : Nat) (issuedAt : Int) : Bool :=
  issuedAt ≤ latestIssue now clockSkew

namespace Broker

/-- The broker of a configuration. -/
def ofConfig (config : Config) : Except TokenError Broker := do
  let keys ← KeySet.ofKeys config.signingKeys config.activeKeyId
  return ⟨keys, config.legacySecret, config.tokenLifetime, config.clockSkew⟩

/-- The broker as logs show it. -/
def describe (broker : Broker) : String :=
  Text.record "AuthBroker" [("keys", broker.keys.describe),
    ("legacy_secret", Text.optional (broker.legacySecret.map Secret.describe)),
    ("token_ttl", Text.seconds broker.lifetime),
    ("clock_skew", Text.seconds broker.clockSkew)]

/-! ## Issuing -/

/-- The longest lifetime in seconds whose milliseconds are a number of 64 bits. -/
def maxLifetime : Nat := 9223372036854775

/-- The text of ASCII bytes. -/
def asciiText (bytes : List UInt8) : String :=
  .ofList (bytes.map fun b => Char.ofNat b.toNat)

/-- A token with given claims, signed with a key. -/
def encode (key : SigningKey) (claims : TokenClaims) : String :=
  let header := Base64.urlSafe.encode (Header.write ⟨.hs256, some key.id⟩)
  let payload := Base64.urlSafe.encode claims.write
  let signed := header ++ dot :: payload
  asciiText (signed ++ dot :: Algorithm.hs256.sign key.secret.reveal signed)

/-- Issues a token for a subject under an identity. It breaks off when the token would expire
after the end of the calendar. -/
def issue (broker : Broker) (now : Instant) (subject identity : String)
    : Completion (Except TokenError IssuedToken) :=
  let identity := Identity.normalize identity
  if identity = "" then
    .returned (.error (.claims "identity is empty"))
  else if broker.lifetime > maxLifetime then
    .returned (.error (.claims
      "token ttl out of range: Source duration value is out of range for the target type"))
  else
    match now.addSeconds? broker.lifetime with
    | none => .brokenOff
    | some expiresAt =>
      let claims : TokenClaims := ⟨subject, identity, now.seconds, expiresAt.seconds⟩
      .returned (.ok ⟨encode broker.keys.active claims, expiresAt⟩)

/-! ## Verifying -/

/-- The secret that a token is verified with: of the key that it names, or the legacy secret if
it names none. -/
def secretFor? (broker : Broker) (keyId : Option String) : Option Secret :=
  match keyId with
  | some id => (KeySet.find? broker.keys.keys id).map (·.secret)
  | none => broker.legacySecret

/-- The claims of a token, if it is signed with the secret as its header says and the claims hold
at the time. -/
def claimsOf? (secret : Secret) (now : Int) (token : String) : Option TokenClaims := do
  let parts ← Parts.ofBytes? (Text.utf8 token)
  let header ← (decodePart parts.header).bind Header.strict?
  if header.algorithm.sign secret.reveal parts.signed == parts.signature then
    (decodePart parts.payload).bind (TokenClaims.ofPayload? now)
  else
    none

/-- Verifies a token at a time. Why a token is refused is not told. -/
def verify (broker : Broker) (now : Int) (token : String) : Except TokenError Claims :=
  let claims? : Option Claims := do
    let header ← (Header.inspect token).toOption
    let secret ← broker.secretFor? header.keyId
    let claims ← claimsOf? secret now token
    let identity := Identity.normalize claims.email
    if isIssuedInTime now broker.clockSkew claims.issuedAt && identity ≠ "" then
      some ⟨claims.subject, identity, claims.issuedAt, claims.expiresAt, header.keyId⟩
    else
      none
  match claims? with
  | some claims => .ok claims
  | none => .error .refused

end Broker

end ChatServer.Token
