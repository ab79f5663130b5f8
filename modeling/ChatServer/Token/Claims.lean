import ChatServer.Json.Passage
import ChatServer.Text.Described

/-!
Claims of tokens: who a token is for and from when to when it is valid. `TokenClaims` is what
the payload of a token holds; `Claims` is what is known after a token has been verified, and
`Caller` the part of it that tells who calls.
-/

namespace ChatServer.Token

/-- What the payload of a token holds. Times are seconds since 1970. -/
structure TokenClaims where
  subject : String
  email : String
  issuedAt : Int
  expiresAt : Int
  deriving DecidableEq

/-- What a verified token says. -/
structure Claims where
  subject : String
  /-- The normalized form of the email address. -/
  identity : String
  issuedAt : Int
  expiresAt : Int
  /-- The key that the token names. -/
  keyId : Option String
  deriving DecidableEq

structure Caller where
  subject : String
  identity : String
  deriving DecidableEq

namespace TokenClaims

/-- The payload of a token. -/
def write (claims : TokenClaims) : List UInt8 :=
  Json.object [("sub", Json.string claims.subject), ("email", Json.string claims.email),
    ("iat", Json.integer claims.issuedAt), ("exp", Json.integer claims.expiresAt)]

/-- The claims from the values of the four members. -/
def ofValues? (subject email issuedAt expiresAt : Json.Tree) : Option TokenClaims := do
  let subject ← subject.string?
  let email ← email.string?
  let issuedAt ← issuedAt.int64?
  let expiresAt ← expiresAt.int64?
  return ⟨subject, email, issuedAt, expiresAt⟩

/-- The claims among the members of an object, each there once. Other members are passed over. -/
def ofMembers? (members : List (String × Json.Tree)) : Option TokenClaims := do
  let subject ← Json.only? "sub" members
  let email ← Json.only? "email" members
  let issuedAt ← Json.only? "iat" members
  let expiresAt ← Json.only? "exp" members
  ofValues? subject email issuedAt expiresAt

/-- The claims in a JSON value: an object, or the four values in order. -/
def ofTree? : Json.Tree → Option TokenClaims
  | .array [subject, email, issuedAt, expiresAt] => ofValues? subject email issuedAt expiresAt
  | tree => tree.members?.bind ofMembers?

def describe (claims : TokenClaims) : String :=
  Text.record "TokenClaims" [("sub", Text.redacted), ("email", Text.redacted),
    ("iat", toString claims.issuedAt), ("exp", toString claims.expiresAt)]

/-! ## Payloads -/

/-- Could a reader that wants a number go on after the value? It does not look into containers,
so it gets stuck in one that is not empty. -/
def passesNumberReader : Json.Tree → Bool
  | .array items => items.isEmpty
  | .object members => members.isEmpty
  | tree => tree.passage 0 ≠ .stuck

/-- Could a reader that takes any value go on after the value, which stands inside an object? -/
def passesReader (tree : Json.Tree) : Bool :=
  tree.passage (Json.Tree.maxDepth - 1) ≠ .stuck

/-- Does the value name who a token is meant for? -/
def namesAudience (tree : Json.Tree) : Bool :=
  tree.string?.isSome || tree.strings?.isSome

/-- May the payload hold the members that are not claims of this service? Their values do not
matter, but a reader has to come past them. A token that is meant for somebody in particular is
not meant for this service. -/
def allowsOthers (members : List (String × Json.Tree)) : Bool :=
  ["nbf", "iss", "aud"].all (Json.isUnique · members)
    && (Json.valuesOf "nbf" members).all passesNumberReader
    && (Json.valuesOf "iss" members).all passesReader
    && (Json.valuesOf "aud" members).all fun tree => passesReader tree && !namesAudience tree

/-- The claims that a payload makes at a time, if it is a payload for this service and has not
expired. -/
def ofPayload? (now : Int) (tree : Json.Tree) : Option TokenClaims := do
  let members ← tree.members?
  let claims ← ofMembers? members
  if allowsOthers members && 0 ≤ claims.expiresAt && now ≤ claims.expiresAt then
    some claims
  else
    none

end TokenClaims

namespace Claims

/-- Who calls with the token. -/
def caller (claims : Claims) : Caller :=
  ⟨claims.subject, claims.identity⟩

def describe (claims : Claims) : String :=
  Text.record "Claims" [("subject_id", Text.redacted), ("identity", Text.redacted),
    ("issued_at", toString claims.issuedAt), ("expires_at", toString claims.expiresAt),
    ("key_id", Text.optional (claims.keyId.map Text.quoted))]

end Claims

def Caller.describe (_ : Caller) : String :=
  Text.record "AuthContext" [("subject_id", Text.redacted), ("identity", Text.redacted)]

end ChatServer.Token
