import ChatServer.Rpc.Method
import ChatServer.Text.Blank
import ChatServer.Token.Counted

/-!
The guard in front of the methods. Two methods are public; a call of any other method passes
only with a token that the broker verifies, and then it is known who calls. All refusals are
alike.
-/

namespace ChatServer.Rpc

/-- May a path be called without a token? -/
def isPublic (path : String) : Bool :=
  (Method.ofPath? path).any Method.isPublic

/-- The status of every call that is refused for want of a token. -/
def unauthenticated : Status :=
  Failure.unauthenticated.status

/-- The text of a header value, if all its bytes are visible characters of ASCII, spaces or
tabs. -/
def headerText? (value : List UInt8) : Option (List Char) :=
  if value.all fun b => b == 0x09 || 0x20 ≤ b && b < 0x7F then
    some (value.map fun b => Char.ofNat b.toNat)
  else
    none

/-- What stands before the token in a header value. -/
def bearer : String := "Bearer "

/-- The token in a header value. -/
def bearerToken? (value : List UInt8) : Option String := do
  let text ← headerText? value
  let rest ← bearer.toList.isPrefixOf? text
  let token := Text.trim rest
  if token.isEmpty then none else some (.ofList token)

/-- What the guard decides about a call. -/
inductive Verdict where
  /-- The call passes; on a public path it is not known who calls. -/
  | passed (caller : Option Token.Caller)
  | refused
  deriving DecidableEq

/-- Decides about a call from its path and the values of its authorization headers, of which
the first counts. -/
def judge (broker : Token.Broker) (now : Int) (path : String) (authorization : List (List UInt8))
    (metrics : Metrics) : Verdict × Metrics :=
  if isPublic path then (.passed none, metrics)
  else
    match authorization.head?.bind bearerToken? with
    | none => (.refused, metrics)
    | some token =>
      match broker.verifyCounted now token metrics with
      | (.ok claims, metrics) => (.passed (some claims.caller), metrics)
      | (.error _, metrics) => (.refused, metrics)

end ChatServer.Rpc
