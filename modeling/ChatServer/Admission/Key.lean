import ChatServer.Identity
import ChatServer.Net.Address

/-!
Keys of rate limits. A call that names an account is limited under that account, whatever
address it comes from; a call that names none is limited under its address.
-/

namespace ChatServer.Admission

/-- What a call is limited under. -/
inductive Key where
  | account (identity : String)
  | address (peer : Net.Address)
  | unknown
  deriving DecidableEq

namespace Key

/-- The key of a call that may name an account and may have an address. -/
def ofCall (account : Option String) (peer : Option Net.Address) : Key :=
  match (account.map Identity.normalize).filter (· ≠ ""), peer with
  | some identity, _ => .account identity
  | none, some peer => .address peer
  | none, none => .unknown

/-- The text of the key, under which its bucket is kept. -/
def render : Key → String
  | account identity => "email:" ++ identity
  | address peer => "addr:" ++ peer.render
  | unknown => "unknown"

/-- What kind of key it is; this does not tell whose. -/
def kind : Key → String
  | account _ => "identity"
  | address _ => "peer"
  | unknown => "unknown"

end Key

end ChatServer.Admission
