import ChatServer.Text.Blank
import ChatServer.Text.Split
import ChatServer.Text.Lowercase

/-!
Identities: the one spelling under which accounts, connections, rate limits and messages know
a user. An identity is an email address in lower case without blanks around it.
-/

namespace ChatServer.Identity

/-- The characters of the identity that a text stands for. -/
def normalizeChars (cs : List Char) : List Char :=
  Text.lowercase (Text.trim cs)

/-- The identity that a text stands for. -/
def normalize (s : String) : String :=
  .ofList (normalizeChars s.toList)

/-- A text that could be an email address: something on both sides of its first `@`. -/
def looksLikeEmail (s : String) : Bool :=
  match Text.cut? '@' s.toList with
  | some (before, after) => !before.isEmpty && !after.isEmpty
  | none => false

end ChatServer.Identity
