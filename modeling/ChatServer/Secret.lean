import ChatServer.Text.Described

/-!
Secrets: texts that sign or verify tokens. A description of a secret is the same for all of
them, so no description of a value that holds one depends on it.
-/

namespace ChatServer

/-- A text that no description shows. -/
structure Secret where
  reveal : String
  deriving DecidableEq, Inhabited

def Secret.describe (_ : Secret) : String :=
  Text.redacted

/-- All secrets have one description. -/
theorem Secret.describe_eq (first second : Secret) : first.describe = second.describe :=
  rfl

def Secret.size (secret : Secret) : Nat :=
  secret.reveal.utf8ByteSize

end ChatServer
