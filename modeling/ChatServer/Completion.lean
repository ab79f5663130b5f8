/-!
Completions: what running a piece of work comes to. It either returns a value, or breaks off
without one; nothing that follows it is done then. Work over a state leaves the state as it was
where the work broke off.
-/

namespace ChatServer

/-- The end of a piece of work. -/
inductive Completion (α : Type) where
  | returned (value : α)
  | brokenOff
  deriving DecidableEq, Inhabited

namespace Completion

variable {α β : Type}

/-- Goes on with the value that was returned. -/
def bind (completion : Completion α) (next : α → Completion β) : Completion β :=
  match completion with
  | returned value => next value
  | brokenOff => brokenOff

instance : Monad Completion where
  pure := returned
  bind := bind

def isBrokenOff : Completion α → Bool
  | returned _ => false
  | brokenOff => true

end Completion

end ChatServer
