/-!
Statuses: the outcome of a remote call as its caller sees it, a code and a text.
-/

namespace ChatServer

/-- What kind of outcome a call had. -/
inductive Code where
  | ok | cancelled | unknown | invalidArgument | deadlineExceeded | notFound | alreadyExists
  | permissionDenied | resourceExhausted | failedPrecondition | aborted | outOfRange
  | unimplemented | internal | unavailable | dataLoss | unauthenticated
  deriving DecidableEq, Inhabited

def Code.number : Code → Nat
  | ok => 0 | cancelled => 1 | unknown => 2 | invalidArgument => 3 | deadlineExceeded => 4
  | notFound => 5 | alreadyExists => 6 | permissionDenied => 7 | resourceExhausted => 8
  | failedPrecondition => 9 | aborted => 10 | outOfRange => 11 | unimplemented => 12
  | internal => 13 | unavailable => 14 | dataLoss => 15 | unauthenticated => 16

/-- A code and a text for the caller. -/
structure Status where
  code : Code
  message : String
  deriving DecidableEq, Inhabited

end ChatServer
