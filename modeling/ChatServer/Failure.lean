import ChatServer.Status

/-!
Failures of the service and of the parts it relies on. A failure has a text for the log, which
may say what happened inside, and a status for the caller, which does not.
-/

namespace ChatServer

/-- Why a part that the service relies on could not do its work. -/
inductive CollaboratorError where
  | storage (detail : String)
  | alreadyExists (what : String)
  | notFound (what : String)
  | configuration (detail : String)
  | internal (detail : String)
  deriving DecidableEq, Inhabited

def CollaboratorError.message : CollaboratorError → String
  | storage detail => "Storage error: " ++ detail
  | alreadyExists what => "Already exists: " ++ what
  | notFound what => "Not found: " ++ what
  | configuration detail => "Configuration error: " ++ detail
  | internal detail => "Internal error: " ++ detail

/-- Why no token could be issued or none could be accepted. -/
inductive TokenError where
  /-- The token was refused; why is not told. -/
  | refused
  | claims (reason : String)
  | signing (reason : String)
  | keySet (reason : String)
  deriving DecidableEq, Inhabited

/-- The text of every refusal of a token. -/
def tokenRefused : String := "The access token is invalid or expired"

def TokenError.message : TokenError → String
  | refused => tokenRefused
  | claims reason => "Invalid claims: " ++ reason
  | signing reason => "Token signing failed: " ++ reason
  | keySet reason => "Invalid signing key set: " ++ reason

/-- Why a call or a stream failed. -/
inductive Failure where
  | unauthenticated
  | notFound (what : String)
  | rateLimited
  | alreadyExists (what : String)
  | invalidCredentials
  | invalidArgument (reason : String)
  | storage (detail : String)
  | crypto (detail : String)
  /-- The connection was dropped because a message could not be delivered to it. -/
  | evicted
  | transport (detail : String)
  | config (detail : String)
  | internal (detail : String)
  deriving DecidableEq, Inhabited

namespace Failure

def message : Failure → String
  | unauthenticated => "Unauthenticated"
  | notFound what => "Not found: " ++ what
  | rateLimited => "Rate limit exceeded"
  | alreadyExists what => "Already exists: " ++ what
  | invalidCredentials => "Invalid credentials"
  | invalidArgument reason => "Invalid argument: " ++ reason
  | storage detail => "Storage error: " ++ detail
  | crypto detail => "Cryptographic error: " ++ detail
  | evicted => "Connection evicted"
  | transport detail => "Transport error: " ++ detail
  | config detail => "Configuration error: " ++ detail
  | internal detail => "Internal error: " ++ detail

def code : Failure → Code
  | unauthenticated => .unauthenticated
  | notFound _ => .notFound
  | rateLimited => .resourceExhausted
  | alreadyExists _ => .alreadyExists
  | invalidCredentials => .permissionDenied
  | invalidArgument _ => .invalidArgument
  | evicted => .unavailable
  | storage _ | crypto _ | transport _ | config _ | internal _ => .internal

/-- The text that the caller sees. Only what is wrong with the request itself is told. -/
def clientMessage : Failure → String
  | unauthenticated => "Authentication required"
  | notFound _ => "User not found"
  | rateLimited => "Too many requests, please retry later"
  | alreadyExists _ => "User already exists"
  | invalidCredentials => "Invalid credentials"
  | invalidArgument reason => reason
  | evicted => "Connection lagging, please reconnect"
  | storage _ | crypto _ | transport _ | config _ | internal _ => "An internal error occurred"

def status (failure : Failure) : Status :=
  ⟨failure.code, failure.clientMessage⟩

/-- A collaborator's error as a failure of the call that needed it. -/
def ofCollaborator : CollaboratorError → Failure
  | .storage detail => storage detail
  | .alreadyExists what => alreadyExists what
  | .notFound what => notFound what
  | .configuration detail => config detail
  | .internal detail => internal detail

/-- A token error as a failure of the call that needed a token. -/
def ofToken : TokenError → Failure
  | .refused => unauthenticated
  | .claims reason => invalidArgument reason
  | .signing reason => crypto reason
  | .keySet reason => config reason

end Failure

end ChatServer
