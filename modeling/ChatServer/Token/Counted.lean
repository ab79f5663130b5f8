import ChatServer.Metrics
import ChatServer.Token.Broker

/-!
Issuing and verifying with a count of how each attempt comes out. Work that breaks off is not
counted.
-/

namespace ChatServer.Token.Broker

/-- How an attempt is counted. -/
def outcomeOf {α : Type} : Except TokenError α → Outcome
  | .ok _ => .success
  | .error _ => .error

/-- Issues a token and counts how that came out. -/
def issueCounted (broker : Broker) (now : Instant) (subject identity : String)
    (metrics : Metrics) : Completion (Except TokenError IssuedToken × Metrics) := do
  let result ← broker.issue now subject identity
  return (result, metrics.increment (.tokensIssued (outcomeOf result)))

/-- Verifies a token and counts how that came out. -/
def verifyCounted (broker : Broker) (now : Int) (token : String) (metrics : Metrics)
    : Except TokenError Claims × Metrics :=
  let result := broker.verify now token
  (result, metrics.increment (.tokenVerifications (outcomeOf result)))

end ChatServer.Token.Broker
