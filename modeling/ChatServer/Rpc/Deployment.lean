import ChatServer.Rpc.Service

/-!
The service as it is deployed: its methods share one broker, which is also the guard's, and one
store in memory keeps the accounts, answers for the conversations, knows who is a recipient and
takes the messages of sessions.
-/

namespace ChatServer.Rpc

/-- What the methods rely on under a configuration, with a broker. -/
def Deps.inMemory (config : Config) (broker : Token.Broker) (salt : Nat → List UInt8)
    : Deps Backend where
  broker
  accounts := .memory
  conversations := .memory
  services := ⟨.memory, .memory⟩
  passwordCost := config.passwordCost
  streamBuffer := config.streamBuffer
  salt

/-- What the methods rely on under a configuration, if that makes a broker. -/
def Deps.ofConfig (config : Config) (salt : Nat → List UInt8)
    : Except TokenError (Deps Backend) := do
  let broker ← Token.Broker.ofConfig config
  return .inMemory config broker salt

/-- The limits of admission under a configuration. -/
def limitsOf (config : Config) : Admission.Limits where
  perMinute := config.requestsPerMinute
  burst := config.burst
  idleWindow := config.idleWindow * Admission.nanosPerSecond

/-- The state in which the service starts: nobody has registered, called or written. -/
def State.ofConfig (config : Config) (ids : IdSource) (now : Instant) : State Backend where
  world := { backend := { store := { ids } }, now }
  limiter := { limits := limitsOf config }

end ChatServer.Rpc
