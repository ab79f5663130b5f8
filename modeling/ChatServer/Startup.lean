import ChatServer.Config
import ChatServer.Files
import ChatServer.Net.Host

/-!
Starting the service: from settings to what it serves with. The first thing that stands in the way
is reported, in the order in which they are looked at: the configuration, the place of the
operators' pages, the TLS files and the place of the service itself. A place has to be an address
that can be read, and one to listen at.
-/

namespace ChatServer

/-- Why the service cannot start. -/
inductive StartupError where
  | config (e : ConfigError)
  | healthAddress
  | healthListener (endpoint : Net.Endpoint) (fault : SystemFault)
  | tlsFile (fault : SystemFault)
  | rpcAddress
  | rpcListener (endpoint : Net.Endpoint) (fault : SystemFault)
  deriving DecidableEq

/-- What an address that cannot be read is said to be. -/
def addressFault : String := "invalid socket address syntax"

/-- What is said of an endpoint that one cannot listen at. -/
def listenerFault (server : String) (endpoint : Net.Endpoint) (fault : SystemFault) : String :=
  "Failed to bind " ++ server ++ " server to " ++ endpoint.render ++ ": " ++ fault.text

/-- The report of an error. -/
def StartupError.report : StartupError → String
  | config e =>
    (if e.isMissing then "MissingEnvVar(" else "InvalidValue(") ++ Text.quoted e.detail ++ ")"
  | healthAddress => Text.quoted ("Invalid health bind address: " ++ addressFault)
  | healthListener endpoint fault => Text.quoted (listenerFault "health" endpoint fault)
  | tlsFile fault => fault.describe
  | rpcAddress => Text.quoted ("Invalid gRPC bind address: " ++ addressFault)
  | rpcListener endpoint fault => Text.quoted (listenerFault "gRPC" endpoint fault)

/-- The line that is written when the service cannot start. -/
def StartupError.line (e : StartupError) : String :=
  "Error: " ++ e.report

/-- What the service runs on: why the file at a path cannot be read, if it cannot, and where it
can listen. -/
structure Machine where
  fileFault? : String → Option SystemFault
  host : Net.Host

/-- What the service serves with. -/
structure Launch where
  config : Config
  healthEndpoint : Net.Endpoint
  rpcEndpoint : Net.Endpoint

namespace Launch

def endpoint (address : String) (fault : StartupError) : Except StartupError Net.Endpoint :=
  match Net.Endpoint.ofText? address with
  | some endpoint => .ok endpoint
  | none => .error fault

def listen (host : Net.Host) (endpoint : Net.Endpoint)
    (report : Net.Endpoint → SystemFault → StartupError) : Except StartupError Net.Host :=
  match host.listenFault? endpoint with
  | some fault => .error (report endpoint fault)
  | none => .ok (host.listen endpoint)

/-- Can the TLS files be read, if there are to be some? The certificate comes first. -/
def checkTls (fault? : String → Option SystemFault) (tls : Option TlsFiles)
    : Except StartupError Unit :=
  match tls.bind fun files => fault? files.certificate <|> fault? files.key with
  | some fault => .error (.tlsFile fault)
  | none => .ok ()

/-- Gets from settings to what the service serves with. -/
def ofSettings (machine : Machine) (settings : Settings) : Except StartupError Launch := do
  let config ← (Config.ofSettings settings).mapError .config
  let healthEndpoint ← endpoint config.healthAddress .healthAddress
  let host ← listen machine.host healthEndpoint .healthListener
  checkTls machine.fileFault? config.tls
  let rpcEndpoint ← endpoint config.rpcAddress .rpcAddress
  let _ ← listen host rpcEndpoint .rpcListener
  return ⟨config, healthEndpoint, rpcEndpoint⟩

end Launch

end ChatServer
