import ChatServer.Startup

/-!
The command line. The settings are read from the environment of the process, and what stands in
the way of starting with them is reported on standard error.
-/

namespace ChatServer

/-- The names of all settings. -/
def settingNames : List String :=
  [Config.secretSetting, Config.keysSetting, Config.activeKeySetting,
    Config.tokenLifetimeSetting.name, Config.clockSkewSetting.name,
    Config.passwordCostSetting.name, Config.requestsPerMinuteSetting.name,
    Config.burstSetting.name, Config.idleWindowSetting.name, Config.sweepIntervalSetting.name,
    Config.rpcAddressSetting, Config.healthAddressSetting, Config.certificateSetting,
    Config.tlsKeySetting, Config.streamBufferSetting.name]

/-- The settings that the environment has. -/
def environmentSettings : IO Settings :=
  settingNames.filterMapM fun name => do
    return (← IO.getEnv name).map (name, ·)

/-- The fault behind an error of the system. Some errors carry the negative of its number. -/
def faultOf (e : IO.Error) : SystemFault :=
  let code : UInt32 := match e with
    | .noFileOrDirectory _ code _ | .inappropriateType _ code _ | .invalidArgument _ code _
    | .permissionDenied _ code _ | .noSuchThing _ code _ | .resourceExhausted _ code _
    | .hardwareFault code _ | .otherError code _ => code
    | _ => 0
  SystemFault.ofCode (min code.toNat (-code).toNat) e.toString

/-- Why the file at a path cannot be read, if it cannot. -/
def fault? (path : String) : IO (Option SystemFault) := do
  try
    discard (IO.FS.readBinFile path)
    return none
  catch e => return some (faultOf e)

/-- The paths among the settings at which no file can be read, each with the reason. -/
def faultsAmong (settings : Settings) : IO (List (String × SystemFault)) :=
  settings.filterMapM fun (_, path) => do
    return (← fault? path).map (path, ·)

end ChatServer

open ChatServer in
def main : IO UInt32 := do
  let settings ← environmentSettings
  let faults ← faultsAmong (settings.filter fun (name, _) =>
    name == Config.certificateSetting || name == Config.tlsKeySetting)
  let machine : Machine := {
    fileFault? := (List.lookup · faults)
    host := { isOwn := fun _ => true } }
  match Launch.ofSettings machine settings with
  | .ok _ => return 0
  | .error e =>
    IO.eprintln e.line
    return 1
