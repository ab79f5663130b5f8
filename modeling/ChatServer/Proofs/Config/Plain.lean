import ChatServer.Config

/-! Plain configurations: keys, and the default of everything else. -/

namespace ChatServer.Config

/-- The configuration of settings that set nothing but keys. -/
def plain (keys : List SigningKey) (activeId : String) (legacy : Option Secret) : Config where
  signingKeys := keys
  activeKeyId := activeId
  legacySecret := legacy
  tokenLifetime := tokenLifetimeSetting.default
  clockSkew := clockSkewSetting.default
  passwordCost := passwordCostSetting.default
  requestsPerMinute := requestsPerMinuteSetting.default
  burst := burstSetting.default
  idleWindow := idleWindowSetting.default
  sweepInterval := sweepIntervalSetting.default
  rpcAddress := defaultRpcAddress
  healthAddress := defaultHealthAddress
  tls := none
  streamBuffer := streamBufferSetting.default

end ChatServer.Config
