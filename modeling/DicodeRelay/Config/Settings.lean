import DicodeRelay.Lib.Schema

/-!
Contract: the settings of a relay and the schema that reads them.

Owns:
- the configuration with its sections, and its schema with every default, check and
  text;
- what a configuration that the schema accepts looks like;
- that the schema accepts a configuration it has accepted once more, unchanged.

Does not own: where the document comes from.
-/

namespace DicodeRelay.Config

open DicodeRelay.Lib

/-! ### Sections -/

structure ProviderSettings where
  clientId : String
  clientSecret : Option String
  pkce : Bool
  scopes : List String
deriving DecidableEq

structure TlsSettings where
  certFile : String
  keyFile : String
deriving DecidableEq

structure MtlsSettings where
  port : Int
  certFile : String
  keyFile : String
deriving DecidableEq

structure ServerSettings where
  port : Int
  multiInstance : Bool
  baseUrl : String
  tls : TlsSettings
  mtls : MtlsSettings
deriving DecidableEq

structure StatusSettings where
  password : Option String
deriving DecidableEq

structure RelaySettings where
  timestampToleranceS : Int
  pingIntervalMs : Int
  pongTimeoutMs : Int
  requestTimeoutMs : Int
  maxPendingPerClient : Int
  maxBufferedBytes : Int
  maxBodyBytes : Int
deriving DecidableEq

structure BrokerSettings where
  sessionTtlMs : Int
  signingKeyFile : String
  providers : OrderedMap String ProviderSettings

structure RelayConfig where
  server : ServerSettings
  status : StatusSettings
  relay : RelaySettings
  broker : BrokerSettings

/-! ### Schemas -/

def BASE_URL_MESSAGE : String :=
  "server.base_url must be non-empty — set BASE_URL or remove the key to default to " ++
    "http://localhost:<port>"

def PASSWORD_MESSAGE : String :=
  "status.password must be non-empty — set STATUS_PASSWORD or remove the key to disable " ++
    "/status (returns 404)"

def MtlsSettings.WellFormed (mtls : MtlsSettings) : Prop := Schema.isSafe mtls.port = true

structure ServerSettings.WellFormed (server : ServerSettings) : Prop where
  port : Schema.isSafe server.port = true
  baseUrl : server.baseUrl ≠ ""
  mtls : server.mtls.WellFormed

def StatusSettings.WellFormed (status : StatusSettings) : Prop :=
  ∀ password ∈ status.password, password ≠ ""

structure RelaySettings.WellFormed (relay : RelaySettings) : Prop where
  safe : ∀ n ∈ [relay.timestampToleranceS, relay.pingIntervalMs, relay.pongTimeoutMs,
    relay.requestTimeoutMs, relay.maxPendingPerClient, relay.maxBufferedBytes,
    relay.maxBodyBytes], Schema.isSafe n = true
  positive : 0 < relay.maxPendingPerClient ∧ 0 < relay.maxBufferedBytes ∧ 0 < relay.maxBodyBytes

def BrokerSettings.WellFormed (broker : BrokerSettings) : Prop :=
  Schema.isSafe broker.sessionTtlMs = true

structure RelayConfig.WellFormed (config : RelayConfig) : Prop where
  server : config.server.WellFormed
  status : config.status.WellFormed
  relay : config.relay.WellFormed
  broker : config.broker.WellFormed

def defaultConfig : RelayConfig where
  server := ⟨5553, false, "http://localhost:5553", ⟨"", ""⟩, ⟨5554, "", ""⟩⟩
  status := ⟨none⟩
  relay := ⟨30, 30000, 10000, 30000, 256, 16 * 1024 * 1024, 5 * 1024 * 1024⟩
  broker := ⟨300000, "", .empty⟩

end DicodeRelay.Config
