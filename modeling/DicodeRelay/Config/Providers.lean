import DicodeRelay.Config.Interpolation
import DicodeRelay.Config.Settings

/-!
Contract: the OAuth providers of a configuration and what is published of them.

Owns:
- the enabled providers and the list that `GET /providers` answers with;
- that the secrets of providers show nowhere else: neither in that list, nor in the
  other settings, nor in why a document is refused.

Does not own: what Grant does with the secrets.
-/

namespace DicodeRelay.Config

open DicodeRelay.Lib

/-! ### Providers -/

structure ProviderConfig where
  grantKey : String
  clientId : String
  clientSecret : Option String
  pkce : Bool
  scopes : List String
deriving DecidableEq

/-- Of a secret only whether it is set. -/
def maskSecret (secret : String) : String := if secret = "" then "" else "set"

def ProviderSettings.masked (entry : ProviderSettings) : ProviderSettings :=
  { entry with clientSecret := entry.clientSecret.map maskSecret }

def BrokerSettings.masked (broker : BrokerSettings) : BrokerSettings :=
  { broker with providers := broker.providers.mapValues ProviderSettings.masked }

def RelayConfig.masked (config : RelayConfig) : RelayConfig :=
  { config with broker := config.broker.masked }

def ProviderConfig.masked (cfg : ProviderConfig) : ProviderConfig :=
  { cfg with clientSecret := cfg.clientSecret.map maskSecret }

namespace Sample

def config (secret : String) : RelayConfig :=
  { defaultConfig with
    server := { defaultConfig.server with baseUrl := "https://relay.example" }
    broker := { defaultConfig.broker with
      providers := .ofList [("github", ⟨"id", some secret, true, []⟩)] } }

end Sample

end DicodeRelay.Config
