import RequestAuth.Json.Error

/-! Causes of failure, each with the text that reports it. -/
namespace RequestAuth

/-- Failures of a provider. They end the request and never reach the server. -/
inductive ProviderError
  | auth (text : String)
  | security (text : String)
deriving DecidableEq

/-- Failures of the hosting server. The engine passes them on. -/
inductive ExchangeError
  | session (text : String)
  | encoding (cause : DecodeError)
  | other (text : String)
deriving DecidableEq

/-- The provider factory exists but cannot be had. -/
structure RegistryError where
  text : String
deriving DecidableEq

inductive EngineError
  | negotiation (cause : ProviderError)
  | exchange (cause : ExchangeError)
deriving DecidableEq

inductive ConfigError
  | invalid (cause : DecodeError)
  | emptyMechanismName
deriving DecidableEq

inductive InitError
  | config (cause : ConfigError)
  | undecodable (cause : DecodeError)
  | blankAuthType
  | alreadyInitialized
  | alreadyRegistered
deriving DecidableEq

def ProviderError.message : ProviderError → String
  | .auth text => "authentication error: " ++ text
  | .security text => "security error: " ++ text

def ExchangeError.message : ExchangeError → String
  | .session text => "session store error: " ++ text
  | .encoding cause => "session attribute encoding error: " ++ cause.message
  | .other text => "exchange error: " ++ text

def RegistryError.message (e : RegistryError) : String :=
  "auth config factory unavailable: " ++ e.text

def EngineError.message : EngineError → String
  | .negotiation cause => "negotiation failed: " ++ cause.message
  | .exchange cause => cause.message

def ConfigError.message : ConfigError → String
  | .invalid cause => "invalid msg_auth configuration: " ++ cause.message
  | .emptyMechanismName => "mechanism_name must not be empty"

def InitError.message : InitError → String
  | .config cause => cause.message
  | .undecodable cause => cause.message
  | .blankAuthType => "auth_type must not be empty"
  | .alreadyInitialized => "Service already initialized"
  | .alreadyRegistered => "Provider already registered"

end RequestAuth
