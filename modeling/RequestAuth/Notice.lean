import RequestAuth.Failure
import RequestAuth.Message
import RequestAuth.Session.Record

/-! Log notices, and the level, message and fields under which they are written. No notice has a
place for a password or a bearer token. -/
namespace RequestAuth

inductive Notice
  | engineInitializing (enabled integrated : Bool) (mechanism : String)
  | engineCreated (enabled : Bool) (appContext : String)
  | noFactory
  | factoryUnavailable (cause : RegistryError)
  | noProvider (layer appContext : String)
  | registrationMatched (id layer appContext : String)
  | registered (id description : String) (replaced : Bool)
  | registrationRemoved (id : String)
  | callerEstablished (principal : String)
  | anonymousEstablished
  | passwordChecked (username : String) (verified : Bool)
  | contextDeclined (contextId : String)
  | validated (contextId : String) (status : AuthStatus) (principals : Nat)
  | recordRemoved (sessionId : String) (cause : Corruption)
  | recordStored (sessionId principal : String)
  | recordRestored (principal : String)
  | authenticated (principal : String) (authType : AuthType)
  | authenticationFailed (cause : ProviderError)
  | baseMechanismUsed
  | tokenMissing
  | tokenUnknown
  | tokenAccepted (principal : String)
  | pluginInitializing
  | everyTokenAccepted
  | pluginLoaded (mode : String) (tokens : Nat) (layer appContext : String)
  | pluginRegistered (id : String)
deriving DecidableEq

inductive Level
  | trace
  | debug
  | info
  | warn
deriving DecidableEq

inductive FieldValue
  | flag (value : Bool)
  | count (value : Nat)
  | text (value : String)
deriving DecidableEq

def Level.name : Level → String
  | .trace => "TRACE"
  | .debug => "DEBUG"
  | .info => "INFO"
  | .warn => "WARN"

namespace Notice

def level : Notice → Level
  | engineInitializing .. | registered .. | registrationRemoved .. | pluginInitializing
  | pluginLoaded .. | pluginRegistered .. => .info
  | registrationMatched .. | recordRemoved .. | recordRestored .. | authenticated .. => .debug
  | everyTokenAccepted => .warn
  | _ => .trace

def message : Notice → String
  | engineInitializing .. => "Initializing msg_auth"
  | engineCreated .. => "Created msg_auth service"
  | noFactory => "No AuthConfigFactory available"
  | factoryUnavailable _ => "Unable to get AuthConfigFactory"
  | noProvider .. => "No AuthConfigProvider for layer and appContext"
  | registrationMatched .. => "Matched provider registration"
  | registered .. => "Registered AuthConfigProvider"
  | registrationRemoved _ => "Removed AuthConfigProvider registration"
  | callerEstablished _ => "Caller principal established"
  | anonymousEstablished => "Anonymous caller established"
  | passwordChecked .. => "Password validation"
  | contextDeclined _ => "No ServerAuthContext returned, negotiation can not proceed"
  | validated .. => "ServerAuthContext validated request"
  | recordRemoved .. => "Removing unusable identity record from HttpSession"
  | recordStored .. => "Storing SecurityIdentity in HttpSession"
  | recordRestored _ => "SecurityIdentity restored from HttpSession"
  | authenticated .. => "Provider authenticated request"
  | authenticationFailed _ => "Authentication failed"
  | baseMechanismUsed => "No provider available, using base HTTP authentication"
  | tokenMissing => "No bearer token on a protected request"
  | tokenUnknown => "Bearer token not recognized"
  | tokenAccepted _ => "Bearer token accepted"
  | pluginInitializing => "Initializing static_msg_auth_plugin"
  | everyTokenAccepted =>
    "Static msg_auth plugin is running in `accept_all` mode: every bearer token is accepted " ++
      "with the default identity. Do NOT use this mode in production."
  | pluginLoaded .. => "Loaded plugin configuration"
  | pluginRegistered _ => "Static msg_auth plugin registered"

def fields : Notice → List (String × FieldValue)
  | engineInitializing enabled integrated mechanism =>
    [("enabled", .flag enabled), ("integrated", .flag integrated), ("mechanism", .text mechanism)]
  | engineCreated enabled app => [("enabled", .flag enabled), ("app_context", .text app)]
  | factoryUnavailable cause => [("error", .text cause.message)]
  | noProvider layer app => [("layer", .text layer), ("app_context", .text app)]
  | registrationMatched id layer app =>
    [("registration_id", .text id), ("layer", .text layer), ("app_context", .text app)]
  | registered id description replaced =>
    [("registration_id", .text id), ("description", .text description),
      ("replaced", .flag replaced)]
  | registrationRemoved id | pluginRegistered id => [("registration_id", .text id)]
  | callerEstablished principal | recordRestored principal | tokenAccepted principal =>
    [("principal", .text principal)]
  | passwordChecked username verified =>
    [("username", .text username), ("verified", .flag verified)]
  | contextDeclined contextId => [("context_id", .text contextId)]
  | validated contextId status principals =>
    [("context_id", .text contextId), ("status", .text status.name),
      ("principals", .count principals)]
  | recordRemoved sessionId cause =>
    [("session_id", .text sessionId), ("reason", .text cause.reason)]
  | recordStored sessionId principal =>
    [("session_id", .text sessionId), ("principal", .text principal)]
  | authenticated principal authType =>
    [("principal", .text principal), ("auth_type", .text authType.text)]
  | authenticationFailed cause => [("error", .text cause.message)]
  | pluginLoaded mode tokens layer app =>
    [("mode", .text mode), ("token_count", .count tokens), ("layer", .text layer),
      ("app_context", .text app)]
  | noFactory | anonymousEstablished | baseMechanismUsed | tokenMissing | tokenUnknown
  | pluginInitializing | everyTokenAccepted => []

end Notice
end RequestAuth
