import RequestAuth.Engine.Config
import RequestAuth.Negotiation
import RequestAuth.Outcome
import RequestAuth.Registration.Registry
import RequestAuth.Session.Cache

/-! The engine. A request that is already authenticated is left alone. With providers enabled and
one registered, the session's cached identity counts first and the provider's answer is final;
otherwise the base mechanism decides. A provider's error ends the request with status 500, an error
of the server is passed on. -/
namespace RequestAuth

structure Engine where
  config : EngineConfig
  mechanism : AuthType
  access : RegistryAccess
  domain : SecurityDomain
  /-- The base mechanism. -/
  fallback : Exchanging Bool

namespace Engine

/-- Only a blank mechanism name is refused. -/
def create (config : EngineConfig) (access : RegistryAccess) (domain : SecurityDomain)
    (fallback : Exchanging Bool) : Journaled (Except ConfigError Engine) := do
  match config.mechanism with
  | .error e => return .error e
  | .ok mechanism =>
    Journal.note (.engineCreated config.enabled config.appContext)
    return .ok { config, mechanism, access, domain, fallback }

/-- An activity that a provider's or the server's error may end. -/
abbrev Engaged := ExceptT EngineError Hosted

def exchanging (act : Exchanging α) : Engaged α := ExceptT.adapt EngineError.exchange act

def negotiating (act : Negotiation.Staged α) : Engaged α :=
  ExceptT.mk (Host.journaled (ExceptT.adapt EngineError.negotiation act).run)

def completion (identity : Identity) (authType : AuthType) : Completion :=
  ⟨identity, authType, WellKnown.servletLayer⟩

def negotiation (e : Engine) : Negotiation :=
  ⟨WellKnown.servletLayer, e.config.appContext, e.config.integrated, e.domain⟩

/-- Acts on the provider's response; only success completes the request. -/
def conclude (e : Engine) (response : Response) (handler : CallbackHandler) : Engaged Bool := do
  match ← response.outcome e.mechanism (liftM (Host.journaled handler.authorizedIdentity)) with
  | .authenticated identity authType register =>
    if register then exchanging (Host.remember ⟨identity, some authType⟩)
    Host.note (.authenticated identity.displayName authType)
    Host.complete (completion identity authType)
    return true
  | .sessionOnly identity authType =>
    exchanging (Host.remember ⟨identity, some authType⟩)
    return false
  | .notAuthenticated => return false

def authenticateWith (e : Engine) (provider : Provider) : Engaged Bool := do
  match ← exchanging Host.recall with
  | some r =>
    Host.note (.recordRestored r.identity.displayName)
    Host.complete (completion r.identity (r.authType.getD e.mechanism))
    return true
  | none =>
    let h ← get
    match ← negotiating (e.negotiation.run provider h.exchange.request h.context.required) with
    | .declined => return false
    | .validated response handler => e.conclude response handler

/-- Turns a provider's error into a refusal. -/
def settle : Except EngineError Bool → Exchanging Bool
  | .ok authenticated => return authenticated
  | .error (.exchange cause) => throw cause
  | .error (.negotiation cause) => do
    Host.note (.authenticationFailed cause)
    Host.setStatus 500
    return false

def fallBack (e : Engine) : Exchanging Bool := do
  Host.note .baseMechanismUsed
  Host.record .fallbackCalled
  e.fallback

/-- The provider that the registry, as it is now, selects. -/
def selectProvider (e : Engine) (registry : Registry) : Journaled (Option Provider) :=
  if e.config.enabled then registry.lookup e.access WellKnown.servletLayer e.config.appContext
  else return none

/-- Whether the request of the exchange is authenticated. -/
def authenticate (e : Engine) (registry : Registry) : Exchanging Bool := do
  if (← get).context.isAuthenticated then return true
  match ← liftM (Host.journaled (e.selectProvider registry)) with
  | some provider => settle (← (e.authenticateWith provider).run)
  | none => e.fallBack

def describe (e : Engine) : String :=
  "Service \x7b config: " ++ e.config.describe ++ ", mechanism: AuthType(" ++
    Text.quoted e.mechanism.text ++ "), .. \x7d"

end Engine
end RequestAuth
