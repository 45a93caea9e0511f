import RequestAuth.Provider
import RequestAuth.StaticTokens.Config

/-! The static token provider: it knows callers by their bearer tokens. -/
namespace RequestAuth.StaticTokens

structure Authenticator where
  mode : Mode
  defaultIdentity : TokenIdentity
  tokens : TextMap TokenIdentity
  authType : Option String
  registerSession : Bool
  sendSuccess : Bool

namespace Authenticator

/-- Of several mappings of one token the last counts. -/
def ofConfig (c : Config) : Authenticator where
  mode := c.mode
  defaultIdentity := c.defaultIdentity
  tokens := .ofList (c.tokens.map fun m => (m.token, m.identity))
  authType := c.authType
  registerSession := c.registerSession
  sendSuccess := c.sendSuccess

/-- Whom a token stands for; the empty token stands for nobody. -/
def identify (a : Authenticator) (token : String) : Option TokenIdentity :=
  if token = "" then none
  else
    match a.mode with
    | .acceptAll => some a.defaultIdentity
    | .staticTokens => a.tokens.find? token

def accepted (a : Authenticator) : Response :=
  let r := Response.registerSession ⟨if a.sendSuccess then .sendSuccess else .success, ∅⟩
    a.registerSession
  match a.authType with
  | some label => r.authType label
  | none => r

def callbacks (i : TokenIdentity) : List Callback :=
  .caller (some i.principal) :: if i.groups = [] then [] else [.groups i.groups]

/-- Without a token, an optional request is let through as anonymous. -/
def validate (a : Authenticator) (message : MessageInfo) (client : Subject) :
    Dialogue (Subject × Except ProviderError Response) := do
  match message.request.bearerToken? with
  | none =>
    if message.isMandatory then
      Dialogue.note .tokenMissing
      return (client, .ok ⟨.sendFailure, ∅⟩)
    let reply ← Dialogue.handle [.caller none]
    return (client, reply.result.map fun _ => ⟨.success, ∅⟩)
  | some token =>
    match a.identify token with
    | none =>
      Dialogue.note .tokenUnknown
      return (client, .ok ⟨.sendFailure, ∅⟩)
    | some identity =>
      match (← Dialogue.handle (callbacks identity)).result with
      | .error e => return (client, .error e)
      | .ok _ =>
        Dialogue.note (.tokenAccepted identity.principal)
        return (client.add identity.principal, .ok a.accepted)

/-- All requests share one context. -/
def authConfig (a : Authenticator) : AuthConfig where
  contextId _ := return .ok WellKnown.staticContextId
  context id _ _ := return .ok (
    if id = WellKnown.staticContextId then some ⟨fun message client _ => a.validate message client⟩
    else none)

def provider (a : Authenticator) : Provider where
  name := "static"
  configure _ _ := return .ok a.authConfig

end Authenticator
end RequestAuth.StaticTokens
