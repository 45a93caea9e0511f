import RequestAuth.Domain
import RequestAuth.Journal

/-! The server's side of one negotiation: it answers a provider's callbacks through the security
domain and remembers whom they established. Handling stops at the first callback that fails, with
everything before it in effect. -/
namespace RequestAuth

structure CallbackHandler where
  domain : SecurityDomain
  layer : String
  /-- Whether callers have to be known to the domain. -/
  integrated : Bool
  caller : Option Identity := none
  validatedName : Option String := none
  groups : List String := []

namespace CallbackHandler

def lookUp (s : CallbackHandler) (name : String) : Journaled (Option Identity) := do
  Journal.record (.identityRequested name)
  match s.domain.identityFor name with
  | none => return none
  | some draft => return some (← Journal.build draft)

def unknownPrincipal (name : String) : ProviderError :=
  .security ("principal '" ++ name ++ "' is not known to the domain")

/-- An integrated handler has to find the name in the domain; another takes it as it is. -/
def resolve (s : CallbackHandler) (name : String) : Journaled (Except ProviderError Identity) := do
  if s.integrated then
    match ← s.lookUp name with
    | some identity => return .ok identity
    | none => return .error (unknownPrincipal name)
  else return .ok (← Journal.build (.named name))

/-- The handler and the callback after one callback has been taken. -/
def take (s : CallbackHandler) :
    Callback → Journaled (Except ProviderError (CallbackHandler × Callback))
  | .caller (some name) => do
    match ← s.resolve name with
    | .error e => return .error e
    | .ok identity =>
      Journal.note (.callerEstablished name)
      return .ok ({ s with caller := some identity }, .caller (some name))
  | .caller none => do
    Journal.note .anonymousEstablished
    let identity ← Journal.build .anonymous
    return .ok ({ s with caller := some identity, validatedName := none }, .caller none)
  | .groups names => return .ok ({ s with groups := s.groups ++ names }, .groups names)
  | .password username password _ => do
    Journal.record (.passwordRequested username password)
    let verified := s.domain.verifyPassword username password
    Journal.note (.passwordChecked username verified)
    let s := if verified then { s with validatedName := some username } else s
    return .ok (s, .password username password verified)

def handle (s : CallbackHandler) : List Callback → Journaled (Reply × CallbackHandler)
  | [] => return (⟨[], .ok ()⟩, s)
  | c :: cs => do
    match ← s.take c with
    | .error e => return (⟨c :: cs, .error e⟩, s)
    | .ok (next, c) =>
      let (reply, last) ← next.handle cs
      return (⟨c :: reply.callbacks, reply.result⟩, last)

/-- The established caller, else the user whose password was right, else nobody. -/
def baseIdentity (s : CallbackHandler) : Journaled Identity := do
  match s.caller, s.validatedName with
  | some identity, _ => return identity
  | none, some name =>
    match ← s.lookUp name with
    | some identity => return identity
    | none => Journal.build (.named name)
  | none, none => Journal.build .anonymous

/-- The identity that the callbacks so far add up to; groups are roles. -/
def authorizedIdentity (s : CallbackHandler) : Journaled Identity := do
  return (← s.baseIdentity).withRoles s.groups

/-- Carries a dialogue on with the server as its handler. -/
def converse (s : CallbackHandler) : Dialogue α → Journaled (α × CallbackHandler)
  | .done a => return (a, s)
  | .tell n next => do
    Journal.note n
    s.converse next
  | .ask cs next => do
    let (reply, s) ← s.handle cs
    Journal.record (.callbacksHandled reply)
    s.converse (next reply)

end CallbackHandler
end RequestAuth
