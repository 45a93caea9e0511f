import RequestAuth.Negotiation.Handler

/-! One negotiation with a provider, in stages: configuration, context identifier, context,
validation. A stage is entered when the ones before it succeeded, and the first error ends the
negotiation. -/
namespace RequestAuth

structure Negotiation where
  layer : String
  appContext : String
  integrated : Bool
  domain : SecurityDomain

inductive Negotiated
  | declined
  | validated (response : Response) (handler : CallbackHandler)

namespace Negotiation

def start (n : Negotiation) : CallbackHandler :=
  { domain := n.domain, layer := n.layer, integrated := n.integrated }

/-- Calls one of the provider's methods. -/
def stage (call : ProviderCall) (dialogue : Dialogue α) (handler : CallbackHandler) :
    Journaled (α × CallbackHandler) := do
  Journal.record (.providerCalled call)
  handler.converse dialogue

/-- A negotiation that may end with a provider's error. -/
abbrev Staged := ExceptT ProviderError Journaled

def attempt (call : ProviderCall) (dialogue : Dialogue (Except ProviderError α))
    (handler : CallbackHandler) : Staged (α × CallbackHandler) := do
  match ← stage call dialogue handler with
  | (.ok a, handler) => return (a, handler)
  | (.error e, _) => throw e

def run (n : Negotiation) (provider : Provider) (request : Request) (mandatory : Bool) :
    Staged Negotiated := do
  let (config, handler) ← attempt (.configure provider.name n.layer n.appContext)
    (provider.configure n.layer n.appContext) n.start
  let message := MessageInfo.mandatory { request } mandatory
  let (contextId, handler) ← attempt (.contextId message) (config.contextId message) handler
  let (context?, handler) ← attempt (.context contextId none ∅)
    (config.context contextId none ∅) handler
  match context? with
  | none =>
    Journal.note (.contextDeclined contextId)
    return .declined
  | some context =>
    let ((client, result), handler) ← stage (.validate message {} none)
      (context.validate message {} none) handler
    let response ← result
    Journal.record (.responded response)
    Journal.note (.validated contextId response.status client.principals.length)
    return .validated response handler

end Negotiation
end RequestAuth
