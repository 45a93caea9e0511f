import RequestAuth.AuthType
import RequestAuth.Identity
import RequestAuth.Message

/-! What a response means for the request and for the session. -/
namespace RequestAuth

inductive Outcome
  | authenticated (identity : Identity) (authType : AuthType) (register : Bool)
  | sessionOnly (identity : Identity) (authType : AuthType)
  | notAuthenticated
deriving DecidableEq

namespace Response

def sessionRequested (r : Response) : Bool :=
  (r.options.find? WellKnown.registerSessionOption).any readsTrue

/-- The provider's label where it is usable, and the mechanism otherwise. -/
def resolvedAuthType (r : Response) (mechanism : AuthType) : AuthType :=
  ((r.options.find? WellKnown.authTypeOption).bind AuthType.ofText?).getD mechanism

/-- Success is accepted at once; a response that is to be sent, only with the session. -/
def isAccepted (r : Response) : Bool :=
  match r.status with
  | .success => true
  | .sendSuccess => r.sessionRequested
  | .sendFailure | .sendContinue => false

/-- The identity is made once when the response is accepted, and never otherwise. -/
def outcome [Monad m] (r : Response) (mechanism : AuthType) (identity : m Identity) :
    m Outcome := do
  if r.isAccepted then
    let identity ← identity
    let authType := r.resolvedAuthType mechanism
    return match r.status with
      | .success => .authenticated identity authType r.sessionRequested
      | _ => .sessionOnly identity authType
  else return .notAuthenticated

end Response
end RequestAuth
