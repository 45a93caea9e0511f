import RequestAuth.Callback
import RequestAuth.Message
import RequestAuth.Notice

/-! Providers of arbitrary behaviour. A stage of a provider is a dialogue: it may hand callbacks
to the server as often as it likes, go on in any way that depends on the replies, and ends with a
result. A provider is a function from what the engine tells it to such dialogues. -/
namespace RequestAuth

inductive Dialogue (α : Type)
  | done (result : α)
  | tell (notice : Notice) (next : Dialogue α)
  | ask (callbacks : List Callback) (next : Reply → Dialogue α)

namespace Dialogue

def bind : Dialogue α → (α → Dialogue β) → Dialogue β
  | done a, f => f a
  | tell n next, f => tell n (bind next f)
  | ask cs next, f => ask cs fun reply => bind (next reply) f

instance : Monad Dialogue where
  pure := done
  bind := bind

def note (n : Notice) : Dialogue Unit := tell n (done ())

def handle (callbacks : List Callback) : Dialogue Reply := ask callbacks done

/-- Carries the dialogue on against a handler. -/
def run [Monad m] (tell : Notice → m Unit) (answer : List Callback → m Reply) : Dialogue α → m α
  | done a => pure a
  | .tell n next => do
    tell n
    run tell answer next
  | .ask cs next => do
    let reply ← answer cs
    run tell answer (next reply)

end Dialogue

/-- Validates requests. The subject comes back also when validation fails. -/
structure AuthContext where
  validate : MessageInfo → Subject → Option Subject →
    Dialogue (Subject × Except ProviderError Response)

structure AuthConfig where
  contextId : MessageInfo → Dialogue (Except ProviderError String)
  /-- No context means that the provider declines. -/
  context : String → Option Subject → TextMap String →
    Dialogue (Except ProviderError (Option AuthContext))

structure Provider where
  name : String
  configure : (layer appContext : String) → Dialogue (Except ProviderError AuthConfig)

/-- A call of one of a provider's methods, with its arguments. -/
inductive ProviderCall
  | configure (provider layer appContext : String)
  | contextId (message : MessageInfo)
  | context (id : String) (service : Option Subject) (properties : TextMap String)
  | validate (message : MessageInfo) (client : Subject) (service : Option Subject)
deriving DecidableEq

end RequestAuth
