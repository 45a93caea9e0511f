import RequestAuth.Engine

/-! An engine deployed in a server. It is initialised once, and stays as it then is. -/
namespace RequestAuth

structure Deployment where
  engine : Option Engine := none

namespace Deployment

def init (d : Deployment) (value : Json) (access : RegistryAccess) (domain : SecurityDomain)
    (fallback : Exchanging Bool) : Journaled (Except InitError Engine × Deployment) := do
  match EngineConfig.decode value with
  | .error cause => return (.error (.config cause), d)
  | .ok config =>
    Journal.note (.engineInitializing config.enabled config.integrated config.mechanismName)
    match ← Engine.create config access domain fallback with
    | .error cause => return (.error (.config cause), d)
    | .ok engine =>
      match d.engine with
      | some _ => return (.error .alreadyInitialized, d)
      | none => return (.ok engine, ⟨some engine⟩)

end Deployment
end RequestAuth
