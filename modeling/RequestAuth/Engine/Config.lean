import RequestAuth.AuthType
import RequestAuth.Failure
import RequestAuth.WellKnown

/-! Configuration of the engine. -/
namespace RequestAuth

structure EngineConfig where
  /-- Whether providers are asked at all. -/
  enabled : Bool := true
  /-- Whether callers have to be known to the security domain. -/
  integrated : Bool := true
  appContext : String := "default-host /"
  mechanismName : String := WellKnown.defaultMechanism
deriving DecidableEq

namespace EngineConfig

open Decode

def readEnabled (value : Json) (c : EngineConfig) : Result EngineConfig := do
  return { c with enabled := ← boolean value }

def readIntegrated (value : Json) (c : EngineConfig) : Result EngineConfig := do
  return { c with integrated := ← boolean value }

def readAppContext (value : Json) (c : EngineConfig) : Result EngineConfig := do
  return { c with appContext := ← text value }

def readMechanismName (value : Json) (c : EngineConfig) : Result EngineConfig := do
  return { c with mechanismName := ← text value }

def shape : RecordShape EngineConfig where
  name := "MsgAuthConfig"
  fields := [⟨"enabled", readEnabled⟩, ⟨"integrated", readIntegrated⟩,
    ⟨"application_context", readAppContext⟩, ⟨"mechanism_name", readMechanismName⟩]
  leading := 0
  closed := true

/-- The mechanism reported when a provider names none. -/
def mechanism (c : EngineConfig) : Except ConfigError AuthType :=
  match AuthType.ofText? c.mechanismName with
  | some a => .ok a
  | none => .error .emptyMechanismName

def decode (value : Json) : Except ConfigError EngineConfig := do
  match shape.read {} value with
  | .error cause => throw (.invalid cause)
  | .ok c =>
    let _ ← c.mechanism
    return c

def describe (c : EngineConfig) : String :=
  "MsgAuthConfig \x7b enabled: " ++ toString c.enabled ++ ", integrated: " ++
    toString c.integrated ++ ", application_context: " ++ Text.quoted c.appContext ++
    ", mechanism_name: " ++ Text.quoted c.mechanismName ++ " \x7d"

end EngineConfig
end RequestAuth
