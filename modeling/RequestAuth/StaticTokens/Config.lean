import RequestAuth.Json.Decode
import RequestAuth.Text.Blank
import RequestAuth.WellKnown

/-! Configuration of the static token provider. An absent layer is the servlet layer; a null one
is every layer. -/
namespace RequestAuth.StaticTokens

open Decode

inductive Mode
  /-- Every token stands for the default identity. -/
  | acceptAll
  | staticTokens
deriving DecidableEq

structure TokenIdentity where
  principal : String := WellKnown.developerPrincipal
  groups : List String := []
deriving DecidableEq

structure TokenMapping where
  token : String
  identity : TokenIdentity
deriving DecidableEq

structure Config where
  mode : Mode := .acceptAll
  defaultIdentity : TokenIdentity := {}
  tokens : List TokenMapping := []
  authType : Option String := none
  registerSession : Bool := false
  sendSuccess : Bool := false
  layer : Option String := some WellKnown.servletLayer
  appContext : Option String := none
deriving DecidableEq

def Mode.name : Mode → String
  | .acceptAll => "AcceptAll"
  | .staticTokens => "StaticTokens"

def Mode.decode : Json → Result Mode :=
  variant [("accept_all", .acceptAll), ("static_tokens", .staticTokens)]

namespace TokenIdentity

def readPrincipal (value : Json) (i : TokenIdentity) : Result TokenIdentity := do
  return { i with principal := ← text value }

def readGroups (value : Json) (i : TokenIdentity) : Result TokenIdentity := do
  return { i with groups := ← sequence text value }

def shape : RecordShape TokenIdentity where
  name := "IdentityConfig"
  fields := [⟨"principal", readPrincipal⟩, ⟨"groups", readGroups⟩]
  leading := 0
  closed := true

def decode : Json → Result TokenIdentity := shape.read {}

end TokenIdentity

namespace TokenMapping

/-- The members of a mapping as far as they have been read. -/
structure Draft where
  token : Option String := none
  identity : Option TokenIdentity := none

def readToken (value : Json) (m : Draft) : Result Draft := do
  return { m with token := some (← text value) }

def readIdentity (value : Json) (m : Draft) : Result Draft := do
  return { m with identity := some (← TokenIdentity.decode value) }

def shape : RecordShape Draft where
  name := "TokenMapping"
  fields := [⟨"token", readToken⟩, ⟨"identity", readIdentity⟩]
  leading := 2
  closed := true

def decode (value : Json) : Result TokenMapping := do
  let m ← shape.read {} value
  return ⟨← required "token" m.token, ← required "identity" m.identity⟩

end TokenMapping

namespace Config

def readMode (value : Json) (c : Config) : Result Config := do
  return { c with mode := ← Mode.decode value }

def readDefaultIdentity (value : Json) (c : Config) : Result Config := do
  return { c with defaultIdentity := ← TokenIdentity.decode value }

def readTokens (value : Json) (c : Config) : Result Config := do
  return { c with tokens := ← sequence TokenMapping.decode value }

def readAuthType (value : Json) (c : Config) : Result Config := do
  return { c with authType := ← optional text value }

def readRegisterSession (value : Json) (c : Config) : Result Config := do
  return { c with registerSession := ← boolean value }

def readSendSuccess (value : Json) (c : Config) : Result Config := do
  return { c with sendSuccess := ← boolean value }

def readLayer (value : Json) (c : Config) : Result Config := do
  return { c with layer := ← optional text value }

def readAppContext (value : Json) (c : Config) : Result Config := do
  return { c with appContext := ← optional text value }

def shape : RecordShape Config where
  name := "StaticMsgAuthPluginConfig"
  fields := [⟨"mode", readMode⟩, ⟨"default_identity", readDefaultIdentity⟩, ⟨"tokens", readTokens⟩,
    ⟨"auth_type", readAuthType⟩, ⟨"register_session", readRegisterSession⟩,
    ⟨"send_success", readSendSuccess⟩, ⟨"layer", readLayer⟩,
    ⟨"application_context", readAppContext⟩]
  leading := 0
  closed := true

def decode : Json → Result Config := shape.read {}

def hasBlankAuthType (c : Config) : Bool := c.authType.any Text.isBlank

end Config
end RequestAuth.StaticTokens
