import RequestAuth.Registration.Factory
import RequestAuth.StaticTokens.Provider

/-! Installing the static token provider in a factory, directly or as a plugin that is initialised
once. A configuration that is refused changes nothing. -/
namespace RequestAuth.StaticTokens

def description : String := "Static token-to-identity provider"

/-- Null and absent scopes are written as a star. -/
def scopeText (scope : Option String) : String := scope.getD "*"

def Config.check (c : Config) : Except InitError Unit :=
  if c.hasBlankAuthType then .error .blankAuthType else .ok ()

def register (c : Config) (f : Factory) : Journaled (String × Factory) := do
  if c.mode = .acceptAll then Journal.note .everyTokenAccepted
  Journal.note
    (.pluginLoaded c.mode.name c.tokens.length (scopeText c.layer) (scopeText c.appContext))
  let (id, f) ← f.register
    ⟨⟨c.layer, c.appContext⟩, (Authenticator.ofConfig c).provider, description⟩
  Journal.note (.pluginRegistered id)
  return (id, f)

def install (c : Config) (f : Factory) : Journaled (Except InitError String × Factory) := do
  match c.check with
  | .error e => return (.error e, f)
  | .ok _ =>
    let (id, f) ← register c f
    return (.ok id, f)

structure Plugin where
  authenticator : Option Authenticator := none
  registrationId : Option String := none

namespace Plugin

def init (p : Plugin) (value : Json) (f : Factory) :
    Journaled (Except InitError String × Plugin × Factory) := do
  Journal.note .pluginInitializing
  match Config.decode value with
  | .error e => return (.error (.undecodable e), p, f)
  | .ok c =>
    match c.check, p.authenticator with
    | .error e, _ => return (.error e, p, f)
    | .ok _, some _ => return (.error .alreadyInitialized, p, f)
    | .ok _, none =>
      let p := { p with authenticator := some (.ofConfig c) }
      let (id, f) ← register c f
      match p.registrationId with
      | some _ => return (.error .alreadyRegistered, p, f)
      | none => return (.ok id, { p with registrationId := some id }, f)

end Plugin
end RequestAuth.StaticTokens
