import RequestAuth.Proofs.Json.Layout
import RequestAuth.StaticTokens.Config

/-! Which documents configure the static tokens. Records are nested and each level has defaults of
its own; a mapping alone has none. -/
namespace RequestAuth.StaticTokens

open Decode

namespace Mode

/-- The name of the mode in a document. -/
def text : Mode → String
  | .acceptAll => "accept_all"
  | .staticTokens => "static_tokens"

/-- The document names the mode, alone or as the key of null. -/
def Spelled (m : Mode) (v : Json) : Prop := v = .str m.text ∨ v = .obj [(m.text, .null)]

theorem decode_eq_ok_iff {v : Json} {m : Mode} : decode v = .ok m ↔ m.Spelled v := by
  have named (name : String) :
      Entries.find? name [("accept_all", acceptAll), ("static_tokens", staticTokens)] = some m ↔
        name = m.text := by
    simp only [Entries.find?]
    cases m <;> grind [text]
  simp [decode, variant_eq_ok_iff, named, Spelled]

def grammar : Grammar Mode where
  parse := decode
  Spells := Spelled
  parse_eq_ok_iff _ _ _ := decode_eq_ok_iff

end Mode

/-- The document gives the identity. What it leaves out is that of a developer in no group. -/
def TokenIdentity.Spelled (i : TokenIdentity) (v : Json) : Prop :=
  ∃ principal groups, v.GivesOnly ["principal", "groups"] 0 [principal, groups] ∧
    Json.GivesOr (Json.str · = ·) "developer" principal i.principal ∧
    Json.GivesOr (Json.ofStrings · = ·) [] groups i.groups

namespace TokenIdentity

def places : List (Place TokenIdentity) := [
  { name := "principal", grammar := .text, get := principal,
    put := fun principal i => { i with principal } },
  { name := "groups", grammar := .texts, get := groups, put := fun groups i => { i with groups } }]

theorem layout : Layout shape places where
  fields := rfl
  distinct := by decide
  apart := by simp [places, Place.Apart]
  whole := by
    rintro ⟨⟩ ⟨⟩ same
    simpa [places] using same

theorem decode_eq_ok_iff {v : Json} (canonical : v.Canonical) {i : TokenIdentity} :
    decode v = .ok i ↔ i.Spelled v := by
  rw [decode, layout.read_closed_iff rfl canonical]
  constructor
  · rintro ⟨_, gives, _ | ⟨principal, _ | ⟨groups, ⟨⟩⟩⟩⟩
    exact ⟨_, _, gives, principal, groups⟩
  · rintro ⟨_, _, gives, principal, groups⟩
    exact ⟨_, gives, .cons principal <| .cons groups .nil⟩

def grammar : Grammar TokenIdentity where
  parse := decode
  Spells := Spelled
  parse_eq_ok_iff _ _ canonical := decode_eq_ok_iff canonical

end TokenIdentity

/-- The document gives the mapping. Nothing of it is left out. -/
def TokenMapping.Spelled (m : TokenMapping) (v : Json) : Prop :=
  ∃ identity, v.GivesOnly ["token", "identity"] 2 [some (.str m.token), some identity] ∧
    m.identity.Spelled identity

namespace TokenMapping

namespace Draft

def places : List (Place Draft) := [
  { name := "token", grammar := .present .text, get := token,
    put := fun token m => { m with token } },
  { name := "identity", grammar := .present TokenIdentity.grammar, get := identity,
    put := fun identity m => { m with identity } }]

theorem layout : Layout shape places where
  fields := by
    have token : readToken = fun v m => ({ m with token := · }) <$> some <$> text v := by
      funext v m
      exact bind_put (text v) some fun token => ({ m with token } : Draft)
    have identity :
        readIdentity = fun v m => ({ m with identity := · }) <$> some <$> TokenIdentity.decode v := by
      funext v m
      exact bind_put (TokenIdentity.decode v) some fun identity => ({ m with identity } : Draft)
    rw [shape, token, identity]
    rfl
  distinct := by decide
  apart := by simp [places, Place.Apart]
  whole := by
    rintro ⟨⟩ ⟨⟩ same
    simpa [places] using same

end Draft

theorem decode_eq_ok_iff_read {v : Json} {m : TokenMapping} :
    decode v = .ok m ↔ shape.read {} v = .ok ⟨some m.token, some m.identity⟩ := by
  simp only [decode, bind_eq_ok_iff]
  constructor
  · rintro ⟨⟨token?, identity?⟩, read, token, known, identity, known', same⟩
    cases Except.ok.inj same
    cases token? with
    | none => simp [required] at known
    | some other =>
      cases identity? with
      | none => simp [required] at known'
      | some other' =>
        obtain rfl := Except.ok.inj known
        obtain rfl := Except.ok.inj known'
        exact read
  · intro read
    exact ⟨_, read, m.token, rfl, m.identity, rfl, rfl⟩

theorem decode_eq_ok_iff {v : Json} (canonical : v.Canonical) {m : TokenMapping} :
    decode v = .ok m ↔ m.Spelled v := by
  rw [decode_eq_ok_iff_read, Draft.layout.read_closed_iff rfl canonical]
  constructor
  · rintro ⟨_, gives, _ | ⟨token, _ | ⟨identity, ⟨⟩⟩⟩⟩
    obtain ⟨_, rfl, _, same, rfl⟩ := token.resolve_left (by simp)
    obtain ⟨_, rfl, _, same', spelled⟩ := identity.resolve_left (by simp)
    obtain rfl := Option.some.inj same
    obtain rfl := Option.some.inj same'
    exact ⟨_, gives, spelled⟩
  · rintro ⟨_, gives, spelled⟩
    exact ⟨_, gives, .cons (.inr ⟨_, rfl, _, rfl, rfl⟩) <|
      .cons (.inr ⟨_, rfl, _, rfl, spelled⟩) .nil⟩

def grammar : Grammar TokenMapping where
  parse := decode
  Spells := Spelled
  parse_eq_ok_iff _ _ canonical := decode_eq_ok_iff canonical

end TokenMapping

/-- The document gives the configuration. What it leaves out has its default; a layer that is null is
not left out. -/
def Config.Spelled (c : Config) (v : Json) : Prop :=
  ∃ mode defaultIdentity tokens authType registerSession sendSuccess layer appContext,
    v.GivesOnly ["mode", "default_identity", "tokens", "auth_type", "register_session",
        "send_success", "layer", "application_context"] 0
      [mode, defaultIdentity, tokens, authType, registerSession, sendSuccess, layer, appContext] ∧
    Json.GivesOr Mode.Spelled .acceptAll mode c.mode ∧
    Json.GivesOr TokenIdentity.Spelled ⟨"developer", []⟩ defaultIdentity c.defaultIdentity ∧
    Json.GivesOr (Json.SpellsEach TokenMapping.Spelled) [] tokens c.tokens ∧
    Json.GivesOr (Json.textOrNull · = ·) none authType c.authType ∧
    Json.GivesOr (Json.bool · = ·) false registerSession c.registerSession ∧
    Json.GivesOr (Json.bool · = ·) false sendSuccess c.sendSuccess ∧
    Json.GivesOr (Json.textOrNull · = ·) (some "HttpServlet") layer c.layer ∧
    Json.GivesOr (Json.textOrNull · = ·) none appContext c.appContext

namespace Config

def places : List (Place Config) := [
  { name := "mode", grammar := Mode.grammar, get := mode, put := fun mode c => { c with mode } },
  { name := "default_identity", grammar := TokenIdentity.grammar, get := defaultIdentity,
    put := fun defaultIdentity c => { c with defaultIdentity } },
  { name := "tokens", grammar := TokenMapping.grammar.list, get := tokens,
    put := fun tokens c => { c with tokens } },
  { name := "auth_type", grammar := .optionalText, get := authType,
    put := fun authType c => { c with authType } },
  { name := "register_session", grammar := .boolean, get := registerSession,
    put := fun registerSession c => { c with registerSession } },
  { name := "send_success", grammar := .boolean, get := sendSuccess,
    put := fun sendSuccess c => { c with sendSuccess } },
  { name := "layer", grammar := .optionalText, get := layer,
    put := fun layer c => { c with layer } },
  { name := "application_context", grammar := .optionalText, get := appContext,
    put := fun appContext c => { c with appContext } }]

theorem layout : Layout shape places where
  fields := rfl
  distinct := by decide
  apart := by simp [places, Place.Apart]
  whole := by
    rintro ⟨⟩ ⟨⟩ same
    simpa [places] using same

/-- A configuration is read from the documents that give it. -/
theorem decode_iff_spelled {v : Json} (canonical : v.Canonical) (c : Config) :
    decode v = .ok c ↔ c.Spelled v := by
  rw [decode, layout.read_closed_iff rfl canonical]
  constructor
  · rintro ⟨_, gives, _ | ⟨mode, _ | ⟨defaultIdentity, _ | ⟨tokens, _ | ⟨authType, _ |
      ⟨registerSession, _ | ⟨sendSuccess, _ | ⟨layer, _ | ⟨appContext, ⟨⟩⟩⟩⟩⟩⟩⟩⟩⟩⟩
    exact ⟨_, _, _, _, _, _, _, _, gives, mode, defaultIdentity, tokens, authType,
      registerSession, sendSuccess, layer, appContext⟩
  · rintro ⟨_, _, _, _, _, _, _, _, gives, mode, defaultIdentity, tokens, authType,
      registerSession, sendSuccess, layer, appContext⟩
    exact ⟨_, gives, .cons mode <| .cons defaultIdentity <| .cons tokens <| .cons authType <|
      .cons registerSession <| .cons sendSuccess <| .cons layer <| .cons appContext .nil⟩

/-- The mode as the key of null, no layer at all, a mapping as an object and one as an array, and
defaults at two levels. -/
theorem decode_iff_spelled_nested :
    let v := Json.obj [
      ("layer", .null),
      ("mode", .obj [("static_tokens", .null)]),
      ("tokens", .arr [
        .obj [("identity", .obj [("groups", .ofStrings ["admins"])]), ("token", .str "t-alice")],
        .arr [.str "t-bob", .arr [.str "bob"]]])]
    let c : Config := {
      mode := .staticTokens
      tokens := [⟨"t-alice", ⟨"developer", ["admins"]⟩⟩, ⟨"t-bob", ⟨"bob", []⟩⟩]
      layer := none }
    v.Canonical ∧ decode v = .ok c ∧ c.Spelled v := by
  intro v c
  have first : (Json.obj [("identity", .obj [("groups", .ofStrings ["admins"])]),
      ("token", .str "t-alice")]).Canonical :=
    ⟨by decide, ⟨by decide, ⟨trivial, trivial⟩, trivial⟩, trivial, trivial⟩
  have canonical : v.Canonical :=
    ⟨by decide, trivial, ⟨by decide, trivial, trivial⟩,
      ⟨first, ⟨trivial, ⟨trivial, trivial⟩, trivial⟩, trivial⟩, trivial⟩
  have read : decode v = .ok c := by decide +kernel
  exact ⟨canonical, read, (decode_iff_spelled canonical c).mp read⟩

end Config
end RequestAuth.StaticTokens
