import RequestAuth.Proofs.Engine.Discretion
import RequestAuth.Proofs.StaticTokens.Initialisation
import RequestAuth.Proofs.StaticTokens.Validation

/-! Credentials decide whether a request is accepted, and as whose, and nothing else. Runs of the
engine in which other tokens or passwords lead to the same decisions cannot be told apart by what
they answer, log, and leave in the sessions. -/
namespace RequestAuth

namespace StaticTokens

/-- The configurations differ at most in the texts of their tokens. -/
structure Config.Alike (c c' : Config) : Prop where
  identities : c'.tokens.map TokenMapping.identity = c.tokens.map TokenMapping.identity
  rest : { c' with tokens := c.tokens } = c

/-- What a configuration makes of a request: it has no token that could be read, its token is
rejected, or the token stands for an identity. -/
def Config.standing (c : Config) (r : Request) : Option (Option TokenIdentity) :=
  r.bearerToken?.map (Authenticator.ofConfig c).identify

variable {c c' : Config}

theorem Config.Alike.accepted (alike : c.Alike c') :
    (Authenticator.ofConfig c').accepted = (Authenticator.ofConfig c).accepted := by
  have authType : c'.authType = c.authType := by rw [← alike.rest]
  have registerSession : c'.registerSession = c.registerSession := by rw [← alike.rest]
  have sendSuccess : c'.sendSuccess = c.sendSuccess := by rw [← alike.rest]
  simp only [Authenticator.accepted, Authenticator.ofConfig, authType, registerSession, sendSuccess]
  rfl

theorem Config.Alike.key (alike : c.Alike c') : c'.registration.key = c.registration.key := by
  have layer : c'.layer = c.layer := by rw [← alike.rest]
  have appContext : c'.appContext = c.appContext := by rw [← alike.rest]
  simp only [Config.registration, layer, appContext]

/-- Requests of one standing are validated in one dialogue. -/
theorem validate_eq {r r' : Request} {required : Bool} (alike : c.Alike c')
    (standing : c'.standing r' = c.standing r) (client : Subject) :
    (Authenticator.ofConfig c').validate (Engine.message r' required) client =
      (Authenticator.ofConfig c).validate (Engine.message r required) client := by
  have told (q : Request) : (Engine.message q required).request = q := by
    simp [Engine.message]
  have flag (q : Request) : (Engine.message q required).isMandatory = required := by
    simp [Engine.message]
  rw [Config.standing, Config.standing, ← told r, ← told r'] at standing
  cases here : (Engine.message r required).request.bearerToken? with
  | none =>
    have there : (Engine.message r' required).request.bearerToken? = none := by
      simpa [here] using standing
    cases required with
    | true =>
      rw [Authenticator.validate_missing here (flag r), Authenticator.validate_missing there (flag r')]
    | false =>
      rw [Authenticator.validate_anonymous here (flag r),
        Authenticator.validate_anonymous there (flag r')]
  | some token =>
    obtain ⟨token', there, same⟩ :
        ∃ token', (Engine.message r' required).request.bearerToken? = some token' ∧
          (Authenticator.ofConfig c').identify token' =
            (Authenticator.ofConfig c).identify token := by
      simpa [here] using standing
    cases identified : (Authenticator.ofConfig c).identify token with
    | none =>
      rw [Authenticator.validate_unknown here identified,
        Authenticator.validate_unknown there (same.trans identified)]
    | some i =>
      rw [Authenticator.validate_known here identified,
        Authenticator.validate_known there (same.trans identified), alike.accepted]

/-- The provider is alike under both configurations when it is faced with such requests. -/
theorem provider_alike {domain : SecurityDomain} {r r' : Request} {required : Bool}
    (alike : c.Alike c') (standing : c'.standing r' = c.standing r) :
    Provider.Alike domain (Engine.message r required) (Engine.message r' required)
      c.registration.provider c'.registration.provider := by
  intro layer appContext
  have contexts : AuthContext.Alike domain (Engine.message r required) (Engine.message r' required)
      ⟨fun message client _ => (Authenticator.ofConfig c).validate message client⟩
      ⟨fun message client _ => (Authenticator.ofConfig c').validate message client⟩ := by
    intro client service
    have same : (Authenticator.ofConfig c').validate (Engine.message r' required) client =
        (Authenticator.ofConfig c).validate (Engine.message r required) client :=
      validate_eq alike standing client
    simp only [same]
    exact .refl (fun _ => rfl) _
  refine .done (.ok ⟨.done (.ok rfl), fun id service properties => .done (.ok ?_)⟩)
  by_cases known : id = WellKnown.staticContextId
  · simp only [known, if_true]
    exact .some contexts
  · simp only [known, if_false]
    exact .none

/-- The factories have the same keys. -/
def SameKeys (f f' : Factory) : Prop :=
  f'.registrations.map Registration.key = f.registrations.map Registration.key

theorem SameKeys.found {f f' : Factory} (same : SameKeys f f') (key : RegistrationKey) :
    (f'.find? key).isSome = (f.find? key).isSome := by
  have live (g : Factory) :
      (g.find? key).isSome = (g.registrations.map Registration.key).any (· = key) := by
    rw [Bool.eq_iff_iff]
    simp [Factory.find?]
  rw [live, live, same]

theorem SameKeys.insert {f f' : Factory} {r r' : Registration} (same : SameKeys f f')
    (key : r'.key = r.key) : SameKeys (f.insert r) (f'.insert r') := by
  have keys (g : Factory) (s : Registration) : (g.insert s).registrations.map Registration.key =
      (g.registrations.map Registration.key).filter (· ≠ s.key) ++ [s.key] := by
    simp [Factory.insert, List.filter_map, Function.comp_def]
  rw [SameKeys, keys, keys, same, key]

theorem Config.Alike.notices (alike : c.Alike c') {f f' : Factory} (same : SameKeys f f') :
    c'.notices f' = c.notices f := by
  have mode : c'.mode = c.mode := by rw [← alike.rest]
  have layer : c'.layer = c.layer := by rw [← alike.rest]
  have appContext : c'.appContext = c.appContext := by rw [← alike.rest]
  have count : c'.tokens.length = c.tokens.length := by
    simpa using congrArg List.length alike.identities
  simp only [Config.notices, mode, layer, appContext, count, alike.key, same.found]

/-- Installing tells configurations that are alike apart neither in its answer nor in what it notes,
and the factories go on having the same keys. -/
theorem install_alike {f f' : Factory} (alike : c.Alike c') (same : SameKeys f f') (j : Journal) :
    (install c' f' j).1.1 = (install c f j).1.1 ∧ (install c' f' j).2 = (install c f j).2 ∧
      SameKeys (install c f j).1.2 (install c' f' j).1.2 := by
  have blank : c'.hasBlankAuthType = c.hasBlankAuthType := by rw [← alike.rest]; rfl
  rw [install_eq, install_eq, blank, alike.notices same, alike.key]
  split
  · exact ⟨rfl, rfl, same⟩
  · exact ⟨rfl, rfl, same.insert alike.key⟩

end StaticTokens

/-- A request, with all that it meets when it is served. -/
structure Call where
  engine : Engine
  registry : Registry
  exchange : Exchange
  context : SecurityContext
  /-- What becomes of the sessions before it. -/
  meanwhile : SessionStore → SessionStore := id

/-- What a call shows: its outcome, its notices, and the sessions that it leaves behind. -/
structure Disclosure where
  result : Except ExchangeError Bool
  status : Nat
  completions : List Completion
  attached : Option String
  notices : List Notice
  sessions : SessionStore

def Disclosure.of (result : Except ExchangeError Bool) (last : Host) : Disclosure where
  result
  status := last.exchange.status
  completions := last.context.completions
  attached := last.exchange.sessionId
  notices := last.journal.notices
  sessions := last.store

namespace Call

def host (call : Call) (store : SessionStore) (ids : IdSource) : Host :=
  ⟨call.meanwhile store, call.exchange, call.context, ⟨ids, []⟩⟩

def serve (call : Call) (store : SessionStore) (ids : IdSource) : Except ExchangeError Bool × Host :=
  call.engine.authenticate call.registry (call.host store ids)

/-- Calls one after the other, on the same sessions and with identifiers from the same source. -/
def disclosures : List Call → SessionStore → IdSource → List Disclosure
  | [], _, _ => []
  | call :: calls, store, ids =>
    let served := call.serve store ids
    .of served.1 served.2 :: disclosures calls served.2.store served.2.journal.ids

/-- The call with another request that finds other registrations. -/
def instead (call : Call) (request : Request) (registry : Registry) : Call :=
  { call with registry, exchange := { call.exchange with request } }

/-- The calls are the same but for credentials, on which the decision is the same. -/
inductive Twin : Call → Call → Prop
  /-- Both find the static token provider, and their tokens have the same standing. -/
  | tokens (call : Call) (request : Request) (registry : Registry) (c c' : StaticTokens.Config)
    (alike : c.Alike c') (finds : call.engine.Finds call.registry c.registration)
    (finds' : call.engine.Finds registry c'.registration)
    (standing : c'.standing request = c.standing call.exchange.request) :
    Twin call (call.instead request registry)
  /-- Both find some provider, and these ask for passwords on which the verdict is the same. -/
  | passwords (call : Call) (request : Request) (registry : Registry) (r r' : Registration)
    (finds : call.engine.Finds call.registry r) (finds' : call.engine.Finds registry r')
    (key : r'.key = r.key)
    (alike : Provider.Alike call.engine.domain
      (Engine.message call.exchange.request call.context.required)
      (Engine.message request call.context.required) r.provider r'.provider) :
    Twin call (call.instead request registry)

variable {call call' : Call}

/-- Such calls end the same and leave hosts that are alike. -/
theorem Twin.serve (twin : Twin call call') (store : SessionStore) (ids : IdSource) :
    (call'.serve store ids).1 = (call.serve store ids).1 ∧
      Host.Alike call.exchange.request call'.exchange.request call.context.required
        (call.serve store ids).2 (call'.serve store ids).2 := by
  have hosts (request : Request) (registry : Registry) :
      Host.Alike call.exchange.request request call.context.required (call.host store ids)
        ((call.instead request registry).host store ids) :=
    ⟨rfl, rfl, rfl, rfl, rfl, rfl, rfl⟩
  cases twin with
  | tokens request registry c c' alike finds finds' standing =>
    exact Engine.authenticate_alike finds finds' alike.key (StaticTokens.provider_alike alike standing)
      (hosts request registry)
  | passwords request registry r r' finds finds' key alike =>
    exact Engine.authenticate_alike finds finds' key alike (hosts request registry)

theorem disclosures_eq {calls calls' : List Call} (twins : List.Forall₂ Twin calls calls')
    (store : SessionStore) (ids : IdSource) :
    disclosures calls' store ids = disclosures calls store ids := by
  induction twins generalizing store ids with
  | nil => rfl
  | @cons call call' calls calls' twin _ ih =>
    obtain ⟨result, alike⟩ := twin.serve store ids
    have shown : Disclosure.of (call'.serve store ids).1 (call'.serve store ids).2 =
        .of (call.serve store ids).1 (call.serve store ids).2 := by
      rw [Disclosure.of, Disclosure.of, result, alike.exchange, alike.context, alike.store,
        alike.journal.notices]
    simp only [disclosures, shown, alike.store, alike.journal.ids, ih]

open StaticTokens (install SameKeys) in
/-- Of credentials, nothing is disclosed but the decision on them. Runs of calls that differ in tokens
of the same standing, in the requests and in what has been configured, or in passwords on which the
verdict is the same, show the same throughout; so does installing the configurations, and so do the
answers to the callbacks. What is generated has the same names as long as it comes from one
source. -/
theorem credentials_undisclosed :
    (∀ calls calls', List.Forall₂ Twin calls calls' → ∀ store ids,
      disclosures calls' store ids = disclosures calls store ids) ∧
    (∀ (c c' : StaticTokens.Config) (f f' : Factory) (j : Journal), c.Alike c' → SameKeys f f' →
      (install c' f' j).1.1 = (install c f j).1.1 ∧ (install c' f' j).2 = (install c f j).2 ∧
        SameKeys (install c f j).1.2 (install c' f' j).1.2) ∧
    ∀ (s : CallbackHandler) (rs rs' : List Round) (ids : IdSource),
      List.Forall₂ Round.Alike rs rs' → s.disclosed rs' ids = s.disclosed rs ids :=
  ⟨fun _ _ twins store ids => disclosures_eq twins store ids,
    fun _ _ _ _ j alike same => StaticTokens.install_alike alike same j,
    fun _ _ _ ids alike => CallbackHandler.disclosed_eq alike ids⟩

/-- A request with a token, which is cached, and one with a password, which is wrong, and the same
with other texts for both. -/
theorem credentials_undisclosed_texts :
    let bearing (token : String) : Request :=
      { headers := [⟨"Authorization", ("Bearer " ++ token).toUTF8.toList⟩] }
    let config (token : String) : StaticTokens.Config := {
      mode := .staticTokens, tokens := [⟨token, { principal := "alice" }⟩], registerSession := true }
    let asking (text : String) : Registration :=
      ⟨⟨none, none⟩, .steady [.password "bob" text false] ⟨.success, ∅⟩, ""⟩
    let holding (r : Registration) : Registry := ⟨fun _ => ⟨[r]⟩, some 0⟩
    let e := Engine.plain ⟨fun name => some (.named name), fun _ _ => false⟩
    let call : Call := ⟨e, holding (config "abc").registration, { request := bearing "abc" }, {}, id⟩
    let other : Call := ⟨e, holding (asking "first"), {}, {}, id⟩
    let calls := [call, other]
    let calls' := [call.instead (bearing "xyz") (holding (config "xyz").registration),
      other.instead {} (holding (asking "second"))]
    let ids : IdSource := ⟨fun _ => default, 0⟩
    List.Forall₂ Twin calls calls' ∧
      (disclosures calls {} ids).map (fun d => d.completions.map (·.identity.principal)) =
        [[some "alice"], [none]] ∧
      disclosures calls' {} ids = disclosures calls {} ids := by
  intro bearing config asking holding e call other calls calls' ids
  have passwords : Callback.Alike e.domain (.password "bob" "first" false)
      (.password "bob" "second" false) := .password "bob" false rfl
  have twins : List.Forall₂ Twin calls calls' := by
    refine .cons (.tokens _ _ _ (config "abc") (config "xyz") ⟨rfl, rfl⟩ ⟨rfl, _, rfl, rfl⟩
      ⟨rfl, _, rfl, rfl⟩ (by decide +kernel)) (.cons ?_ .nil)
    exact .passwords _ _ _ (asking "first") (asking "second") ⟨rfl, _, rfl, rfl⟩
      ⟨rfl, _, rfl, rfl⟩ rfl (Provider.steady_alike (.cons passwords .nil) _)
  exact ⟨twins, by decide +kernel, credentials_undisclosed.1 _ _ twins _ _⟩

end Call
end RequestAuth
