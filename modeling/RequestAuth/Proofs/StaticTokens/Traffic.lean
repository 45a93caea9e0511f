import RequestAuth.Proofs.StaticTokens.Initialisation
import RequestAuth.Proofs.StaticTokens.Validation
import RequestAuth.Proofs.Traffic.Origin

/-! The static token provider behind the engine and its session cache: whatever identity a run of
requests announces, a token accounts for it, unless it is nobody's. -/
namespace RequestAuth

namespace StaticTokens

/-- Installing a configuration that is accepted registers its provider. -/
theorem find?_of_install {c : Config} {f g : Factory} {j : Journal} {id : String}
    (installed : (install c f j).1 = (.ok id, g)) :
    g.find? ⟨c.layer, c.appContext⟩ =
      some ⟨⟨c.layer, c.appContext⟩, (Authenticator.ofConfig c).provider, description⟩ :=
  (install_gains installed).found

/-- The engine is `e`, and of the factory it uses it selects the registration that installing the
configuration made. -/
def Plugged (c : Config) (e : Engine) (u : Visit) : Prop :=
  u.engine = e ∧ ∃ f j id installed factory, (install c f j).1 = (.ok id, installed) ∧
    u.registry.factory e.access = .ok (some factory) ∧
    factory.match? WellKnown.servletLayer e.config.appContext =
      installed.find? ⟨c.layer, c.appContext⟩

theorem Plugged.provider {c : Config} {e : Engine} {u : Visit} (plugged : Plugged c e u) :
    u.provider = (Authenticator.ofConfig c).provider := by
  obtain ⟨rfl, f, j, id, installed, factory, installs, used, selects⟩ := plugged
  obtain ⟨-, g, r, found, matched, same⟩ := u.selected
  rw [used] at found
  cases found
  rw [selects, find?_of_install installs] at matched
  cases matched
  exact same.symm

/-- The identity that an engine gives the principal and the groups of a token: the one of its
security domain or, when it is not integrated, one that has the name and nothing else. -/
def Grants (e : Engine) (ids : Nat → Uuid) (i : TokenIdentity) (identity : Identity) : Prop :=
  ∃ draft : IdentityDraft, draft.Yields ids i.groups identity ∧
    if e.config.integrated then e.domain.identityFor i.principal = some draft
    else draft = .named i.principal

/-- A token of this request accounts for the identity. -/
def Accounts (c : Config) (u : Visit) (identity : Identity) : Prop :=
  ∃ token i, u.request.Presents token ∧ c.Assigns token i ∧ Grants u.engine u.ids i identity

theorem Accounts.principal {c : Config} {u : Visit} {identity : Identity}
    (accounts : Accounts c u identity)
    (known : u.engine.domain.HasPrincipals) :
    identity.principal.isSome := by
  obtain ⟨token, i, -, -, draft, yields, granted⟩ := accounts
  rw [yields.principal]
  split at granted
  · exact known i.principal draft granted
  · simp [granted, IdentityDraft.named]

/-- Whom the verdict on a request without cached identity establishes. -/
theorem verdict_establishes {c : Config} {e : Engine} {u : Visit} {response : Response}
    {login : Login} {spare : String} (plugged : Plugged c e u)
    (verdict : u.verdict = some ⟨response, login, spare⟩) (accepted : response.isAccepted = true) :
    ((∀ token, ¬ u.request.Presents token) ∧ u.required = false ∧ ¬ response.Registers ∧
        login.identity.principal = none ∧ login.identity.roles = ∅) ∨
      Accounts c u login.identity := by
  obtain ⟨handler, last, answer, identity, -⟩ := Visit.verdict_some verdict
  rw [Visit.answer, plugged.provider] at answer
  rcases validated_establishes answer accepted with ⟨missing, optional, rfl, anonymous⟩ |
    ⟨token, i, draft, presented, identified, -, drafted, yields⟩
  · rw [← identity] at anonymous
    have silent := (Request.bearerToken?_eq_none_iff u.request).mp missing
    have unregistered : ¬ Response.Registers ⟨.success, ∅⟩ := by
      rintro ⟨-, asked⟩
      exact absurd asked (by decide)
    exact .inl ⟨silent, optional, unregistered, by rw [anonymous]; rfl, by rw [anonymous]; rfl⟩
  · rw [← identity] at yields
    have token_presented := (Request.bearerToken?_eq_some_iff u.request token).mp presented
    have assigned := (identify_ofConfig_iff c token i).mp identified
    refine .inr ⟨token, i, token_presented, assigned, draft, yields, ?_⟩
    cases integrated : u.engine.config.integrated with
    | true => simpa [CallbackHandler.draft?, Negotiation.start, Engine.negotiation, integrated]
        using drafted
    | false => simpa [CallbackHandler.draft?, Negotiation.start, Engine.negotiation, integrated,
        eq_comm] using drafted

open SessionStore in
/-- However a run goes on, the identities that it announces are nobody, for an optional request
without token and cached identity, or accounted for by a token: of the request itself, or of the
request that cached the identity in the session. -/
theorem completions_accounted {c : Config} {e : Engine} {before : List Step} {v : Visit}
    {done : Completion}
    (known : e.domain.HasPrincipals)
    (plugged : ∀ u, .visit u ∈ before ++ [.visit v] → Plugged c e u)
    (fresh : FreshRun {} (before ++ [.visit v]))
    (completed : done ∈ (v.seen (after {} before)).completions) :
    (done.identity.principal = none ∧ done.identity.roles = ∅ ∧ v.required = false ∧
        (after {} before).record? v.presented = none ∧ ∀ token, ¬ v.request.Presents token) ∨
      done.identity.principal.isSome ∧ ∃ u, Accounts c u done.identity ∧
        (u = v ∨ ∃ id, v.presented = some id ∧
          Wrote {} before u ⟨done.identity, done.authType⟩ id) := by
  have domain {u : Visit} (member : Step.visit u ∈ before ++ [Step.visit v]) :
      u.engine.domain.HasPrincipals := by
    rw [(plugged u member).1]
    exact known
  rcases completion_source fresh completed with
    ⟨missing, response, login, spare, verdict, status, rfl⟩ |
    ⟨id, u, response, login, spare, presented, wrote, verdict, registers, rfl, -⟩
  · have member : Step.visit v ∈ before ++ [.visit v] := by simp
    have accepted : response.isAccepted = true := by simp [Response.isAccepted, status]
    rcases verdict_establishes (plugged v member) verdict accepted with
      ⟨silent, optional, -, anonymous, roleless⟩ | accounts
    · exact .inl ⟨anonymous, roleless, optional, missing, silent⟩
    · exact .inr ⟨accounts.principal (domain member), v, accounts, .inl rfl⟩
  · have member : Step.visit u ∈ before ++ [.visit v] := List.mem_append_left _ wrote.mem
    have accepted := Engine.accepted_of_registers registers
    rcases verdict_establishes (plugged u member) verdict accepted with
      ⟨-, -, unregistered, -, -⟩ | accounts
    · exact absurd registers unregistered
    · exact .inr ⟨accounts.principal (domain member), u, accounts, .inr ⟨id, presented, wrote⟩⟩

/-- A process in which this configuration is the only thing installed. -/
def installedAlone (c : Config) : Registry where
  factories _ := (install c {} ⟨⟨fun _ => default, 0⟩, []⟩).1.2
  installed := some 0

open SessionStore in
/-- A mandatory request without a token, in the session that a request with one has left. -/
theorem completions_accounted_cached :
    let c : Config := { registerSession := true }
    let e := Engine.plain ⟨fun name => some (.named name), fun _ _ => false⟩
    let u : Visit := {
      engine := e, registry := installedAlone c, provider := (Authenticator.ofConfig c).provider,
      selected := ⟨rfl, _, _, rfl, rfl, rfl⟩, ids := fun _ => default,
      request := { headers := [⟨"Authorization", "Bearer abc".toUTF8.toList⟩] } }
    let v : Visit := { u with
      request := {}, presented := some (default : Uuid).text, required := true }
    let done : Completion := ⟨⟨default, some "developer", ∅, ∅⟩, e.mechanism, "HttpServlet"⟩
    e.domain.HasPrincipals ∧ (∀ w, .visit w ∈ [Step.visit u] ++ [Step.visit v] → Plugged c e w) ∧
      FreshRun {} ([.visit u] ++ [.visit v]) ∧
      done ∈ (v.seen (after {} [.visit u])).completions ∧
      ((done.identity.principal = none ∧ done.identity.roles = ∅ ∧ v.required = false ∧
          (after {} [.visit u]).record? v.presented = none ∧
          ∀ token, ¬ v.request.Presents token) ∨
        done.identity.principal.isSome ∧ ∃ w, Accounts c w done.identity ∧
          (w = v ∨ ∃ id, v.presented = some id ∧
            Wrote {} [.visit u] w ⟨done.identity, done.authType⟩ id)) := by
  intro c e u v done
  have known : e.domain.HasPrincipals := by
    intro name draft found
    cases found
    rfl
  have plugged : ∀ w, .visit w ∈ [Step.visit u] ++ [Step.visit v] → Plugged c e w :=
    Step.forall_visit_pair ⟨rfl, {}, ⟨⟨fun _ => default, 0⟩, []⟩, _, _, _, rfl, rfl, rfl⟩
      ⟨rfl, {}, ⟨⟨fun _ => default, 0⟩, []⟩, _, _, _, rfl, rfl, rfl⟩
  have fresh : FreshRun {} ([.visit u] ++ [.visit v]) := by decide +kernel
  have completed : done ∈ (v.seen (after {} [.visit u])).completions := by decide +kernel
  exact ⟨known, plugged, fresh, completed, completions_accounted known plugged fresh completed⟩

end StaticTokens
end RequestAuth
