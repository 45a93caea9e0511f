import RequestAuth.Proofs.Negotiation.Direct
import RequestAuth.Proofs.Traffic.Origin

/-! Requests that an anonymous caller will not do for. Providers see to that, as far as they are
asked; what a session has cached is announced without asking. -/
namespace RequestAuth

/-- Asked in this negotiation about a mandatory request, the provider succeeds only with a caller
that has a principal. -/
def Provider.HonoursMandatory (p : Provider) (n : Negotiation) : Prop :=
  ∀ request j response handler last,
    n.run p request true j = (.ok (.validated response handler), last) →
    response.status = .success ∨ response.status = .sendSuccess →
    (handler.authorizedIdentity last).1.isAnonymous = false

/-- The provider that has an anonymous caller cached, but fails a mandatory request. -/
def Provider.lenient : Provider where
  name := "lenient"
  configure _ _ := return .ok {
    contextId := fun _ => return .ok ""
    context := fun _ _ _ => return .ok (some ⟨fun message client _ => do
      if message.isMandatory then return (client, .ok ⟨.sendFailure, ∅⟩)
      let reply ← Dialogue.handle [.caller none]
      return (client, reply.result.map fun _ => Response.registerSession ⟨.success, ∅⟩ true)⟩) }

theorem Provider.lenient_honoursMandatory (n : Negotiation) : lenient.HonoursMandatory n := by
  intro request j response handler ⟨ids, events⟩ ran status
  have direct : Negotiation.Direct lenient n (.mandatory { request } true) _ :=
    ⟨_, _, rfl, rfl, rfl⟩
  obtain ⟨earlier, client, more, conversed⟩ := direct.validated ran
  simp only [MessageInfo.isMandatory_mandatory, if_true] at conversed
  cases conversed
  simp at status

/-- What a provider that honours the flag establishes for a mandatory request has a principal. -/
theorem Visit.verdict_mandatory {v : Visit} {response : Response} {login : Login} {spare : String}
    (honours : v.provider.HonoursMandatory v.engine.negotiation) (required : v.required = true)
    (verdict : v.verdict = some ⟨response, login, spare⟩)
    (status : response.status = .success ∨ response.status = .sendSuccess) :
    login.identity.isAnonymous = false := by
  obtain ⟨handler, j, answer, identity, -⟩ := Visit.verdict_some verdict
  rw [Visit.answer, required] at answer
  rw [identity]
  exact honours v.request _ response handler j answer status

namespace SessionStore

/-- A session that an optional request left with an anonymous caller completes a mandatory one. -/
theorem mandatory_bypassed :
    ¬ ∀ (before : List Step) (v : Visit) (c : Completion),
      FreshRun {} (before ++ [.visit v]) →
      (∀ u, .visit u ∈ before ++ [.visit v] → u.engine.domain.HasPrincipals ∧
        u.provider.HonoursMandatory u.engine.negotiation) →
      v.required = true → c ∈ (v.seen (after {} before)).completions →
      c.identity.isAnonymous = false := by
  intro never
  let domain : SecurityDomain := ⟨fun _ => none, fun _ _ => false⟩
  let u := Visit.plain domain .lenient
  let v := Visit.plain domain .lenient (some (default : Uuid).text) true
  let c : Completion := ⟨⟨default, none, ∅, ∅⟩, u.engine.mechanism, WellKnown.servletLayer⟩
  have fresh : FreshRun {} ([.visit u] ++ [.visit v]) := by decide +kernel
  have empty : domain.HasPrincipals := fun name draft found => by cases found
  have honoured := Step.forall_visit_pair
    (P := fun w => w.engine.domain.HasPrincipals ∧
      w.provider.HonoursMandatory w.engine.negotiation)
    (u := u) (v := v)
    ⟨empty, Provider.lenient_honoursMandatory _⟩ ⟨empty, Provider.lenient_honoursMandatory _⟩
  have completed : c ∈ (v.seen (after {} [.visit u])).completions := by decide +kernel
  have named := never [.visit u] v c fresh honoured rfl completed
  cases named

/-- Where providers honour the flag, a mandatory request is completed with an anonymous caller only
out of its session, without a negotiation, after a request of the run that was not mandatory has
cached the caller there. -/
theorem mandatory_completions {before : List Step} {v : Visit} {c : Completion}
    (fresh : FreshRun {} (before ++ [.visit v]))
    (honours : ∀ u, .visit u ∈ before ++ [.visit v] →
      u.provider.HonoursMandatory u.engine.negotiation)
    (required : v.required = true) (completed : c ∈ (v.seen (after {} before)).completions)
    (anonymous : c.identity.isAnonymous = true) :
    (v.seen (after {} before)).calls = [] ∧ ∃ id u, v.presented = some id ∧ u.required = false ∧
      Wrote {} before u ⟨c.identity, c.authType⟩ id := by
  rcases completion_source fresh completed with
    ⟨-, response, login, spare, verdict, status, rfl⟩ |
    ⟨id, u, response, login, spare, presented, wrote, verdict, registers, rfl, uncalled⟩
  · have named : login.completion.identity.isAnonymous = false :=
      Visit.verdict_mandatory (honours v (by simp)) required verdict (.inl status)
    simp [named] at anonymous
  · refine ⟨uncalled, id, u, presented, ?_, wrote⟩
    cases optional : u.required with
    | false => rfl
    | true =>
      have member : Step.visit u ∈ before ++ [Step.visit v] := List.mem_append_left _ wrote.mem
      have named : login.completion.identity.isAnonymous = false :=
        Visit.verdict_mandatory (honours u member) optional verdict registers.1
      simp [named] at anonymous

/-- The case is met: an anonymous caller that is let in to a mandatory request by the session. -/
theorem mandatory_completions_lenient :
    let domain : SecurityDomain := ⟨fun _ => none, fun _ _ => false⟩
    let u := Visit.plain domain .lenient
    let v := Visit.plain domain .lenient (some (default : Uuid).text) true
    let c : Completion := ⟨⟨default, none, ∅, ∅⟩, u.engine.mechanism, WellKnown.servletLayer⟩
    FreshRun {} ([.visit u] ++ [.visit v]) ∧
      (∀ w, .visit w ∈ [Step.visit u] ++ [Step.visit v] →
        w.provider.HonoursMandatory w.engine.negotiation) ∧
      v.required = true ∧ c ∈ (v.seen (after {} [.visit u])).completions ∧
      c.identity.isAnonymous = true ∧
      (v.seen (after {} [.visit u])).calls = [] ∧ ∃ id u', v.presented = some id ∧
        u'.required = false ∧ Wrote {} [.visit u] u' ⟨c.identity, c.authType⟩ id := by
  intro domain u v c
  have fresh : FreshRun {} ([.visit u] ++ [.visit v]) := by decide +kernel
  have honours : ∀ w, .visit w ∈ [Step.visit u] ++ [Step.visit v] →
      w.provider.HonoursMandatory w.engine.negotiation :=
    Step.forall_visit_pair (Provider.lenient_honoursMandatory _)
      (Provider.lenient_honoursMandatory _)
  have completed : c ∈ (v.seen (after {} [.visit u])).completions := by decide +kernel
  exact ⟨fresh, honours, rfl, completed, rfl,
    mandatory_completions fresh honours rfl completed rfl⟩

end SessionStore
end RequestAuth
