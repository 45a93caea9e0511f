import RequestAuth.Outcome
import RequestAuth.Proofs.Negotiation.Direct
import RequestAuth.Proofs.Negotiation.Handling
import RequestAuth.Proofs.StaticTokens.Tokens

/-! What a negotiation with the static token provider establishes: an anonymous caller for an
optional request without token, or the principal of the token with its groups as roles. -/
namespace RequestAuth

namespace StaticTokens

open CallbackHandler

namespace Authenticator

variable {a : Authenticator} {message : MessageInfo} {client : Subject}

theorem validate_missing (missing : message.request.bearerToken? = none)
    (mandatory : message.isMandatory = true) :
    a.validate message client = .tell .tokenMissing (.done (client, .ok ⟨.sendFailure, ∅⟩)) := by
  simp only [validate, missing, mandatory, if_true]
  rfl

theorem validate_anonymous (missing : message.request.bearerToken? = none)
    (optional : message.isMandatory = false) :
    a.validate message client = .ask [.caller none] fun reply =>
      .done (client, reply.result.map fun _ => ⟨.success, ∅⟩) := by
  simp only [validate, missing, optional, Bool.false_eq_true, if_false]
  rfl

theorem validate_unknown {token : String} (presented : message.request.bearerToken? = some token)
    (unknown : a.identify token = none) :
    a.validate message client = .tell .tokenUnknown (.done (client, .ok ⟨.sendFailure, ∅⟩)) := by
  simp only [validate, presented, unknown]
  rfl

theorem validate_known {token : String} {i : TokenIdentity}
    (presented : message.request.bearerToken? = some token)
    (known : a.identify token = some i) :
    a.validate message client = .ask (callbacks i) fun reply =>
      match reply.result with
      | .error e => .done (client, .error e)
      | .ok _ => .tell (.tokenAccepted i.principal)
        (.done (client.add i.principal, .ok a.accepted)) := by
  simp only [validate, presented, known]
  rfl

end Authenticator

/-- When the callbacks for an identity are taken, its principal is the caller and has its groups. -/
theorem handle_callbacks {s last : CallbackHandler} {i : TokenIdentity} {j after : Journal}
    {reply : Reply} (handled : s.handle (Authenticator.callbacks i) j = ((reply, last), after))
    (taken : reply.result = .ok ()) :
    ∃ draft, s.draft? i.principal = some draft ∧
      last.caller = some (draft.build j.ids).1 ∧ last.groups = s.groups ++ i.groups := by
  cases drafted : s.draft? i.principal with
  | none =>
    obtain ⟨events, fails⟩ := take_unknown drafted j
    rw [Authenticator.callbacks, handle_error fails] at handled
    cases handled
    cases taken
  | some draft =>
    obtain ⟨events, works⟩ := take_known drafted j
    rw [Authenticator.callbacks, handle_ok works] at handled
    cases groups : i.groups with
    | nil =>
      rw [groups] at handled
      cases handled
      exact ⟨draft, rfl, rfl, (List.append_nil _).symm⟩
    | cons g gs =>
      rw [groups] at handled
      cases handled
      exact ⟨draft, rfl, rfl, rfl⟩

/-- Whom an accepted response establishes. -/
theorem validated_establishes {a : Authenticator} {n : Negotiation} {request : Request}
    {mandatory : Bool} {j last : Journal} {response : Response} {handler : CallbackHandler}
    (ran : n.run a.provider request mandatory j = (.ok (.validated response handler), last))
    (accepted : response.isAccepted = true) :
    (request.bearerToken? = none ∧ mandatory = false ∧ response = ⟨.success, ∅⟩ ∧
        (handler.authorizedIdentity last).1 = (IdentityDraft.anonymous.build j.ids).1) ∨
      ∃ token i draft, request.bearerToken? = some token ∧ a.identify token = some i ∧
        response = a.accepted ∧ n.start.draft? i.principal = some draft ∧
        draft.Yields j.ids.ids i.groups (handler.authorizedIdentity last).1 := by
  have direct : Negotiation.Direct a.provider n (.mandatory { request } mandatory)
      ⟨fun message client _ => a.validate message client⟩ :=
    ⟨a.authConfig, WellKnown.staticContextId, rfl, rfl, rfl⟩
  obtain ⟨events, client, more, conversed⟩ := direct.validated ran
  obtain ⟨ids, ending⟩ := last
  change n.start.converse (a.validate (.mandatory { request } mandatory) {}) _ = _ at conversed
  have told : (MessageInfo.mandatory { request } mandatory).request = request := by simp
  have flag : (MessageInfo.mandatory { request } mandatory).isMandatory = mandatory := by simp
  generalize MessageInfo.mandatory { request } mandatory = message at conversed told flag
  subst told
  cases presented : message.request.bearerToken? with
  | none =>
    cases mandatory with
    | true =>
      rw [Authenticator.validate_missing presented flag, converse_tell, converse_done] at conversed
      cases conversed
      simp [Response.isAccepted] at accepted
    | false =>
      obtain ⟨handling, handled⟩ := n.start.handle_anonymous ⟨j.ids, events⟩
      rw [Authenticator.validate_anonymous presented flag, converse_ask handled,
        converse_done] at conversed
      cases conversed
      refine .inl ⟨rfl, rfl, rfl, ?_⟩
      rw [authorizedIdentity_caller rfl]
      rfl
  | some token =>
    cases identified : a.identify token with
    | none =>
      rw [Authenticator.validate_unknown presented identified, converse_tell,
        converse_done] at conversed
      cases conversed
      simp [Response.isAccepted] at accepted
    | some i =>
      rcases handled : n.start.handle (Authenticator.callbacks i) ⟨j.ids, events⟩ with
        ⟨⟨⟨taken, result⟩, established⟩, after⟩
      rw [Authenticator.validate_known presented identified, converse_ask handled] at conversed
      cases result with
      | error e => cases conversed
      | ok _ =>
        obtain ⟨draft, drafted, caller, groups⟩ := handle_callbacks handled rfl
        cases conversed
        refine .inr ⟨token, i, draft, rfl, identified, rfl, drafted, ?_⟩
        rw [authorizedIdentity_caller caller, groups]
        exact draft.yields_withRoles j.ids i.groups

end StaticTokens
end RequestAuth
