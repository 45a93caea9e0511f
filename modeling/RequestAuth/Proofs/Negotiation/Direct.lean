import RequestAuth.Proofs.Negotiation.Answer

/-! Negotiations with a provider that goes on to validation without a word. What comes of them is
what validation comes to. -/
namespace RequestAuth

namespace MessageInfo

/-- A mandatory request is recognised as one, and no other is. -/
@[simp] theorem isMandatory_mandatory (request : Request) (required : Bool) :
    (mandatory { request } required).isMandatory = required := by
  cases required with
  | false => rfl
  | true =>
    have said : readsTrue "true" = true := by decide
    simp [mandatory, isMandatory, withOption, said]

@[simp] theorem mandatory_request (m : MessageInfo) (required : Bool) :
    (m.mandatory required).request = m.request := by
  cases required with
  | false => rfl
  | true => rfl

end MessageInfo

namespace Negotiation

theorem attempt_done (call : ProviderCall) (a : α) (handler : CallbackHandler) (j : Journal) :
    attempt call (.done (.ok a)) handler j =
      (.ok (a, handler), ⟨j.ids, j.events ++ [.providerCalled call]⟩) := rfl

theorem stage_apply (call : ProviderCall) (dialogue : Dialogue α) (handler : CallbackHandler)
    (j : Journal) :
    stage call dialogue handler j =
      handler.converse dialogue ⟨j.ids, j.events ++ [.providerCalled call]⟩ := rfl

/-- The provider has its configuration, the context identifier and the context ready. -/
def Direct (p : Provider) (n : Negotiation) (message : MessageInfo) (context : AuthContext) :
    Prop :=
  ∃ config id, p.configure n.layer n.appContext = .done (.ok config) ∧
    config.contextId message = .done (.ok id) ∧
    config.context id none ∅ = .done (.ok (some context))

/-- The response of such a negotiation is the one of its validation. -/
theorem Direct.validated {p : Provider} {n : Negotiation} {request : Request} {mandatory : Bool}
    {context : AuthContext} {j last : Journal} {response : Response} {handler : CallbackHandler}
    (direct : Direct p n (.mandatory { request } mandatory) context)
    (ran : n.run p request mandatory j = (.ok (.validated response handler), last)) :
    ∃ events client more,
      n.start.converse (context.validate (.mandatory { request } mandatory) {} none)
        ⟨j.ids, events⟩ = (((client, .ok response), handler), ⟨last.ids, more⟩) := by
  obtain ⟨config, id, configures, named, gives⟩ := direct
  simp only [run, configures, named, gives, bind_apply, attempt_done, lift_apply,
    stage_apply] at ran
  generalize conversed : n.start.converse _ _ = ended at ran
  obtain ⟨⟨⟨client, result⟩, handler'⟩, ⟨ids, more⟩⟩ := ended
  cases result with
  | error e => cases ran
  | ok found =>
    cases ran
    exact ⟨_, client, more, conversed⟩

end Negotiation
end RequestAuth
