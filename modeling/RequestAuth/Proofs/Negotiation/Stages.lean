import RequestAuth.Proofs.Negotiation.Direct

/-! The stages of a negotiation, each with what its dialogue comes to. A negotiation goes on until a
stage of the provider fails or the provider declines, and its journal has one call for each stage
that it comes to. -/
namespace RequestAuth

namespace CallbackHandler

/-- What a dialogue comes to: its result, and the handler and the identifiers afterwards. -/
def hears (s : CallbackHandler) (dialogue : Dialogue α) (ids : IdSource) :
    α × CallbackHandler × IdSource :=
  let ((a, last), j) := s.converse dialogue ⟨ids, []⟩
  (a, last, j.ids)

/-- It comes to the same whatever the journal holds already. -/
theorem converse_of_hears {s last : CallbackHandler} {dialogue : Dialogue α} {a : α}
    {ids : IdSource} {j : Journal} (heard : s.hears dialogue j.ids = (a, last, ids)) :
    ∃ said, (∀ e ∈ said, e.Consulting) ∧
      s.converse dialogue j = ((a, last), ⟨ids, j.events ++ said⟩) := by
  obtain ⟨answer, drawn, said, -, only, runs⟩ := s.converse_adds dialogue j.ids
  have alone := runs []
  simp only [hears, alone] at heard
  cases heard
  exact ⟨said, only, runs j.events⟩

end CallbackHandler

theorem Event.calls_of_consulting {events : List Event} (only : ∀ e ∈ events, e.Consulting) :
    events.filterMap Event.call? = [] := by
  refine List.filterMap_eq_nil_iff.mpr fun e member => ?_
  have consulting := only e member
  cases e <;> simp_all [Event.Consulting, Event.call?]

namespace Negotiation

section Stage

variable {handler last : CallbackHandler} {j : Journal} {ids : IdSource}

theorem stage_of_hears (call : ProviderCall) {dialogue : Dialogue α} {a : α}
    (heard : handler.hears dialogue j.ids = (a, last, ids)) :
    ∃ added, added.filterMap Event.call? = [call] ∧
      stage call dialogue handler j = ((a, last), ⟨ids, j.events ++ added⟩) := by
  obtain ⟨said, only, ran⟩ := CallbackHandler.converse_of_hears
    (j := ⟨j.ids, j.events ++ [.providerCalled call]⟩) heard
  refine ⟨.providerCalled call :: said, ?_, ?_⟩
  · exact congrArg (call :: ·) (Event.calls_of_consulting only)
  · rw [stage_apply, ran, List.append_assoc]
    rfl

theorem attempt_of_hears (call : ProviderCall) {dialogue : Dialogue (Except ProviderError α)}
    {answer : Except ProviderError α} (heard : handler.hears dialogue j.ids = (answer, last, ids)) :
    ∃ added, added.filterMap Event.call? = [call] ∧
      attempt call dialogue handler j =
        (answer.map fun a => (a, last), ⟨ids, j.events ++ added⟩) := by
  obtain ⟨added, called, ran⟩ := stage_of_hears call heard
  refine ⟨added, called, ?_⟩
  simp only [attempt, bind_apply, lift_apply, ran]
  cases answer <;> rfl

end Stage

/-- How a negotiation goes: what it comes to, and the calls of the provider's methods. Every stage
goes on from the handler and the identifiers that the one before it leaves. -/
inductive Goes (n : Negotiation) (p : Provider) (message : MessageInfo) (ids : IdSource) :
    Except ProviderError Negotiated → List ProviderCall → Prop
  | unconfigured
    (fails : n.start.hears (p.configure n.layer n.appContext) ids = (.error cause, last, rest)) :
    Goes n p message ids (.error cause) [.configure p.name n.layer n.appContext]
  | unnamed
    (configures : n.start.hears (p.configure n.layer n.appContext) ids = (.ok config, s₁, ids₁))
    (fails : s₁.hears (config.contextId message) ids₁ = (.error cause, last, rest)) :
    Goes n p message ids (.error cause)
      [.configure p.name n.layer n.appContext, .contextId message]
  | unacquired
    (configures : n.start.hears (p.configure n.layer n.appContext) ids = (.ok config, s₁, ids₁))
    (names : s₁.hears (config.contextId message) ids₁ = (.ok name, s₂, ids₂))
    (fails : s₂.hears (config.context name none ∅) ids₂ = (.error cause, last, rest)) :
    Goes n p message ids (.error cause)
      [.configure p.name n.layer n.appContext, .contextId message, .context name none ∅]
  | declined
    (configures : n.start.hears (p.configure n.layer n.appContext) ids = (.ok config, s₁, ids₁))
    (names : s₁.hears (config.contextId message) ids₁ = (.ok name, s₂, ids₂))
    (declines : s₂.hears (config.context name none ∅) ids₂ = (.ok none, last, rest)) :
    Goes n p message ids (.ok .declined)
      [.configure p.name n.layer n.appContext, .contextId message, .context name none ∅]
  | unvalidated
    (configures : n.start.hears (p.configure n.layer n.appContext) ids = (.ok config, s₁, ids₁))
    (names : s₁.hears (config.contextId message) ids₁ = (.ok name, s₂, ids₂))
    (gives : s₂.hears (config.context name none ∅) ids₂ = (.ok (some context), s₃, ids₃))
    (fails : s₃.hears (context.validate message {} none) ids₃ =
      ((client, .error cause), last, rest)) :
    Goes n p message ids (.error cause)
      [.configure p.name n.layer n.appContext, .contextId message, .context name none ∅,
        .validate message {} none]
  | validated
    (configures : n.start.hears (p.configure n.layer n.appContext) ids = (.ok config, s₁, ids₁))
    (names : s₁.hears (config.contextId message) ids₁ = (.ok name, s₂, ids₂))
    (gives : s₂.hears (config.context name none ∅) ids₂ = (.ok (some context), s₃, ids₃))
    (validates : s₃.hears (context.validate message {} none) ids₃ =
      ((client, .ok response), last, rest)) :
    Goes n p message ids (.ok (.validated response last))
      [.configure p.name n.layer n.appContext, .contextId message, .context name none ∅,
        .validate message {} none]

theorem run_goes (n : Negotiation) (p : Provider) (request : Request) (mandatory : Bool)
    (j : Journal) :
    ∃ added, (n.run p request mandatory j).2.events = j.events ++ added ∧
      n.Goes p (.mandatory { request } mandatory) j.ids (n.run p request mandatory j).1
        (added.filterMap Event.call?) := by
  -- One split a stage: where it fails the run has ended, where it succeeds only later stages can.
  rcases configuring : n.start.hears (p.configure n.layer n.appContext) j.ids with
    ⟨e | config, s₁, ids₁⟩
  · obtain ⟨first, called, ran⟩ :=
      attempt_of_hears (.configure p.name n.layer n.appContext) configuring
    simp only [run, bind_apply, ran, Except.map]
    exact ⟨first, rfl, called ▸ .unconfigured configuring⟩
  obtain ⟨first, called₁, configured⟩ :=
    attempt_of_hears (.configure p.name n.layer n.appContext) configuring
  simp only [run, bind_apply, configured, Except.map]
  generalize MessageInfo.mandatory { request } mandatory = message
  rcases naming : s₁.hears (config.contextId message) ids₁ with ⟨e | name, s₂, ids₂⟩
  · obtain ⟨second, called₂, ran⟩ :=
      attempt_of_hears (j := ⟨ids₁, j.events ++ first⟩) (.contextId message) naming
    simp only [ran, Except.map]
    refine ⟨first ++ second, List.append_assoc .., ?_⟩
    rw [List.filterMap_append, called₁, called₂]
    exact .unnamed configuring naming
  obtain ⟨second, called₂, named⟩ :=
    attempt_of_hears (j := ⟨ids₁, j.events ++ first⟩) (.contextId message) naming
  simp only [named, Except.map]
  rcases acquiring : s₂.hears (config.context name none ∅) ids₂ with ⟨e | context?, s₃, ids₃⟩
  · obtain ⟨third, called₃, ran⟩ := attempt_of_hears (j := ⟨ids₂, j.events ++ first ++ second⟩)
      (.context name none ∅) acquiring
    simp only [ran, Except.map]
    refine ⟨first ++ second ++ third, by simp, ?_⟩
    rw [List.filterMap_append, List.filterMap_append, called₁, called₂, called₃]
    exact .unacquired configuring naming acquiring
  obtain ⟨third, called₃, acquired⟩ :=
    attempt_of_hears (j := ⟨ids₂, j.events ++ first ++ second⟩) (.context name none ∅) acquiring
  simp only [acquired, Except.map]
  cases context? with
  | none =>
    refine ⟨first ++ second ++ third ++ [.notice (.contextDeclined name)], ?_, ?_⟩
    · rw [← List.append_assoc, ← List.append_assoc, ← List.append_assoc]
      rfl
    · simp only [List.filterMap_append, called₁, called₂, called₃]
      exact .declined configuring naming acquiring
  | some context =>
    rcases validating : s₃.hears (context.validate message {} none) ids₃ with
      ⟨⟨client, result⟩, last, rest⟩
    obtain ⟨fourth, called₄, ran⟩ := stage_of_hears
      (j := ⟨ids₃, j.events ++ first ++ second ++ third⟩) (.validate message {} none) validating
    simp only [bind_apply, lift_apply, ran]
    cases result with
    | error e =>
      refine ⟨first ++ second ++ third ++ fourth, ?_, ?_⟩
      · rw [← List.append_assoc, ← List.append_assoc, ← List.append_assoc]
        rfl
      · simp only [List.filterMap_append, called₁, called₂, called₃, called₄]
        exact .unvalidated configuring naming acquiring validating
    | ok response =>
      refine ⟨first ++ second ++ third ++ fourth ++ [.responded response,
        .notice (.validated name response.status client.principals.length)], ?_, ?_⟩
      · simp only [← List.append_assoc]
        exact List.append_assoc (j.events ++ first ++ second ++ third ++ fourth) [_] [_]
      · simp only [List.filterMap_append, called₁, called₂, called₃, called₄]
        exact .validated configuring naming acquiring validating

/-- A stage of the provider fails with this error, after the stages before it have succeeded. -/
inductive Fails (n : Negotiation) (p : Provider) (message : MessageInfo) (ids : IdSource)
    (cause : ProviderError) : Prop
  | configuring
    (fails : n.start.hears (p.configure n.layer n.appContext) ids = (.error cause, last, rest))
  | naming
    (configures : n.start.hears (p.configure n.layer n.appContext) ids = (.ok config, s₁, ids₁))
    (fails : s₁.hears (config.contextId message) ids₁ = (.error cause, last, rest))
  | acquiring
    (configures : n.start.hears (p.configure n.layer n.appContext) ids = (.ok config, s₁, ids₁))
    (names : s₁.hears (config.contextId message) ids₁ = (.ok name, s₂, ids₂))
    (fails : s₂.hears (config.context name none ∅) ids₂ = (.error cause, last, rest))
  | validating
    (configures : n.start.hears (p.configure n.layer n.appContext) ids = (.ok config, s₁, ids₁))
    (names : s₁.hears (config.contextId message) ids₁ = (.ok name, s₂, ids₂))
    (gives : s₂.hears (config.context name none ∅) ids₂ = (.ok (some context), s₃, ids₃))
    (fails : s₃.hears (context.validate message {} none) ids₃ =
      ((client, .error cause), last, rest))

theorem Goes.error_iff {n : Negotiation} {p : Provider} {message : MessageInfo} {ids : IdSource}
    {result : Except ProviderError Negotiated} {calls : List ProviderCall}
    (goes : n.Goes p message ids result calls) (cause : ProviderError) :
    result = .error cause ↔ n.Fails p message ids cause := by
  constructor
  · rintro rfl
    cases goes with
    | unconfigured fails => exact .configuring fails
    | unnamed configures fails => exact .naming configures fails
    | unacquired configures names fails => exact .acquiring configures names fails
    | unvalidated configures names gives fails => exact .validating configures names gives fails
  · intro fails
    cases fails <;> cases goes <;> simp_all

theorem run_error_iff (n : Negotiation) (p : Provider) (request : Request) (mandatory : Bool)
    (j : Journal) (cause : ProviderError) :
    (n.run p request mandatory j).1 = .error cause ↔
      n.Fails p (.mandatory { request } mandatory) j.ids cause := by
  obtain ⟨added, -, goes⟩ := n.run_goes p request mandatory j
  exact goes.error_iff cause

end Negotiation
end RequestAuth
