import RequestAuth.Proofs.Negotiation.Stages

/-! The order in which a provider is asked. Each of its methods is called once at most, and only when
the ones before it have succeeded; the handler that a stage leaves is the one that the next stage
meets, and the one that the last stage leaves is handed on with the response. -/
namespace RequestAuth.Negotiation

section Protocol

variable (n : Negotiation) (p : Provider) (message : MessageInfo) (ids : IdSource)

/-- The calls that it comes to: a method is called when the stages before it have succeeded, with
what they came to. There is no service subject and there are no properties, and the client subject
is empty. -/
inductive Asked : ProviderCall → Prop
  | configure : Asked (.configure p.name n.layer n.appContext)
  | contextId
    (configures : n.start.hears (p.configure n.layer n.appContext) ids = (.ok config, s₁, ids₁)) :
    Asked (.contextId message)
  | context
    (configures : n.start.hears (p.configure n.layer n.appContext) ids = (.ok config, s₁, ids₁))
    (names : s₁.hears (config.contextId message) ids₁ = (.ok name, s₂, ids₂)) :
    Asked (.context name none ∅)
  | validate
    (configures : n.start.hears (p.configure n.layer n.appContext) ids = (.ok config, s₁, ids₁))
    (names : s₁.hears (config.contextId message) ids₁ = (.ok name, s₂, ids₂))
    (gives : s₂.hears (config.context name none ∅) ids₂ = (.ok (some context), s₃, ids₃)) :
    Asked (.validate message {} none)

/-- What it comes to: the error of the stage that fails, nothing without a context, and otherwise
the response, together with the handler as the last stage leaves it. -/
inductive Comes : Except ProviderError Negotiated → Prop
  | error (fails : n.Fails p message ids cause) : Comes (.error cause)
  | declined
    (configures : n.start.hears (p.configure n.layer n.appContext) ids = (.ok config, s₁, ids₁))
    (names : s₁.hears (config.contextId message) ids₁ = (.ok name, s₂, ids₂))
    (declines : s₂.hears (config.context name none ∅) ids₂ = (.ok none, last, rest)) :
    Comes (.ok .declined)
  | validated
    (configures : n.start.hears (p.configure n.layer n.appContext) ids = (.ok config, s₁, ids₁))
    (names : s₁.hears (config.contextId message) ids₁ = (.ok name, s₂, ids₂))
    (gives : s₂.hears (config.context name none ∅) ids₂ = (.ok (some context), s₃, ids₃))
    (validates : s₃.hears (context.validate message {} none) ids₃ =
      ((client, .ok response), last, rest)) :
    Comes (.ok (.validated response last))

end Protocol

variable {n : Negotiation} {p : Provider} {message : MessageInfo} {ids : IdSource}
  {result : Except ProviderError Negotiated} {calls : List ProviderCall}

theorem Goes.ordered (goes : n.Goes p message ids result calls) :
    ∃ name, calls <+: [.configure p.name n.layer n.appContext, .contextId message,
      .context name none ∅, .validate message {} none] := by
  cases goes with
  | unconfigured => exact ⟨"", _, rfl⟩
  | unnamed => exact ⟨"", _, rfl⟩
  | unacquired => exact ⟨_, _, rfl⟩
  | declined => exact ⟨_, _, rfl⟩
  | unvalidated => exact ⟨_, [], rfl⟩
  | validated => exact ⟨_, [], rfl⟩

theorem Goes.mem_iff_asked (goes : n.Goes p message ids result calls) (call : ProviderCall) :
    call ∈ calls ↔ n.Asked p message ids call := by
  constructor
  · intro member
    cases goes with
    | unconfigured =>
      obtain rfl := List.mem_singleton.mp member
      exact .configure
    | unnamed configures =>
      simp only [List.mem_cons, List.not_mem_nil, or_false] at member
      rcases member with rfl | rfl
      · exact .configure
      · exact .contextId configures
    | unacquired configures names | declined configures names =>
      simp only [List.mem_cons, List.not_mem_nil, or_false] at member
      rcases member with rfl | rfl | rfl
      · exact .configure
      · exact .contextId configures
      · exact .context configures names
    | unvalidated configures names gives | validated configures names gives =>
      simp only [List.mem_cons, List.not_mem_nil, or_false] at member
      rcases member with rfl | rfl | rfl | rfl
      · exact .configure
      · exact .contextId configures
      · exact .context configures names
      · exact .validate configures names gives
  · intro asked
    cases asked <;> cases goes <;> simp_all

theorem Goes.eq_iff_comes (goes : n.Goes p message ids result calls)
    (other : Except ProviderError Negotiated) : result = other ↔ n.Comes p message ids other := by
  constructor
  · rintro rfl
    cases goes with
    | unconfigured fails => exact .error (.configuring fails)
    | unnamed configures fails => exact .error (.naming configures fails)
    | unacquired configures names fails => exact .error (.acquiring configures names fails)
    | unvalidated configures names gives fails =>
      exact .error (.validating configures names gives fails)
    | declined configures names declines => exact .declined configures names declines
    | validated configures names gives validates =>
      exact .validated configures names gives validates
  · intro comes
    cases comes with
    | error fails => exact (goes.error_iff _).mpr fails
    | declined => cases goes <;> simp_all
    | validated => cases goes <;> simp_all

/-- Whatever the provider does, it is asked by the protocol. The message has the mandatory flag as
its only option, if it has one; nothing has been established with the handler at the beginning. Of
the four calls some are made, in order and each once, and they are exactly those that the stages
before them allow; what the negotiation comes to is what the stages come to. -/
theorem run_protocol (n : Negotiation) (p : Provider) (request : Request) (mandatory : Bool)
    (j : Journal) :
    let message := MessageInfo.mandatory { request } mandatory
    let (result, last) := n.run p request mandatory j
    message.request = request ∧
    message.options.entries = (if mandatory then [(WellKnown.mandatoryOption, "true")] else []) ∧
    n.start = ⟨n.domain, n.layer, n.integrated, none, none, []⟩ ∧
    ∃ added, last.events = j.events ++ added ∧
      (∃ name, added.filterMap Event.call? <+: [.configure p.name n.layer n.appContext,
        .contextId message, .context name none ∅, .validate message {} none]) ∧
      (∀ call, call ∈ added.filterMap Event.call? ↔ n.Asked p message j.ids call) ∧
      ∀ other, result = other ↔ n.Comes p message j.ids other := by
  obtain ⟨added, grown, goes⟩ := n.run_goes p request mandatory j
  refine ⟨MessageInfo.mandatory_request _ _, ?_, rfl, added, grown, goes.ordered,
    goes.mem_iff_asked, goes.eq_iff_comes⟩
  cases mandatory with
  | false => rfl
  | true => rfl

end RequestAuth.Negotiation
