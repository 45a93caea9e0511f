import RequestAuth.Proofs.Journal.Appending

/-! What a negotiation leaves in the journal: consultations, the calls of the provider, and the
response exactly when validation came back with one. -/
namespace RequestAuth

open Journaled

namespace CallbackHandler

theorem lookUp_adds (s : CallbackHandler) (name : String) :
    Adds Event.Consulting (s.lookUp name) := by
  apply Adds.bind (Adds.record trivial)
  intro _
  cases s.domain.identityFor name with
  | none => exact Adds.pure none
  | some draft => exact Adds.bind (Adds.build draft) fun identity => Adds.pure (some identity)

theorem resolve_adds (s : CallbackHandler) (name : String) :
    Adds Event.Consulting (s.resolve name) := by
  unfold resolve
  split
  · apply Adds.bind (lookUp_adds s name)
    intro found
    cases found with
    | some identity => exact Adds.pure _
    | none => exact Adds.pure _
  · exact Adds.bind (Adds.build _) fun identity => Adds.pure _

theorem take_adds (s : CallbackHandler) (c : Callback) : Adds Event.Consulting (s.take c) := by
  cases c with
  | caller name =>
    cases name with
    | none =>
      exact Adds.bind (Adds.record trivial) fun _ =>
        Adds.bind (Adds.build _) fun identity => Adds.pure _
    | some name =>
      apply Adds.bind (resolve_adds s name)
      intro resolved
      cases resolved with
      | error e => exact Adds.pure _
      | ok identity => exact Adds.bind (Adds.record trivial) fun _ => Adds.pure _
  | groups names => exact Adds.pure _
  | password username password verified =>
    exact Adds.bind (Adds.record trivial) fun _ =>
      Adds.bind (Adds.record trivial) fun _ => Adds.pure _

theorem handle_adds (s : CallbackHandler) (cs : List Callback) :
    Adds Event.Consulting (s.handle cs) := by
  induction cs generalizing s with
  | nil => exact Adds.pure _
  | cons c cs ih =>
    apply Adds.bind (take_adds s c)
    intro taken
    cases taken with
    | error e => exact Adds.pure _
    | ok after => exact Adds.bind (ih after.1) fun reply => Adds.pure _

theorem baseIdentity_adds (s : CallbackHandler) : Adds Event.Consulting s.baseIdentity := by
  unfold baseIdentity
  split
  · exact Adds.pure _
  · apply Adds.bind (lookUp_adds s _)
    intro found
    cases found with
    | some identity => exact Adds.pure _
    | none => exact Adds.build _
  · exact Adds.build _

theorem authorizedIdentity_adds (s : CallbackHandler) :
    Adds Event.Consulting s.authorizedIdentity :=
  Adds.bind (baseIdentity_adds s) fun _ => Adds.pure _

/-- Whatever a provider asks and tells, its dialogue is nothing but consultation. -/
theorem converse_adds (s : CallbackHandler) (dialogue : Dialogue α) :
    Adds Event.Consulting (s.converse dialogue) := by
  induction dialogue generalizing s with
  | done a => exact Adds.pure _
  | tell n next ih => exact Adds.bind (Adds.record trivial) fun _ => ih s
  | ask cs next ih =>
    exact Adds.bind (handle_adds s cs) fun reply =>
      Adds.bind (Adds.record trivial) fun _ => ih reply.1 reply.2

end CallbackHandler

namespace Negotiation

theorem bind_apply (act : Staged α) (next : α → Staged β) (j : Journal) :
    (act >>= next) j =
      match act j with
      | (.ok a, j) => next a j
      | (.error e, j) => (.error e, j) := by
  change ExceptT.bindCont next (act j).1 (act j).2 = _
  rcases act j with ⟨_ | _, _⟩ <;> rfl

theorem lift_apply (act : Journaled α) (j : Journal) :
    (liftM act : Staged α) j = (.ok (act j).1, (act j).2) := rfl

/-- The responses that a negotiation's end stands for. -/
def responses : Except ProviderError Negotiated → List Response
  | .ok (.validated response _) => [response]
  | _ => []

/-- A negotiation, or what is left of one. It journals the response it ends with and no other. -/
def Answers (act : Staged Negotiated) : Prop :=
  ∀ ids, ∃ answer drawn added, ids.drawn ≤ drawn ∧ (∀ e ∈ added, e.Negotiating) ∧
    added.filterMap Event.response? = responses answer ∧
    ∀ events, act ⟨ids, events⟩ = (answer, ⟨{ ids with drawn }, events ++ added⟩)

/-- What a stage adds before validation has come back. -/
def Staging (e : Event) : Prop := e.Negotiating ∧ e.response? = none

theorem staging_of_consulting {e : Event} (h : e.Consulting) : Staging e := by
  cases e <;> simp_all [Event.Consulting, Staging, Event.Negotiating, Event.response?]

theorem stage_adds (call : ProviderCall) (dialogue : Dialogue α) (handler : CallbackHandler) :
    Adds Staging (stage call dialogue handler) := by
  refine Adds.bind (Adds.record ?_) fun _ =>
    (handler.converse_adds dialogue).mono fun _ => staging_of_consulting
  simp [Staging, Event.Negotiating, Event.call?, Event.response?]

theorem attempt_adds (call : ProviderCall) (dialogue : Dialogue (Except ProviderError α))
    (handler : CallbackHandler) : Adds Staging (attempt call dialogue handler).run := by
  apply Adds.ebind (Adds.lift (stage_adds call dialogue handler))
  intro ended
  rcases ended with ⟨_ | _, _⟩
  · exact Adds.pure _
  · exact Adds.pure _

theorem Answers.bind {act : Staged α} {next : α → Staged Negotiated}
    (first : Adds Staging act.run) (later : ∀ a, Answers (next a)) : Answers (act >>= next) := by
  intro ids
  obtain ⟨a, drawn, added, onward, only, runs⟩ := first ids
  have silent : added.filterMap Event.response? = [] :=
    List.filterMap_eq_nil_iff.mpr fun e member => (only e member).2
  cases a with
  | error e =>
    refine ⟨.error e, drawn, added, onward, fun e member => (only e member).1, silent,
      fun events => ?_⟩
    change (ExceptT.bindCont next (act.run ⟨ids, events⟩).1) (act.run ⟨ids, events⟩).2 = _
    rw [runs]
    rfl
  | ok a =>
    obtain ⟨answer, last, more, further, onlyMore, answered, goes⟩ := later a { ids with drawn }
    refine ⟨answer, last, added ++ more, Nat.le_trans onward further, ?_, ?_, fun events => ?_⟩
    · intro e member
      rcases List.mem_append.mp member with member | member
      · exact (only e member).1
      · exact onlyMore e member
    · rw [List.filterMap_append, silent, List.nil_append, answered]
    · change (ExceptT.bindCont next (act.run ⟨ids, events⟩).1) (act.run ⟨ids, events⟩).2 = _
      rw [runs]
      change next a _ = _
      rw [goes, List.append_assoc]

theorem Answers.throw (e : ProviderError) : Answers (throw e) :=
  fun ids => ⟨.error e, ids.drawn, [], Nat.le_refl _, by simp, rfl,
    fun _ => by rw [List.append_nil]; rfl⟩

theorem Answers.declined (n : Notice) :
    Answers (do Journal.note n; return .declined) :=
  fun ids => ⟨.ok .declined, ids.drawn, [.notice n], Nat.le_refl _,
    by simp [Event.Negotiating, Event.Consulting], rfl, fun _ => rfl⟩

theorem Answers.validated (response : Response) (n : Notice) (handler : CallbackHandler) :
    Answers (do
      Journal.record (.responded response)
      Journal.note n
      return .validated response handler) := by
  intro ids
  refine ⟨.ok (.validated response handler), ids.drawn, [.responded response, .notice n],
    Nat.le_refl _, ?_, rfl, fun events => ?_⟩
  · simp [Event.Negotiating, Event.Consulting, Event.response?]
  · rw [← List.singleton_append, ← List.append_assoc]
    rfl

/-- The first thing that it adds is this call. -/
def Opens (call : ProviderCall) (act : Journaled α) : Prop :=
  ∀ j, ∃ rest, (act j).2.events = j.events ++ .providerCalled call :: rest

theorem stage_opens (call : ProviderCall) (dialogue : Dialogue α) (handler : CallbackHandler) :
    Opens call (stage call dialogue handler) := by
  intro j
  obtain ⟨a, drawn, added, -, -, runs⟩ := handler.converse_adds dialogue j.ids
  refine ⟨added, ?_⟩
  change (handler.converse dialogue ⟨j.ids, j.events ++ [.providerCalled call]⟩).2.events = _
  rw [runs, List.append_assoc]
  rfl

theorem attempt_opens (call : ProviderCall) (dialogue : Dialogue (Except ProviderError α))
    (handler : CallbackHandler) : Opens call (attempt call dialogue handler).run := by
  intro j
  obtain ⟨rest, opened⟩ := stage_opens call dialogue handler j
  refine ⟨rest, ?_⟩
  change (attempt call dialogue handler j).2.events = _
  simp only [attempt, bind_apply, lift_apply]
  generalize stage call dialogue handler j = ended at opened
  rcases ended with ⟨⟨_ | _, _⟩, _⟩
  · exact opened
  · exact opened

theorem Opens.bind {call : ProviderCall} {act : Staged α} {next : α → Staged Negotiated}
    (first : Opens call act.run) (later : ∀ a, Answers (next a)) :
    Opens call (act >>= next).run := by
  intro j
  obtain ⟨rest, opened⟩ := first j
  change ∃ rest, ((act >>= next) j).2.events = _
  rw [bind_apply]
  change (act j).2.events = _ at opened
  generalize act j = ended at opened
  rcases ended with ⟨e | a, ⟨ids, events⟩⟩
  · exact ⟨rest, opened⟩
  · obtain ⟨answer, last, more, -, -, -, goes⟩ := later a ids
    have events_eq : events = j.events ++ .providerCalled call :: rest := opened
    refine ⟨rest ++ more, ?_⟩
    simp only [goes, events_eq, List.append_assoc, List.cons_append]

/-- Every negotiation, with whatever provider, leaves its own events only, and begins with the
configuration. -/
theorem run_answers_opening (n : Negotiation) (provider : Provider) (request : Request)
    (mandatory : Bool) :
    Answers (n.run provider request mandatory) ∧
      Opens (.configure provider.name n.layer n.appContext)
        (n.run provider request mandatory).run := by
  refine ⟨Answers.bind (attempt_adds _ _ _) ?later, Opens.bind (attempt_opens _ _ _) ?later⟩
  intro configured
  apply Answers.bind (attempt_adds _ _ _)
  intro named
  apply Answers.bind (attempt_adds _ _ _)
  intro acquired
  obtain ⟨context?, handler⟩ := acquired
  cases context? with
  | none => exact Answers.declined _
  | some context =>
    apply Answers.bind (Adds.lift (stage_adds _ _ _))
    intro ended
    obtain ⟨⟨client, result⟩, handler⟩ := ended
    cases result with
    | error e => exact Answers.throw e
    | ok response => exact Answers.validated _ _ _

theorem run_answers (n : Negotiation) (provider : Provider) (request : Request)
    (mandatory : Bool) : Answers (n.run provider request mandatory) :=
  (run_answers_opening n provider request mandatory).1

theorem run_opens (n : Negotiation) (provider : Provider) (request : Request)
    (mandatory : Bool) :
    Opens (.configure provider.name n.layer n.appContext)
      (n.run provider request mandatory).run :=
  (run_answers_opening n provider request mandatory).2

end Negotiation

/-- The provider that hands over the same callbacks on every request and, if they are taken, gives
the same response. -/
def Provider.steady (callbacks : List Callback) (response : Response) : Provider where
  name := "steady"
  configure _ _ := return .ok {
    contextId := fun _ => return .ok ""
    context := fun _ _ _ => return .ok (some ⟨fun _ client _ => do
      let reply ← Dialogue.handle callbacks
      return (client, reply.result.map fun _ => response)⟩) }

end RequestAuth
