import RequestAuth.Proofs.Engine.Call
import RequestAuth.Proofs.Negotiation.Answer
import RequestAuth.Proofs.Session.RoundTrip

/-! The events of one call in their order, by the way the call ends. -/
namespace RequestAuth

/-- The response is accepted and wants the identity kept in the session. -/
def Response.Registers (r : Response) : Prop :=
  (r.status = .success ∨ r.status = .sendSuccess) ∧ r.sessionRequested = true

namespace Event

/-- Neither a response nor anything that a response can bring about. -/
def Quiet : Event → Prop
  | .responded _ | .attributeWritten _ _ | .completed _ => False
  | .sessionRequested create => create = false
  | _ => True

/-- What happens while a cached identity is looked for. -/
def Looking : Event → Prop
  | .notice _ | .attributeRead _ | .attributeRemoved _ => True
  | .sessionRequested create => create = false
  | _ => False

theorem Looking.quiet {x : Event} (h : x.Looking) : x.Quiet := by
  cases x <;> simp_all [Looking, Quiet]

theorem Looking.unasked {x : Event} (h : x.Looking) : x.call? = none := by
  cases x <;> simp_all [Looking, call?]

theorem Consulting.quiet {x : Event} (h : x.Consulting) : x.Quiet := by
  cases x <;> simp_all [Consulting, Quiet]

theorem quiet_of_negotiating {x : Event} (h : x.Negotiating) (silent : x.response? = none) :
    x.Quiet := by
  cases x <;> simp_all [Negotiating, Consulting, call?, response?, Quiet]

end Event

namespace Host

/-- Looking for a record adds what looking consists of, and leaves the rest of the host alone but
for the store. -/
theorem Recalled.added {h next : Host} {result : Except ExchangeError (Option IdentityRecord)}
    (recalled : Recalled h result next) :
    ∃ added, next.journal.events = h.journal.events ++ added ∧ ∀ x ∈ added, x.Looking := by
  cases recalled
  all_goals exact ⟨_, rfl, by simp [Event.Looking]⟩

/-- The events of storing a record, the write among them only if it is reached. -/
def writing (id : String) (r : IdentityRecord) : List Event :=
  [.sessionRequested true, .notice (.recordStored id r.identity.displayName),
    .attributeWritten WellKnown.identityRecordKey r.encode]

theorem Attached.events {h next : Host} {id : String} (attached : Attached h id next) :
    next.journal.events = h.journal.events := by
  cases attached with
  | existing found => rfl
  | made absent granted => rfl

theorem Remembered.added_error {r : IdentityRecord} {h next : Host} {cause : ExchangeError}
    (remembered : Remembered r h (.error cause) next) :
    next.journal.events = h.journal.events ++ [.sessionRequested true] ∨
      ∃ id, next.journal.events = h.journal.events ++ writing id r := by
  cases remembered with
  | sessionFails fails => exact .inl rfl
  | withheld works absent refused => exact .inl rfl
  | writeFails id works attached fails =>
    refine .inr ⟨id, ?_⟩
    rw [having_events, attached.events, having_events, List.append_assoc]
    rfl

theorem Remembered.added_ok {r : IdentityRecord} {h next : Host}
    (remembered : Remembered r h (.ok ()) next) :
    ∃ id, next.journal.events = h.journal.events ++ writing id r := by
  cases remembered with
  | written id works attached writes =>
    refine ⟨id, ?_⟩
    change _ ++ _ = _
    rw [attached.events, having_events, List.append_assoc]
    rfl

end Host

namespace Engine

open Host

/-- What follows a response, by the way the call ends. -/
inductive Finish (r : Response) : Except ExchangeError Bool → List Event → Prop
  | unaccepted (rejected : r.isAccepted = false) : Finish r (.ok false) []
  | announced (i : Identity) (a : AuthType) (n : Notice) (status : r.status = .success)
    (unasked : r.sessionRequested = false) :
    Finish r (.ok true) [.notice n, .completed (completion i a)]
  | unmade (cause : ExchangeError) (registers : r.Registers) :
    Finish r (.error cause) [.sessionRequested true]
  | unwritten (cause : ExchangeError) (id : String) (i : Identity) (a : AuthType)
    (registers : r.Registers) : Finish r (.error cause) (writing id ⟨i, some a⟩)
  | registered (id : String) (i : Identity) (a : AuthType) (n : Notice) (registers : r.Registers)
    (status : r.status = .success) :
    Finish r (.ok true) (writing id ⟨i, some a⟩ ++ [.notice n, .completed (completion i a)])
  | deferred (id : String) (i : Identity) (a : AuthType) (registers : r.Registers)
    (status : r.status = .sendSuccess) : Finish r (.ok false) (writing id ⟨i, some a⟩)

/-- The events of a call, by the way it ends. -/
inductive Course : Except ExchangeError Bool → List Event → Prop
  | unrecalled (cause : ExchangeError) (es : List Event) (looking : ∀ x ∈ es, x.Looking) :
    Course (.error cause) es
  | restored (es : List Event) (i : Identity) (a : AuthType) (looking : ∀ x ∈ es, x.Looking) :
    Course (.ok true) (es ++ [.completed (completion i a)])
  | unanswered (es : List Event) (quiet : ∀ x ∈ es, x.Quiet) : Course (.ok false) es
  | answered (before after finish : List Event) (r : Response) (quiet : ∀ x ∈ before, x.Quiet)
    (later : ∀ x ∈ after, x.Quiet) (finished : Finish r result finish) :
    Course result (before ++ .responded r :: (after ++ finish))

/-- The selection is noted before anything else. -/
theorem Course.noted {result : Except ExchangeError Bool} {es : List Event} (n : Notice)
    (course : Course result es) : Course result (.notice n :: es) := by
  cases course with
  | unrecalled cause es looking =>
    exact .unrecalled cause _ (List.forall_mem_cons.mpr ⟨trivial, looking⟩)
  | restored es i a looking =>
    exact .restored (.notice n :: es) i a (List.forall_mem_cons.mpr ⟨trivial, looking⟩)
  | unanswered es quiet => exact .unanswered _ (List.forall_mem_cons.mpr ⟨trivial, quiet⟩)
  | answered before after finish r quiet later finished =>
    exact .answered (.notice n :: before) after finish r
      (List.forall_mem_cons.mpr ⟨trivial, quiet⟩) later finished

/-- What asking a provider adds: quiet events, and the response in their midst if there is one. -/
theorem ask_added {e : Engine} {p : Provider} {h : Host} {answer : Except ProviderError Negotiated}
    {j : Journal} (asked : e.ask p h = (answer, j)) :
    ∃ added, j.events = h.journal.events ++ added ∧ (∀ x ∈ added, x.Negotiating) ∧
      added.filterMap Event.response? = Negotiation.responses answer := by
  obtain ⟨found, drawn, added, -, only, answered, runs⟩ :=
    Negotiation.run_answers e.negotiation p h.exchange.request h.context.required h.journal.ids
  have run := runs h.journal.events
  have same : (found, (⟨{ h.journal.ids with drawn }, h.journal.events ++ added⟩ : Journal)) =
      (answer, j) := run.symm.trans asked
  cases same
  exact ⟨added, rfl, only, answered⟩

/-- A list of negotiating events with one response is that response between quiet ones. -/
theorem split_response {es : List Event} {r : Response} (only : ∀ x ∈ es, x.Negotiating)
    (answered : es.filterMap Event.response? = [r]) :
    ∃ before after, es = before ++ .responded r :: after ∧ (∀ x ∈ before, x.Quiet) ∧
      ∀ x ∈ after, x.Quiet := by
  induction es with
  | nil => simp at answered
  | cons x es ih =>
    have first : x.Negotiating := only x List.mem_cons_self
    have others : ∀ y ∈ es, y.Negotiating := fun y member => only y (List.mem_cons_of_mem x member)
    cases response : x.response? with
    | none =>
      rw [List.filterMap_cons_none response] at answered
      obtain ⟨before, after, rfl, quiet, more⟩ := ih others answered
      refine ⟨x :: before, after, rfl, ?_, more⟩
      intro y member
      rcases List.mem_cons.mp member with rfl | member
      · exact Event.quiet_of_negotiating first response
      · exact quiet y member
    | some found =>
      rw [List.filterMap_cons_some response] at answered
      obtain ⟨rfl, silent⟩ := List.cons.inj answered
      have named : x = .responded found := by
        cases x <;> simp_all [Event.response?]
      refine ⟨[], es, by simp [named], by simp, ?_⟩
      intro y member
      exact Event.quiet_of_negotiating (others y member)
        (List.filterMap_eq_nil_iff.mp silent y member)

theorem registers_of_accepted {r : Response} (accepted : r.isAccepted = true)
    (asked : r.sessionRequested = true) : r.Registers := by
  rcases status_of_accepted accepted with status | ⟨status, _⟩
  · exact ⟨.inl status, asked⟩
  · exact ⟨.inr status, asked⟩

theorem accepted_of_registers {r : Response} (registers : r.Registers) : r.isAccepted = true := by
  obtain ⟨status | status, asked⟩ := registers
  · simp [Response.isAccepted, status]
  · simp [Response.isAccepted, status, asked]

theorem not_registers_of_rejected {r : Response} (rejected : r.isAccepted = false) :
    ¬ r.Registers := by
  intro registers
  simp [accepted_of_registers registers] at rejected

theorem Concluded.finish {e : Engine} {response : Response} {handler : CallbackHandler}
    {h last : Host} {result : Except ExchangeError Bool}
    (concluded : Concluded e response handler h result last) :
    ∃ after finish, last.journal.events = h.journal.events ++ (after ++ finish) ∧
      (∀ x ∈ after, x.Quiet) ∧ Finish response result finish := by
  have resolving {identity : Identity} {j : Journal}
      (resolved : handler.authorizedIdentity h.journal = (identity, j)) :
      ∃ added, j.events = h.journal.events ++ added ∧ ∀ x ∈ added, x.Quiet := by
    obtain ⟨added, grown, only⟩ := handler.authorizedIdentity_adds.grows resolved
    exact ⟨added, grown, fun x member => (only x member).quiet⟩
  cases concluded with
  | unaccepted rejected => exact ⟨[], [], by simp, by simp, .unaccepted rejected⟩
  | announced identity j status unasked resolved =>
    obtain ⟨added, grown, quiet⟩ := resolving resolved
    refine ⟨added, _, ?_, quiet, .announced identity (response.resolvedAuthType e.mechanism)
      (.authenticated identity.displayName (response.resolvedAuthType e.mechanism)) status unasked⟩
    simp [announcing, grown]
  | unregistered identity j accepted asked resolved remembered =>
    obtain ⟨added, grown, quiet⟩ := resolving resolved
    have registers := registers_of_accepted accepted asked
    rcases remembered.added_error with written | ⟨id, written⟩
    · exact ⟨added, _, by simp [written, grown], quiet, .unmade _ registers⟩
    · exact ⟨added, writing id ⟨identity, some (response.resolvedAuthType e.mechanism)⟩,
        by simp [written, grown], quiet, .unwritten _ id _ _ registers⟩
  | registered identity j status asked resolved remembered =>
    obtain ⟨added, grown, quiet⟩ := resolving resolved
    obtain ⟨id, written⟩ := remembered.added_ok
    refine ⟨added, _, ?_, quiet, .registered id identity (response.resolvedAuthType e.mechanism)
      (.authenticated identity.displayName (response.resolvedAuthType e.mechanism))
      ⟨.inl status, asked⟩ status⟩
    simp [announcing, written, grown]
  | deferred identity j status asked resolved remembered =>
    obtain ⟨added, grown, quiet⟩ := resolving resolved
    obtain ⟨id, written⟩ := remembered.added_ok
    exact ⟨added, writing id ⟨identity, some (response.resolvedAuthType e.mechanism)⟩,
      by simp [written, grown], quiet, .deferred id _ _ ⟨.inr status, asked⟩ status⟩

/-- Without a response, all that asking a provider adds is quiet. -/
theorem quiet_of_unanswered {es : List Event} (only : ∀ x ∈ es, x.Negotiating)
    (answered : es.filterMap Event.response? = []) : ∀ x ∈ es, x.Quiet :=
  fun x member =>
    Event.quiet_of_negotiating (only x member) (List.filterMap_eq_nil_iff.mp answered x member)

theorem Ended.course {e : Engine} {p : Provider} {h last : Host}
    {result : Except ExchangeError Bool} (ended : Ended e p h result last) :
    ∃ added, last.journal.events = h.journal.events ++ added ∧ Course result added := by
  cases ended with
  | unrecalled next recalled =>
    obtain ⟨added, grown, looking⟩ := recalled.added
    exact ⟨added, grown, .unrecalled _ added looking⟩
  | restored next r recalled =>
    obtain ⟨added, grown, looking⟩ := recalled.added
    have noted : ∀ x ∈ added ++ [.notice (.recordRestored r.identity.displayName)], x.Looking :=
      List.forall_mem_append.mpr ⟨looking, by simp [Event.Looking]⟩
    refine ⟨_, ?_, .restored _ r.identity (r.authType.getD e.mechanism) noted⟩
    simp [announcing, grown]
  | refused next cause j recalled asked =>
    obtain ⟨added, grown, looking⟩ := recalled.added
    obtain ⟨talk, more, only, answered⟩ := ask_added asked
    have talking := quiet_of_unanswered only answered
    refine ⟨added ++ (talk ++ [.notice (.authenticationFailed cause), .statusSet 500]),
      by simp [answering, more, grown], .unanswered _ ?_⟩
    refine List.forall_mem_append.mpr ⟨fun x member => (looking x member).quiet, ?_⟩
    exact List.forall_mem_append.mpr ⟨talking, by simp [Event.Quiet]⟩
  | declined next j recalled asked =>
    obtain ⟨added, grown, looking⟩ := recalled.added
    obtain ⟨talk, more, only, answered⟩ := ask_added asked
    have talking := quiet_of_unanswered only answered
    refine ⟨added ++ talk, by simp [more, grown], .unanswered _ ?_⟩
    exact List.forall_mem_append.mpr ⟨fun x member => (looking x member).quiet, talking⟩
  | concluded next response handler j recalled asked end_ =>
    obtain ⟨added, grown, looking⟩ := recalled.added
    obtain ⟨talk, more, only, answered⟩ := ask_added asked
    obtain ⟨before, after, rfl, quiet, later⟩ := split_response only answered
    have first : ∀ x ∈ added ++ before, x.Quiet :=
      List.forall_mem_append.mpr ⟨fun x member => (looking x member).quiet, quiet⟩
    obtain ⟨resolving, finish, ending, still, finished⟩ := end_.finish
    refine ⟨_, ?_, .answered (added ++ before) (after ++ resolving) finish response first
      (List.forall_mem_append.mpr ⟨later, still⟩) finished⟩
    simp [ending, more, grown]

end Engine

end RequestAuth
