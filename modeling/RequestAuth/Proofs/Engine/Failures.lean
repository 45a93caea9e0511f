import RequestAuth.Proofs.Engine.Breaks
import RequestAuth.Proofs.Negotiation.Stages

/-! The two kinds of errors of one call. A provider's error ends it with status 500 and an error of
the server is passed on; neither leaves an announcement or a record behind. -/
namespace RequestAuth

namespace Engine

open Host

/-- The call with these effects asks the provider, and a stage of it fails with this error. -/
def ProviderFails (e : Engine) (p : Provider) (h : Host) (effects : List Event)
    (cause : ProviderError) : Prop :=
  (∃ call, .providerCalled call ∈ effects) ∧
    e.negotiation.Fails p (.mandatory { request := h.exchange.request } h.context.required)
      h.journal.ids cause

theorem not_providerFails_of_looking {e : Engine} {p : Provider} {h : Host} {es : List Event}
    (looking : ∀ x ∈ es, x.Looking) (cause : ProviderError) : ¬ ProviderFails e p h es cause := by
  rintro ⟨⟨call, asked⟩, -⟩
  simpa [Event.call?] using (looking _ asked).unasked

/-- Acting on a response, by whether an operation fails on the way. -/
inductive Acted (h last : Host) : Except ExchangeError Bool → List Event → Prop
  | broken (es : List Event) (breaks : Breaks h.failure? cause es) (inward : ∀ x ∈ es, x.Inward)
    (context : last.context = h.context)
    (kept : ∀ id key, last.store.attribute? id key = h.store.attribute? id key) :
    Acted h last (.error cause) es
  | regular (es : List Event) (answer : Bool) (works : Works h.failure? es)
    (statusless : ∀ x ∈ es, x.status? = none) : Acted h last (.ok answer) es

theorem Concluded.acted {e : Engine} {response : Response} {handler : CallbackHandler}
    {h last : Host} {result : Except ExchangeError Bool}
    (concluded : Concluded e response handler h result last) :
    ∃ es, last.journal.events = h.journal.events ++ es ∧ Acted h last result es := by
  have resolving {identity : Identity} {j : Journal}
      (resolved : handler.authorizedIdentity h.journal = (identity, j)) :
      ∃ added, j.events = h.journal.events ++ added ∧ ∀ x ∈ added, x.Negotiating := by
    obtain ⟨added, grown, only⟩ := handler.authorizedIdentity_adds.grows resolved
    exact ⟨added, grown, fun x member => .inl (only x member)⟩
  have statusless {es : List Event} (inward : ∀ x ∈ es, x.Inward) : ∀ x ∈ es, x.status? = none :=
    fun x member => (inward x member).statusless
  cases concluded with
  | unaccepted rejected => exact ⟨[], by simp, .regular [] false (by simp [Works]) (by simp)⟩
  | announced identity j status unasked resolved =>
    obtain ⟨added, grown, talking⟩ := resolving resolved
    refine ⟨added ++ [_, _], (announced_events _ _ _).trans (by rw [grown, List.append_assoc]),
      .regular _ true ?_ ?_⟩
    · exact (h.works_of_negotiating talking).append (h.works_of_ending _ _)
    · exact List.forall_mem_append.mpr
        ⟨statusless fun x member => (talking x member).inward, by simp [Event.status?]⟩
  | unregistered identity j accepted asked resolved remembered =>
    obtain ⟨added, grown, talking⟩ := resolving resolved
    obtain ⟨⟨es, more, inward, breaks⟩, context⟩ := remembered.breaks
    refine ⟨added ++ es, by simp [more, grown],
      .broken _ ?_ ?_ context remembered.attribute?_of_error⟩
    · exact Breaks.prepend (h.works_of_negotiating talking) breaks
    · exact List.forall_mem_append.mpr ⟨fun x member => (talking x member).inward, inward⟩
  | registered identity j status asked resolved remembered =>
    obtain ⟨added, grown, talking⟩ := resolving resolved
    obtain ⟨es, more, inward, works⟩ := remembered.works
    refine ⟨added ++ (es ++ [_, _]),
      (announced_events _ _ _).trans (by simp only [more, grown, List.append_assoc]; rfl),
      .regular _ true ?_ ?_⟩
    · exact (h.works_of_negotiating talking).append (Works.append works (h.works_of_ending _ _))
    · refine List.forall_mem_append.mpr ⟨statusless fun x member => (talking x member).inward, ?_⟩
      exact List.forall_mem_append.mpr ⟨statusless inward, by simp [Event.status?]⟩
  | deferred identity j status asked resolved remembered =>
    obtain ⟨added, grown, talking⟩ := resolving resolved
    obtain ⟨es, more, inward, works⟩ := remembered.works
    refine ⟨added ++ es, by simp [more, grown], .regular _ false ?_ ?_⟩
    · exact (h.works_of_negotiating talking).append works
    · exact List.forall_mem_append.mpr
        ⟨statusless fun x member => (talking x member).inward, statusless inward⟩

/-- How a call closes: the provider fails, an operation fails, or neither. -/
inductive Closing (e : Engine) (p : Provider) (h last : Host) :
    Except ExchangeError Bool → List Event → Prop
  | refused (looking talk : List Event) (n : Notice) (looked : ∀ x ∈ looking, x.Looking)
    (worked : Works h.failure? looking) (talked : ∀ x ∈ talk, x.Negotiating)
    (fails : ProviderFails e p h talk cause) (status : last.exchange.status = 500)
    (context : last.context = h.context) (healed : h.Healed last.store) :
    Closing e p h last (.ok false) (looking ++ (talk ++ [.notice n, .statusSet 500]))
  | broken (es : List Event) (breaks : Breaks h.failure? cause es) (inward : ∀ x ∈ es, x.Inward)
    (context : last.context = h.context) (kept : h.RecordsKept last.store)
    (unfailing : ∀ cause, ¬ ProviderFails e p h es cause) :
    Closing e p h last (.error cause) es
  | regular (es : List Event) (answer : Bool) (works : Works h.failure? es)
    (statusless : ∀ x ∈ es, x.status? = none)
    (unfailing : ∀ cause, ¬ ProviderFails e p h es cause) :
    Closing e p h last (.ok answer) es

theorem ask_opens {e : Engine} {p : Provider} {h : Host} {answer : Except ProviderError Negotiated}
    {j : Journal} {added : List Event} (asked : e.ask p h = (answer, j))
    (grown : j.events = h.journal.events ++ added) : ∃ call, .providerCalled call ∈ added := by
  obtain ⟨rest, opened⟩ :=
    e.negotiation.run_opens p h.exchange.request h.context.required h.journal
  change (e.ask p h).2.events = _ at opened
  rw [asked, grown] at opened
  rw [List.append_cancel_left opened]
  exact ⟨_, List.mem_cons_self⟩

/-- On a host that has been looked through for a record, the provider's error is the one that its
negotiation has on the host before. -/
theorem ask_error_iff {e : Engine} {p : Provider} {h next : Host} {found : Option IdentityRecord}
    {answer : Except ProviderError Negotiated} {j : Journal}
    (recalled : Recalled h (.ok found) next) (asked : e.ask p next = (answer, j))
    (cause : ProviderError) :
    answer = .error cause ↔
      e.negotiation.Fails p (.mandatory { request := h.exchange.request } h.context.required)
        h.journal.ids cause := by
  obtain ⟨exchange, context, ids, -⟩ := recalled.kept
  have came : (e.ask p next).1 = answer := congrArg Prod.fst asked
  rw [← came, ask, exchange, context, ← ids]
  exact e.negotiation.run_error_iff p h.exchange.request h.context.required next.journal cause

theorem Ended.closing {e : Engine} {p : Provider} {h last : Host}
    {result : Except ExchangeError Bool} (ended : Ended e p h result last) :
    ∃ es, last.journal.events = h.journal.events ++ es ∧ Closing e p h last result es := by
  cases ended with
  | unrecalled next recalled =>
    obtain ⟨es, grown, looking, breaks⟩ := recalled.breaks
    obtain ⟨-, context, -, healed⟩ := recalled.kept
    exact ⟨es, grown, .broken es breaks (fun x member => (looking x member).inward) context
      healed.recordsKept (not_providerFails_of_looking looking)⟩
  | restored next r recalled =>
    obtain ⟨es, grown, looking, works⟩ := recalled.works
    refine ⟨es ++ [_, _], (announced_events _ _ _).trans (by rw [grown, List.append_assoc]),
      .regular _ true ?_ ?_ ?_⟩
    · exact works.append (h.works_of_ending _ _)
    · exact List.forall_mem_append.mpr
        ⟨fun x member => (looking x member).inward.statusless, by simp [Event.status?]⟩
    · rintro cause ⟨⟨call, asked⟩, fails⟩
      have early : .providerCalled call ∈ es := by simpa using asked
      exact not_providerFails_of_looking looking cause ⟨⟨call, early⟩, fails⟩
  | refused next cause j recalled asked =>
    obtain ⟨es, grown, looking, works⟩ := recalled.works
    obtain ⟨-, context, -, healed⟩ := recalled.kept
    obtain ⟨talk, more, talking, -⟩ := ask_added asked
    have fails : ProviderFails e p h talk cause :=
      ⟨ask_opens asked more, (ask_error_iff recalled asked cause).mp rfl⟩
    refine ⟨es ++ (talk ++ [.notice (.authenticationFailed cause), .statusSet 500]), ?_, ?_⟩
    · simp [answering, more, grown]
    · exact .refused es talk _ looking works talking fails rfl context healed
  | declined next j recalled asked =>
    obtain ⟨es, grown, looking, works⟩ := recalled.works
    obtain ⟨talk, more, talking, -⟩ := ask_added asked
    refine ⟨es ++ talk, by simp [more, grown], .regular _ false ?_ ?_ ?_⟩
    · exact works.append (h.works_of_negotiating talking)
    · exact List.forall_mem_append.mpr ⟨fun x member => (looking x member).inward.statusless,
        fun x member => (talking x member).inward.statusless⟩
    · rintro cause ⟨-, fails⟩
      cases (ask_error_iff recalled asked cause).mpr fails
  | concluded next response handler j recalled asked end_ =>
    obtain ⟨es, grown, looking, works⟩ := recalled.works
    obtain ⟨exchange, context, -, healed⟩ := recalled.kept
    obtain ⟨talk, more, talking, -⟩ := ask_added asked
    obtain ⟨finish, ending, acted⟩ := end_.acted
    have same : ({ next with journal := j } : Host).failure? = h.failure? :=
      failure?_congr (congrArg Exchange.outage exchange)
        (healed.currentSession (congrArg Exchange.sessionId exchange)).2
    have start : Works h.failure? (es ++ talk) := works.append (h.works_of_negotiating talking)
    have inward : ∀ x ∈ es ++ talk, x.Inward :=
      List.forall_mem_append.mpr ⟨fun x member => (looking x member).inward,
        fun x member => (talking x member).inward⟩
    have unfailing (effects : List Event) (cause : ProviderError) :
        ¬ ProviderFails e p h effects cause := by
      rintro ⟨-, fails⟩
      cases (ask_error_iff recalled asked cause).mpr fails
    refine ⟨(es ++ talk) ++ finish, by simp [ending, more, grown], ?_⟩
    cases acted with
    | broken _ breaks inward' context' kept =>
      rw [same] at breaks
      refine .broken _ (Breaks.prepend start breaks) (List.forall_mem_append.mpr ⟨inward, inward'⟩)
        (context'.trans context) (fun id => ?_) (unfailing _)
      rw [kept]
      exact healed.recordsKept id
    | regular _ answer works' statusless =>
      rw [same] at works'
      refine .regular _ answer (start.append works') ?_ (unfailing _)
      exact List.forall_mem_append.mpr ⟨fun x member => (inward x member).statusless, statusless⟩

/-- The selection is noted before anything else. -/
theorem Closing.noted {e : Engine} {p : Provider} {h last : Host}
    {result : Except ExchangeError Bool} {es : List Event} {n : Notice}
    (closing : Closing e p (h.having [.notice n]) last result es) :
    Closing e p h last result (.notice n :: es) := by
  have unasked {es : List Event}
      (unfailing : ∀ cause, ¬ ProviderFails e p (h.having [.notice n]) es cause) :
      ∀ cause, ¬ ProviderFails e p h (.notice n :: es) cause := by
    rintro cause ⟨⟨call, asked⟩, fails⟩
    have asked : .providerCalled call ∈ es := by simpa using asked
    exact unfailing cause ⟨⟨call, asked⟩, fails⟩
  have silent : Works h.failure? [.notice n] := by simp [Works, failure?]
  cases closing with
  | refused looking talk m looked worked talked fails status context healed =>
    have looked : ∀ x ∈ .notice n :: looking, x.Looking :=
      List.forall_mem_cons.mpr ⟨trivial, looked⟩
    have worked : Works h.failure? (.notice n :: looking) := silent.append worked
    exact .refused (.notice n :: looking) talk m looked worked talked fails status context healed
  | broken es breaks inward context kept unfailing =>
    exact .broken _ (Breaks.prepend silent breaks) (List.forall_mem_cons.mpr ⟨trivial, inward⟩)
      context kept (unasked unfailing)
  | regular es answer works statusless unfailing =>
    exact .regular _ answer (silent.append works)
      (List.forall_mem_cons.mpr ⟨rfl, statusless⟩) (unasked unfailing)

/-- What the errors of a call come to. -/
structure Contained (e : Engine) (p : Provider) (h last : Host)
    (result : Except ExchangeError Bool) (effects : List Event) : Prop where
  /-- A provider's error is a refusal, and no session is touched from the first call on. -/
  refuses : ∀ cause, ProviderFails e p h effects cause →
    result = .ok false ∧ effects.filterMap Event.status? = [500] ∧ last.exchange.status = 500 ∧
      h.Healed last.store ∧ ∀ before call after, effects = before ++ .providerCalled call :: after →
        ∀ x ∈ after, x.isSessionOperation = false
  /-- The first operation that fails, and nothing else, makes the call fail. -/
  error_iff : ∀ cause, result = .error cause ↔ effects.findSome? h.failure? = some cause
  stops : ∀ before x after, effects = before ++ x :: after → (h.failure? x).isSome → after = []
  leaves : (∃ cause, ProviderFails e p h effects cause) ∨ (∃ cause, result = .error cause) →
    (∀ c, .completed c ∉ effects) ∧ .fallbackCalled ∉ effects ∧ last.context = h.context ∧
      h.RecordsKept last.store
  status_iff : (∃ code, .statusSet code ∈ effects) ↔ ∃ cause, ProviderFails e p h effects cause

/-- What comes after a call of the provider is no operation on the sessions, if there is none after
the search for a record. -/
theorem not_sessionOperation_of_asked {looking rest before after : List Event} {call : ProviderCall}
    (looked : ∀ x ∈ looking, x.Looking) (inert : ∀ x ∈ rest, x.isSessionOperation = false)
    (split : looking ++ rest = before ++ .providerCalled call :: after) :
    ∀ x ∈ after, x.isSessionOperation = false := by
  intro x member
  rcases List.append_eq_append_iff.mp split with ⟨middle, -, later⟩ | ⟨middle, early, later⟩
  · exact inert x (by simp [later, member])
  · cases middle with
    | nil =>
      have same : .providerCalled call :: after = rest := later
      exact inert x (same ▸ List.mem_cons_of_mem _ member)
    | cons y middle =>
      obtain ⟨rfl, -⟩ := List.cons.inj later
      have found : .providerCalled call ∈ looking := by simp [early]
      simpa [Event.call?] using (looked _ found).unasked

theorem Closing.contained {e : Engine} {p : Provider} {h last : Host}
    {result : Except ExchangeError Bool} {es : List Event}
    (closing : Closing e p h last result es) : Contained e p h last result es := by
  have untold {es : List Event} (inward : ∀ x ∈ es, x.Inward) :
      (∀ c, .completed c ∉ es) ∧ .fallbackCalled ∉ es :=
    ⟨fun c member => inward _ member, fun member => inward _ member⟩
  cases closing with
  | @refused cause looking talk n looked worked talked fails status context healed =>
    have worked : Works h.failure? (looking ++ (talk ++ [.notice n, .statusSet 500])) :=
      worked.append (Works.append (h.works_of_negotiating talked) (by simp [Works, failure?]))
    have inert : ∀ x ∈ talk ++ [.notice n, .statusSet 500], x.isSessionOperation = false :=
      List.forall_mem_append.mpr
        ⟨fun x member => (talked x member).not_sessionOperation, by simp [Event.isSessionOperation]⟩
    have quiet := Event.statuses_of_inward fun x member => (looked x member).inward
    have silent := Event.statuses_of_inward fun x member => (talked x member).inward
    obtain ⟨uncompleted, unfallen⟩ := untold fun x member => (looked x member).inward
    obtain ⟨uncompleted', unfallen'⟩ := untold fun x member => (talked x member).inward
    obtain ⟨⟨call, asked⟩, fails⟩ := fails
    exact {
      refuses := by
        intro _ _
        refine ⟨rfl, ?_, status, healed, fun before call after split => ?_⟩
        · rw [List.filterMap_append, List.filterMap_append, quiet, silent]
          rfl
        · exact not_sessionOperation_of_asked looked inert split
      error_iff := by simp [List.findSome?_eq_none_iff.mpr worked]
      stops := by
        intro before x after split failed
        simp [worked x (by simp [split])] at failed
      leaves := fun _ => ⟨by simp [uncompleted, uncompleted'], by simp [unfallen, unfallen'],
        context, healed.recordsKept⟩
      status_iff := ⟨fun _ => ⟨cause, ⟨call, by simp [asked]⟩, fails⟩, fun _ => ⟨500, by simp⟩⟩ }
  | @broken cause es breaks inward context kept unfailing =>
    obtain ⟨uncompleted, unfallen⟩ := untold inward
    exact {
      refuses := fun other fails => absurd fails (unfailing other)
      error_iff := fun other => by rw [breaks.findSome?, Except.error.injEq, Option.some.injEq]
      stops := fun before x after => breaks.stops
      leaves := fun _ => ⟨uncompleted, unfallen, context, kept⟩
      status_iff := by
        constructor
        · rintro ⟨code, member⟩
          exact (inward _ member).elim
        · rintro ⟨other, fails⟩
          exact absurd fails (unfailing other) }
  | regular es answer works statusless unfailing =>
    exact {
      refuses := fun other fails => absurd fails (unfailing other)
      error_iff := by simp [List.findSome?_eq_none_iff.mpr works]
      stops := by
        intro before x after split failed
        simp [works x (by simp [split])] at failed
      leaves := by
        rintro (⟨other, fails⟩ | ⟨other, impossible⟩)
        · exact absurd fails (unfailing other)
        · cases impossible
      status_iff := by
        constructor
        · rintro ⟨code, member⟩
          simpa [Event.status?] using statusless _ member
        · rintro ⟨other, fails⟩
          exact absurd fails (unfailing other) }

/-- Whatever the provider does, whatever the sessions hold and whichever operations fail, the errors
of a call that finds a provider are contained. -/
theorem authenticate_contained {e : Engine} {registry : Registry} {p : Provider} {h : Host}
    (selected : e.Selects registry p) (unauthenticated : h.context.isAuthenticated = false) :
    ∃ effects, (e.authenticate registry h).2.journal.events = h.journal.events ++ effects ∧
      Contained e p h (e.authenticate registry h).2 (e.authenticate registry h).1 effects := by
  obtain ⟨n, ended⟩ := authenticate_cases selected unauthenticated
  obtain ⟨es, grown, closing⟩ := ended.closing
  exact ⟨.notice n :: es, by simp [grown], closing.noted.contained⟩

/-- The hypotheses are met by a provider whose caller is not known to the security domain, on a
session that holds something unreadable. -/
theorem authenticate_contained_unknown :
    let p := Provider.steady [.caller (some "somebody")] ⟨.success, ∅⟩
    let e := plain ⟨fun _ => none, fun _ _ => false⟩
    let unreadable : TextMap Json := (∅ : TextMap Json).insert WellKnown.identityRecordKey .null
    let h : Host := ⟨⟨[{ id := "s", attributes := unreadable }]⟩, { sessionId := some "s" }, {},
      ⟨⟨fun _ => default, 0⟩, []⟩⟩
    e.Selects (.serving p) p ∧ h.context.isAuthenticated = false ∧
      (e.authenticate (.serving p) h).2.exchange.status = 500 ∧
      ∃ effects, (e.authenticate (.serving p) h).2.journal.events = h.journal.events ++ effects ∧
        Contained e p h (e.authenticate (.serving p) h).2 (e.authenticate (.serving p) h).1
          effects :=
  ⟨plain_selects _ _, rfl, by decide +kernel, authenticate_contained (plain_selects _ _) rfl⟩

end Engine
end RequestAuth
