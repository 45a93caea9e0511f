import Mathlib.Data.List.Basic
import RequestAuth.Proofs.Engine.Course

/-! The effects of one call. A request is announced as authenticated last of all, a record is
written only for a response that asks for it, and the two carry the same identity. -/
namespace RequestAuth

namespace Event

def isCompletion : Event → Bool
  | .completed _ => true
  | _ => false

def isWrite : Event → Bool
  | .attributeWritten _ _ => true
  | _ => false

theorem Quiet.unfinished {x : Event} (h : x.Quiet) : x.isCompletion = false := by
  cases x <;> simp_all [Quiet, isCompletion]

theorem Quiet.unwritten {x : Event} (h : x.Quiet) : x.isWrite = false := by
  cases x <;> simp_all [Quiet, isWrite]

theorem Quiet.silent {x : Event} (h : x.Quiet) : x.response? = none := by
  cases x <;> simp_all [Quiet, response?]

theorem Quiet.sessionless {x : Event} (h : x.Quiet) : x ≠ .sessionRequested true := by
  rintro rfl
  simp [Quiet] at h

end Event

namespace Engine

open Host

/-- A completion is the end of the call, and comes exactly with the answer that the request is
authenticated. -/
theorem Course.completes {result : Except ExchangeError Bool} {es : List Event}
    (course : Course result es) :
    (result = .ok true ∧ ∃ before i a, es = before ++ [.completed (completion i a)] ∧
      ∀ x ∈ before, x.isCompletion = false) ∨
    (result ≠ .ok true ∧ ∀ x ∈ es, x.isCompletion = false) := by
  cases course with
  | unrecalled cause es looking =>
    exact .inr ⟨by simp, fun x member => (looking x member).quiet.unfinished⟩
  | restored es i a looking =>
    exact .inl ⟨rfl, es, i, a, rfl, fun x member => (looking x member).quiet.unfinished⟩
  | unanswered es quiet => exact .inr ⟨by simp, fun x member => (quiet x member).unfinished⟩
  | answered before after finish r quiet later finished =>
    have start : ∀ x ∈ before ++ .responded r :: after, x.isCompletion = false :=
      List.forall_mem_append.mpr ⟨fun x member => (quiet x member).unfinished,
        List.forall_mem_cons.mpr ⟨rfl, fun x member => (later x member).unfinished⟩⟩
    have split (tail : List Event) : before ++ .responded r :: (after ++ tail) =
        (before ++ .responded r :: after) ++ tail := by simp
    have unfinished {tail : List Event} (rest : ∀ x ∈ tail, x.isCompletion = false) :
        ∀ x ∈ before ++ .responded r :: (after ++ tail), x.isCompletion = false := by
      rw [split]
      exact List.forall_mem_append.mpr ⟨start, rest⟩
    cases finished with
    | unaccepted rejected => exact .inr ⟨by simp, unfinished (by simp)⟩
    | announced i a n status unasked =>
      refine .inl ⟨rfl, (before ++ .responded r :: after) ++ [.notice n], i, a, by simp, ?_⟩
      exact List.forall_mem_append.mpr ⟨start, by simp [Event.isCompletion]⟩
    | unmade cause registers => exact .inr ⟨by simp, unfinished (by simp [Event.isCompletion])⟩
    | unwritten cause id i a registers =>
      exact .inr ⟨by simp, unfinished (by simp [writing, Event.isCompletion])⟩
    | registered id i a n registers status =>
      refine .inl ⟨rfl,
        (before ++ .responded r :: after) ++ (writing id ⟨i, some a⟩ ++ [.notice n]), i, a, by simp, ?_⟩
      exact List.forall_mem_append.mpr ⟨start, by simp [writing, Event.isCompletion]⟩
    | deferred id i a registers status =>
      exact .inr ⟨by simp, unfinished (by simp [writing, Event.isCompletion])⟩

theorem Finish.writes {r : Response} {result : Except ExchangeError Bool} {es : List Event}
    (finished : Finish r result es) :
    (∀ x ∈ es, x.isWrite = false) ∨ ∃ id i a tail, r.Registers ∧
      es = writing id ⟨i, some a⟩ ++ tail ∧ (∀ x ∈ tail, x.isWrite = false) ∧
      ∀ c, .completed c ∈ tail → c = completion i a := by
  cases finished with
  | unaccepted rejected => exact .inl (by simp)
  | announced i a n status unasked => exact .inl (by simp [Event.isWrite])
  | unmade cause registers => exact .inl (by simp [Event.isWrite])
  | unwritten cause id i a registers =>
    exact .inr ⟨id, i, a, [], registers, by simp, by simp, by simp⟩
  | registered id i a n registers status =>
    exact .inr ⟨id, i, a, [.notice n, .completed (completion i a)], registers, rfl,
      by simp [Event.isWrite], by simp⟩
  | deferred id i a registers status =>
    exact .inr ⟨id, i, a, [], registers, by simp, by simp, by simp⟩

/-- A write is of a record, comes after a response that asks for it and before the completion, and
the completion has the identity and the mechanism of the record. -/
theorem Course.writes {result : Except ExchangeError Bool} {es : List Event}
    (course : Course result es) :
    (∀ x ∈ es, x.isWrite = false) ∨
    ∃ before after r i a, r.Registers ∧ .responded r ∈ before ∧
      es = before ++ .attributeWritten WellKnown.identityRecordKey
        (IdentityRecord.encode ⟨i, some a⟩) :: after ∧
      (∀ x ∈ before, x.isWrite = false ∧ x.isCompletion = false) ∧
      (∀ x ∈ after, x.isWrite = false) ∧ ∀ c, .completed c ∈ after → c = completion i a := by
  cases course with
  | unrecalled cause es looking =>
    exact .inl fun x member => (looking x member).quiet.unwritten
  | restored es i a looking =>
    exact .inl (List.forall_mem_append.mpr
      ⟨fun x member => (looking x member).quiet.unwritten, by simp [Event.isWrite]⟩)
  | unanswered es quiet => exact .inl fun x member => (quiet x member).unwritten
  | answered before after finish r quiet later finished =>
    rcases finished.writes with rest | ⟨id, i, a, tail, registers, rfl, rest, same⟩
    · refine .inl (List.forall_mem_append.mpr ⟨fun x member => (quiet x member).unwritten, ?_⟩)
      exact List.forall_mem_cons.mpr ⟨rfl,
        List.forall_mem_append.mpr ⟨fun x member => (later x member).unwritten, rest⟩⟩
    · refine .inr ⟨before ++ .responded r :: (after ++ [.sessionRequested true,
        .notice (.recordStored id i.displayName)]), tail, r, i, a, registers, by simp,
        by simp [writing], ?_, rest, same⟩
      refine List.forall_mem_append.mpr ⟨?_, List.forall_mem_cons.mpr ⟨⟨rfl, rfl⟩, ?_⟩⟩
      · exact fun x member => ⟨(quiet x member).unwritten, (quiet x member).unfinished⟩
      · refine List.forall_mem_append.mpr ⟨?_, by simp [Event.isWrite, Event.isCompletion]⟩
        exact fun x member => ⟨(later x member).unwritten, (later x member).unfinished⟩

/-- What follows a response asks for a session exactly if the response does. -/
theorem Finish.sessions {r : Response} {result : Except ExchangeError Bool} {es : List Event}
    (finished : Finish r result es) :
    (.sessionRequested true ∈ es ↔ r.Registers) ∧ ∀ x ∈ es, x.response? = none := by
  cases finished with
  | unaccepted rejected =>
    simp [not_registers_of_rejected rejected]
  | announced i a n status unasked =>
    simp [Response.Registers, unasked, Event.response?]
  | unmade cause registers => simp [registers, Event.response?]
  | unwritten cause id i a registers => simp [writing, registers, Event.response?]
  | registered id i a n registers status => simp [writing, registers, Event.response?]
  | deferred id i a registers status => simp [writing, registers, Event.response?]

/-- A session is made for a response that asks for it, and for no other reason. -/
theorem Course.sessions {result : Except ExchangeError Bool} {es : List Event}
    (course : Course result es) :
    .sessionRequested true ∈ es ↔ ∃ r, .responded r ∈ es ∧ r.Registers := by
  have silent {es : List Event} (quiet : ∀ x ∈ es, x.Quiet) (r : Response) : .responded r ∉ es :=
    fun responded => quiet _ responded
  have sessionless {es : List Event} (quiet : ∀ x ∈ es, x.Quiet) : .sessionRequested true ∉ es :=
    fun asked => (quiet _ asked).sessionless rfl
  cases course with
  | unrecalled cause es looking =>
    have quiet : ∀ x ∈ es, x.Quiet := fun x member => (looking x member).quiet
    simp [sessionless quiet, silent quiet]
  | restored es i a looking =>
    have quiet : ∀ x ∈ es, x.Quiet := fun x member => (looking x member).quiet
    simp [sessionless quiet, silent quiet]
  | unanswered es quiet => simp [sessionless quiet, silent quiet]
  | answered before after finish r quiet later finished =>
    obtain ⟨sessions, unanswered⟩ := finished.sessions
    have once (r' : Response) : .responded r' ∉ finish :=
      fun responded => by simpa [Event.response?] using unanswered _ responded
    simp [sessionless quiet, sessionless later, silent quiet, silent later, once, sessions]

/-- A provider that was asked, and whose response is not accepted, brings nothing about. -/
theorem Course.refuses {result : Except ExchangeError Bool} {es : List Event}
    (course : Course result es) (asked : ∃ c, .providerCalled c ∈ es)
    (refused : ∀ r, .responded r ∈ es → r.isAccepted = false) :
    result = .ok false ∧ ∀ x ∈ es, x.Quiet ∨ ∃ r, x = .responded r := by
  obtain ⟨call, asked⟩ := asked
  cases course with
  | unrecalled cause es looking => simpa [Event.call?] using (looking _ asked).unasked
  | restored es i a looking =>
    have looked : .providerCalled call ∈ es := by simpa using asked
    simpa [Event.call?] using (looking _ looked).unasked
  | unanswered es quiet => exact ⟨rfl, fun x member => .inl (quiet x member)⟩
  | answered before after finish r quiet later finished =>
    have rejected : r.isAccepted = false := refused r (by simp)
    have unregistered := not_registers_of_rejected rejected
    cases finished with
    | unaccepted _ =>
      refine ⟨rfl, List.forall_mem_append.mpr ⟨fun x member => .inl (quiet x member), ?_⟩⟩
      refine List.forall_mem_cons.mpr ⟨.inr ⟨r, rfl⟩, ?_⟩
      intro x member
      exact .inl (later x (by simpa using member))
    | announced i a n status unasked => simp [Response.isAccepted, status] at rejected
    | unmade cause registers => exact absurd registers unregistered
    | unwritten cause id i a registers => exact absurd registers unregistered
    | registered id i a n registers status => exact absurd registers unregistered
    | deferred id i a registers status => exact absurd registers unregistered

/-- How the effects of a call hang together with each other and with its result. -/
structure Orderly (result : Except ExchangeError Bool) (effects : List Event) : Prop where
  completes_iff : (∃ c, .completed c ∈ effects) ↔ result = .ok true
  completes_once : effects.countP Event.isCompletion ≤ 1
  completes_last : ∀ before c after, effects = before ++ .completed c :: after → after = []
  completes_labelled : ∀ c, .completed c ∈ effects →
    Text.isBlank c.authType.text = false ∧ c.layer = "HttpServlet"
  writes_once : effects.countP Event.isWrite ≤ 1
  writes_record : ∀ before key value after,
    effects = before ++ .attributeWritten key value :: after →
    key = WellKnown.identityRecordKey ∧ (∃ r, .responded r ∈ before ∧ r.Registers) ∧
      ∀ c, .completed c ∉ before
  makes_session_iff : .sessionRequested true ∈ effects ↔ ∃ r, .responded r ∈ effects ∧ r.Registers
  agrees : ∀ key value c, .attributeWritten key value ∈ effects → .completed c ∈ effects →
    IdentityRecord.decode value = .ok ⟨c.identity, some c.authType⟩
  /-- A provider that was asked and gave no response, as when it declines, or none that counts. -/
  refuses : (∃ call, .providerCalled call ∈ effects) →
    (∀ r, .responded r ∈ effects → r.status = .sendFailure ∨ r.status = .sendContinue ∨
      r.status = .sendSuccess ∧ r.sessionRequested = false) →
    result = .ok false ∧ .sessionRequested true ∉ effects ∧
      ∀ x ∈ effects, x.isWrite = false ∧ x.isCompletion = false

/-- Splits of a list at its only element of a class are the same split. -/
theorem split_unique {q : Event → Bool} {before after before' after' : List Event} {x y : Event}
    (clear : ∀ z ∈ before, q z = false) (rest : ∀ z ∈ after, q z = false) (here : q y = true)
    (same : before ++ x :: after = before' ++ y :: after') :
    before' = before ∧ y = x ∧ after' = after := by
  have early : y ∉ before := fun member => by simp [clear y member] at here
  have late : y ∉ after := fun member => by simp [rest y member] at here
  obtain ⟨rfl, rfl, rfl⟩ := (List.append_cons_inj_of_notMem early late).mp same
  exact ⟨rfl, rfl, rfl⟩

theorem countP_le_one {q : Event → Bool} {before after : List Event} {x : Event}
    (clear : ∀ z ∈ before, q z = false) (rest : ∀ z ∈ after, q z = false) :
    (before ++ x :: after).countP q ≤ 1 := by
  have none_before : before.countP q = 0 := List.countP_eq_zero.mpr (by simpa using clear)
  have none_after : after.countP q = 0 := List.countP_eq_zero.mpr (by simpa using rest)
  rw [List.countP_append, List.countP_cons, none_before, none_after]
  split <;> omega

theorem Course.orderly {result : Except ExchangeError Bool} {es : List Event}
    (course : Course result es) : Orderly result es where
  completes_iff := by
    rcases course.completes with ⟨done, before, i, a, rfl, -⟩ | ⟨undone, unfinished⟩
    · exact ⟨fun _ => done, fun _ => ⟨completion i a, by simp⟩⟩
    · refine ⟨?_, fun done => absurd done undone⟩
      rintro ⟨c, member⟩
      simpa [Event.isCompletion] using unfinished _ member
  completes_once := by
    rcases course.completes with ⟨done, before, i, a, rfl, clear⟩ | ⟨undone, unfinished⟩
    · exact countP_le_one clear (by simp)
    · rw [List.countP_eq_zero.mpr (by simpa using unfinished)]
      omega
  completes_last := by
    intro start c finish split
    rcases course.completes with ⟨done, before, i, a, rfl, clear⟩ | ⟨undone, unfinished⟩
    · exact (split_unique clear (by simp) rfl split).2.2
    · have := unfinished (.completed c) (by simp [split])
      simp [Event.isCompletion] at this
  completes_labelled := by
    intro c member
    rcases course.completes with ⟨done, before, i, a, rfl, clear⟩ | ⟨undone, unfinished⟩
    · refine ⟨c.authType.notBlank, ?_⟩
      rcases List.mem_append.mp member with early | last
      · simpa [Event.isCompletion] using clear _ early
      · have same : c = completion i a := by simpa using last
        rw [same]
        rfl
    · simpa [Event.isCompletion] using unfinished _ member
  writes_once := by
    rcases course.writes with unwritten | ⟨before, after, r, i, a, -, -, rfl, clear, rest, -⟩
    · rw [List.countP_eq_zero.mpr (by simpa using unwritten)]
      omega
    · exact countP_le_one (fun x member => (clear x member).1) rest
  writes_record := by
    intro start key value finish split
    rcases course.writes with unwritten |
      ⟨before, after, r, i, a, registers, asked, rfl, clear, rest, -⟩
    · have := unwritten (.attributeWritten key value) (by simp [split])
      simp [Event.isWrite] at this
    · obtain ⟨rfl, same, -⟩ := split_unique (fun x member => (clear x member).1) rest rfl split
      cases same
      refine ⟨rfl, ⟨r, asked, registers⟩, fun c member => ?_⟩
      simpa [Event.isCompletion] using (clear _ member).2
  makes_session_iff := course.sessions
  agrees := by
    intro key value c written completed
    rcases course.writes with unwritten | ⟨before, after, r, i, a, -, -, rfl, clear, rest, same⟩
    · simpa [Event.isWrite] using unwritten _ written
    · have value_eq : value = IdentityRecord.encode ⟨i, some a⟩ := by
        simp only [List.mem_append, List.mem_cons, Event.attributeWritten.injEq] at written
        rcases written with early | ⟨-, same⟩ | late
        · simpa [Event.isWrite] using (clear _ early).1
        · exact same
        · simpa [Event.isWrite] using rest _ late
      have completion_eq : c = completion i a := by
        simp only [List.mem_append, List.mem_cons, reduceCtorEq, false_or] at completed
        rcases completed with early | late
        · simpa [Event.isCompletion] using (clear _ early).2
        · exact same c late
      rw [value_eq, completion_eq, IdentityRecord.decode_encode]
      rfl
  refuses := by
    intro asked refused
    have rejected : ∀ r, .responded r ∈ es → r.isAccepted = false := by
      intro r responded
      rcases refused r responded with status | status | ⟨status, unasked⟩
      · simp [Response.isAccepted, status]
      · simp [Response.isAccepted, status]
      · simp [Response.isAccepted, status, unasked]
    obtain ⟨unauthenticated, still⟩ := course.refuses asked rejected
    refine ⟨unauthenticated, fun member => ?_, fun x member => ?_⟩
    · rcases still _ member with quiet | ⟨r, impossible⟩
      · exact quiet.sessionless rfl
      · simp at impossible
    · rcases still x member with quiet | ⟨r, rfl⟩
      · exact ⟨quiet.unwritten, quiet.unfinished⟩
      · exact ⟨rfl, rfl⟩

/-- One call that finds a provider has its effects in order, whatever the provider does, whatever
the session holds and whichever operations fail. -/
theorem authenticate_orderly {e : Engine} {registry : Registry} {p : Provider} {h : Host}
    (selected : e.Selects registry p) (unauthenticated : h.context.isAuthenticated = false) :
    ∃ effects, (e.authenticate registry h).2.journal.events = h.journal.events ++ effects ∧
      Orderly (e.authenticate registry h).1 effects := by
  obtain ⟨n, ended⟩ := authenticate_cases selected unauthenticated
  obtain ⟨added, grown, course⟩ := ended.course
  exact ⟨.notice n :: added, by simp [grown], (course.noted n).orderly⟩

/-- The hypotheses are met by a provider that has an anonymous caller cached, on a request without
session. -/
theorem authenticate_orderly_steady :
    let p := Provider.steady [.caller none] (Response.registerSession ⟨.success, ∅⟩ true)
    let e := plain ⟨fun _ => none, fun _ _ => false⟩
    let h : Host := ⟨{}, {}, {}, ⟨⟨fun _ => default, 0⟩, []⟩⟩
    e.Selects (.serving p) p ∧ h.context.isAuthenticated = false ∧
      ∃ effects, (e.authenticate (.serving p) h).2.journal.events = h.journal.events ++ effects ∧
        Orderly (e.authenticate (.serving p) h).1 effects :=
  ⟨plain_selects _ _, rfl, authenticate_orderly (plain_selects _ _) rfl⟩

end Engine
end RequestAuth
