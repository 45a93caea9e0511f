import RequestAuth.Proofs.Engine.Course
import RequestAuth.Proofs.Session.Footprint

/-! Where the operations on the sessions fail. Looking for a record and storing one come to an error
with the first operation that does, and then have changed no record but one that cannot be read. -/
namespace RequestAuth

namespace Event

/-- Nothing that the response, the security context or the base mechanism is told. -/
def Inward : Event → Prop
  | .statusSet _ | .completed _ | .fallbackCalled => False
  | _ => True

def status? : Event → Option Nat
  | .statusSet code => some code
  | _ => none

def isSessionOperation : Event → Bool
  | .sessionRequested _ | .attributeRead _ | .attributeWritten _ _ | .attributeRemoved _ => true
  | _ => false

theorem Inward.statusless {x : Event} (h : x.Inward) : x.status? = none := by
  cases x <;> simp_all [Inward, status?]

theorem Looking.inward {x : Event} (h : x.Looking) : x.Inward := by
  cases x <;> simp_all [Looking, Inward]

theorem Negotiating.inward {x : Event} (h : x.Negotiating) : x.Inward := by
  cases x <;> simp_all [Negotiating, Consulting, call?, response?, Inward]

theorem Negotiating.not_sessionOperation {x : Event} (h : x.Negotiating) :
    x.isSessionOperation = false := by
  cases x <;> simp_all [Negotiating, Consulting, call?, response?, isSessionOperation]

theorem statuses_of_inward {es : List Event} (inward : ∀ x ∈ es, x.Inward) :
    es.filterMap status? = [] :=
  List.filterMap_eq_nil_iff.mpr fun x member => (inward x member).statusless

end Event

namespace Host

/-- The error that an operation on the sessions comes to on this host, if it fails. To be given no
session where one was to be made is a failure too. -/
def failure? (h : Host) : Event → Option ExchangeError
  | .sessionRequested false => h.exchange.outage.sessionLookup
  | .sessionRequested true =>
    h.exchange.outage.sessionCreation.or
      (if h.currentSession.isNone && h.exchange.outage.withholds then some sessionNotCreated
      else none)
  | .attributeRead _ => h.exchange.outage.attributeRead
  | .attributeWritten _ _ => h.exchange.outage.attributeWrite
  | .attributeRemoved _ => h.exchange.outage.attributeRemoval
  | _ => none

/-- The operations of the host answer with the errors of `failure?` and with no others. -/
theorem attribute?_error_iff {h : Host} {id key : String} {cause : ExchangeError} :
    (attribute? id key h).1 = .error cause ↔ h.failure? (.attributeRead key) = some cause := by
  cases reading : h.exchange.outage.attributeRead with
  | none => simp [attribute?_works reading, failure?, reading]
  | some e => simp [attribute?_fails reading, failure?, reading]

theorem setAttribute_error_iff {h : Host} {id key : String} {value : Json} {cause : ExchangeError} :
    (setAttribute id key value h).1 = .error cause ↔
      h.failure? (.attributeWritten key value) = some cause := by
  cases writing : h.exchange.outage.attributeWrite with
  | none => simp [setAttribute_works writing, failure?, writing]
  | some e => simp [setAttribute_fails writing, failure?, writing]

theorem removeAttribute_error_iff {h : Host} {id key : String} {cause : ExchangeError} :
    (removeAttribute id key h).1 = .error cause ↔
      h.failure? (.attributeRemoved key) = some cause := by
  cases removing : h.exchange.outage.attributeRemoval with
  | none => simp [removeAttribute_works removing, failure?, removing]
  | some e => simp [removeAttribute_fails removing, failure?, removing]

theorem session_error_iff {h : Host} {create : Bool} {cause : ExchangeError} :
    (session create h).1 = .error cause ∨
        create = true ∧ (session create h).1 = .ok none ∧ cause = sessionNotCreated ↔
      h.failure? (.sessionRequested create) = some cause := by
  cases create with
  | false =>
    cases lookup : h.exchange.outage.sessionLookup with
    | some e =>
      have run : session false h = (.error e, _) := session_fails (by simpa using lookup)
      simp [run, failure?, lookup]
    | none =>
      cases found : h.currentSession with
      | some s =>
        have run : session false h = (.ok (some s.id), _) :=
          session_existing (by simpa using lookup) found
        simp [run, failure?, lookup]
      | none =>
        have run : session false h = (.ok none, _) :=
          session_absent (by simpa using lookup) found rfl
        simp [run, failure?, lookup]
  | true =>
    cases creation : h.exchange.outage.sessionCreation with
    | some e =>
      have run : session true h = (.error e, _) := session_fails (by simpa using creation)
      simp [run, failure?, creation]
    | none =>
      cases found : h.currentSession with
      | some s =>
        have run : session true h = (.ok (some s.id), _) :=
          session_existing (by simpa using creation) found
        simp [run, failure?, creation, found]
      | none =>
        cases withholding : h.exchange.outage.withholds with
        | true =>
          have run : session true h = (.ok none, _) :=
            session_absent (by simpa using creation) found (by simp [withholding])
          simp [run, failure?, creation, found, withholding, eq_comm]
        | false =>
          simp [session_made creation found withholding, failure?, creation, found, withholding]

theorem failure?_of_not_sessionOperation {x : Event} (h : Host)
    (inert : x.isSessionOperation = false) : h.failure? x = none := by
  cases x <;> simp_all [Event.isSessionOperation, failure?]

/-- Which operations fail is a matter of the outage, and of whether there is a session. -/
theorem failure?_congr {h next : Host} (outage : next.exchange.outage = h.exchange.outage)
    (session : next.currentSession.isSome = h.currentSession.isSome) :
    next.failure? = h.failure? := by
  have absence : next.currentSession.isNone = h.currentSession.isNone := by
    rw [← Option.not_isSome, session, Option.not_isSome]
  funext x
  cases x with
  | sessionRequested create => cases create <;> simp [failure?, outage, absence]
  | _ => simp [failure?, outage]

end Host

/-- None of these events is an operation that fails. -/
def Works (failure? : Event → Option ExchangeError) (es : List Event) : Prop :=
  ∀ x ∈ es, failure? x = none

/-- An operation fails with this error, after others that worked, and is the last event. -/
inductive Breaks (failure? : Event → Option ExchangeError) (cause : ExchangeError) :
    List Event → Prop
  | last (before : List Event) (x : Event) (worked : Works failure? before)
    (fails : failure? x = some cause) : Breaks failure? cause (before ++ [x])

section Breaks

variable {failure? : Event → Option ExchangeError} {cause : ExchangeError}
  {first es before after : List Event}

theorem Works.append (worked : Works failure? first) (works : Works failure? es) :
    Works failure? (first ++ es) :=
  List.forall_mem_append.mpr ⟨worked, works⟩

theorem Breaks.prepend (worked : Works failure? first) (breaks : Breaks failure? cause es) :
    Breaks failure? cause (first ++ es) := by
  cases breaks with
  | last before x worked' fails =>
    rw [← List.append_assoc]
    exact .last _ x (worked.append worked') fails

theorem Breaks.findSome? (breaks : Breaks failure? cause es) :
    es.findSome? failure? = some cause := by
  cases breaks with
  | last before x worked fails =>
    rw [List.findSome?_append, List.findSome?_eq_none_iff.mpr worked, Option.none_or]
    simp [fails]

theorem Breaks.stops {x : Event} (breaks : Breaks failure? cause es)
    (split : es = before ++ x :: after) (failed : (failure? x).isSome) : after = [] := by
  cases breaks with
  | last start y worked fails =>
    rcases List.eq_nil_or_concat after with rfl | ⟨middle, z, rfl⟩
    · rfl
    · have same : start ++ [y] = (before ++ x :: middle) ++ [z] := by simpa using split
      have member : x ∈ start := by
        rw [(List.append_inj' same rfl).1]
        simp
      simp [worked x member] at failed

end Breaks

namespace Host

theorem works_of_negotiating {es : List Event} (h : Host) (only : ∀ x ∈ es, x.Negotiating) :
    Works h.failure? es :=
  fun x member => h.failure?_of_not_sessionOperation (only x member).not_sessionOperation

theorem works_of_ending (h : Host) (n : Notice) (c : Completion) :
    Works h.failure? [.notice n, .completed c] := by
  simp [Works, failure?]

/-- Looking for a record ends with an error where an operation fails, and there only. -/
theorem Recalled.breaks {h next : Host} {cause : ExchangeError}
    (recalled : Recalled h (.error cause) next) :
    ∃ es, next.journal.events = h.journal.events ++ es ∧ (∀ x ∈ es, x.Looking) ∧
      Breaks h.failure? cause es := by
  cases recalled with
  | lookupFails fails => exact ⟨_, rfl, by simp [Event.Looking], .last [] _ (by simp [Works]) fails⟩
  | readFails works found fails =>
    refine ⟨_, rfl, by simp [Event.Looking], .last [.sessionRequested false] _ ?_ fails⟩
    simp [Works, failure?, works]
  | removalFails works found reads stored corrupt fails =>
    refine ⟨_, rfl, by simp [Event.Looking], .last [_, _, _] _ ?_ fails⟩
    simp [Works, failure?, works, reads]

theorem Recalled.works {h next : Host} {found : Option IdentityRecord}
    (recalled : Recalled h (.ok found) next) :
    ∃ es, next.journal.events = h.journal.events ++ es ∧ (∀ x ∈ es, x.Looking) ∧
      Works h.failure? es := by
  cases recalled with
  | noSession works absent =>
    exact ⟨_, rfl, by simp [Event.Looking], by simp [Works, failure?, works]⟩
  | noRecord works found reads absent =>
    exact ⟨_, rfl, by simp [Event.Looking], by simp [Works, failure?, works, reads]⟩
  | restored works found reads stored valid =>
    exact ⟨_, rfl, by simp [Event.Looking], by simp [Works, failure?, works, reads]⟩
  | removed works found reads stored corrupt removes =>
    exact ⟨_, rfl, by simp [Event.Looking], by simp [Works, failure?, works, reads, removes]⟩

theorem Attached.works {h next : Host} {id : String} (attached : Attached h id next)
    (works : h.exchange.outage.sessionCreation = none) :
    h.failure? (.sessionRequested true) = none := by
  cases attached with
  | existing found => simp [failure?, works, found]
  | made absent granted => simp [failure?, works, granted]

/-- Storing a record ends with an error where an operation fails, and there only. -/
theorem Remembered.breaks {r : IdentityRecord} {h next : Host} {cause : ExchangeError}
    (remembered : Remembered r h (.error cause) next) :
    (∃ es, next.journal.events = h.journal.events ++ es ∧ (∀ x ∈ es, x.Inward) ∧
        Breaks h.failure? cause es) ∧ next.context = h.context := by
  cases remembered with
  | sessionFails fails =>
    refine ⟨⟨_, rfl, by simp [Event.Inward], .last [] _ (by simp [Works]) ?_⟩, rfl⟩
    simp [failure?, fails]
  | withheld works absent refused =>
    refine ⟨⟨_, rfl, by simp [Event.Inward], .last [] _ (by simp [Works]) ?_⟩, rfl⟩
    simp [failure?, works, absent, refused]
  | writeFails id works attached fails =>
    have granted : h.failure? (.sessionRequested true) = none := attached.works works
    refine ⟨⟨writing id r, ?_, by simp [writing, Event.Inward], .last [_, _] _ ?_ fails⟩, ?_⟩
    · rw [having_events, attached.events, having_events, List.append_assoc]
      rfl
    · exact List.forall_mem_cons.mpr ⟨granted, by simp [failure?]⟩
    · cases attached with
      | existing found => rfl
      | made absent granted => rfl

theorem Remembered.works {r : IdentityRecord} {h next : Host}
    (remembered : Remembered r h (.ok ()) next) :
    ∃ es, next.journal.events = h.journal.events ++ es ∧ (∀ x ∈ es, x.Inward) ∧
      Works h.failure? es := by
  obtain ⟨id, written⟩ := remembered.added_ok
  refine ⟨writing id r, written, by simp [writing, Event.Inward], ?_⟩
  cases remembered with
  | written id works attached writes =>
    have granted : h.failure? (.sessionRequested true) = none := attached.works works
    refine List.forall_mem_cons.mpr ⟨granted, ?_⟩
    simp [failure?, writes]

/-- The records of all sessions are what they were, but for one that cannot be read and is gone. -/
def RecordsKept (h : Host) (store : SessionStore) : Prop :=
  ∀ id, store.attribute? id WellKnown.identityRecordKey =
      h.store.attribute? id WellKnown.identityRecordKey ∨
    store.attribute? id WellKnown.identityRecordKey = none ∧
      ∃ value cause, h.store.attribute? id WellKnown.identityRecordKey = some value ∧
        IdentityRecord.decode value = .error cause

theorem Healed.recordsKept {h : Host} {store : SessionStore} (healed : h.Healed store) :
    h.RecordsKept store := by
  intro id
  rcases healed with rfl | ⟨s, value, cause, found, stored, corrupt, rfl⟩
  · exact .inl rfl
  · rw [SessionStore.attribute?_removeAttribute]
    split
    · next named => exact .inr ⟨rfl, value, cause, named ▸ stored, corrupt⟩
    · exact .inl rfl

end Host
end RequestAuth
