import RequestAuth.Proofs.Engine.Course
import RequestAuth.Proofs.Engine.Twins
import RequestAuth.Proofs.Session.Footprint

/-! A value in the reserved attribute that is no record. A call on such a session is the call on the
session without the attribute, but for the removal of the value. -/
namespace RequestAuth

namespace Event

/-- What the provider and the base mechanism are called with. -/
def isCall : Event → Bool
  | .providerCalled _ | .fallbackCalled => true
  | _ => false

end Event

namespace Host

/-- The host with nothing in the reserved attribute of this session. -/
def cleared (h : Host) (id : String) : Host :=
  { h with store := h.store.removeAttribute id WellKnown.identityRecordKey }

theorem attached_cleared (h : Host) (id : String) :
    (h.cleared id).currentSession.map Session.id = h.currentSession.map Session.id :=
  h.attached_modify id fun _ => ⟨rfl, rfl⟩

/-- The search for a record up to the answer, and what it adds when it heals the session. -/
def looked : List Event := [.sessionRequested false, .attributeRead WellKnown.identityRecordKey]

def removal (id : String) (cause : Corruption) : List Event :=
  [.notice (.recordRemoved id cause), .attributeRemoved WellKnown.identityRecordKey]

theorem recall_absent {h : Host} {s : Session} (lookup : h.exchange.outage.sessionLookup = none)
    (reads : h.exchange.outage.attributeRead = none) (found : h.currentSession = some s)
    (absent : h.store.attribute? s.id WellKnown.identityRecordKey = none) :
    Host.recall h = (.ok none, h.having looked) := by
  have recalled := recall_cases h
  generalize Host.recall h = ended at recalled ⊢
  obtain ⟨result, next⟩ := ended
  cases recalled with
  | lookupFails fails => simp [lookup] at fails
  | noSession _ missing => simp [found] at missing
  | readFails _ _ fails => simp [reads] at fails
  | noRecord _ _ _ _ => rfl
  | restored _ there _ stored _ =>
    cases found.symm.trans there
    simp [absent] at stored
  | removalFails _ there _ stored _ _ =>
    cases found.symm.trans there
    simp [absent] at stored
  | removed _ there _ stored _ _ =>
    cases found.symm.trans there
    simp [absent] at stored

theorem recall_unreadable {h : Host} {s : Session} {value : Json} {cause : Corruption}
    (lookup : h.exchange.outage.sessionLookup = none)
    (reads : h.exchange.outage.attributeRead = none)
    (removes : h.exchange.outage.attributeRemoval = none) (found : h.currentSession = some s)
    (stored : h.store.attribute? s.id WellKnown.identityRecordKey = some value)
    (unreadable : IdentityRecord.decode value = .error cause) :
    Host.recall h = (.ok none, (h.having (looked ++ removal s.id cause)).cleared s.id) := by
  have recalled := recall_cases h
  generalize Host.recall h = ended at recalled ⊢
  obtain ⟨result, next⟩ := ended
  cases recalled with
  | lookupFails fails => simp [lookup] at fails
  | noSession _ missing => simp [found] at missing
  | readFails _ _ fails => simp [reads] at fails
  | noRecord _ there _ absent =>
    cases found.symm.trans there
    simp [absent] at stored
  | restored _ there _ stored' valid =>
    cases found.symm.trans there
    cases stored.symm.trans stored'
    cases unreadable.symm.trans valid
  | removalFails _ _ _ _ _ fails => simp [removes] at fails
  | removed _ there _ stored' corrupt _ =>
    cases found.symm.trans there
    cases stored.symm.trans stored'
    cases unreadable.symm.trans corrupt
    rfl

/-- Looking for a record where there is an unreadable value leaves a twin of the host where there is
nothing; their journals differ in the removal. -/
theorem recall_twins {h : Host} {s : Session} {value : Json} {cause : Corruption}
    (lookup : h.exchange.outage.sessionLookup = none)
    (reads : h.exchange.outage.attributeRead = none)
    (removes : h.exchange.outage.attributeRemoval = none) (found : h.currentSession = some s)
    (stored : h.store.attribute? s.id WellKnown.identityRecordKey = some value)
    (unreadable : IdentityRecord.decode value = .error cause) :
    ∃ plain healing, Host.recall (h.cleared s.id) = (.ok none, plain) ∧
      Host.recall h = (.ok none, healing) ∧
      Twins Eq (h.journal.events ++ looked) (h.journal.events ++ (looked ++ removal s.id cause))
        plain healing := by
  obtain ⟨t, there, named⟩ : ∃ t, (h.cleared s.id).currentSession = some t ∧ t.id = s.id := by
    have attached := h.attached_cleared s.id
    rw [found] at attached
    exact Option.map_eq_some_iff.mp attached
  have absent : (h.cleared s.id).store.attribute? t.id WellKnown.identityRecordKey = none := by
    rw [cleared, SessionStore.attribute?_removeAttribute, if_pos named]
  refine ⟨_, _, recall_absent lookup reads there absent,
    recall_unreadable lookup reads removes found stored unreadable, ?_⟩
  refine ⟨rfl, rfl, rfl, ⟨[], ?_, ?_⟩, rfl, rfl⟩
  · simp [cleared]
  · simp [cleared]

/-- Whatever is in the reserved attribute of a session was there before, or is a record that these
events store. -/
def Sourced (h : Host) (store : SessionStore) (effects : List Event) : Prop :=
  ∀ id value, store.attribute? id WellKnown.identityRecordKey = some value →
    h.store.attribute? id WellKnown.identityRecordKey = some value ∨
      ∃ r : IdentityRecord, value = r.encode ∧
        .attributeWritten WellKnown.identityRecordKey value ∈ effects

theorem Sourced.refl (h : Host) (effects : List Event) : h.Sourced h.store effects :=
  fun _ _ stored => .inl stored

theorem Sourced.mono {h : Host} {store : SessionStore} {effects more : List Event}
    (sourced : h.Sourced store effects) (sub : effects ⊆ more) : h.Sourced store more := by
  intro id value stored
  rcases sourced id value stored with before | ⟨r, record, written⟩
  · exact .inl before
  · exact .inr ⟨r, record, sub written⟩

theorem Healed.sourced {h next : Host} {store : SessionStore} {effects : List Event}
    (healed : h.Healed next.store) (sourced : next.Sourced store effects) :
    h.Sourced store effects := by
  intro id value stored
  rcases sourced id value stored with before | written
  · rcases healed with same | ⟨s, _, _, _, _, _, removed⟩
    · exact .inl (same ▸ before)
    · rw [removed, SessionStore.attribute?_removeAttribute] at before
      split at before
      · cases before
      · exact .inl before
  · exact .inr written

theorem Remembered.sourced {r : IdentityRecord} {h next : Host} {result : Except ExchangeError Unit}
    (remembered : Remembered r h result next) :
    ∃ added, next.journal.events = h.journal.events ++ added ∧ h.Sourced next.store added := by
  cases result with
  | error cause =>
    have unwritten (added : List Event) : h.Sourced next.store added :=
      fun id value stored => .inl (remembered.attribute?_of_error id _ ▸ stored)
    rcases remembered.added_error with grown | ⟨place, grown⟩
    · exact ⟨_, grown, unwritten _⟩
    · exact ⟨_, grown, unwritten _⟩
  | ok _ =>
    obtain ⟨place, grown⟩ := remembered.added_ok
    refine ⟨writing place r, grown, fun id value stored => ?_⟩
    cases remembered with
    | written place works attached writes =>
      change (SessionStore.setAttribute _ place _ r.encode).attribute? id _ = _ at stored
      rw [SessionStore.attribute?_setAttribute] at stored
      split at stored
      · obtain ⟨s, -, rfl⟩ := Option.map_eq_some_iff.mp stored
        exact .inr ⟨r, rfl, by simp [writing]⟩
      · exact .inl ((attached.attribute?_eq id _).symm.trans stored)

end Host

namespace Engine

open Host

theorem Concluded.sourced {e : Engine} {response : Response} {handler : CallbackHandler}
    {h last : Host} {result : Except ExchangeError Bool}
    (concluded : Concluded e response handler h result last) :
    ∃ added, last.journal.events = h.journal.events ++ added ∧ h.Sourced last.store added := by
  have remembering {r : IdentityRecord} {identity : Identity} {j : Journal} {next : Host}
      {stored : Except ExchangeError Unit}
      (resolved : handler.authorizedIdentity h.journal = (identity, j))
      (remembered : Remembered r { h with journal := j } stored next) :
      ∃ added, next.journal.events = h.journal.events ++ added ∧ h.Sourced next.store added := by
    obtain ⟨first, grown, -⟩ := handler.authorizedIdentity_adds.grows resolved
    obtain ⟨added, more, sourced⟩ := remembered.sourced
    refine ⟨first ++ added, by simp [more, grown], ?_⟩
    exact Sourced.mono sourced (List.subset_append_right first added)
  cases concluded with
  | unaccepted rejected => exact ⟨[], by simp, .refl h []⟩
  | announced identity j status unasked resolved =>
    obtain ⟨added, grown, -⟩ := handler.authorizedIdentity_adds.grows resolved
    refine ⟨added ++ [_, _], (announced_events _ _ _).trans (by rw [grown, List.append_assoc]), ?_⟩
    exact .refl h _
  | unregistered identity j accepted asked resolved remembered =>
    exact remembering resolved remembered
  | registered identity j status asked resolved remembered =>
    obtain ⟨added, grown, sourced⟩ := remembering resolved remembered
    refine ⟨added ++ [_, _], (announced_events _ _ _).trans (by rw [grown, List.append_assoc]), ?_⟩
    exact sourced.mono (List.subset_append_left added _)
  | deferred identity j status asked resolved remembered =>
    exact remembering resolved remembered

theorem Ended.sourced {e : Engine} {p : Provider} {h last : Host}
    {result : Except ExchangeError Bool} (ended : Ended e p h result last) :
    ∃ added, last.journal.events = h.journal.events ++ added ∧ h.Sourced last.store added := by
  obtain ⟨added, grown, -⟩ := ended.course
  have looking {found : Except ExchangeError (Option IdentityRecord)} {next : Host}
      (recalled : Recalled h found next) : h.Sourced next.store added :=
    recalled.kept.2.2.2.sourced (.refl next added)
  cases ended with
  | unrecalled next recalled => exact ⟨added, grown, looking recalled⟩
  | restored next r recalled =>
    have unwritten := looking recalled
    exact ⟨added, grown, unwritten⟩
  | refused next cause j recalled asked =>
    have unwritten := looking recalled
    exact ⟨added, grown, unwritten⟩
  | declined next j recalled asked =>
    have unwritten := looking recalled
    exact ⟨added, grown, unwritten⟩
  | concluded next response handler j recalled asked end_ =>
    obtain ⟨first, start, -⟩ := recalled.added
    obtain ⟨talk, more, -, -⟩ := ask_added asked
    obtain ⟨finish, ending, sourced⟩ := end_.sourced
    refine ⟨(first ++ talk) ++ finish, by simp [ending, more, start], ?_⟩
    have before : next.Sourced last.store finish := sourced
    exact (recalled.kept.2.2.2.sourced before).mono (List.subset_append_right _ finish)

/-- What a call leaves in the attribute where there was nothing is a record that it has stored. -/
theorem authenticate_cleared {e : Engine} {registry : Registry} {p : Provider} {h : Host}
    (selected : e.Selects registry p) (unauthenticated : h.context.isAuthenticated = false)
    (id : String) : ∃ effects,
      (e.authenticate registry (h.cleared id)).2.journal.events = h.journal.events ++ effects ∧
      ∀ value, (e.authenticate registry (h.cleared id)).2.store.attribute? id
          WellKnown.identityRecordKey = some value →
        ∃ r : IdentityRecord, value = r.encode ∧
          .attributeWritten WellKnown.identityRecordKey value ∈ effects := by
  obtain ⟨n, ended⟩ := authenticate_cases (h := h.cleared id) selected unauthenticated
  obtain ⟨added, grown, sourced⟩ := ended.sourced
  refine ⟨[.notice n] ++ added, by rw [grown, having_events, List.append_assoc]; rfl, ?_⟩
  intro value stored
  rcases sourced id value stored with before | ⟨r, record, written⟩
  · change (h.store.removeAttribute _ _).attribute? id _ = some value at before
    rw [SessionStore.attribute?_removeAttribute, if_pos rfl] at before
    cases before
  · exact ⟨r, record, List.mem_append_right _ written⟩

/-- A call on a session with an unreadable value comes to what the call on the session without it
comes to; its removal, between what comes `before` and `after` it, is all the difference. -/
structure Transparent (h : Host) (id : String) (cause : Corruption) (before after : List Event)
    (healing plain : Except ExchangeError Bool × Host) : Prop where
  result : healing.1 = plain.1
  exchange : healing.2.exchange = plain.2.exchange
  context : healing.2.context = plain.2.context
  store : healing.2.store = plain.2.store
  ids : healing.2.journal.ids = plain.2.journal.ids
  events : plain.2.journal.events = h.journal.events ++ (before ++ after)
  healed : healing.2.journal.events = h.journal.events ++ (before ++ removal id cause ++ after)
  calls : healing.2.journal.events.filter Event.isCall = plain.2.journal.events.filter Event.isCall
  /-- What the session then has is a record that the call has stored. -/
  gone : ∀ value, healing.2.store.attribute? id WellKnown.identityRecordKey = some value →
    ∃ r : IdentityRecord, value = r.encode ∧ IdentityRecord.decode value = .ok r ∧
      .attributeWritten WellKnown.identityRecordKey value ∈ after

/-- A value in the reserved attribute that is no record makes no difference to a call that finds a
provider, as long as it can be looked at and removed. -/
theorem authenticate_transparent {e : Engine} {registry : Registry} {p : Provider} {h : Host}
    {s : Session} {value : Json} {cause : Corruption} (selected : e.Selects registry p)
    (unauthenticated : h.context.isAuthenticated = false)
    (lookup : h.exchange.outage.sessionLookup = none)
    (reads : h.exchange.outage.attributeRead = none)
    (removes : h.exchange.outage.attributeRemoval = none) (found : h.currentSession = some s)
    (stored : h.store.attribute? s.id WellKnown.identityRecordKey = some value)
    (unreadable : IdentityRecord.decode value = .error cause) :
    ∃ before after, Transparent h s.id cause before after (e.authenticate registry h)
      (e.authenticate registry (h.cleared s.id)) := by
  obtain ⟨n, run⟩ := authenticate_eq selected
  obtain ⟨plain, healing, missing, removed, twins⟩ :=
    recall_twins (h := h.having [.notice n]) lookup reads removes found stored unreadable
  obtain ⟨same, alike⟩ := consult_twins SessionStore.lasting_eq e p twins
  obtain ⟨effects, grown, record⟩ := authenticate_cleared selected unauthenticated s.id
  have ran : e.authenticate registry (h.cleared s.id) =
      settle (e.consult p plain).1 (e.consult p plain).2 := by
    have missing : Host.recall ((h.cleared s.id).having [.notice n]) = (.ok none, plain) := missing
    rw [run (h.cleared s.id) unauthenticated, authenticateWith_eq, missing]
  rw [run h unauthenticated, authenticateWith_eq, removed]
  rw [ran] at grown record ⊢
  obtain ⟨after, first, second⟩ := alike.events
  have start : effects = ([.notice n] ++ looked) ++ after := by
    apply List.append_cancel_left (_ : h.journal.events ++ effects = _)
    rw [← grown, first, having_events]
    simp only [List.append_assoc]
  refine ⟨[.notice n] ++ looked, after, ?_⟩
  exact {
    result := same
    exchange := alike.exchange
    context := alike.context
    store := alike.stores.symm
    ids := alike.ids
    events := by rw [grown, start]
    healed := by simp only [second, having_events, List.append_assoc]
    calls := by
      rw [first, second]
      simp [removal, Event.isCall]
    gone := by
      intro left present
      rw [← alike.stores] at present
      obtain ⟨r, rfl, written⟩ := record left present
      have member : .attributeWritten WellKnown.identityRecordKey r.encode ∈
          ([.notice n] ++ looked) ++ after := start ▸ written
      exact ⟨r, rfl, r.decode_encode, by simpa [looked] using member⟩ }

/-- The hypotheses are met by a null value, and an anonymous caller is then cached in its place. -/
theorem authenticate_transparent_null :
    let p := Provider.steady [.caller none] (Response.registerSession ⟨.success, ∅⟩ true)
    let e := plain ⟨fun _ => none, fun _ _ => false⟩
    let s : Session :=
      { id := "s", attributes := (∅ : TextMap Json).insert WellKnown.identityRecordKey .null }
    let h : Host := ⟨⟨[s]⟩, { sessionId := some "s" }, {}, ⟨⟨fun _ => default, 0⟩, []⟩⟩
    e.Selects (.serving p) p ∧ h.context.isAuthenticated = false ∧ h.currentSession = some s ∧
      h.store.attribute? s.id WellKnown.identityRecordKey = some .null ∧
      ∃ cause, IdentityRecord.decode .null = .error cause ∧
        ∃ before after, Transparent h s.id cause before after (e.authenticate (.serving p) h)
          (e.authenticate (.serving p) (h.cleared s.id)) :=
  ⟨plain_selects _ _, rfl, rfl, rfl, _, rfl,
    authenticate_transparent (plain_selects _ _) rfl rfl rfl rfl rfl rfl rfl⟩

end Engine
end RequestAuth
