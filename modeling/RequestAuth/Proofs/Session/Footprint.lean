import Mathlib.Data.List.Forall2
import RequestAuth.Proofs.Session.Caching
import RequestAuth.Proofs.Session.Table

/-! What looking for a cached identity and storing one can do to the sessions: of those that are
there, one may come to differ in the reserved attribute, and one may be added. -/
namespace RequestAuth

/-- The session as it was. Only if it is the one at `place` may it differ, and then only in the
reserved attribute. -/
structure Session.Spared (place : Option String) (s next : Session) : Prop where
  id : next.id = s.id
  live : next.live = s.live
  unchanged : place ≠ some s.id → next = s
  others : ∀ key, key ≠ WellKnown.identityRecordKey →
    next.attributes.find? key = s.attributes.find? key

theorem Session.Spared.refl (place : Option String) (s : Session) : Spared place s s :=
  ⟨rfl, rfl, fun _ => rfl, fun _ _ => rfl⟩

theorem Session.Spared.trans {place : Option String} {s next last : Session}
    (first : Spared place s next) (later : Spared place next last) : Spared place s last where
  id := later.id.trans first.id
  live := later.live.trans first.live
  unchanged apart := by
    have same : next = s := first.unchanged apart
    rw [← same] at apart
    exact (later.unchanged apart).trans same
  others key apart := (later.others key apart).trans (first.others key apart)

namespace SessionStore

/-- All the sessions that were there, in their order, each of them spared. -/
def Spares (place : Option String) (sessions next : List Session) : Prop :=
  List.Forall₂ (Session.Spared place) sessions next

theorem Spares.refl (place : Option String) (sessions : List Session) :
    Spares place sessions sessions :=
  List.forall₂_same.mpr fun s _ => .refl place s

theorem Spares.trans {place : Option String} {sessions next last : List Session}
    (first : Spares place sessions next) (later : Spares place next last) :
    Spares place sessions last := by
  induction first generalizing last with
  | nil => exact later
  | cons spared _ ih =>
    obtain ⟨end_, rest, spared', others, rfl⟩ := List.forall₂_cons_left_iff.mp later
    exact .cons (spared.trans spared') (ih others)

/-- A change that only touches the reserved attribute spares the sessions. -/
theorem spares_modify {change : Session → Session} (store : SessionStore) (id : String)
    (spared : ∀ s, s.id = id → Session.Spared (some id) s (change s)) :
    Spares (some id) store.sessions (store.modify id change).sessions := by
  refine List.forall₂_map_right_iff.mpr (List.forall₂_same.mpr fun s _ => ?_)
  split
  · next named => exact spared s named
  · exact .refl _ s

theorem spares_setAttribute (store : SessionStore) (id : String) (value : Json) :
    Spares (some id) store.sessions
      (store.setAttribute id WellKnown.identityRecordKey value).sessions := by
  refine store.spares_modify id fun s named => ⟨rfl, rfl, fun apart => ?_, fun key apart => ?_⟩
  · exact absurd (congrArg some named.symm) apart
  · exact TextMap.find?_insert_other s.attributes apart value

theorem spares_removeAttribute (store : SessionStore) (id : String) :
    Spares (some id) store.sessions
      (store.removeAttribute id WellKnown.identityRecordKey).sessions := by
  refine store.spares_modify id fun s named => ⟨rfl, rfl, fun apart => ?_, fun key apart => ?_⟩
  · exact absurd (congrArg some named.symm) apart
  · exact TextMap.find?_erase_other s.attributes apart

/-- What is looked up under an identifier apart from `place` is what it was. -/
theorem Spares.find?_eq {place : Option String} {store next : SessionStore} {id : String}
    (spared : Spares place store.sessions next.sessions) (apart : place ≠ some id) :
    next.find? id = store.find? id ∧ next.held? id = store.held? id := by
  obtain ⟨sessions⟩ := store
  obtain ⟨others⟩ := next
  simp only [find?, held?] at *
  induction spared with
  | nil => exact ⟨rfl, rfl⟩
  | @cons s next rest others first _ ih =>
    by_cases named : s.id = id
    · have same : next = s := first.unchanged (named ▸ apart)
      simp [List.find?_cons, same, ih]
    · have elsewhere : ¬ next.id = id := first.id ▸ named
      simp [named, elsewhere, ih]

/-- The same identifiers are live, also that of `place`. -/
theorem Spares.live {place : Option String} {store next : SessionStore}
    (spared : Spares place store.sessions next.sessions) (id : String) :
    (next.find? id).isSome = (store.find? id).isSome := by
  obtain ⟨sessions⟩ := store
  obtain ⟨others⟩ := next
  simp only [find?] at *
  induction spared with
  | nil => rfl
  | @cons s next rest others first _ ih =>
    rw [List.find?_cons, List.find?_cons, first.live, first.id]
    split
    · rfl
    · exact ih

end SessionStore

namespace Host

/-- The store of this host, or what it becomes when the exchange's session loses what it has in the
reserved attribute and cannot be read as a record. -/
def Healed (h : Host) (store : SessionStore) : Prop :=
  store = h.store ∨ ∃ s value cause, h.currentSession = some s ∧
    h.store.attribute? s.id WellKnown.identityRecordKey = some value ∧
    IdentityRecord.decode value = .error cause ∧
    store = h.store.removeAttribute s.id WellKnown.identityRecordKey

theorem sessionId_of_currentSession {h : Host} {s : Session} (found : h.currentSession = some s) :
    h.exchange.sessionId = some s.id := by
  obtain ⟨id, presented, live⟩ := Option.bind_eq_some_iff.mp found
  rw [presented, SessionStore.find?_id live]

theorem Healed.spares {h : Host} {store : SessionStore} (healed : h.Healed store) :
    SessionStore.Spares h.exchange.sessionId h.store.sessions store.sessions := by
  rcases healed with rfl | ⟨s, value, cause, found, -, -, rfl⟩
  · exact .refl _ _
  · rw [sessionId_of_currentSession found]
    exact h.store.spares_removeAttribute s.id

/-- A live session stays live, and where there is none nothing is removed. -/
theorem Healed.currentSession {h next : Host} (healed : h.Healed next.store)
    (attached : next.exchange.sessionId = h.exchange.sessionId) :
    (next.currentSession = none → h.currentSession = none ∧ next.store = h.store) ∧
      next.currentSession.isSome = h.currentSession.isSome := by
  rcases healed with same | ⟨s, value, cause, found, -, -, removed⟩
  · have unchanged : next.currentSession = h.currentSession := by
      rw [Host.currentSession, attached, same, Host.currentSession]
    rw [unchanged]
    exact ⟨fun absent => ⟨absent, same⟩, rfl⟩
  · have live : h.store.find? s.id = some s := by
      rw [Host.currentSession, sessionId_of_currentSession found] at found
      exact found
    have stays : next.currentSession.isSome := by
      rw [Host.currentSession, attached, sessionId_of_currentSession found, removed,
        Option.bind_some, SessionStore.find?_removeAttribute, if_pos rfl, live]
      rfl
    refine ⟨fun absent => ?_, ?_⟩
    · simp [absent] at stays
    · rw [stays, found]
      rfl

/-- Looking for a record changes nothing but the journal's events and, to heal it, the store. -/
theorem Recalled.kept {h next : Host} {result : Except ExchangeError (Option IdentityRecord)}
    (recalled : Recalled h result next) :
    next.exchange = h.exchange ∧ next.context = h.context ∧ next.journal.ids = h.journal.ids ∧
      h.Healed next.store := by
  cases recalled with
  | removed works found reads stored corrupt removes =>
    exact ⟨rfl, rfl, rfl, .inr ⟨_, _, _, found, stored, corrupt, rfl⟩⟩
  | lookupFails | noSession | readFails | noRecord | restored | removalFails =>
    exact ⟨rfl, rfl, rfl, .inl rfl⟩

/-- Attaching a session changes no attribute, also where the session has to be made. -/
theorem Attached.attribute?_eq {h next : Host} {place : String} (attached : Attached h place next)
    (id key : String) : next.store.attribute? id key = h.store.attribute? id key := by
  cases attached with
  | existing found => rfl
  | made absent granted => exact h.store.attribute?_made _ id key

/-- A record that could not be stored has changed no attribute. -/
theorem Remembered.attribute?_of_error {r : IdentityRecord} {h next : Host} {cause : ExchangeError}
    (remembered : Remembered r h (.error cause) next) (id key : String) :
    next.store.attribute? id key = h.store.attribute? id key := by
  cases remembered with
  | sessionFails fails => rfl
  | withheld works absent refused => rfl
  | writeFails place works attached fails => exact attached.attribute?_eq id key

/-- A session that has been made for the host, whose exchange had none, and attached to it. -/
structure Issued (h : Host) (place : Option String) (drawn : Nat) (s : Session) : Prop where
  absent : h.currentSession = none
  attached : place = some s.id
  live : s.live = true
  /-- Its identifier is one that was handed out in between. -/
  identifier : ∃ n, h.journal.ids.drawn ≤ n ∧ n < drawn ∧ s.id = (h.journal.ids.ids n).text
  bare : ∀ key, key ≠ WellKnown.identityRecordKey → s.attributes.find? key = none

/-- What has become of the sessions of a host, with the session now attached and the identifiers
drawn so far: they are spared, and one may have been added. -/
inductive Framed (h : Host) (place : Option String) (store : SessionStore) (drawn : Nat) : Prop
  | same (attached : place = h.exchange.sessionId)
    (spared : SessionStore.Spares place h.store.sessions store.sessions)
  | grown (kept : List Session) (s : Session) (sessions : store.sessions = kept ++ [s])
    (spared : SessionStore.Spares place h.store.sessions kept) (issued : h.Issued place drawn s)

/-- However storing a record ends, it leaves the host framed. -/
theorem Remembered.framed {r : IdentityRecord} {h next : Host} {result : Except ExchangeError Unit}
    (remembered : Remembered r h result next) :
    h.Framed next.exchange.sessionId next.store next.journal.ids.drawn := by
  cases remembered with
  | sessionFails fails => exact .same rfl (.refl _ _)
  | withheld works absent refused => exact .same rfl (.refl _ _)
  | writeFails id works attached fails =>
    cases attached with
    | existing found => exact .same rfl (.refl _ _)
    | made absent granted =>
      exact .grown h.store.sessions _ rfl (.refl _ _)
        ⟨absent, rfl, rfl, ⟨_, Nat.le_refl _, Nat.lt_succ_self _, rfl⟩, fun _ _ => rfl⟩
  | written id works attached writes =>
    cases attached with
    | existing found =>
      refine .same rfl ?_
      rw [having_exchange, sessionId_of_currentSession found]
      exact h.store.spares_setAttribute _ _
    | made absent granted =>
      refine .grown _ _ (SessionStore.setAttribute_made h.store _ _ r.encode)
        (h.store.spares_setAttribute _ _) ?_
      refine ⟨absent, rfl, rfl, ⟨_, Nat.le_refl _, Nat.lt_succ_self _, rfl⟩, fun key apart => ?_⟩
      exact TextMap.find?_insert_other ∅ apart r.encode

/-- A host that is healed and has drawn onward is framed for whoever frames what it becomes. -/
theorem Healed.framed {h next : Host} {place : Option String} {store : SessionStore} {drawn : Nat}
    (healed : h.Healed next.store) (attached : next.exchange.sessionId = h.exchange.sessionId)
    (source : next.journal.ids.ids = h.journal.ids.ids)
    (onward : h.journal.ids.drawn ≤ next.journal.ids.drawn)
    (framed : next.Framed place store drawn) : h.Framed place store drawn := by
  cases framed with
  | same stays spared =>
    have spares := healed.spares
    rw [← attached, ← stays] at spares
    exact .same (stays.trans attached) (spares.trans spared)
  | grown kept s sessions spared issued =>
    obtain ⟨absent, unchanged⟩ := (healed.currentSession attached).1 issued.absent
    obtain ⟨n, from_, below, named⟩ := issued.identifier
    rw [unchanged] at spared
    rw [source] at named
    exact .grown kept s sessions spared ⟨absent, issued.attached, issued.live,
      ⟨n, Nat.le_trans onward from_, below, named⟩, issued.bare⟩

end Host
end RequestAuth
