import RequestAuth.Proofs.Engine.Frame
import RequestAuth.Proofs.Engine.Twins
import RequestAuth.Proofs.Traffic.Run

/-! Sessions do not interfere. What the requests of one session are answered, and what becomes of
that session, is the same when all other requests are left out. -/
namespace RequestAuth

open Host

namespace SessionStore

variable {id : String} {a b : SessionStore}

/-- The stores have the same under this identifier, and what is live in `b` is live in `a`. -/
structure Matches (id : String) (a b : SessionStore) : Prop where
  found : b.find? id = a.find? id
  held : b.held? id = a.held? id
  live : ∀ other, (b.find? other).isSome → (a.find? other).isSome

theorem Matches.refl (id : String) (a : SessionStore) : Matches id a a :=
  ⟨rfl, rfl, fun _ live => live⟩

theorem Matches.modify {change : Session → Session} (place : String)
    (same : ∀ s, (change s).id = s.id ∧ (change s).live = s.live) (matching : Matches id a b) :
    Matches id (a.modify place change) (b.modify place change) where
  found := by rw [find?_modify _ _ _ same, find?_modify _ _ _ same, matching.found]
  held := by
    have ids : ∀ s, (change s).id = s.id := fun s => (same s).1
    rw [held?_modify _ _ _ ids, held?_modify _ _ _ ids, matching.held]
  live other := by
    rw [find?_modify _ _ _ same, find?_modify _ _ _ same]
    split
    · simpa using matching.live other
    · exact matching.live other

theorem lasting_matches (id : String) : Lasting (Matches id) where
  modify place _ same matching := matching.modify place same
  made place matching := {
    found := by rw [find?_made_or, find?_made_or, matching.found]
    held := by rw [held?_made_or, held?_made_or, matching.held]
    live := by
      intro other
      rw [find?_made_or, find?_made_or, Option.isSome_or, Option.isSome_or]
      simp only [Bool.or_eq_true]
      exact Or.imp_left (matching.live other) }

theorem Matches.attribute? (matching : Matches id a b) (key : String) :
    b.attribute? id key = a.attribute? id key := by
  rw [SessionStore.attribute?, matching.held, SessionStore.attribute?]

end SessionStore

namespace Host

variable {h : Host} {place : Option String} {store : SessionStore} {drawn : Nat}

/-- A session that is live stays live. -/
theorem Framed.live (framed : h.Framed place store drawn) {other : String}
    (live : (h.store.find? other).isSome) : (store.find? other).isSome := by
  cases framed with
  | same attached spared => rwa [spared.live]
  | grown kept s sessions spared issued =>
    have still : SessionStore.Spares place h.store.sessions (SessionStore.mk kept).sessions :=
      spared
    have kept_live : (SessionStore.find? ⟨kept⟩ other).isSome := by rwa [still.live]
    rw [SessionStore.find?_of_appended sessions, Option.isSome_or, kept_live, Bool.true_or]

/-- What the exchange did not ask for is as it was, or it is the session that has been made. -/
theorem Framed.elsewhere {id : String} (framed : h.Framed place store drawn)
    (fresh : store.Extends h.store) (apart : h.exchange.sessionId ≠ some id) :
    (store.find? id = h.store.find? id ∧ store.held? id = h.store.held? id) ∨
      h.currentSession = none ∧ h.store.find? id = none ∧ (store.find? id).isSome := by
  cases framed with
  | same attached spared =>
    rw [← attached] at apart
    exact .inl (spared.find?_eq apart)
  | grown kept s sessions spared issued =>
    have unused : h.store.Unused s.id := by
      refine fresh s ?_
      have length : kept.length = h.store.sessions.length := spared.length_eq.symm
      simp [sessions, ← length]
    rw [SessionStore.find?_of_appended sessions, SessionStore.held?_of_appended sessions]
    by_cases named : s.id = id
    · subst named
      exact .inr ⟨issued.absent, SessionStore.find?_of_unused unused, by simp [issued.live]⟩
    · have elsewhere : place ≠ some id := by
        rw [issued.attached]
        exact fun same => named (Option.some.inj same)
      have still : SessionStore.Spares place h.store.sessions (SessionStore.mk kept).sessions :=
        spared
      obtain ⟨found, held⟩ := still.find?_eq elsewhere
      exact .inl (by simp [named, found, held])

end Host

/-- All that serving a request comes to, but for the sessions. -/
structure Reception where
  result : Except ExchangeError Bool
  exchange : Exchange
  context : SecurityContext
  journal : Journal

namespace Visit

variable {v : Visit} {id : String} {a b store : SessionStore}

def reception (v : Visit) (store : SessionStore) : Reception :=
  ⟨(v.serve store).1, (v.serve store).2.exchange, (v.serve store).2.context,
    (v.serve store).2.journal⟩

/-- The request presents this session, or makes it. -/
def touches (v : Visit) (id : String) (store : SessionStore) : Bool :=
  v.presented = some id || (store.find? id).isNone && ((v.serve store).2.store.find? id).isSome

theorem serve_framed (v : Visit) (store : SessionStore) :
    (v.host store).Framed (v.serve store).2.exchange.sessionId (v.serve store).2.store
      (v.serve store).2.journal.ids.drawn :=
  Engine.authenticate_framed v.selected rfl

/-- A request that does not touch a session leaves it as it is. -/
theorem serve_untouched (matching : store.Matches id b)
    (fresh : (v.serve store).2.store.Extends store) (untouched : v.touches id store = false) :
    (v.serve store).2.store.Matches id b := by
  simp only [touches, Bool.or_eq_false_iff, decide_eq_false_iff_not, Bool.and_eq_false_iff]
    at untouched
  obtain ⟨apart, unmade⟩ := untouched
  have framed := v.serve_framed store
  have live : ∀ other, (b.find? other).isSome → ((v.serve store).2.store.find? other).isSome :=
    fun other live => framed.live (matching.live other live)
  rcases framed.elsewhere fresh apart with ⟨found, held⟩ | ⟨-, missing, present⟩
  · exact ⟨matching.found.trans found.symm, matching.held.trans held.symm, live⟩
  · have missing : store.find? id = none := missing
    simp [missing, present] at unmade

theorem twins_of_touches (matching : SessionStore.Matches id a b)
    (fresh : (v.serve a).2.store.Extends a) (touched : v.touches id a = true) :
    Twins (SessionStore.Matches id) [] [] (v.host a) (v.host b) ∧
      ∀ s, (v.host a).currentSession = some s → s.id = id := by
  have twins (attached : (v.host b).currentSession = (v.host a).currentSession) :
      Twins (SessionStore.Matches id) [] [] (v.host a) (v.host b) :=
    ⟨rfl, rfl, rfl, ⟨[], rfl, rfl⟩, congrArg (Option.map Session.id) attached, matching⟩
  by_cases presented : v.presented = some id
  · have here (c : SessionStore) : (v.host c).currentSession = c.find? id := by
      simp [currentSession, host, presented]
    refine ⟨twins (by rw [here, here, matching.found]), fun s found => ?_⟩
    exact SessionStore.find?_id ((here a).symm.trans found)
  · simp only [touches, presented, decide_false, Bool.false_or, Bool.and_eq_true] at touched
    obtain ⟨missing, present⟩ := touched
    rcases (v.serve_framed a).elsewhere fresh presented with ⟨found, -⟩ | ⟨absent, -, -⟩
    · have found : (v.serve a).2.store.find? id = a.find? id := found
      simp [found, Option.isNone_iff_eq_none.mp missing] at present
    · have gone : (v.host b).currentSession = none := by
        rw [currentSession, Option.bind_eq_none_iff] at absent ⊢
        intro other presented
        by_contra there
        have live := matching.live other (Option.isSome_iff_ne_none.mpr there)
        have missing : a.find? other = none := absent other presented
        simp [missing] at live
      exact ⟨twins (gone.trans absent.symm), fun s found => by simp [absent] at found⟩

/-- A request that touches a session does the same on both stores. -/
theorem serve_touched (matching : SessionStore.Matches id a b)
    (fresh : (v.serve a).2.store.Extends a) (touched : v.touches id a = true) :
    v.reception b = v.reception a ∧
      SessionStore.Matches id (v.serve a).2.store (v.serve b).2.store := by
  obtain ⟨twins, attached⟩ := twins_of_touches matching fresh touched
  obtain ⟨same, after⟩ := Engine.authenticate_twins (SessionStore.lasting_matches id) v.selected rfl
    (fun s found _ _ matching => attached s found ▸ matching.attribute? _) twins
  have journal := after.journal
  have served (c : SessionStore) : v.serve c = v.engine.authenticate v.registry (v.host c) := rfl
  refine ⟨?_, after.stores⟩
  simp only [reception, served, same, after.exchange, after.context, journal]

end Visit

namespace SessionStore

/-- The requests of a run, each with the store that it finds. -/
def encounters : SessionStore → List Visit → List (SessionStore × Visit)
  | _, [] => []
  | store, v :: visits => (store, v) :: encounters (store.step (.visit v)).2 visits

/-- Those of them that touch the session. -/
def touching (store : SessionStore) (id : String) (visits : List Visit) :
    List (SessionStore × Visit) :=
  (store.encounters visits).filter fun (store, v) => v.touches id store

/-- The run without the requests that do not touch the session. -/
def purge (store : SessionStore) (id : String) (visits : List Visit) : List Visit :=
  (store.touching id visits).map Prod.snd

def receptions (encounters : List (SessionStore × Visit)) : List Reception :=
  encounters.map fun (store, v) => v.reception store

section Purge

variable {store : SessionStore} {id : String} {v : Visit} {visits : List Visit}

theorem touching_of_touches (touched : v.touches id store = true) :
    store.touching id (v :: visits) =
      (store, v) :: (v.serve store).2.store.touching id visits :=
  List.filter_cons_of_pos touched

theorem touching_of_untouched (untouched : v.touches id store = false) :
    store.touching id (v :: visits) = (v.serve store).2.store.touching id visits :=
  List.filter_cons_of_neg (by simp [untouched])

theorem purge_of_touches (touched : v.touches id store = true) :
    store.purge id (v :: visits) = v :: (v.serve store).2.store.purge id visits := by
  rw [purge, touching_of_touches touched]
  rfl

theorem purge_of_untouched (untouched : v.touches id store = false) :
    store.purge id (v :: visits) = (v.serve store).2.store.purge id visits := by
  rw [purge, touching_of_untouched untouched]
  rfl

end Purge

variable {id : String} {a b : SessionStore}

/-- Along a run the store matches that of the purged run, and the requests that touch the session
find nothing different there. -/
theorem Matches.purge {visits : List Visit} (matching : Matches id a b)
    (fresh : a.FreshRun (visits.map .visit)) :
    receptions (a.touching id visits) = receptions (b.encounters (a.purge id visits)) ∧
      Matches id (a.after (visits.map .visit)) (b.after ((a.purge id visits).map .visit)) := by
  induction visits generalizing a b with
  | nil => exact ⟨rfl, matching⟩
  | cons v visits ih =>
    obtain ⟨first, later⟩ := fresh
    cases touched : v.touches id a with
    | true =>
      obtain ⟨same, after⟩ := Visit.serve_touched matching first touched
      obtain ⟨others, last⟩ := ih after later
      rw [touching_of_touches touched, purge_of_touches touched]
      refine ⟨?_, last⟩
      change v.reception a :: receptions _ = v.reception b :: receptions _
      rw [same, others]
      rfl
    | false =>
      have after := Visit.serve_untouched matching first touched
      obtain ⟨others, last⟩ := ih after later
      rw [touching_of_untouched touched, purge_of_untouched touched]
      exact ⟨others, last⟩

/-- In every run the requests that touch a session, and the session itself, come off as in the run
without the other requests; and so they do in any run whose others are different ones. -/
theorem sessions_isolated {store : SessionStore} {visits : List Visit} (id : String)
    (fresh : store.FreshRun (visits.map .visit)) :
    receptions (store.touching id visits) =
        receptions (store.encounters (store.purge id visits)) ∧
      (store.after (visits.map .visit)).find? id =
        (store.after ((store.purge id visits).map .visit)).find? id ∧
      ∀ others, store.FreshRun (others.map .visit) →
        store.purge id others = store.purge id visits →
        receptions (store.touching id others) = receptions (store.touching id visits) ∧
          (store.after (others.map .visit)).find? id =
            (store.after (visits.map .visit)).find? id := by
  obtain ⟨same, last⟩ := (Matches.refl id store).purge fresh
  refine ⟨same, last.found.symm, fun others fresh_others purged => ?_⟩
  obtain ⟨same_others, last_others⟩ := (Matches.refl id store).purge fresh_others
  rw [purged] at same_others last_others
  exact ⟨same_others.trans same.symm, last_others.found.symm.trans last.found⟩

/-- A caller makes a session and comes back to it, with a request in between that makes another. -/
theorem sessions_isolated_return :
    let p := Provider.steady [.caller none] (Response.registerSession ⟨.success, ∅⟩ true)
    let u := Visit.plain ⟨fun _ => none, fun _ _ => false⟩ p
    let v := { u with presented := some (default : Uuid).text }
    let visits := [u, { u with ids := fun _ => ⟨1⟩ }, v]
    let id := (default : Uuid).text
    FreshRun {} (visits.map .visit) ∧ (purge {} id visits).length = 2 ∧
      receptions (touching {} id visits) = receptions (encounters {} (purge {} id visits)) ∧
      (after {} (visits.map .visit)).find? id =
        (after {} ((purge {} id visits).map .visit)).find? id ∧
      ∀ others, FreshRun {} (others.map .visit) → purge {} id others = purge {} id visits →
        receptions (touching {} id others) = receptions (touching {} id visits) ∧
          (after {} (others.map .visit)).find? id = (after {} (visits.map .visit)).find? id := by
  intro p u v visits id
  have fresh : FreshRun {} (visits.map .visit) := by decide +kernel
  exact ⟨fresh, by decide +kernel, sessions_isolated id fresh⟩

end SessionStore

end RequestAuth
