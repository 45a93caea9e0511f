import Mathlib.Data.List.Nodup
import RequestAuth.Session.Store
import RequestAuth.WellKnown

/-! The store as a table of live sessions. Every operation is described by what it does to the
look-up of each identifier; that identifiers are distinct is what makes one session of each. -/
namespace RequestAuth.SessionStore

/-- No two sessions have an identifier in common, whether they are live or not. -/
def Distinct (store : SessionStore) : Prop := (store.sessions.map Session.id).Nodup

/-- No session, live or not, has this identifier. -/
def Unused (store : SessionStore) (id : String) : Prop := ∀ s ∈ store.sessions, s.id ≠ id

theorem find?_id {store : SessionStore} {id : String} {s : Session}
    (found : store.find? id = some s) : s.id = id := by
  have := List.find?_some found
  simp_all

theorem find?_of_unused {store : SessionStore} {id : String} (unused : store.Unused id) :
    store.find? id = none := by
  rw [find?, List.find?_eq_none]
  intro s member
  simp [unused s member]

/-- With distinct identifiers, whoever holds the identifier of a live session holds that session. -/
theorem held?_of_find? {store : SessionStore} {id : String} {s : Session}
    (distinct : store.Distinct) (found : store.find? id = some s) : store.held? id = some s := by
  obtain ⟨sessions⟩ := store
  simp only [Distinct, find?, held?] at *
  induction sessions with
  | nil => simp at found
  | cons first rest ih =>
    obtain ⟨apart, distinct⟩ := List.nodup_cons.mp distinct
    by_cases same : first.id = id
    · have absent : rest.find? (fun s => s.live && s.id = id) = none := by
        rw [List.find?_eq_none]
        intro s member other
        have : s.id = id := by simp_all
        exact apart (same ▸ this ▸ List.mem_map_of_mem member)
      rw [List.find?_cons] at found
      split at found
      · simpa [same] using found
      · simp [absent] at found
    · simp only [List.find?_cons, same, decide_false, Bool.and_false] at found ⊢
      exact ih distinct found

/-- The sessions that are found are the live ones, each under its own identifier. -/
theorem find?_eq_some_iff {store : SessionStore} {id : String} {s : Session}
    (distinct : store.Distinct) : store.find? id = some s ↔ s ∈ store.live ∧ s.id = id := by
  constructor
  · intro found
    have live : s.live = true := by
      have := List.find?_some found
      simp_all
    exact ⟨List.mem_filter.mpr ⟨List.mem_of_find?_eq_some found, live⟩, find?_id found⟩
  · rintro ⟨member, rfl⟩
    obtain ⟨member, live⟩ := List.mem_filter.mp member
    obtain ⟨other, found⟩ : ∃ other, store.find? s.id = some other := by
      rw [← Option.isSome_iff_exists, find?, List.find?_isSome]
      exact ⟨s, member, by simp [live]⟩
    have same : other = s := List.inj_on_of_nodup_map distinct
      (List.mem_of_find?_eq_some found) member (find?_id found)
    rw [found, same]

theorem attribute?_of_find? {store : SessionStore} {id : String} {s : Session}
    (distinct : store.Distinct) (found : store.find? id = some s) (key : String) :
    store.attribute? id key = s.attributes.find? key := by
  simp [attribute?, held?_of_find? distinct found]

/-- What a look-up comes to when the sessions of one identifier have changed in a way that it does
not go by. -/
theorem sessions_find?_modify {suits : Session → Bool} {change : Session → Session}
    (store : SessionStore) (id other : String) (named : ∀ s, suits s → s.id = other)
    (same : ∀ s, s.id = id → suits (change s) = suits s) :
    (store.modify id change).sessions.find? suits =
      if other = id then (store.sessions.find? suits).map change
      else store.sessions.find? suits := by
  have unmoved : (suits ∘ fun s => if s.id = id then change s else s) = suits := by
    funext s
    by_cases changed : s.id = id <;> simp [changed, same]
  rw [modify, List.find?_map, unmoved]
  cases found : store.sessions.find? suits with
  | none => simp
  | some s =>
    rw [Option.map_some, named s (List.find?_some found)]
    split <;> rfl

/-- A change of sessions that leaves them their identifier and their liveness. -/
theorem find?_modify {change : Session → Session} (store : SessionStore) (id other : String)
    (same : ∀ s, (change s).id = s.id ∧ (change s).live = s.live) :
    (store.modify id change).find? other =
      if other = id then (store.find? other).map change else store.find? other :=
  sessions_find?_modify store id other (by simp) (by simp [same])

/-- The same for whoever holds a session, live or not. -/
theorem held?_modify {change : Session → Session} (store : SessionStore) (id other : String)
    (same : ∀ s, (change s).id = s.id) :
    (store.modify id change).held? other =
      if other = id then (store.held? other).map change else store.held? other :=
  sessions_find?_modify store id other (by simp) (by simp [same])

theorem attribute?_removeAttribute (store : SessionStore) (id key other : String) :
    (store.removeAttribute id key).attribute? other key =
      if other = id then none else store.attribute? other key := by
  have removed : (store.removeAttribute id key).held? other =
      if other = id then
        (store.held? other).map fun s => { s with attributes := s.attributes.erase key }
      else store.held? other :=
    held?_modify store id other fun _ => rfl
  rw [attribute?, attribute?, removed]
  split
  · cases store.held? other <;> simp
  · rfl

theorem attribute?_setAttribute (store : SessionStore) (id key : String) (value : Json)
    (other : String) :
    (store.setAttribute id key value).attribute? other key =
      if other = id then (store.held? other).map fun _ => value
      else store.attribute? other key := by
  have written : (store.setAttribute id key value).held? other =
      if other = id then
        (store.held? other).map fun s => { s with attributes := s.attributes.insert key value }
      else store.held? other :=
    held?_modify store id other fun _ => rfl
  rw [attribute?, attribute?, written]
  split
  · cases store.held? other <;> simp
  · rfl

theorem find?_setAttribute (store : SessionStore) (id key : String) (value : Json)
    (other : String) :
    (store.setAttribute id key value).find? other =
      if other = id then
        (store.find? other).map fun s => { s with attributes := s.attributes.insert key value }
      else store.find? other :=
  find?_modify store id other fun _ => ⟨rfl, rfl⟩

theorem find?_removeAttribute (store : SessionStore) (id key other : String) :
    (store.removeAttribute id key).find? other =
      if other = id then
        (store.find? other).map fun s => { s with attributes := s.attributes.erase key }
      else store.find? other :=
  find?_modify store id other fun _ => ⟨rfl, rfl⟩

theorem modify_distinct {store : SessionStore} {change : Session → Session} (id : String)
    (same : ∀ s, (change s).id = s.id) (distinct : store.Distinct) :
    (store.modify id change).Distinct := by
  have ids : (store.modify id change).sessions.map Session.id = store.sessions.map Session.id := by
    simp only [modify, List.map_map]
    apply List.map_congr_left
    intro s _
    by_cases named : s.id = id <;> simp [named, same]
  rw [Distinct, ids]
  exact distinct

theorem find?_invalidate (store : SessionStore) (id other : String) :
    (store.invalidate id).2.find? other = if other = id then none else store.find? other := by
  by_cases asked : other = id
  · subst asked
    rw [if_pos rfl, find?, List.find?_eq_none]
    intro s member
    obtain ⟨before, -, rfl⟩ := List.mem_map.mp member
    by_cases named : before.id = other <;> simp [named]
  · rw [if_neg asked]
    refine (sessions_find?_modify store id other (by simp) fun s named => ?_).trans (if_neg asked)
    have apart : ¬ s.id = other := fun same => asked (same.symm.trans named)
    simp [apart]

/-- The last session of a store is found if no other one is. -/
theorem find?_of_appended {store : SessionStore} {kept : List Session} {s : Session}
    (sessions : store.sessions = kept ++ [s]) (other : String) :
    store.find? other =
      (find? ⟨kept⟩ other).or (if s.live ∧ s.id = other then some s else none) := by
  rw [find?, sessions, List.find?_append, List.find?_singleton]
  simp [find?]

theorem held?_of_appended {store : SessionStore} {kept : List Session} {s : Session}
    (sessions : store.sessions = kept ++ [s]) (other : String) :
    store.held? other = (held? ⟨kept⟩ other).or (if s.id = other then some s else none) := by
  rw [held?, sessions, List.find?_append, List.find?_singleton]
  simp [held?]

/-- The session that is made, and the store with it. -/
def made (store : SessionStore) (id : String) : SessionStore := ⟨store.sessions ++ [{ id := id }]⟩

theorem find?_made_or (store : SessionStore) (id other : String) :
    (store.made id).find? other =
      (store.find? other).or (if other = id then some { id := id } else none) := by
  have appended : (store.made id).sessions = store.sessions ++ [{ id := id }] := rfl
  rw [find?_of_appended appended]
  simp [eq_comm]

theorem held?_made_or (store : SessionStore) (id other : String) :
    (store.made id).held? other =
      (store.held? other).or (if other = id then some { id := id } else none) := by
  have appended : (store.made id).sessions = store.sessions ++ [{ id := id }] := rfl
  rw [held?_of_appended appended]
  simp [eq_comm]

/-- What is written under the identifier of a session that was made goes into that session too. -/
theorem setAttribute_made (store : SessionStore) (id key : String) (value : Json) :
    ((store.made id).setAttribute id key value).sessions =
      (store.setAttribute id key value).sessions ++
        [{ id, attributes := (∅ : TextMap Json).insert key value }] := by
  simp [setAttribute, modify, made]

/-- A session that is made brings no attribute with it. -/
theorem attribute?_made (store : SessionStore) (id other key : String) :
    (store.made id).attribute? other key = store.attribute? other key := by
  rw [attribute?, attribute?, held?_made_or]
  cases store.held? other with
  | some s => rfl
  | none => split <;> rfl

theorem find?_made {store : SessionStore} {id : String} (unused : store.Unused id)
    (other : String) :
    (store.made id).find? other = if other = id then some { id := id } else store.find? other := by
  rw [find?_made_or]
  split
  · next asked => rw [asked, find?_of_unused unused, Option.none_or]
  · rw [Option.or_none]

theorem made_distinct {store : SessionStore} {id : String} (unused : store.Unused id)
    (distinct : store.Distinct) : (store.made id).Distinct := by
  simp only [Distinct, made, List.map_append, List.nodup_append]
  refine ⟨distinct, by simp, ?_⟩
  intro a member b last
  obtain ⟨s, there, rfl⟩ := List.mem_map.mp member
  simp only [List.map_cons, List.map_nil, List.mem_singleton] at last
  exact last ▸ unused s there

end RequestAuth.SessionStore
