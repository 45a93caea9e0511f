import Mathlib.Logic.Function.Basic
import RequestAuth.Proofs.Registration.Key
import RequestAuth.Registration.Factory

/-! A factory as the finite map that it is to its callers: from scopes to what is registered for
them, without identifiers and without an order. That a registration can be removed and described by
its identifier rests on distinct keys having distinct identifiers. -/
namespace RequestAuth

/-- What is registered under a key. -/
structure Entry where
  provider : Provider
  description : String

def Registration.entry (r : Registration) : Entry := ⟨r.provider, r.description⟩

/-- The live keys, each with its entry. -/
abbrev Directory := RegistrationKey → Option Entry

namespace Directory

def empty : Directory := fun _ => none

/-- The entry that covers a layer and an application context: that of their own key if it is live,
else of the first live one among those with a wildcard. -/
def mostSpecific (d : Directory) (layer appContext : String) : Option Entry :=
  d ⟨some layer, some appContext⟩ <|> d ⟨none, some appContext⟩ <|> d ⟨some layer, none⟩ <|>
    d ⟨none, none⟩

inductive Change
  | register (key : RegistrationKey) (entry : Entry)
  | remove (id : String)

/-- What a change is answered with. -/
inductive Answer
  | registered (id : String)
  | removed (existed : Bool)

/-- What a change does to the map. -/
inductive Step : Directory → Change → Answer → Directory → Prop
  | registered (d : Directory) (key : RegistrationKey) (entry : Entry) :
    Step d (.register key entry) (.registered key.id) (Function.update d key (some entry))
  | removed (d : Directory) (key : RegistrationKey) (live : (d key).isSome) :
    Step d (.remove key.id) (.removed true) (Function.update d key none)
  | missing (d : Directory) (id : String) (absent : ∀ key, (d key).isSome → key.id ≠ id) :
    Step d (.remove id) (.removed false) d

inductive Run : Directory → List Change → List Answer → Directory → Prop
  | nil (d : Directory) : Run d [] [] d
  | cons (first : Step d c a next) (later : Run next cs as last) :
    Run d (c :: cs) (a :: as) last

end Directory

namespace Factory

open Directory (Change Answer Step Run)

def change (f : Factory) : Change → Journaled (Answer × Factory)
  | .register key entry => do
    let (id, f) ← f.register ⟨key, entry.provider, entry.description⟩
    return (.registered id, f)
  | .remove id => do
    let (existed, f) ← f.unregister id
    return (.removed existed, f)

def run (f : Factory) : List Change → Journaled (List Answer × Factory)
  | [] => return ([], f)
  | c :: cs => do
    let (a, f) ← f.change c
    let (as, f) ← f.run cs
    return (a :: as, f)

def directory (f : Factory) : Directory := fun key => (f.find? key).map Registration.entry

/-- No two registrations have their key in common. -/
def Distinct (f : Factory) : Prop := (f.registrations.map Registration.key).Nodup

variable {f : Factory}

theorem directory_isSome_iff {key : RegistrationKey} :
    (f.directory key).isSome ↔ ∃ r ∈ f.registrations, r.key = key := by
  simp [directory, find?]

theorem hasId_iff {id : String} :
    f.hasId id = true ↔ ∃ key, (f.directory key).isSome ∧ key.id = id := by
  simp only [hasId, List.any_eq_true, decide_eq_true_eq, directory_isSome_iff]
  constructor
  · rintro ⟨r, member, named⟩
    exact ⟨r.key, ⟨r, member, rfl⟩, named⟩
  · rintro ⟨_, ⟨r, member, rfl⟩, named⟩
    exact ⟨r, member, named⟩

theorem find?_insert (f : Factory) (r : Registration) : (f.insert r).find? r.key = some r := by
  have others : (f.registrations.filter (·.key ≠ r.key)).find? (·.key = r.key) = none := by
    rw [List.find?_eq_none]
    intro other member
    simpa using (List.mem_filter.mp member).2
  rw [find?, insert, List.find?_append, others]
  simp

theorem find?_insert_other (f : Factory) {r : Registration} {key : RegistrationKey}
    (apart : key ≠ r.key) : (f.insert r).find? key = f.find? key := by
  have kept : (f.registrations.filter (·.key ≠ r.key)).find? (·.key = key) =
      f.registrations.find? (·.key = key) := by
    rw [List.find?_filter]
    congr 1
    funext other
    by_cases same : other.key = key
    · simp [same, apart]
    · simp [same]
  rw [find?, insert, List.find?_append, kept]
  simp [find?, apart.symm]

theorem directory_insert (r : Registration) :
    (f.insert r).directory = Function.update f.directory r.key (some r.entry) := by
  funext key
  by_cases same : key = r.key
  · subst same
    rw [directory, find?_insert, Function.update_self]
    rfl
  · rw [directory, find?_insert_other f same, Function.update_of_ne same]
    rfl

theorem insert_distinct (distinct : f.Distinct) (r : Registration) : (f.insert r).Distinct := by
  simp only [Distinct, insert, List.map_append, List.nodup_append]
  refine ⟨(List.filter_sublist.map _).nodup distinct, by simp, ?_⟩
  intro a kept b last
  obtain ⟨other, member, rfl⟩ := List.mem_map.mp kept
  have apart : other.key ≠ r.key := by simpa using (List.mem_filter.mp member).2
  have named : b = r.key := by simpa using last
  exact named ▸ apart

theorem directory_erase (id : String) :
    (f.erase id).directory = fun key => if key.id = id then none else f.directory key := by
  funext key
  simp only [directory, find?, erase, List.find?_filter]
  split
  · next named =>
    have absent : f.registrations.find?
        (fun r => decide (decide (r.key.id ≠ id) = true ∧ decide (r.key = key) = true)) = none := by
      rw [List.find?_eq_none]
      intro r _ both
      simp only [decide_eq_true_eq] at both
      exact both.1 (both.2 ▸ named)
    rw [absent]
    rfl
  · next apart =>
    congr 2
    funext r
    by_cases same : r.key = key
    · simp [same, apart]
    · simp [same]

theorem erase_distinct (distinct : f.Distinct) (id : String) : (f.erase id).Distinct :=
  (List.filter_sublist.map _).nodup distinct

/-- Identifiers do not collide, so that only the entry of that key goes. -/
theorem directory_erase_id (key : RegistrationKey) :
    (f.erase key.id).directory = Function.update f.directory key none := by
  rw [directory_erase]
  funext other
  by_cases same : other = key
  · subst same
    simp
  · have apart : other.id ≠ key.id := fun ids => same (RegistrationKey.id_inj.mp ids)
    simp [apart, Function.update_of_ne same]

/-- A change of the factory is one of its directory. -/
theorem change_step (distinct : f.Distinct) (c : Change) (j : Journal) :
    Step f.directory c (f.change c j).1.1 (f.change c j).1.2.directory ∧
      (f.change c j).1.2.Distinct := by
  cases c with
  | register key entry =>
    have registered : (f.change (.register key entry) j).1 =
        (.registered key.id, f.insert ⟨key, entry.provider, entry.description⟩) := rfl
    rw [registered, directory_insert]
    exact ⟨.registered _ _ _, insert_distinct distinct _⟩
  | remove id =>
    cases had : f.hasId id with
    | true =>
      have removed : (f.change (.remove id) j).1 = (.removed true, f.erase id) := by
        simp only [change, unregister, had, if_true]
        rfl
      obtain ⟨key, live, rfl⟩ := hasId_iff.mp had
      rw [removed, directory_erase_id]
      exact ⟨.removed _ _ live, erase_distinct distinct _⟩
    | false =>
      have missing : (f.change (.remove id) j).1 = (.removed false, f) := by
        simp only [change, unregister, had, Bool.false_eq_true, if_false]
        rfl
      rw [missing]
      refine ⟨.missing _ _ fun key live named => ?_, distinct⟩
      simp [hasId_iff.mpr ⟨key, live, named⟩] at had

/-- From distinct keys on, a run of the factory is one of its directory. -/
theorem run_follows (distinct : f.Distinct) (cs : List Change) (j : Journal) :
    Run f.directory cs (f.run cs j).1.1 (f.run cs j).1.2.directory ∧
      (f.run cs j).1.2.Distinct := by
  induction cs generalizing f j with
  | nil => exact ⟨.nil _, distinct⟩
  | cons c cs ih =>
    obtain ⟨first, distinct⟩ := change_step distinct c j
    obtain ⟨later, ends⟩ := ih distinct (f.change c j).2
    exact ⟨.cons first later, ends⟩

theorem findSome?_candidates (d : Directory) (layer appContext : String) :
    (RegistrationKey.candidates layer appContext).findSome? d =
      d.mostSpecific layer appContext := by
  simp only [RegistrationKey.candidates, List.findSome?_cons, List.findSome?_nil,
    Directory.mostSpecific]
  cases d ⟨some layer, some appContext⟩ <;> cases d ⟨none, some appContext⟩ <;>
    cases d ⟨some layer, none⟩ <;> cases d ⟨none, none⟩ <;> rfl

/-- What is looked up is what the directory has for it. -/
theorem match?_entry (f : Factory) (layer appContext : String) :
    (f.match? layer appContext).map Registration.entry =
      f.directory.mostSpecific layer appContext := by
  rw [match?, ← findSome?_candidates, List.map_findSome?]
  rfl

theorem provider?_eq (f : Factory) (layer appContext : String) (j : Journal) :
    (f.provider? layer appContext j).1 =
      (f.directory.mostSpecific layer appContext).map Entry.provider := by
  rw [← match?_entry, Option.map_map]
  cases matched : f.match? layer appContext with
  | none =>
    simp only [provider?, matched]
    rfl
  | some r =>
    simp only [provider?, matched]
    rfl

/-- What the queries of a factory answer if it stands for this map. -/
structure Presents (f : Factory) (d : Directory) : Prop where
  ids_ascending : f.ids.Pairwise (· < ·)
  /-- One identifier for each live key. -/
  ids_live : ∃ keys : List RegistrationKey, keys.Nodup ∧ (∀ key, key ∈ keys ↔ (d key).isSome) ∧
    f.ids.Perm (keys.map RegistrationKey.id)
  described : ∀ key, f.description? key.id = (d key).map Entry.description
  undescribed : ∀ id, (∀ key, (d key).isSome → key.id ≠ id) → f.description? id = none
  provided : ∀ layer appContext j, (f.provider? layer appContext j).1 =
    (d.mostSpecific layer appContext).map Entry.provider

theorem ids_perm (f : Factory) :
    f.ids.Perm ((f.registrations.map Registration.key).map RegistrationKey.id) := by
  rw [List.map_map]
  exact List.mergeSort_perm _ _

theorem ids_nodup (distinct : f.Distinct) : f.ids.Nodup := by
  rw [f.ids_perm.nodup_iff]
  exact List.Pairwise.map _ (fun _ _ apart same => apart (RegistrationKey.id_inj.mp same)) distinct

theorem ids_pairwise (distinct : f.Distinct) : f.ids.Pairwise (· < ·) := by
  have ordered : f.ids.Pairwise fun a b => decide (a ≤ b) = true := by
    refine List.pairwise_mergeSort (fun a b c first later => ?_) (fun a b => ?_) _
    · exact decide_eq_true (String.le_trans (of_decide_eq_true first) (of_decide_eq_true later))
    · simpa using String.le_total a b
  refine (ordered.and (ids_nodup distinct)).imp fun both => ?_
  exact Std.lt_of_le_of_ne (of_decide_eq_true both.1) both.2

theorem presents_directory (distinct : f.Distinct) : f.Presents f.directory where
  ids_ascending := ids_pairwise distinct
  ids_live := ⟨f.registrations.map Registration.key, distinct, fun key => by
    simp [directory_isSome_iff], f.ids_perm⟩
  described key := by
    simp only [description?, directory, find?, Option.map_map, RegistrationKey.id_inj]
    rfl
  undescribed id absent := by
    have unfound : f.registrations.find? (·.key.id = id) = none := by
      rw [List.find?_eq_none]
      intro r member named
      exact absent r.key (directory_isSome_iff.mpr ⟨r, member, rfl⟩) (of_decide_eq_true named)
    rw [description?, unfound]
    rfl
  provided := f.provider?_eq

/-- The factory `g` finds this registration under its key, whatever `f` had there, and under every
other key what `f` has. Its queries answer accordingly. -/
structure Gains (f : Factory) (r : Registration) (g : Factory) : Prop where
  found : g.find? r.key = some r
  others : ∀ key, key ≠ r.key → g.find? key = f.find? key
  presents : f.Distinct →
    g.Distinct ∧ g.Presents (Function.update f.directory r.key (some r.entry))

theorem gains_insert (f : Factory) (r : Registration) : f.Gains r (f.insert r) where
  found := find?_insert f r
  others _ apart := find?_insert_other f apart
  presents distinct := by
    have ends := insert_distinct distinct r
    exact ⟨ends, directory_insert r ▸ presents_directory ends⟩

/-- Whatever is registered and removed, in whatever order and under whatever keys, a factory that
starts empty does what its map does: it answers every change as the map does, and every query from
the map that the changes have left. -/
theorem run_refines (cs : List Change) (j : Journal) :
    ∃ d, Run .empty cs (run {} cs j).1.1 d ∧ (run {} cs j).1.2.Presents d := by
  have distinct : Distinct {} := List.nodup_nil
  obtain ⟨follows, ends⟩ := run_follows distinct cs j
  exact ⟨_, follows, presents_directory ends⟩

end Factory
end RequestAuth
