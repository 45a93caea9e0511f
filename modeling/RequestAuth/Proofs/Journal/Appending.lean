import RequestAuth.Negotiation

/-! What an activity leaves in the journal. An activity between provider, handler and domain runs
the same way whatever the journal already holds, only appends to it, and draws its identifiers
from the same source, onward from where that is. -/
namespace RequestAuth

namespace Event

/-- What is said between a provider, the handler of its callbacks and the security domain. -/
def Consulting : Event → Prop
  | .notice _ | .callbacksHandled _ | .identityRequested _ | .passwordRequested _ _ => True
  | _ => False

def response? : Event → Option Response
  | .responded r => some r
  | _ => none

def call? : Event → Option ProviderCall
  | .providerCalled c => some c
  | _ => none

/-- What belongs to a negotiation: consultations, calls of the provider and its response. -/
def Negotiating (e : Event) : Prop := e.Consulting ∨ e.call?.isSome ∨ e.response?.isSome

end Event

namespace Journaled

/-- `act` adds events of the class `P` only, and draws onward from the source that was there. -/
def Adds (P : Event → Prop) (act : Journaled α) : Prop :=
  ∀ ids, ∃ a drawn added, ids.drawn ≤ drawn ∧ (∀ e ∈ added, P e) ∧
    ∀ events, act ⟨ids, events⟩ = (a, ⟨{ ids with drawn }, events ++ added⟩)

theorem Adds.pure (a : α) : Adds P (pure a) :=
  fun ids => ⟨a, ids.drawn, [], Nat.le_refl _, by simp, fun events => by rw [List.append_nil]; rfl⟩

theorem Adds.record {P : Event → Prop} {e : Event} (h : P e) : Adds P (Journal.record e) :=
  fun ids => ⟨(), ids.drawn, [e], Nat.le_refl _, by simpa using h, fun _ => rfl⟩

theorem Adds.build (draft : IdentityDraft) : Adds P (Journal.build draft) := by
  intro ids
  cases named : draft.id with
  | some id =>
    refine ⟨⟨id, draft.principal, draft.roles, draft.attributes⟩, ids.drawn, [], Nat.le_refl _,
      by simp, ?_⟩
    intro events
    simp only [Journal.build, IdentityDraft.build, named, List.append_nil]
    rfl
  | none =>
    refine ⟨⟨ids.ids ids.drawn, draft.principal, draft.roles, draft.attributes⟩, ids.drawn + 1, [],
      Nat.le_succ _, by simp, ?_⟩
    intro events
    simp only [Journal.build, IdentityDraft.build, named, List.append_nil]
    rfl

theorem Adds.bind {act : Journaled α} {next : α → Journaled β} (first : Adds P act)
    (later : ∀ a, Adds P (next a)) : Adds P (act >>= next) := by
  intro ids
  obtain ⟨a, drawn, added, onward, only, runs⟩ := first ids
  obtain ⟨b, last, more, further, onlyMore, goes⟩ := later a { ids with drawn }
  refine ⟨b, last, added ++ more, Nat.le_trans onward further, ?_, ?_⟩
  · intro e member
    rcases List.mem_append.mp member with member | member
    · exact only e member
    · exact onlyMore e member
  · intro events
    change next (act ⟨ids, events⟩).1 (act ⟨ids, events⟩).2 = _
    rw [runs, goes, List.append_assoc]

theorem Adds.mono {act : Journaled α} (adds : Adds P act) (weaker : ∀ e, P e → Q e) :
    Adds Q act := by
  intro ids
  obtain ⟨a, drawn, added, onward, only, runs⟩ := adds ids
  exact ⟨a, drawn, added, onward, fun e member => weaker e (only e member), runs⟩

/-- The source stays the same sequence, and what it has handed out it does not hand out again. -/
theorem Adds.draws {act : Journaled α} (adds : Adds P act) (j : Journal) :
    (act j).2.ids.ids = j.ids.ids ∧ j.ids.drawn ≤ (act j).2.ids.drawn := by
  obtain ⟨a, drawn, added, onward, -, runs⟩ := adds j.ids
  have run : act j = (a, ⟨{ j.ids with drawn }, j.events ++ added⟩) := runs j.events
  rw [run]
  exact ⟨rfl, onward⟩

theorem Adds.grows {act : Journaled α} {a : α} {j last : Journal} (adds : Adds P act)
    (ran : act j = (a, last)) : ∃ added, last.events = j.events ++ added ∧ ∀ e ∈ added, P e := by
  obtain ⟨found, drawn, added, -, only, runs⟩ := adds j.ids
  have run : act j = (found, ⟨{ j.ids with drawn }, j.events ++ added⟩) := runs j.events
  cases run.symm.trans ran
  exact ⟨added, rfl, only⟩

/-- From the same source on it does the same, whatever has been journaled before. -/
theorem Adds.both {act : Journaled α} {j k : Journal} (adds : Adds P act) (ids : k.ids = j.ids) :
    ∃ a drawn added, act j = (a, ⟨{ j.ids with drawn }, j.events ++ added⟩) ∧
      act k = (a, ⟨{ j.ids with drawn }, k.events ++ added⟩) := by
  obtain ⟨a, drawn, added, -, -, runs⟩ := adds j.ids
  have split : k = ⟨j.ids, k.events⟩ := by rw [← ids]
  refine ⟨a, drawn, added, runs j.events, ?_⟩
  rw [split]
  exact runs k.events

theorem Adds.lift {act : Journaled α} (adds : Adds P act) :
    Adds P (liftM act : Negotiation.Staged α).run :=
  Adds.bind adds fun _ => Adds.pure _

theorem Adds.ebind {act : Negotiation.Staged α} {next : α → Negotiation.Staged β}
    (first : Adds P act.run) (later : ∀ a, Adds P (next a).run) : Adds P (act >>= next).run := by
  change Adds P (act.run >>= ExceptT.bindCont next)
  apply Adds.bind first
  intro ended
  cases ended with
  | error e => exact Adds.pure _
  | ok a => exact later a

end Journaled
end RequestAuth
