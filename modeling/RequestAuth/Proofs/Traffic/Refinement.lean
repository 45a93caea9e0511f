import RequestAuth.Proofs.Traffic.Serving

/-! Runs on a store are runs of its ledger: a step at a time, and from there all the way. -/
namespace RequestAuth

namespace SessionStore

variable {store : SessionStore}

/-- A step of the store is one of the ledger, and leaves the store kept. -/
theorem Kept.step {step : Step} (kept : store.Kept) (fresh : (store.step step).2.Extends store) :
    ((store.step step).1, (store.step step).2.ledger) = store.ledger.step step ∧
      (store.step step).2.Kept := by
  cases step with
  | visit v =>
    obtain ⟨refines, keeps⟩ := Visit.serve_refines kept fresh
    refine ⟨?_, keeps⟩
    simp only [SessionStore.step, Ledger.step, ← refines]
  | invalidate id =>
    refine ⟨?_, kept.invalidate id⟩
    simp only [SessionStore.step, Ledger.step, ledger_invalidate, ledger_isSome]
    rfl
  | make id =>
    have unused : store.Unused id.text := by
      refine fresh ⟨id.text, ∅, true⟩ ?_
      simp [SessionStore.step, SessionStore.made]
    refine ⟨?_, kept.made unused⟩
    simp only [SessionStore.step, Ledger.step, ledger_made unused]
  | write id key value apart =>
    refine ⟨?_, kept.modify id (fun s => ⟨rfl, rfl⟩) fun s other stored => .inl ?_⟩
    · have same : (store.setAttribute id key value).ledger = store.ledger :=
        ledger_modify id (fun s => ⟨rfl, rfl⟩) fun s =>
          TextMap.find?_insert_other s.attributes (Ne.symm apart) value
      simp only [SessionStore.step, Ledger.step, same]
    · rwa [TextMap.find?_insert_other s.attributes (Ne.symm apart) value] at stored
  | erase id key apart =>
    refine ⟨?_, kept.modify id (fun s => ⟨rfl, rfl⟩) fun s other stored => .inl ?_⟩
    · have same : (store.removeAttribute id key).ledger = store.ledger :=
        ledger_modify id (fun s => ⟨rfl, rfl⟩) fun s =>
          TextMap.find?_erase_other s.attributes (Ne.symm apart)
      simp only [SessionStore.step, Ledger.step, same]
    · rwa [TextMap.find?_erase_other s.attributes (Ne.symm apart)] at stored

/-- From a store that is kept, a run of the store is the run of its ledger. -/
theorem Kept.follows {steps : List Step} (kept : store.Kept) (fresh : store.FreshRun steps) :
    trail Ledger.step store.ledger steps =
        ((trail SessionStore.step store steps).1, (store.after steps).ledger) ∧
      (store.after steps).Kept := by
  induction steps generalizing store with
  | nil => exact ⟨rfl, kept⟩
  | cons step steps ih =>
    obtain ⟨first, later⟩ := fresh
    obtain ⟨refines, keeps⟩ := kept.step first
    obtain ⟨follows, ends⟩ := ih keeps later
    refine ⟨?_, ends⟩
    simp only [trail, ← refines, follows]
    rfl

/-- From a store without a record, any run shows what the ledger shows, step for step, and ends
with the logins of the ledger. -/
theorem run_simulates {steps : List Step} (unrecorded : store.Unrecorded)
    (distinct : store.Distinct) (fresh : store.FreshRun steps) :
    (∀ presented, store.ledger.login? presented = none) ∧
      (trail SessionStore.step store steps).1 =
        (trail Ledger.step store.ledger steps).1 ∧
      (trail SessionStore.step store steps).2.ledger =
        (trail Ledger.step store.ledger steps).2 := by
  obtain ⟨follows, -⟩ := (unrecorded.kept distinct).follows fresh
  rw [follows]
  exact ⟨unrecorded.login?, rfl, rfl⟩

/-- An anonymous caller is cached and comes back, before and after the session is invalidated. -/
theorem run_simulates_return :
    let p := Provider.steady [.caller none] (Response.registerSession ⟨.success, ∅⟩ true)
    let u := Visit.plain ⟨fun _ => none, fun _ _ => false⟩ p
    let v := { u with presented := some (default : Uuid).text }
    let w := { v with ids := fun _ => ⟨1⟩ }
    let steps : List Step := [.visit u, .visit v, .invalidate (default : Uuid).text, .visit w]
    Unrecorded {} ∧ Distinct {} ∧ FreshRun {} steps ∧
      (∀ presented, (ledger {}).login? presented = none) ∧
      (trail SessionStore.step {} steps).1 = (trail Ledger.step (ledger {}) steps).1 ∧
      (trail SessionStore.step {} steps).2.ledger = (trail Ledger.step (ledger {}) steps).2 := by
  intro p u v w steps
  have fresh : FreshRun {} steps := by decide +kernel
  exact ⟨unrecorded_empty, List.nodup_nil, fresh,
    run_simulates unrecorded_empty List.nodup_nil fresh⟩

end SessionStore
end RequestAuth
