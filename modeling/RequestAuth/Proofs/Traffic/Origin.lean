import RequestAuth.Proofs.Traffic.Refinement

/-! Where the identities come from that a run announces. A request is completed by its own provider,
or by the login that an earlier request of the run wrote into the session. -/
namespace RequestAuth

theorem Visit.verdict_some {v : Visit} {response : Response} {login : Login} {spare : String}
    (verdict : v.verdict = some ⟨response, login, spare⟩) :
    ∃ handler j, v.answer = (.ok (.validated response handler), j) ∧
      login.identity = (handler.authorizedIdentity j).1 ∧
      login.authType = response.resolvedAuthType v.engine.mechanism := by
  rcases answer : v.answer with ⟨_ | _ | ⟨found, handler⟩, j⟩
  · simp [Visit.verdict, answer] at verdict
  · simp [Visit.verdict, answer] at verdict
  · have decided := verdict_eq (congrArg Prod.fst answer)
    rw [verdict, answer] at decided
    cases decided
    exact ⟨handler, j, rfl, rfl, rfl⟩

namespace Ledger

variable {ledger : Ledger}

/-- A step that leaves a login in the ledger found it there or is the request that wrote it. -/
theorem step_origin {step : Step} {id : String} {login : Login}
    (held : (ledger.step step).2 id = some (some login)) :
    ledger id = some (some login) ∨ ∃ u response spare, step = .visit u ∧
      u.verdict = some ⟨response, login, spare⟩ ∧ response.Registers ∧
      (ledger.visit u).1.written = [login.record.encode] ∧
      (ledger.visit u).1.attached = some id := by
  cases step with
  | visit u =>
    cases found : ledger.login? u.presented with
    | some present =>
      simp only [step, visit, found] at held
      exact .inl held
    | none =>
      rcases verdict : u.verdict with _ | ⟨response, own, spare⟩
      · simp only [step, visit, found, verdict] at held
        exact .inl held
      · by_cases registers : response.Registers
        · simp only [step, visit, found, verdict, registers, if_true, set] at held
          split at held
          · rename_i here
            cases held
            refine .inr ⟨u, response, spare, rfl, verdict, registers, ?_, ?_⟩
            · simp [visit, found, verdict, registers]
            · simp [visit, found, verdict, registers, here]
          · exact .inl held
        · simp only [step, visit, found, verdict, registers, if_false] at held
          exact .inl held
  | invalidate other =>
    simp only [step, set] at held
    split at held
    · cases held
    · exact .inl held
  | make other =>
    simp only [step, set] at held
    split at held
    · cases held
    · exact .inl held
  | write | erase => exact .inl held

/-- A request is completed with the login of its session, or with the one that its provider's
success establishes when the session has none. -/
theorem completion_origin {v : Visit} {c : Completion}
    (completed : c ∈ (ledger.visit v).1.completions) :
    (∃ login, ledger.login? v.presented = some login ∧ c = login.completion ∧
        (ledger.visit v).1.calls = []) ∨
      (ledger.login? v.presented = none ∧ ∃ response login spare,
        v.verdict = some ⟨response, login, spare⟩ ∧ response.status = .success ∧
        c = login.completion) := by
  cases found : ledger.login? v.presented with
  | some login =>
    simp only [visit, found, List.mem_singleton] at completed
    exact .inl ⟨login, rfl, completed, by simp [visit, found]⟩
  | none =>
    rcases verdict : v.verdict with _ | ⟨response, login, spare⟩
    · simp [visit, found, verdict] at completed
    · have decided : response.status = .success ∧ c = login.completion := by
        by_cases registers : response.Registers
        · simpa [visit, found, verdict, registers] using completed
        · simpa [visit, found, verdict, registers] using completed
      exact .inr ⟨rfl, response, login, spare, rfl, decided⟩

end Ledger

namespace SessionStore

variable {store : SessionStore}

/-- `u` is one of the requests in the run, and the one that wrote this login into the session. -/
def Wrote (store : SessionStore) (steps : List Step) (u : Visit) (login : Login) (id : String) :
    Prop :=
  ∃ earlier later, steps = earlier ++ .visit u :: later ∧
    (u.seen (store.after earlier)).written = [login.record.encode] ∧
    (u.seen (store.after earlier)).attached = some id

theorem Wrote.cons {steps : List Step} {u : Visit} {login : Login} {id : String} (step : Step)
    (wrote : (store.step step).2.Wrote steps u login id) :
    store.Wrote (step :: steps) u login id := by
  obtain ⟨earlier, later, rfl, written, attached⟩ := wrote
  exact ⟨step :: earlier, later, rfl, written, attached⟩

theorem Wrote.mem {steps : List Step} {u : Visit} {login : Login} {id : String}
    (wrote : store.Wrote steps u login id) : .visit u ∈ steps := by
  obtain ⟨earlier, later, rfl, -, -⟩ := wrote
  simp

/-- A login that a session has after a run was there before, or a request of the run wrote it, at
the end of a negotiation. -/
theorem Kept.login_origin {steps : List Step} {id : String} {login : Login} (kept : store.Kept)
    (fresh : store.FreshRun steps) (held : (store.after steps).ledger id = some (some login)) :
    store.ledger id = some (some login) ∨ ∃ u response spare,
      u.verdict = some ⟨response, login, spare⟩ ∧ response.Registers ∧
      store.Wrote steps u login id := by
  induction steps generalizing store with
  | nil => exact .inl held
  | cons step steps ih =>
    obtain ⟨first, later⟩ := fresh
    obtain ⟨refines, keeps⟩ := kept.step first
    rcases ih keeps later held with here | ⟨u, response, spare, verdict, registers, wrote⟩
    · have ledger_eq : (store.step step).2.ledger = (store.ledger.step step).2 :=
        congrArg Prod.snd refines
      rw [ledger_eq] at here
      rcases Ledger.step_origin here with before | ⟨u, response, spare, rfl, verdict, registers,
        written, attached⟩
      · exact .inl before
      · have seen : u.seen store = (store.ledger.visit u).1 :=
          Shown.served.inj (congrArg Prod.fst refines)
        rw [← seen] at written attached
        exact .inr ⟨u, response, spare, verdict, registers, [], steps, rfl, written, attached⟩
    · exact .inr ⟨u, response, spare, verdict, registers, wrote.cons step⟩

/-- A request that follows a run is completed by its own provider, when its session has no record,
or else without one, with a login that a request of the run wrote into the session. -/
theorem completion_source {before : List Step} {v : Visit} {c : Completion}
    (fresh : FreshRun {} (before ++ [.visit v]))
    (completed : c ∈ (v.seen (after {} before)).completions) :
    ((after {} before).record? v.presented = none ∧ ∃ response login spare,
        v.verdict = some ⟨response, login, spare⟩ ∧ response.status = .success ∧
        c = login.completion) ∨
      ∃ id u response login spare, v.presented = some id ∧ Wrote {} before u login id ∧
        u.verdict = some ⟨response, login, spare⟩ ∧ response.Registers ∧ c = login.completion ∧
        (v.seen (after {} before)).calls = [] := by
  have start : Kept {} := unrecorded_empty.kept List.nodup_nil
  obtain ⟨run, last⟩ := freshRun_append.mp fresh
  obtain ⟨-, kept⟩ := start.follows run
  obtain ⟨refines, -⟩ := Visit.serve_refines kept last.1
  have seen : v.seen (after {} before) = ((after {} before).ledger.visit v).1 :=
    congrArg Prod.fst refines
  rw [seen] at completed
  rcases Ledger.completion_origin completed with
    ⟨login, held, rfl, uncalled⟩ | ⟨missing, negotiated⟩
  · obtain ⟨id, presented, held⟩ := Ledger.login?_eq_some_iff.mp held
    rcases start.login_origin run held with earlier |
      ⟨u, response, spare, verdict, registers, wrote⟩
    · simp [ledger, find?] at earlier
    · exact .inr ⟨id, u, response, login, spare, presented, wrote, verdict, registers,
        rfl, seen ▸ uncalled⟩
  · exact .inl ⟨kept.record?_of_login? missing, negotiated⟩

end SessionStore
end RequestAuth
