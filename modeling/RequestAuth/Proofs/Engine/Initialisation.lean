import RequestAuth.Engine.Deployment
import RequestAuth.Proofs.Json.Layout

/-! Configuring the engine, and initialising a deployment of it however often. The first
configuration that is accepted makes the engine; no other attempt has an effect. -/
namespace RequestAuth

namespace EngineConfig

open Decode

def places : List (Place EngineConfig) := [
  { name := "enabled", grammar := .boolean, get := enabled,
    put := fun enabled c => { c with enabled } },
  { name := "integrated", grammar := .boolean, get := integrated,
    put := fun integrated c => { c with integrated } },
  { name := "application_context", grammar := .text, get := appContext,
    put := fun appContext c => { c with appContext } },
  { name := "mechanism_name", grammar := .text, get := mechanismName,
    put := fun mechanismName c => { c with mechanismName } }]

theorem layout : Layout shape places where
  fields := rfl
  distinct := by decide
  apart := by simp [places, Place.Apart]
  whole := by
    rintro ⟨⟩ ⟨⟩ same
    simpa [places] using same

/-- The document gives the configuration. What it leaves out has its default. -/
def Spelled (c : EngineConfig) (v : Json) : Prop :=
  ∃ enabled integrated appContext mechanismName,
    v.GivesOnly ["enabled", "integrated", "application_context", "mechanism_name"] 0
      [enabled, integrated, appContext, mechanismName] ∧
    Json.GivesOr (Json.bool · = ·) true enabled c.enabled ∧
    Json.GivesOr (Json.bool · = ·) true integrated c.integrated ∧
    Json.GivesOr (Json.str · = ·) "default-host /" appContext c.appContext ∧
    Json.GivesOr (Json.str · = ·) "JASPIC" mechanismName c.mechanismName

theorem read_eq_ok_iff {v : Json} (canonical : v.Canonical) {c : EngineConfig} :
    shape.read {} v = .ok c ↔ c.Spelled v := by
  rw [layout.read_closed_iff rfl canonical]
  constructor
  · rintro ⟨_, gives, _ | ⟨enabled, _ | ⟨integrated, _ | ⟨appContext, _ | ⟨mechanismName, ⟨⟩⟩⟩⟩⟩⟩
    exact ⟨_, _, _, _, gives, enabled, integrated, appContext, mechanismName⟩
  · rintro ⟨_, _, _, _, gives, enabled, integrated, appContext, mechanismName⟩
    exact ⟨_, gives, .cons enabled <| .cons integrated <| .cons appContext <|
      .cons mechanismName .nil⟩

theorem mechanism_eq_ok_iff {c : EngineConfig} {m : AuthType} :
    c.mechanism = .ok m ↔ m.text = c.mechanismName := by
  cases known : AuthType.ofText? c.mechanismName with
  | none =>
    simp only [mechanism, known, reduceCtorEq, false_iff]
    intro same
    simp [← same] at known
  | some m' =>
    simp only [mechanism, known, Except.ok.injEq]
    rw [← AuthType.text_of_ofText? known, AuthType.text_inj]
    exact eq_comm

theorem exists_mechanism_iff {c : EngineConfig} :
    (∃ m, c.mechanism = .ok m) ↔ Text.isBlank c.mechanismName = false := by
  simp only [mechanism_eq_ok_iff]
  constructor
  · rintro ⟨m, same⟩
    exact same ▸ m.notBlank
  · intro named
    exact ⟨⟨_, named⟩, rfl⟩

theorem decode_eq_ok_iff_read {v : Json} {c : EngineConfig} :
    decode v = .ok c ↔ shape.read {} v = .ok c ∧ Text.isBlank c.mechanismName = false := by
  cases read : shape.read {} v with
  | error e =>
    simp only [decode, read, reduceCtorEq, false_and]
  | ok found =>
    simp only [decode, read, Except.ok.injEq, ← exists_mechanism_iff]
    cases named : found.mechanism with
    | error e =>
      refine iff_of_false (fun decoded => nomatch decoded) ?_
      rintro ⟨rfl, m, same⟩
      simp [named] at same
    | ok m =>
      constructor
      · intro decoded
        obtain rfl : found = c := Except.ok.inj decoded
        exact ⟨rfl, m, named⟩
      · rintro ⟨rfl, -⟩
        rfl

/-- What has been decoded has a mechanism. -/
theorem mechanism_of_decode {v : Json} {c : EngineConfig} (read : decode v = .ok c) :
    ∃ m, c.mechanism = .ok m :=
  exists_mechanism_iff.mpr (decode_eq_ok_iff_read.mp read).2

theorem decode_eq_ok_iff {v : Json} (canonical : v.Canonical) {c : EngineConfig} :
    decode v = .ok c ↔ c.Spelled v ∧ Text.isBlank c.mechanismName = false := by
  rw [decode_eq_ok_iff_read, read_eq_ok_iff canonical]

end EngineConfig

/-- Where there is a mechanism there is an engine. -/
theorem Engine.create_eq {c : EngineConfig} {m : AuthType} (named : c.mechanism = .ok m)
    (access : RegistryAccess) (domain : SecurityDomain) (fallback : Exchanging Bool) :
    Engine.create c access domain fallback = do
      Journal.note (.engineCreated c.enabled c.appContext)
      return .ok ⟨c, m, access, domain, fallback⟩ := by
  simp only [Engine.create, named]

namespace Deployment

/-- An attempt to initialise. -/
structure Attempt where
  value : Json
  access : RegistryAccess
  domain : SecurityDomain
  fallback : Exchanging Bool

/-- What an attempt comes to: its answer, and the engine that is deployed afterwards. -/
structure Attempted where
  answer : Except InitError Engine
  engine : Option Engine

/-- Attempts one after the other in the same deployment. -/
def attempts (d : Deployment) : List Attempt → Journaled (List Attempted)
  | [] => return []
  | a :: as => do
    let (answer, d) ← d.init a.value a.access a.domain a.fallback
    return ⟨answer, d.engine⟩ :: (← attempts d as)

namespace Attempt

/-- The configuration is accepted. -/
def Accepted (a : Attempt) : Prop := ∃ c, EngineConfig.decode a.value = .ok c

/-- The engine has the configuration and everything else from the attempt. -/
structure Makes (a : Attempt) (e : Engine) : Prop where
  config : EngineConfig.decode a.value = .ok e.config
  mechanism : e.mechanism.text = e.config.mechanismName
  access : e.access = a.access
  domain : e.domain = a.domain
  fallback : e.fallback = a.fallback

/-- The attempt fails, with what is wrong with its configuration if anything is, and this is
deployed. -/
def refused (engine : Option Engine) (a : Attempt) : Attempted where
  answer := .error <|
    match EngineConfig.decode a.value with
    | .error cause => .config cause
    | .ok _ => .alreadyInitialized
  engine := engine

end Attempt

/-- How a sequence of attempts goes in a new deployment. -/
inductive Course : List Attempt → List Attempted → Prop
  | nil : Course [] []
  | refused (invalid : ¬a.Accepted) (rest : Course as rs) :
    Course (a :: as) (a.refused none :: rs)
  /-- The engine that the first accepted one makes stays, whatever comes after it. -/
  | deployed (made : a.Makes e) :
    Course (a :: as) (⟨.ok e, some e⟩ :: as.map (Attempt.refused (some e)))

section Step

variable {d : Deployment} {a : Attempt}

/-- What `init` does, with what the attempt comes to put in one. -/
def attempt (d : Deployment) (a : Attempt) (j : Journal) :
    (Except InitError Engine × Deployment) × Journal :=
  d.init a.value a.access a.domain a.fallback j

theorem attempts_cons (as : List Attempt) (j : Journal) :
    (d.attempts (a :: as) j).1 =
      ⟨(d.attempt a j).1.1, (d.attempt a j).1.2.engine⟩ ::
        ((d.attempt a j).1.2.attempts as (d.attempt a j).2).1 := rfl

theorem attempt_decoded {c : EngineConfig} {m : AuthType} (read : EngineConfig.decode a.value = .ok c)
    (named : c.mechanism = .ok m) (j : Journal) :
    (d.attempt a j).1 =
      match d.engine with
      | some _ => (.error .alreadyInitialized, d)
      | none =>
        (.ok ⟨c, m, a.access, a.domain, a.fallback⟩,
          ⟨some ⟨c, m, a.access, a.domain, a.fallback⟩⟩) := by
  simp only [attempt, init, read, Engine.create_eq named]
  cases d.engine <;> rfl

/-- Neither with a configuration that is not accepted nor where an engine is deployed does an attempt
do anything. -/
theorem attempt_refused (idle : ¬a.Accepted ∨ d.engine.isSome) (j : Journal) :
    (d.attempt a j).1 = ((a.refused d.engine).answer, d) := by
  cases read : EngineConfig.decode a.value with
  | error cause =>
    simp only [attempt, init, read, Attempt.refused]
    rfl
  | ok c =>
    obtain ⟨e, taken⟩ := Option.isSome_iff_exists.mp (idle.resolve_left (not_not_intro ⟨c, read⟩))
    obtain ⟨m, named⟩ := EngineConfig.mechanism_of_decode read
    rw [attempt_decoded read named, taken]
    simp only [Attempt.refused, read]

/-- The first configuration that is accepted makes the engine. -/
theorem attempt_accepted (accepted : a.Accepted) (j : Journal) :
    ∃ e, a.Makes e ∧ (attempt {} a j).1 = (.ok e, ⟨some e⟩) := by
  obtain ⟨c, read⟩ := accepted
  obtain ⟨m, named⟩ := EngineConfig.mechanism_of_decode read
  exact ⟨⟨c, m, a.access, a.domain, a.fallback⟩,
    ⟨read, EngineConfig.mechanism_eq_ok_iff.mp named, rfl, rfl, rfl⟩, attempt_decoded read named j⟩

end Step

/-- Once an engine is deployed every attempt is refused. -/
theorem attempts_deployed (e : Engine) (as : List Attempt) (j : Journal) :
    (attempts ⟨some e⟩ as j).1 = as.map (Attempt.refused (some e)) := by
  induction as generalizing j with
  | nil => rfl
  | cons a as ih =>
    rw [attempts_cons, attempt_refused (.inr rfl), ih]
    rfl

theorem attempts_course (as : List Attempt) (j : Journal) : Course as (attempts {} as j).1 := by
  induction as generalizing j with
  | nil => exact .nil
  | cons a as ih =>
    rw [attempts_cons]
    by_cases accepted : a.Accepted
    · obtain ⟨e, made, came⟩ := attempt_accepted accepted j
      rw [came, attempts_deployed]
      exact .deployed made
    · rw [attempt_refused (.inl accepted)]
      exact .refused accepted (ih _)

/-- Which documents configure the engine, and that it is made by the first of them that a deployment
is given, once. -/
theorem configured_once :
    (∀ v : Json, v.Canonical → ∀ c, EngineConfig.decode v = .ok c ↔
      c.Spelled v ∧ Text.isBlank c.mechanismName = false) ∧
    (∀ v c, EngineConfig.decode v = .ok c → ∀ access domain fallback j,
      ∃ m, m.text = c.mechanismName ∧
        (Engine.create c access domain fallback j).1 = .ok ⟨c, m, access, domain, fallback⟩) ∧
    ∀ as j, Course as (attempts {} as j).1 := by
  refine ⟨fun v canonical c => EngineConfig.decode_eq_ok_iff canonical,
    fun v c read access domain fallback j => ?_, attempts_course⟩
  obtain ⟨m, named⟩ := EngineConfig.mechanism_of_decode read
  refine ⟨m, EngineConfig.mechanism_eq_ok_iff.mp named, ?_⟩
  rw [Engine.create_eq named]
  rfl

/-- An array that stops after its first element. -/
theorem configured_once_array :
    EngineConfig.decode (.arr [.bool false]) = .ok { enabled := false } ∧
      EngineConfig.Spelled { enabled := false } (.arr [.bool false]) := by
  have read : EngineConfig.decode (.arr [.bool false]) = .ok { enabled := false } := rfl
  exact ⟨read, ((configured_once.1 (.arr [.bool false]) ⟨trivial, trivial⟩ _).mp read).1⟩

end Deployment
end RequestAuth
