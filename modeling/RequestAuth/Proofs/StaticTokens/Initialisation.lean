import RequestAuth.Proofs.Registration.Directory
import RequestAuth.StaticTokens.Plugin

/-! Initialising the plugin, however often and with whatever configurations. The first one that can
be used is registered, once; no other attempt has an effect on the plugin or on a factory. -/
namespace RequestAuth

/-- The identifier that a factory has given out, where that is what the notice says. -/
def Notice.registered? : Notice → Option String
  | .registered id _ _ => some id
  | _ => none

namespace Journal

/-- The identifiers that factories have given out, in order: one for each registration, also where
it took the place of an equal one. -/
def registered (j : Journal) : List String := j.notices.filterMap Notice.registered?

/-- The journal once these notices have been added. -/
def noting (j : Journal) (ns : List Notice) : Journal := ⟨j.ids, j.events ++ ns.map .notice⟩

theorem noting_noting (j : Journal) (ns ms : List Notice) :
    (j.noting ns).noting ms = j.noting (ns ++ ms) := by
  simp [noting]

theorem registered_noting (j : Journal) (ns : List Notice) :
    (j.noting ns).registered = j.registered ++ ns.filterMap Notice.registered? := by
  have noted : (j.noting ns).notices = j.notices ++ ns := by
    simp only [notices, noting, List.filterMap_append, List.filterMap_map]
    exact congrArg (_ ++ ·) List.filterMap_some
  rw [registered, noted, List.filterMap_append, registered]

end Journal

namespace StaticTokens

/-- An authentication type is given, and it is white space throughout. -/
def Config.BlankAuthType (c : Config) : Prop :=
  ∃ label, c.authType = some label ∧ ∀ ch ∈ label.toList, Text.isSpace ch = true

theorem Config.blankAuthType_iff {c : Config} : c.BlankAuthType ↔ c.hasBlankAuthType = true := by
  simp only [BlankAuthType, hasBlankAuthType, Option.any_eq_true, Text.isBlank_iff]

instance (c : Config) : Decidable c.BlankAuthType :=
  decidable_of_iff _ Config.blankAuthType_iff.symm

/-- What a configuration puts into a factory. -/
def Config.registration (c : Config) : Registration where
  key := ⟨c.layer, c.appContext⟩
  provider := (Authenticator.ofConfig c).provider
  description := description

/-- What is noted when a configuration is registered. -/
def Config.notices (c : Config) (f : Factory) : List Notice :=
  (if c.mode = .acceptAll then [.everyTokenAccepted] else []) ++
    [.pluginLoaded c.mode.name c.tokens.length (scopeText c.layer) (scopeText c.appContext),
      .registered c.registration.key.id description (f.find? c.registration.key).isSome,
      .pluginRegistered c.registration.key.id]

theorem register_eq (c : Config) (f : Factory) (j : Journal) :
    register c f j =
      ((c.registration.key.id, f.insert c.registration), j.noting (c.notices f)) := by
  by_cases mode : c.mode = .acceptAll
  · simp only [register, mode, if_true]
    change (_, (((j.noting [_]).noting [_]).noting [_]).noting [_]) = _
    simp only [Journal.noting_noting, Config.notices, mode, if_true]
    rfl
  · simp only [register, mode, if_false]
    change (_, ((j.noting [_]).noting [_]).noting [_]) = _
    simp only [Journal.noting_noting, Config.notices, mode, if_false]
    rfl

theorem Config.registered_notices (c : Config) (f : Factory) :
    (c.notices f).filterMap Notice.registered? = [c.registration.key.id] := by
  rw [Config.notices, List.filterMap_append]
  split <;> rfl

/-- A configuration is installed unless its authentication type is blank, and then nothing at all
happens. -/
theorem install_eq (c : Config) (f : Factory) (j : Journal) :
    install c f j =
      if c.hasBlankAuthType then ((.error .blankAuthType, f), j)
      else ((.ok c.registration.key.id, f.insert c.registration), j.noting (c.notices f)) := by
  cases blank : c.hasBlankAuthType with
  | true =>
    simp only [install, Config.check, blank, if_true]
    rfl
  | false =>
    have answer := register_eq c f j
    simp only [install, Config.check, blank, Bool.false_eq_true, if_false]
    change ((Except.ok (register c f j).1.1, (register c f j).1.2), (register c f j).2) = _
    rw [answer]

/-- What has been installed is found in the factory, which is otherwise the same. -/
theorem install_gains {c : Config} {f g : Factory} {j : Journal} {id : String}
    (installed : (install c f j).1 = (.ok id, g)) : f.Gains c.registration g := by
  rw [install_eq] at installed
  split at installed
  · cases installed
  · have same : f.insert c.registration = g := congrArg Prod.snd installed
    exact same ▸ f.gains_insert c.registration

namespace Plugin

/-- An attempt to initialise: a configuration, and the factory as it is at that time. -/
structure Attempt where
  value : Json
  factory : Factory

/-- What an attempt comes to: its answer, the plugin that it leaves behind, and the factory. -/
structure Attempted where
  answer : Except InitError String
  plugin : Plugin
  factory : Factory

/-- Attempts one after the other with the same plugin. -/
def attempts (p : Plugin) : List Attempt → Journaled (List Attempted)
  | [] => return []
  | a :: as => do
    let (answer, p, f) ← p.init a.value a.factory
    return ⟨answer, p, f⟩ :: (← attempts p as)

namespace Attempt

/-- What is wrong with the configuration, if anything is: it is malformed, or its authentication type
is blank. -/
def fault? (a : Attempt) : Option InitError :=
  match Config.decode a.value with
  | .error e => some (.undecodable e)
  | .ok c => if c.BlankAuthType then some .blankAuthType else none

/-- The attempt fails and nothing has changed. What is wrong with its configuration goes before the
plugin having been initialised already. -/
def refused (p : Plugin) (a : Attempt) : Attempted :=
  ⟨.error (a.fault?.getD .alreadyInitialized), p, a.factory⟩

theorem fault?_ne (a : Attempt) : a.fault? ≠ some .alreadyRegistered := by
  unfold fault?
  split
  · simp
  · split <;> simp

theorem refused_answer (p : Plugin) (a : Attempt) :
    (a.refused p).answer ≠ .error .alreadyRegistered := by
  have apart := a.fault?_ne
  cases faulty : a.fault? with
  | none => simp [refused, faulty]
  | some e => simpa [refused, faulty] using apart

/-- A configuration without fault is one that can be read, and its authentication type is not
blank. -/
theorem fault?_eq_none {a : Attempt} (sound : a.fault? = none) :
    ∃ c, Config.decode a.value = .ok c ∧ ¬ c.BlankAuthType := by
  cases read : Config.decode a.value with
  | error e => simp [fault?, read] at sound
  | ok c =>
    by_cases blank : c.BlankAuthType
    · simp [fault?, read, blank] at sound
    · exact ⟨c, rfl, blank⟩

end Attempt

/-- The plugin once this configuration has been registered for it. -/
def initialised (c : Config) : Plugin :=
  ⟨some (.ofConfig c), some c.registration.key.id⟩

variable {p : Plugin} {a : Attempt}

section Step

/-- What `init` does, with the answer of an attempt put in one. -/
def attempt (p : Plugin) (a : Attempt) (j : Journal) : Attempted × Journal :=
  let r := p.init a.value a.factory j
  (⟨r.1.1, r.1.2.1, r.1.2.2⟩, r.2)

theorem attempts_cons (as : List Attempt) (j : Journal) :
    attempts p (a :: as) j =
      ((p.attempt a j).1 :: (attempts (p.attempt a j).1.plugin as (p.attempt a j).2).1,
        (attempts (p.attempt a j).1.plugin as (p.attempt a j).2).2) := rfl

/-- Neither with a fault of the configuration nor on a plugin that has been initialised does an
attempt do anything. -/
theorem attempt_refused (idle : a.fault?.isSome ∨ p.authenticator.isSome) (j : Journal) :
    (p.attempt a j).1 = a.refused p ∧ (p.attempt a j).2.registered = j.registered := by
  have announced : (j.noting [.pluginInitializing]).registered = j.registered := by
    rw [Journal.registered_noting]
    exact List.append_nil _
  cases read : Config.decode a.value with
  | error e =>
    refine ⟨?_, ?_⟩
    · simp only [attempt, init, read, Attempt.refused, Attempt.fault?]
      rfl
    · simp only [attempt, init, read]
      exact announced
  | ok c =>
    cases blank : c.hasBlankAuthType with
    | true =>
      refine ⟨?_, ?_⟩
      · simp only [attempt, init, read, Config.check, blank, if_true, Attempt.refused,
          Attempt.fault?, Config.blankAuthType_iff]
        rfl
      · simp only [attempt, init, read, Config.check, blank, if_true]
        exact announced
    | false =>
      have sound : a.fault? = none := by
        simp [Attempt.fault?, read, Config.blankAuthType_iff, blank]
      rw [sound] at idle
      obtain ⟨authenticator, taken⟩ := Option.isSome_iff_exists.mp (idle.resolve_left (by simp))
      refine ⟨?_, ?_⟩
      · simp only [attempt, init, read, Config.check, blank, Bool.false_eq_true, if_false, taken,
          Attempt.refused, sound]
        rfl
      · simp only [attempt, init, read, Config.check, blank, Bool.false_eq_true, if_false, taken]
        exact announced

/-- The first configuration without fault is registered. -/
theorem attempt_accepted {c : Config} (read : Config.decode a.value = .ok c)
    (labelled : ¬ c.BlankAuthType) (j : Journal) :
    (∃ g, a.factory.Gains c.registration g ∧
        (attempt {} a j).1 = ⟨.ok c.registration.key.id, initialised c, g⟩) ∧
      (attempt {} a j).2.registered = j.registered ++ [c.registration.key.id] := by
  rw [Config.blankAuthType_iff, Bool.not_eq_true] at labelled
  have ran := register_eq c a.factory (j.noting [.pluginInitializing])
  have given : ((j.noting [.pluginInitializing]).noting (c.notices a.factory)).registered =
      j.registered ++ [c.registration.key.id] := by
    rw [Journal.noting_noting, Journal.registered_noting, List.filterMap_append,
      c.registered_notices]
    rfl
  refine ⟨⟨_, a.factory.gains_insert c.registration, ?_⟩, ?_⟩
  · simp only [attempt, init, read, Config.check, labelled, Bool.false_eq_true, if_false]
    change Attempted.mk (.ok (register c a.factory (j.noting [.pluginInitializing])).1.1)
      ⟨_, some (register c a.factory (j.noting [.pluginInitializing])).1.1⟩
      (register c a.factory (j.noting [.pluginInitializing])).1.2 = _
    rw [ran]
    rfl
  · simp only [attempt, init, read, Config.check, labelled, Bool.false_eq_true, if_false]
    change (register c a.factory (j.noting [.pluginInitializing])).2.registered = _
    rw [ran, given]

end Step

/-- As long as nothing can come of them, attempts leave the plugin alone, and it meets the later ones
as it was. -/
theorem attempts_append (before after : List Attempt)
    (idle : ∀ a ∈ before, a.fault?.isSome ∨ p.authenticator.isSome) (j : Journal) :
    ∃ last, last.registered = j.registered ∧
      attempts p (before ++ after) j =
        (before.map (Attempt.refused p) ++ (attempts p after last).1, (attempts p after last).2) := by
  induction before generalizing j with
  | nil => exact ⟨j, rfl, rfl⟩
  | cons a before ih =>
    obtain ⟨answer, silent⟩ := attempt_refused (idle a List.mem_cons_self) j
    obtain ⟨last, quiet, run⟩ := ih (fun b member => idle b (List.mem_cons_of_mem _ member))
      (p.attempt a j).2
    have kept : (p.attempt a j).1.plugin = p := by rw [answer, Attempt.refused]
    refine ⟨last, quiet.trans silent, ?_⟩
    rw [List.cons_append, attempts_cons, kept, run, answer]
    rfl

theorem attempts_refused (as : List Attempt)
    (idle : ∀ a ∈ as, a.fault?.isSome ∨ p.authenticator.isSome) (j : Journal) :
    (attempts p as j).1 = as.map (Attempt.refused p) ∧
      (attempts p as j).2.registered = j.registered := by
  obtain ⟨last, quiet, run⟩ := attempts_append as [] idle j
  rw [List.append_nil] at run
  rw [run]
  exact ⟨List.append_nil _, quiet⟩

/-- How a sequence of attempts with a new plugin goes: what they come to, and the identifiers that
factories have given out in the course of it. -/
inductive Course (as : List Attempt) : List Attempted → List String → Prop
  /-- No configuration can be used. -/
  | never (faulty : ∀ a ∈ as, a.fault?.isSome) : Course as (as.map (Attempt.refused {})) []
  /-- The first one that can be used is registered, and that remains the only registration. -/
  | once (before : List Attempt) (a : Attempt) (after : List Attempt) (c : Config) (g : Factory)
    (split : as = before ++ a :: after) (faulty : ∀ b ∈ before, b.fault?.isSome)
    (read : Config.decode a.value = .ok c) (labelled : ¬ c.BlankAuthType)
    (gains : a.factory.Gains c.registration g) :
    Course as
      (before.map (Attempt.refused {}) ++ ⟨.ok c.registration.key.id, initialised c, g⟩ ::
          after.map (Attempt.refused (initialised c)))
      [c.registration.key.id]

/-- Either all of the configurations have a fault, or there is a first one without. -/
theorem first_sound (as : List Attempt) :
    (∀ a ∈ as, a.fault?.isSome) ∨ ∃ before a after, as = before ++ a :: after ∧
      (∀ b ∈ before, b.fault?.isSome) ∧ a.fault? = none := by
  cases found : as.find? fun a => a.fault?.isNone with
  | none =>
    refine .inl fun a member => ?_
    simpa [Option.isSome_iff_ne_none] using List.find?_eq_none.mp found a member
  | some a =>
    obtain ⟨sound, before, after, split, faulty⟩ := List.find?_eq_some_iff_append.mp found
    refine .inr ⟨before, a, after, split, fun b member => ?_, Option.isNone_iff_eq_none.mp sound⟩
    simpa [Option.isSome_iff_ne_none] using faulty b member

theorem attempts_course (as : List Attempt) (j : Journal) :
    ∃ given, (attempts {} as j).2.registered = j.registered ++ given ∧
      Course as (attempts {} as j).1 given := by
  rcases first_sound as with faulty | ⟨before, a, after, rfl, faulty, sound⟩
  · obtain ⟨answers, quiet⟩ := attempts_refused (p := {}) as (fun a member => .inl (faulty a member)) j
    refine ⟨[], quiet.trans (List.append_nil _).symm, ?_⟩
    rw [answers]
    exact .never faulty
  · obtain ⟨c, read, labelled⟩ := Attempt.fault?_eq_none sound
    obtain ⟨mid, silent, run⟩ := attempts_append (p := {}) before (a :: after)
      (fun b member => .inl (faulty b member)) j
    obtain ⟨⟨g, gains, answer⟩, given⟩ := attempt_accepted read labelled mid
    obtain ⟨answers, quiet⟩ := attempts_refused (p := initialised c) after (fun _ _ => .inr rfl)
      (attempt {} a mid).2
    refine ⟨[c.registration.key.id], ?_, ?_⟩
    · rw [run, attempts_cons, answer]
      exact quiet.trans (by rw [given, silent])
    · rw [run, attempts_cons, answer, answers]
      exact .once before a after c g rfl faulty read labelled gains

theorem Course.answer_ne {as : List Attempt} {rs : List Attempted} {given : List String}
    (course : Course as rs given) (r : Attempted) (member : r ∈ rs) :
    r.answer ≠ .error .alreadyRegistered := by
  cases course with
  | never =>
    obtain ⟨a, -, rfl⟩ := List.mem_map.mp member
    exact a.refused_answer _
  | once before a after c g =>
    rcases List.mem_append.mp member with earlier | member
    · obtain ⟨b, -, rfl⟩ := List.mem_map.mp earlier
      exact b.refused_answer _
    · rcases List.mem_cons.mp member with rfl | later
      · simp
      · obtain ⟨b, -, rfl⟩ := List.mem_map.mp later
        exact b.refused_answer _

/-- However often a plugin is initialised, it is initialised once, by the first configuration that
can be used; that a provider should have been registered before is never the answer. Installing
without a plugin likewise either fails and changes nothing, or registers. -/
theorem attempts_once :
    (∀ as j, ∃ given, (attempts {} as j).2.registered = j.registered ++ given ∧
      Course as (attempts {} as j).1 given ∧
      ∀ r ∈ (attempts {} as j).1, r.answer ≠ .error .alreadyRegistered) ∧
    ∀ c f j,
      (c.BlankAuthType ∧ install c f j = ((.error .blankAuthType, f), j)) ∨
      (¬ c.BlankAuthType ∧
        (∃ g, f.Gains c.registration g ∧ (install c f j).1 = (.ok c.registration.key.id, g)) ∧
        (install c f j).2.registered = j.registered ++ [c.registration.key.id]) := by
  refine ⟨fun as j => ?_, fun c f j => ?_⟩
  · obtain ⟨given, registers, course⟩ := attempts_course as j
    exact ⟨given, registers, course, course.answer_ne⟩
  · simp only [Config.blankAuthType_iff]
    cases blank : c.hasBlankAuthType with
    | true => exact .inl ⟨rfl, by rw [install_eq, blank]; rfl⟩
    | false =>
      have installed : install c f j =
          ((.ok c.registration.key.id, f.insert c.registration), j.noting (c.notices f)) := by
        rw [install_eq, blank]
        rfl
      refine .inr ⟨by simp, ⟨_, f.gains_insert c.registration, by rw [installed]⟩, ?_⟩
      rw [installed, Journal.registered_noting, c.registered_notices]

end Plugin
end StaticTokens
end RequestAuth
