import RequestAuth.Proofs.Negotiation.Rounds

/-! Where the handling of callbacks stops: at the first caller who is refused. All callbacks before
that one have been taken in full, and it is as if the later ones had never been handed over. -/
namespace RequestAuth

/-- The callback with the domain's verdict, if it asks for one. -/
def Callback.answered (domain : SecurityDomain) : Callback → Callback
  | .password user text _ => .password user text (domain.verifyPassword user text)
  | c => c

/-- What the domain is asked when the callback is taken. -/
def Callback.questions (integrated : Bool) : Callback → List Event
  | .caller (some name) => if integrated then [.identityRequested name] else []
  | .password user text _ => [.passwordRequested user text]
  | _ => []

def Event.isQuestion : Event → Bool
  | .identityRequested _ | .passwordRequested .. => true
  | _ => false

theorem Taken.isRefused_iff {integrated : Bool} {t : Taken} :
    t.isRefused integrated = true ↔ integrated = true ∧
      ∃ name, t.callback = .caller (some name) ∧ t.domain.identityFor name = none := by
  obtain ⟨domain, callback⟩ := t
  cases callback with
  | groups names => simp [isRefused]
  | password user text verified => simp [isRefused]
  | caller name =>
    cases name with
    | none => simp [isRefused]
    | some name => simp [isRefused]

namespace CallbackHandler

/-- The first caller of the list whom the domain would have to know and does not, with the callbacks
before and after. -/
structure Rejects (s : CallbackHandler) (cs before : List Callback) (name : String)
    (after : List Callback) : Prop where
  split : cs = before ++ .caller (some name) :: after
  integrated : s.integrated = true
  unknown : s.domain.identityFor name = none
  known : ∀ other, .caller (some other) ∈ before → s.domain.identityFor other ≠ none

/-- The callbacks have had their full effect, one after the other, and nothing else has had any. For
each of them the domain has been asked what there was to ask. -/
structure Absorbs (s : CallbackHandler) (cs : List Callback) (j : Journal)
    (last : CallbackHandler) (after : Journal) : Prop where
  takes : s.Takes j.ids (cs.map (Taken.mk s.domain)) last after.ids
  domain : last.domain = s.domain
  layer : last.layer = s.layer
  asks : ∃ added, after.events = j.events ++ added ∧
    added.filter Event.isQuestion = cs.flatMap (Callback.questions s.integrated)

variable {s next last : CallbackHandler} {cs : List Callback} {c : Callback} {j mid after : Journal}

theorem Absorbs.nil (s : CallbackHandler) (j : Journal) : s.Absorbs [] j s j where
  takes := .refl s j.ids
  domain := rfl
  layer := rfl
  asks := ⟨[], by simp, rfl⟩

theorem Absorbs.cons (first : s.Absorbs [c] j next mid) (later : next.Absorbs cs mid last after) :
    s.Absorbs (c :: cs) j last after where
  takes := by
    have taken := later.takes
    rw [first.domain] at taken
    exact first.takes.trans taken
  domain := later.domain.trans first.domain
  layer := later.layer.trans first.layer
  asks := by
    obtain ⟨added, grown, asked⟩ := first.asks
    obtain ⟨more, further, others⟩ := later.asks
    refine ⟨added ++ more, by rw [further, grown, List.append_assoc], ?_⟩
    rw [first.takes.integrated] at others
    rw [List.filter_append, asked, others, List.flatMap_singleton, List.flatMap_cons]

theorem resolve_events (s : CallbackHandler) (name : String) (j : Journal) :
    (s.resolve name j).2.events =
      j.events ++ Callback.questions s.integrated (.caller (some name)) := by
  cases integrated : s.integrated with
  | false =>
    simp only [resolve, integrated, Callback.questions, Bool.false_eq_true, if_false,
      List.append_nil]
    rfl
  | true =>
    simp only [resolve, integrated, Callback.questions, if_true, lookUp]
    cases s.domain.identityFor name with
    | none => rfl
    | some draft => rfl

theorem take_rejected {name : String} (integrated : s.integrated = true)
    (unknown : s.domain.identityFor name = none) (j : Journal) :
    s.take (.caller (some name)) j =
      (.error (unknownPrincipal name), ⟨j.ids, j.events ++ [.identityRequested name]⟩) := by
  simp only [take, resolve, integrated, if_true, lookUp, unknown]
  rfl

/-- A callback that is not refused is answered and has its effect. -/
theorem take_absorbs (admitted : Taken.isRefused s.integrated ⟨s.domain, c⟩ = false)
    (j : Journal) :
    ∃ next after, s.take c j = (.ok (next, c.answered s.domain), after) ∧
      s.Absorbs [c] j next after := by
  obtain ⟨next, taken, after, works, domain, takes⟩ := take_admitted admitted j
  suffices told : taken = c.answered s.domain ∧ next.layer = s.layer ∧
      ∃ added, after.events = j.events ++ added ∧
        added.filter Event.isQuestion = c.questions s.integrated by
    obtain ⟨rfl, layer, asks⟩ := told
    exact ⟨next, after, works, takes, domain, layer, by simpa using asks⟩
  cases c with
  | groups names =>
    cases works
    exact ⟨rfl, rfl, [], by simp, rfl⟩
  | password user text verified =>
    cases works
    refine ⟨rfl, ?_, [.passwordRequested user text,
      .notice (.passwordChecked user (s.domain.verifyPassword user text))], by simp, rfl⟩
    split <;> rfl
  | caller name =>
    cases name with
    | none =>
      cases works
      exact ⟨rfl, rfl, [.notice .anonymousEstablished], rfl, rfl⟩
    | some name =>
      have events := s.resolve_events name j
      rcases resolved : s.resolve name j with ⟨e | identity, k⟩
      · simp only [take, bind, StateT.bind, resolved] at works
        cases works
      · simp only [take, bind, StateT.bind, resolved] at works
        cases works
        rw [resolved] at events
        refine ⟨rfl, rfl, Callback.questions s.integrated (.caller (some name)) ++
          [.notice (.callerEstablished name)], ?_, ?_⟩
        · change k.events ++ [.notice (.callerEstablished name)] = _
          rw [events, List.append_assoc]
        · simp only [Callback.questions]
          split <;> rfl

/-- If none of the callbacks is refused, all of them are answered and have their effect. -/
theorem handle_absorbs (admitted : ∀ c ∈ cs, Taken.isRefused s.integrated ⟨s.domain, c⟩ = false)
    (j : Journal) :
    (s.handle cs j).1.1 = ⟨cs.map (Callback.answered s.domain), .ok ()⟩ ∧
      s.Absorbs cs j (s.handle cs j).1.2 (s.handle cs j).2 := by
  induction cs generalizing s j with
  | nil => exact ⟨rfl, .nil s j⟩
  | cons c cs ih =>
    obtain ⟨first, rest⟩ := List.forall_mem_cons.mp admitted
    obtain ⟨next, mid, works, absorbs⟩ := take_absorbs first j
    rw [← absorbs.domain, ← absorbs.takes.integrated] at rest
    obtain ⟨answers, later⟩ := ih rest mid
    rw [handle_ok works]
    simp only [answers, absorbs.domain, List.map_cons, true_and]
    exact absorbs.cons later

/-- Once the first callbacks have been taken, the others are handled as if they came alone. -/
theorem handle_append {xs : List Callback} (ys : List Callback)
    (works : (s.handle xs j).1.1.result = .ok ()) :
    s.handle (xs ++ ys) j =
      let first := s.handle xs j
      let second := first.1.2.handle ys first.2
      ((⟨first.1.1.callbacks ++ second.1.1.callbacks, second.1.1.result⟩, second.1.2),
        second.2) := by
  induction xs generalizing s j with
  | nil => rfl
  | cons c xs ih =>
    rcases taken : s.take c j with ⟨e | ⟨next, answer⟩, mid⟩
    · rw [handle_error taken] at works
      cases works
    · rw [handle_ok taken] at works
      rw [List.cons_append, handle_ok taken, handle_ok taken, ih works]
      rfl

theorem admitted_of_known (known : s.integrated = true →
      ∀ name, .caller (some name) ∈ cs → s.domain.identityFor name ≠ none) :
    ∀ c ∈ cs, Taken.isRefused s.integrated ⟨s.domain, c⟩ = false := by
  intro c member
  by_contra refused
  obtain ⟨integrated, name, rfl, unknown⟩ := Taken.isRefused_iff.mp (eq_true_of_ne_false refused)
  exact known integrated name member unknown

theorem exists_rejects {name : String} (integrated : s.integrated = true)
    (member : .caller (some name) ∈ cs) (unknown : s.domain.identityFor name = none) :
    ∃ before first after, s.Rejects cs before first after := by
  have refused : ∃ c ∈ cs, Taken.isRefused s.integrated ⟨s.domain, c⟩ = true :=
    ⟨_, member, Taken.isRefused_iff.mpr ⟨integrated, name, rfl, unknown⟩⟩
  obtain ⟨c, found⟩ := Option.isSome_iff_exists.mp (List.find?_isSome.mpr refused)
  obtain ⟨rejected, before, after, split, others⟩ := List.find?_eq_some_iff_append.mp found
  obtain ⟨-, first, rfl, missing⟩ := Taken.isRefused_iff.mp rejected
  refine ⟨before, first, after, split, integrated, missing, fun other earlier absent => ?_⟩
  have passed := others _ earlier
  rw [Taken.isRefused_iff.mpr ⟨integrated, other, rfl, absent⟩] at passed
  cases passed

theorem handle_rejects {before rest : List Callback} {name : String}
    (rejects : s.Rejects cs before name rest) (j : Journal) :
    let first := s.handle before j
    s.handle cs j =
      ((⟨before.map (Callback.answered s.domain) ++ .caller (some name) :: rest,
          .error (unknownPrincipal name)⟩, first.1.2),
        ⟨first.2.ids, first.2.events ++ [.identityRequested name]⟩) := by
  intro first
  obtain ⟨answers, absorbs⟩ := handle_absorbs (admitted_of_known fun _ => rejects.known) j
  have integrated : (s.handle before j).1.2.integrated = true :=
    absorbs.takes.integrated.trans rejects.integrated
  have unknown : (s.handle before j).1.2.domain.identityFor name = none := by
    rw [absorbs.domain, rejects.unknown]
  rw [rejects.split, handle_append _ (by rw [answers])]
  simp only [handle_error (take_rejected integrated unknown _), answers, first]

/-- Callbacks are refused exactly where callers have to be known and one of them is not, and then
for the first such caller. Those before have been taken in full, as they would have been alone; that
one and those after it are handed back as they were and have no effect, nor is the domain asked
about the later ones. Callbacks that are taken leave the handler to go on with others as if all of
them had come together. -/
theorem handle_stops (s : CallbackHandler) (cs : List Callback) (j : Journal) :
    let handled := s.handle cs j
    ((∃ e, handled.1.1.result = .error e) ↔ s.integrated = true ∧
        ∃ name, .caller (some name) ∈ cs ∧ s.domain.identityFor name = none) ∧
      (∀ e, handled.1.1.result = .error e →
        ∃ before name rest, s.Rejects cs before name rest ∧
          e = .security ("principal '" ++ name ++ "' is not known to the domain") ∧
          handled.1.1.callbacks =
            before.map (Callback.answered s.domain) ++ .caller (some name) :: rest ∧
          let first := s.handle before j
          first.1.1.result = .ok () ∧ s.Absorbs before j first.1.2 first.2 ∧
            handled.1.2 = first.1.2 ∧
            handled.2 = ⟨first.2.ids, first.2.events ++ [.identityRequested name]⟩) ∧
      (handled.1.1.result = .ok () →
        handled.1.1.callbacks = cs.map (Callback.answered s.domain) ∧
          s.Absorbs cs j handled.1.2 handled.2 ∧
          ∀ more, s.handle (cs ++ more) j =
            let next := handled.1.2.handle more handled.2
            ((⟨handled.1.1.callbacks ++ next.1.1.callbacks, next.1.1.result⟩, next.1.2),
              next.2)) := by
  intro handled
  by_cases refused : s.integrated = true ∧
    ∃ name, .caller (some name) ∈ cs ∧ s.domain.identityFor name = none
  · obtain ⟨integrated, unlisted, member, unknown⟩ := refused
    obtain ⟨before, name, rest, rejects⟩ := exists_rejects integrated member unknown
    have stops := handle_rejects rejects j
    obtain ⟨answers, absorbs⟩ := handle_absorbs (admitted_of_known fun _ => rejects.known) j
    refine ⟨⟨fun _ => ⟨integrated, unlisted, member, unknown⟩, fun _ => ?_⟩, ?_, ?_⟩
    · exact ⟨unknownPrincipal name, by simp only [handled, stops]⟩
    · intro e fails
      simp only [handled, stops, Except.error.injEq] at fails
      refine ⟨before, name, rest, rejects, fails.symm, ?_⟩
      simp only [handled, stops, answers, true_and, and_true]
      exact absorbs
    · intro works
      simp only [handled, stops] at works
      cases works
  · obtain ⟨answers, absorbs⟩ := handle_absorbs (admitted_of_known fun integrated name member
      unknown => refused ⟨integrated, name, member, unknown⟩) j
    have works : handled.1.1.result = .ok () := by simp only [handled, answers]
    refine ⟨⟨fun ⟨e, fails⟩ => ?_, fun rejected => absurd rejected refused⟩, fun e fails => ?_, ?_⟩
    · rw [works] at fails
      cases fails
    · rw [works] at fails
      cases fails
    · exact fun _ =>
        ⟨by simp only [handled, answers], absorbs, fun more => handle_append more works⟩

end CallbackHandler
end RequestAuth
