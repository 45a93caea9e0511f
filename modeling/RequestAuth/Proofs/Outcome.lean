import Mathlib.Data.List.Forall2
import Mathlib.Data.List.Induction
import RequestAuth.Outcome

/-! What a response means, in whatever order its options were written. Only the last value of each
option counts, and only two options do: whether the session is to remember the identity, and the
mechanism. A response is accepted or it is not, and only an accepted one has the identity made. -/
namespace RequestAuth

namespace Response

theorem find?_withOption (r : Response) (key value other : String) :
    (r.withOption key value).options.find? other =
      if other = key then some value else r.options.find? other := by
  by_cases same : other = key
  · rw [if_pos same, same]
    exact TextMap.find?_insert_same ..
  · rw [if_neg same]
    exact TextMap.find?_insert_other _ same _

namespace Edit

/-- The option that is written. -/
def key : Edit → String
  | .option key _ => key
  | .registerSession _ => WellKnown.registerSessionOption
  | .authType _ => WellKnown.authTypeOption

def value : Edit → String
  | .option _ value => value
  | .registerSession register => if register then "true" else "false"
  | .authType label => label

end Edit

theorem apply_eq (r : Response) (e : Edit) : r.apply e = r.withOption e.key e.value := by
  cases e <;> rfl

theorem applyAll_concat (r : Response) (edits : List Edit) (e : Edit) :
    r.applyAll (edits ++ [e]) = (r.applyAll edits).withOption e.key e.value := by
  rw [applyAll, List.foldl_append, ← applyAll, ← apply_eq]
  rfl

theorem status_applyAll (r : Response) (edits : List Edit) :
    (r.applyAll edits).status = r.status := by
  induction edits using List.reverseRecOn with
  | nil => rfl
  | append_singleton edits e ih =>
    rw [applyAll_concat]
    exact ih

/-- What the last edit of the option has written to it. -/
def lastWritten (edits : List Edit) (key : String) : Option String :=
  ((edits.filter (·.key = key)).getLast?).map Edit.value

theorem lastWritten_concat (edits : List Edit) (e : Edit) (key : String) :
    lastWritten (edits ++ [e]) key = if e.key = key then some e.value else lastWritten edits key := by
  by_cases same : e.key = key
  · simp [lastWritten, same]
  · simp [lastWritten, same]

theorem find?_applyAll (status : AuthStatus) (edits : List Edit) (key : String) :
    (applyAll ⟨status, ∅⟩ edits).options.find? key = lastWritten edits key := by
  -- the last edit is the one that decides
  induction edits using List.reverseRecOn with
  | nil => rfl
  | append_singleton edits e ih =>
    rw [applyAll_concat, find?_withOption, lastWritten_concat, ih]
    simp only [eq_comm]

/-- The word for true, each of its letters small or capital, and nothing around it. -/
def Affirms (value : String) : Prop :=
  List.Forall₂ (fun c letter => c = letter.1 ∨ c = letter.2) value.toList
    [('t', 'T'), ('r', 'R'), ('u', 'U'), ('e', 'E')]

theorem readsTrue_iff {value : String} : readsTrue value = true ↔ Affirms value := by
  have t {c : Char} : c.toLower = 't' ↔ c = 't' ∨ c = 'T' :=
    Text.toLower_eq_iff (by decide) (by decide)
  have r {c : Char} : c.toLower = 'r' ↔ c = 'r' ∨ c = 'R' :=
    Text.toLower_eq_iff (by decide) (by decide)
  have u {c : Char} : c.toLower = 'u' ↔ c = 'u' ∨ c = 'U' :=
    Text.toLower_eq_iff (by decide) (by decide)
  have e {c : Char} : c.toLower = 'e' ↔ c = 'e' ∨ c = 'E' :=
    Text.toLower_eq_iff (by decide) (by decide)
  have word : "true".toList.map Char.toLower = ['t', 'r', 'u', 'e'] := by decide
  rw [readsTrue, Text.sameLetters, beq_iff_eq, word, ← List.forall₂_eq_eq_eq,
    List.forall₂_map_left_iff]
  simp only [Affirms, List.forall₂_cons_right_iff, List.forall₂_nil_right_iff, t, r, u, e]

/-- The session is asked to remember the identity. -/
def Asks (edits : List Edit) : Prop :=
  ∃ value, lastWritten edits WellKnown.registerSessionOption = some value ∧ Affirms value

/-- The mechanism that was named last, unless that is blank, and otherwise the one given. -/
def label (edits : List Edit) (mechanism : AuthType) : String :=
  ((lastWritten edits WellKnown.authTypeOption).filter fun s => !Text.isBlank s).getD mechanism.text

theorem sessionRequested_applyAll (status : AuthStatus) (edits : List Edit) :
    (applyAll ⟨status, ∅⟩ edits).sessionRequested = true ↔ Asks edits := by
  simp only [sessionRequested, find?_applyAll, Option.any_eq_true, readsTrue_iff, Asks]

theorem text_resolvedAuthType (status : AuthStatus) (edits : List Edit) (mechanism : AuthType) :
    ((applyAll ⟨status, ∅⟩ edits).resolvedAuthType mechanism).text = label edits mechanism := by
  rw [resolvedAuthType, find?_applyAll, label, ← AuthType.map_text_bind_ofText?, Option.getD_map]

theorem isBlank_label (edits : List Edit) (mechanism : AuthType) :
    Text.isBlank (label edits mechanism) = false := by
  rw [← text_resolvedAuthType .success]
  exact AuthType.notBlank _

section Counting

variable {σ : Type}

/-- Makes the identity, which may depend on a memory and change it, and counts how often. -/
def counted (identity : σ → Identity × σ) : StateM (Nat × σ) Identity := fun (calls, s) =>
  ((identity s).1, calls + 1, (identity s).2)

variable {r : Response} (mechanism : AuthType) (identity : σ → Identity × σ) (start : σ)

theorem outcome_rejected (rejected : r.isAccepted = false) :
    r.outcome mechanism (counted identity) (0, start) = (.notAuthenticated, 0, start) := by
  simp only [outcome, rejected, Bool.false_eq_true, if_false]
  rfl

theorem outcome_success (status : r.status = .success) :
    r.outcome mechanism (counted identity) (0, start) =
      (.authenticated (identity start).1 (r.resolvedAuthType mechanism) r.sessionRequested, 1,
        (identity start).2) := by
  simp only [outcome, isAccepted, status, if_true]
  rfl

theorem outcome_sendSuccess (status : r.status = .sendSuccess) (asked : r.sessionRequested = true) :
    r.outcome mechanism (counted identity) (0, start) =
      (.sessionOnly (identity start).1 (r.resolvedAuthType mechanism), 1, (identity start).2) := by
  simp only [outcome, isAccepted, status, asked, if_true]
  rfl

end Counting

/-- Nothing else about a response counts. -/
theorem outcome_congr [Monad m] {r s : Response} (status : r.status = s.status)
    (asked : r.sessionRequested = s.sessionRequested) {mechanism : AuthType}
    (named : r.resolvedAuthType mechanism = s.resolvedAuthType mechanism) (identity : m Identity) :
    r.outcome mechanism identity = s.outcome mechanism identity := by
  have accepted : r.isAccepted = s.isAccepted := by rw [isAccepted, isAccepted, status, asked]
  rw [outcome, outcome, accepted, status, asked, named]

theorem applyAll_congr (status : AuthStatus) (mechanism : AuthType) {edits others : List Edit}
    (same : ∀ key ∈ [WellKnown.registerSessionOption, WellKnown.authTypeOption],
      others.filter (·.key = key) = edits.filter (·.key = key)) [Monad m] (identity : m Identity) :
    (applyAll ⟨status, ∅⟩ others).outcome mechanism identity =
      (applyAll ⟨status, ∅⟩ edits).outcome mechanism identity := by
  have asked : lastWritten others WellKnown.registerSessionOption =
      lastWritten edits WellKnown.registerSessionOption := by
    rw [lastWritten, same _ (by simp), lastWritten]
  have named : lastWritten others WellKnown.authTypeOption =
      lastWritten edits WellKnown.authTypeOption := by
    rw [lastWritten, same _ (by simp), lastWritten]
  apply outcome_congr
  · rw [status_applyAll, status_applyAll]
  · simp only [sessionRequested, find?_applyAll, asked]
  · simp only [resolvedAuthType, find?_applyAll, named]

/-- What becomes of a response with this status after these edits. Making the identity comes to
`made`; what came of it is the outcome, how often the identity was made, and the memory. -/
structure Decided {σ : Type} (status : AuthStatus) (edits : List Edit) (mechanism : AuthType)
    (start : σ) (made : Identity × σ) (came : Outcome × Nat × σ) : Prop where
  authenticated : ∀ i a register, came.1 = .authenticated i a register ↔
    status = .success ∧ i = made.1 ∧ a.text = label edits mechanism ∧
      (register = true ↔ Asks edits)
  sessionOnly : ∀ i a, came.1 = .sessionOnly i a ↔
    (status = .sendSuccess ∧ Asks edits) ∧ i = made.1 ∧ a.text = label edits mechanism
  notAuthenticated : came.1 = .notAuthenticated ↔
    status ≠ .success ∧ ¬ (status = .sendSuccess ∧ Asks edits)
  once : came.1 ≠ .notAuthenticated → came.2 = (1, made.2)
  never : came.1 = .notAuthenticated → came.2 = (0, start)

theorem applyAll_decided {σ : Type} (status : AuthStatus) (edits : List Edit)
    (mechanism : AuthType) (identity : σ → Identity × σ) (start : σ) :
    Decided status edits mechanism start (identity start)
      ((applyAll ⟨status, ∅⟩ edits).outcome mechanism (counted identity) (0, start)) := by
  have asks := sessionRequested_applyAll status edits
  have named (a : AuthType) : (applyAll ⟨status, ∅⟩ edits).resolvedAuthType mechanism = a ↔
      a.text = label edits mechanism := by
    rw [← text_resolvedAuthType status, AuthType.text_inj]
    exact eq_comm
  have given : (applyAll ⟨status, ∅⟩ edits).status = status := status_applyAll ..
  by_cases success : status = .success
  · rw [outcome_success mechanism identity start (given.trans success)]
    have registers (register : Bool) :
        (applyAll ⟨status, ∅⟩ edits).sessionRequested = register ↔ (register = true ↔ Asks edits) := by
      rw [← asks, eq_comm, Bool.eq_iff_iff]
    refine ⟨fun i a register => ?_, by simp [success], by simp [success], by simp, by simp⟩
    rw [Outcome.authenticated.injEq, named, registers, eq_comm]
    exact (and_iff_right success).symm
  by_cases deferred : status = .sendSuccess ∧ Asks edits
  · rw [outcome_sendSuccess mechanism identity start (given.trans deferred.1)
      (asks.mpr deferred.2)]
    refine ⟨by simp [success], fun i a => ?_, by simp [deferred], by simp, by simp⟩
    rw [Outcome.sessionOnly.injEq, named, eq_comm]
    exact (and_iff_right deferred).symm
  · have rejected : (applyAll ⟨status, ∅⟩ edits).isAccepted = false := by
      rw [isAccepted, given]
      cases status <;> simp_all
    rw [outcome_rejected mechanism identity start rejected]
    exact ⟨by simp [success], by simp [deferred], by simp [success, deferred], by simp, by simp⟩

/-- What becomes of a response, however its options were written. Success authenticates, and the
session is to remember the identity if it is asked to; a response that is to be sent counts for the
session alone, if it is asked; any other is no authentication. The identity is made once for a
response that counts, and never for one that does not. The mechanism is never blank. Edits of other
options, and how the edits of the two options are mixed, make no difference. -/
theorem outcome_decided {σ : Type} (status : AuthStatus) (edits : List Edit) (mechanism : AuthType)
    (identity : σ → Identity × σ) (start : σ) :
    let came (edits : List Edit) :=
      (applyAll ⟨status, ∅⟩ edits).outcome mechanism (counted identity) (0, start)
    Decided status edits mechanism start (identity start) (came edits) ∧
      Text.isBlank (label edits mechanism) = false ∧
      ∀ others, (∀ key ∈ [WellKnown.registerSessionOption, WellKnown.authTypeOption],
        others.filter (·.key = key) = edits.filter (·.key = key)) → came others = came edits :=
  ⟨applyAll_decided status edits mechanism identity start, isBlank_label edits mechanism,
    fun _ same => congrFun (applyAll_congr status mechanism same (counted identity)) (0, start)⟩

/-- The word for true under another key, and the mechanism written before the session is asked. -/
theorem outcome_decided_mixed :
    let came (edits : List Edit) := (applyAll ⟨.sendSuccess, ∅⟩ edits).outcome ⟨"FORM", by decide⟩
      (counted fun calls : Nat => (⟨⟨0⟩, none, ∅, ∅⟩, calls)) (0, 0)
    came [.authType "BASIC", .option "cache" "true", .registerSession true] =
      came [.registerSession true, .authType "BASIC"] := by
  refine (outcome_decided _ _ _ _ _).2.2 _ fun key counts => ?_
  rcases List.mem_pair.mp counts with rfl | rfl <;> rfl

end Response
end RequestAuth
