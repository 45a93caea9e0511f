import RequestAuth.Registration.Key

/-! Identifiers of registrations are read in one way only: the first angle bracket without a
backslash before it ends the layer, and a star without one stands for an absent component. -/
namespace RequestAuth.RegistrationKey

/-- An escaped text ends where a bracket is left that is not escaped. -/
theorem escape_append_inj {a b rest rest' : List Char}
    (same : escape a ++ '<' :: rest = escape b ++ '<' :: rest') : a = b ∧ rest = rest' := by
  induction a generalizing b with
  | nil =>
    cases b with
    | nil => simpa [escape] using same
    | cons d b =>
      simp only [escape] at same
      split at same
      · simp at same
      · next plain =>
        have bracket : '<' = d := by simpa [escape] using congrArg List.head? same
        simp [← bracket] at plain
  | cons c a ih =>
    cases b with
    | nil =>
      simp only [escape] at same
      split at same
      · simp at same
      · next plain =>
        have bracket : c = '<' := by simpa [escape] using congrArg List.head? same
        simp [bracket] at plain
    | cons d b =>
      simp only [escape] at same
      -- An escaped character never lines up with a plain one: the plain one would be a backslash.
      split at same <;> split at same
      · obtain ⟨rfl, others⟩ : c = d ∧ _ := by simpa using same
        obtain ⟨rfl, rest⟩ := ih others
        exact ⟨rfl, rest⟩
      · next plain =>
        have backslash : '\\' = d := by simpa using congrArg List.head? same
        simp [← backslash] at plain
      · next plain _ =>
        have backslash : c = '\\' := by simpa using congrArg List.head? same
        simp [backslash] at plain
      · obtain ⟨rfl, others⟩ : c = d ∧ _ := by simpa using same
        obtain ⟨rfl, rest⟩ := ih others
        exact ⟨rfl, rest⟩

/-- No escaped text begins as a wildcard does. -/
theorem escape_append_ne_star {a rest rest' : List Char} :
    escape a ++ '<' :: rest ≠ '*' :: rest' := by
  intro same
  cases a with
  | nil => simp [escape] at same
  | cons c a =>
    simp only [escape] at same
    split at same
    · simp at same
    · next plain =>
      have star : c = '*' := by simpa using congrArg List.head? same
      simp [star] at plain

/-- The same of whole components, of which the wildcard is one. -/
theorem component_append_inj {a b : Option String} {rest rest' : List Char}
    (same : component a ++ '<' :: rest = component b ++ '<' :: rest') : a = b ∧ rest = rest' := by
  cases a with
  | none =>
    cases b with
    | none => simpa [component] using same
    | some t => exact absurd same.symm escape_append_ne_star
  | some s =>
    cases b with
    | none => exact absurd same escape_append_ne_star
    | some t =>
      obtain ⟨texts, rests⟩ := escape_append_inj same
      exact ⟨congrArg some (String.toList_inj.mp texts), rests⟩

/-- A registration is told by its identifier. -/
theorem id_inj {a b : RegistrationKey} : a.id = b.id ↔ a = b := by
  refine ⟨fun same => ?_, congrArg id⟩
  obtain ⟨layer, rest⟩ := component_append_inj (String.ofList_injective same)
  have apps : component a.appContext = component b.appContext := by simpa using rest
  have ended : component a.appContext ++ ['<'] = component b.appContext ++ ['<'] := by rw [apps]
  obtain ⟨app, -⟩ := component_append_inj ended
  cases a
  cases b
  simp_all

end RequestAuth.RegistrationKey
