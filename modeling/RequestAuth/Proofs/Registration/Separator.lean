import Mathlib.Algebra.Group.Nat.Even
import Mathlib.Data.List.DropRight
import Mathlib.Data.List.Induction
import RequestAuth.Proofs.Registration.Key

/-! Where the identifier of a registration can be taken apart. A mark counts where it is not
escaped, that is after an even number of backslashes. What is escaped has no mark that counts, so
that the one bracket of an identifier that counts opens the separator, and a star that counts is
all there is of its component. -/
namespace RequestAuth.RegistrationKey

/-- What comes after this text is not escaped: its last backslashes are an even number. -/
def Bare (left : List Char) : Prop := Even (left.rtakeWhile (· = '\\')).length

instance (left : List Char) : Decidable (Bare left) := inferInstanceAs (Decidable (Even _))

theorem bare_nil : Bare [] := by simp [Bare]

theorem bare_concat {left : List Char} {c : Char} :
    Bare (left ++ [c]) ↔ (c = '\\' → ¬ Bare left) := by
  rw [Bare, List.rtakeWhile_concat]
  by_cases backslash : c = '\\'
  · simp [backslash, Bare, Nat.even_add_one]
  · simp [backslash]

/-- After a text that escapes nothing, only what follows it matters. -/
theorem bare_append {front left : List Char} (bare : Bare front) :
    Bare (front ++ left) ↔ Bare left := by
  induction left using List.reverseRecOn with
  | nil => simpa [bare_nil] using bare
  | append_singleton left c ih => rw [← List.append_assoc, bare_concat, bare_concat, ih]

theorem not_bare_backslash : ¬ Bare ['\\'] := by decide

theorem bare_cons_escaped {c : Char} {left : List Char} : Bare ('\\' :: c :: left) ↔ Bare left := by
  have escaped : Bare (['\\'] ++ [c]) := bare_concat.mpr fun _ => not_bare_backslash
  exact bare_append escaped

theorem bare_cons_plain {c : Char} (plain : c ≠ '\\') {left : List Char} :
    Bare (c :: left) ↔ Bare left := by
  have alone : Bare ([] ++ [c]) := bare_concat.mpr fun backslash => absurd backslash plain
  exact bare_append alone

theorem bare_escape (cs : List Char) : Bare (escape cs) := by
  induction cs with
  | nil => exact bare_nil
  | cons c cs ih =>
    simp only [escape]
    split
    · exact bare_cons_escaped.mpr ih
    · next plain => exact (bare_cons_plain fun same => plain (.inl same)).mpr ih

theorem bare_component (a : Option String) : Bare (component a) := by
  cases a with
  | none => exact (bare_cons_plain (by decide)).mpr bare_nil
  | some text => exact bare_escape text.toList

/-- The characters that mean something in an identifier. -/
def Mark (c : Char) : Prop := c = '*' ∨ c = '<'

/-- No mark of an escaped text counts. -/
theorem not_bare_of_escape {cs left right : List Char} {c : Char} (mark : Mark c)
    (cut : escape cs = left ++ c :: right) : ¬ Bare left := by
  induction cs generalizing left with
  | nil => simp [escape] at cut
  | cons d cs ih =>
    simp only [escape] at cut
    split at cut
    · -- The cut is before the backslash, between it and what it escapes, or further on.
      rcases left with - | ⟨a, - | ⟨b, left⟩⟩
      · obtain ⟨rfl, -⟩ := List.cons.inj cut
        simp [Mark] at mark
      · obtain ⟨rfl, -⟩ := List.cons.inj cut
        exact not_bare_backslash
      · obtain ⟨rfl, rfl, rest⟩ : '\\' = a ∧ d = b ∧ escape cs = left ++ c :: right := by
          simpa using cut
        exact bare_cons_escaped.not.mpr (ih rest)
    · next plain =>
      rcases left with - | ⟨a, left⟩
      · obtain ⟨rfl, -⟩ := List.cons.inj cut
        exact absurd (.inr mark) plain
      · obtain ⟨rfl, rest⟩ := List.cons.inj cut
        exact (bare_cons_plain fun same => plain (.inl same)).not.mpr (ih rest)

/-- A mark of a component counts only as the star of an absent one. -/
theorem bare_of_component {a : Option String} {left right : List Char} {c : Char} (mark : Mark c)
    (cut : component a = left ++ c :: right) :
    Bare left ↔ a = none ∧ left = [] ∧ c = '*' ∧ right = [] := by
  cases a with
  | none =>
    rcases left with - | ⟨a, left⟩
    · obtain ⟨rfl, rfl⟩ := List.cons.inj cut
      simp [bare_nil]
    · simp [component] at cut
  | some text => simpa using not_bare_of_escape mark cut

theorem component_ne_wildcard (text : String) : component (some text) ≠ component none := by
  intro same
  have cut : component (some text) = [] ++ '*' :: [] := same
  have absent := ((bare_of_component (.inl rfl) cut).mp bare_nil).1
  simp at absent

theorem toList_id (key : RegistrationKey) :
    key.id.toList = component key.layer ++ '<' :: '>' :: component key.appContext :=
  String.toList_ofList

/-- A mark of an identifier is one of the layer, opens the separator, or is one of the
application context. -/
theorem mark_cases {key : RegistrationKey} {left right : List Char} {c : Char} (mark : Mark c)
    (cut : key.id.toList = left ++ c :: right) :
    (∃ rest, component key.layer = left ++ c :: rest) ∨
      (left = component key.layer ∧ c = '<') ∨
      ∃ rest, left = component key.layer ++ '<' :: '>' :: rest ∧
        component key.appContext = rest ++ c :: right := by
  rw [toList_id] at cut
  rcases List.append_eq_append_iff.mp cut with ⟨rest, rfl, later⟩ | ⟨rest, layer, later⟩
  · rcases rest with - | ⟨a, - | ⟨b, rest⟩⟩
    · exact .inr (.inl ⟨List.append_nil _, (List.cons.inj later).1.symm⟩)
    · obtain ⟨-, rfl, -⟩ : '<' = a ∧ '>' = c ∧ _ := by simpa using later
      simp [Mark] at mark
    · obtain ⟨rfl, rfl, app⟩ : '<' = a ∧ '>' = b ∧ _ := by simpa using later
      exact .inr (.inr ⟨rest, rfl, app⟩)
  · rcases rest with - | ⟨a, rest⟩
    · exact .inr (.inl ⟨by simpa using layer.symm, (List.cons.inj later).1⟩)
    · obtain ⟨rfl, -⟩ := List.cons.inj later
      exact .inl ⟨rest, layer⟩

/-- The marks of an identifier that count: the stars of absent components, and the bracket of the
separator. -/
theorem bare_iff_of_mark {key : RegistrationKey} {left right : List Char} {c : Char}
    (mark : Mark c) (cut : key.id.toList = left ++ c :: right) :
    Bare left ↔ (c = '*' ∧ key.layer = none ∧ left = []) ∨
      (c = '<' ∧ left = component key.layer) ∨
      (c = '*' ∧ key.appContext = none ∧ right = []) := by
  constructor
  · intro bare
    rcases mark_cases mark cut with ⟨rest, layer⟩ | ⟨whole, bracket⟩ | ⟨rest, rfl, app⟩
    · obtain ⟨absent, first, star, -⟩ := (bare_of_component mark layer).mp bare
      exact .inl ⟨star, absent, first⟩
    · exact .inr (.inl ⟨bracket, whole⟩)
    · rw [bare_append (bare_component _), bare_cons_plain (by decide),
        bare_cons_plain (by decide)] at bare
      obtain ⟨absent, -, star, last⟩ := (bare_of_component mark app).mp bare
      exact .inr (.inr ⟨star, absent, last⟩)
  · rintro (⟨-, -, rfl⟩ | ⟨-, rfl⟩ | ⟨rfl, absent, rfl⟩)
    · exact bare_nil
    · exact bare_component _
    · have star : left = component key.layer ++ ['<', '>'] := by
        have ends : component key.layer ++ ['<', '>'] ++ ['*'] = left ++ ['*'] := by
          rw [← cut, toList_id, absent, List.append_assoc]
          rfl
        exact (List.append_cancel_right ends).symm
      rw [star, bare_append (bare_component _)]
      decide

/-- An identifier belongs to one layer and one application context only. No text is written as an
absent component is. Of the brackets in an identifier, whatever the components hold, the one that
counts comes right after the layer; and a star that counts is a whole component, which is absent. -/
theorem ids_unambiguous (key : RegistrationKey) :
    (∀ other : RegistrationKey, other.id = key.id →
      other.layer = key.layer ∧ other.appContext = key.appContext) ∧
    (∀ text, component (some text) ≠ component none) ∧
    (∀ left right, key.id.toList = left ++ '<' :: right →
      (Bare left ↔ left = component key.layer)) ∧
    ∀ left right, key.id.toList = left ++ '*' :: right →
      (Bare left ↔ (key.layer = none ∧ left = []) ∨ (key.appContext = none ∧ right = [])) := by
  refine ⟨fun other same => ?_, component_ne_wildcard, fun left right cut => ?_,
    fun left right cut => ?_⟩
  · obtain rfl := id_inj.mp same
    exact ⟨rfl, rfl⟩
  · simpa using bare_iff_of_mark (.inr rfl) cut
  · simpa using bare_iff_of_mark (.inl rfl) cut

/-- A layer that ends with a backslash, and an application context that holds the separator. -/
theorem ids_unambiguous_backslash :
    let key : RegistrationKey := ⟨some "a\\", some "<>b"⟩
    key.id = "a\\\\<>\\<>b" ∧ (⟨some "a\\<>", some "b"⟩ : RegistrationKey).id ≠ key.id ∧
      Bare "a\\\\".toList ∧ ¬ Bare "a\\\\<>\\".toList := by
  have unambiguous := ids_unambiguous ⟨some "a\\", some "<>b"⟩
  refine ⟨by decide, fun same => ?_, ?_, fun bare => ?_⟩
  · simpa using (unambiguous.1 _ same).1
  · exact (unambiguous.2.2.1 _ ['>', '\\', '<', '>', 'b'] (by decide)).mpr (by decide)
  · exact absurd ((unambiguous.2.2.1 _ ['>', 'b'] (by decide)).mp bare) (by decide)

end RequestAuth.RegistrationKey
