import Mathlib.Data.List.Induction
import RequestAuth.Identity

/-! What an identity is, told from the edits that built it and the roles that it was given later.
Of the edits that replace something only the last one counts; those that give roles all count, in
any order and however often they are made. -/
namespace RequestAuth

namespace Identity

@[simp] theorem mem_roles_withRoles {i : Identity} {given : List String} {role : String} :
    role ∈ (i.withRoles given).roles ↔ role ∈ given ∨ role ∈ i.roles := TextSet.mem_insertAll ..

/-- It counts which roles are given, but not in what order or how often. -/
theorem withRoles_congr {i : Identity} {a b : List String} (same : ∀ role, role ∈ a ↔ role ∈ b) :
    i.withRoles a = i.withRoles b := by
  have roles : i.roles.insertAll a = i.roles.insertAll b :=
    TextSet.ext_mem fun role => by rw [TextSet.mem_insertAll, TextSet.mem_insertAll, same]
  rw [withRoles, withRoles, roles]

theorem withRoles_withRoles (i : Identity) (a b : List String) :
    (i.withRoles a).withRoles b = i.withRoles (a ++ b) :=
  congrArg (fun roles => { i with roles := roles }) (i.roles.insertAll_append a b).symm

theorem withRoles_comm (i : Identity) (a b : List String) :
    (i.withRoles a).withRoles b = (i.withRoles b).withRoles a := by
  rw [withRoles_withRoles, withRoles_withRoles]
  exact withRoles_congr fun role => by rw [List.mem_append, List.mem_append, or_comm]

theorem withRoles_self (i : Identity) (a : List String) :
    (i.withRoles a).withRoles a = i.withRoles a := by
  rw [withRoles_withRoles]
  exact withRoles_congr fun role => by rw [List.mem_append, or_self]

theorem foldl_withRoles (i : Identity) (granted : List (List String)) :
    granted.foldl withRoles i = i.withRoles granted.flatten := by
  induction granted generalizing i with
  | nil => rfl
  | cons given granted ih => rw [List.foldl_cons, ih, withRoles_withRoles, List.flatten_cons]

/-- The identities at hand after one has been copied again and again, each time with more roles: the
one that there was, and each copy of the one before it. -/
def copies (i : Identity) (granted : List (List String)) : List Identity := granted.scanl withRoles i

end Identity

namespace IdentityDraft

/-- A draft is told by what it answers. -/
theorem ext_answers {a b : IdentityDraft} (id : a.id = b.id) (principal : a.principal = b.principal)
    (attributes : ∀ name, a.attributes.find? name = b.attributes.find? name)
    (roles : ∀ role, role ∈ a.roles ↔ role ∈ b.roles) : a = b := by
  have sameRoles : a.roles = b.roles := TextSet.ext_mem roles
  have sameAttributes : a.attributes = b.attributes := TextMap.ext_find? attributes
  cases a
  cases b
  simp_all

namespace Edit

/-- What an edit is about. Each attribute is a field of its own. -/
inductive Field
  | identifier
  | principal
  | roles
  | attribute (name : String)
deriving DecidableEq

def field : Edit → Field
  | .identifier _ => .identifier
  | .principal _ => .principal
  | .role _ => .roles
  | .roles _ => .roles
  | .attributeValues name _ => .attribute name

def identifier? : Edit → Option Uuid
  | .identifier id => some id
  | _ => none

def principal? : Edit → Option String
  | .principal name => some name
  | _ => none

/-- The values that are written to this attribute. -/
def values? (name : String) : Edit → Option (List String)
  | .attributeValues other values => if other = name then some values else none
  | _ => none

/-- The roles that are given. -/
def given : Edit → List String
  | .role name => [name]
  | .roles names => names
  | _ => []

/-- Only edits of this field are read. -/
def Reads (read : Edit → Option α) (about : Field) : Prop := ∀ e, e.field ≠ about → read e = none

theorem reads_identifier? : Reads identifier? .identifier := by
  intro e other
  cases e <;> simp_all [field, identifier?]

theorem reads_principal? : Reads principal? .principal := by
  intro e other
  cases e <;> simp_all [field, principal?]

theorem reads_values? (name : String) : Reads (values? name) (.attribute name) := by
  intro e other
  cases e <;> simp_all [field, values?]

end Edit

/-- What the last edit that says something has said. -/
def last? (read : Edit → Option α) (edits : List Edit) : Option α := (edits.filterMap read).getLast?

theorem last?_concat (read : Edit → Option α) (edits : List Edit) (e : Edit) :
    last? read (edits ++ [e]) = (read e).or (last? read edits) := by
  rw [last?, List.filterMap_append, List.getLast?_append]
  cases said : read e <;> simp [said, last?]

section Apply

variable (d : IdentityDraft) (e : Edit)

theorem id_apply : (d.apply e).id = e.identifier?.or d.id := by cases e <;> rfl

theorem principal_apply : (d.apply e).principal = e.principal?.or d.principal := by
  cases e <;> rfl

theorem find?_apply (name : String) :
    (d.apply e).attributes.find? name = (e.values? name).or (d.attributes.find? name) := by
  cases e with
  | attributeValues other values =>
    by_cases same : other = name
    · simp [apply, Edit.values?, same]
    · simp [apply, Edit.values?, same, TextMap.find?_insert_other _ (Ne.symm same)]
  | identifier id => rfl
  | principal name => rfl
  | role role => rfl
  | roles roles => rfl

theorem mem_roles_apply (role : String) :
    role ∈ (d.apply e).roles ↔ role ∈ e.given ∨ role ∈ d.roles := by
  cases e <;> simp [apply, Edit.given]

end Apply

theorem applyAll_concat (d : IdentityDraft) (edits : List Edit) (e : Edit) :
    d.applyAll (edits ++ [e]) = (d.applyAll edits).apply e := List.foldl_append

/-- What is replaced by every edit that says something is in the end what the last one said. -/
theorem view_applyAll (view : IdentityDraft → Option α) {read : Edit → Option α}
    (step : ∀ d e, view (d.apply e) = (read e).or (view d)) (d : IdentityDraft)
    (edits : List Edit) : view (d.applyAll edits) = (last? read edits).or (view d) := by
  -- the last edit is asked first, as it is by `last?`
  induction edits using List.reverseRecOn with
  | nil => rfl
  | append_singleton edits e ih =>
    rw [applyAll_concat, step, ih, last?_concat, Option.or_assoc]

theorem mem_roles_applyAll (d : IdentityDraft) (edits : List Edit) (role : String) :
    role ∈ (d.applyAll edits).roles ↔ (∃ e ∈ edits, role ∈ e.given) ∨ role ∈ d.roles := by
  induction edits using List.reverseRecOn with
  | nil => simp [applyAll]
  | append_singleton edits e ih =>
    rw [applyAll_concat, mem_roles_apply, ih, ← or_assoc]
    simp only [List.mem_append, List.mem_singleton, or_and_right, exists_or, exists_eq_left]
    rw [or_comm (a := role ∈ e.given)]

section Laws

variable {d : IdentityDraft} {e f : Edit}

theorem Edit.Reads.silent {read : Edit → Option α} {about : Edit.Field} (reads : Reads read about)
    (notRoles : about ≠ .roles) (apart : e.field = f.field → e.field = .roles) :
    read e = none ∨ read f = none := by
  by_cases first : e.field = about
  · right
    apply reads
    intro second
    exact notRoles (first.symm.trans (apart (first.trans second.symm)))
  · exact .inl (reads e first)

theorem or_left_comm_of_silent {x y : Option α} (silent : x = none ∨ y = none) (z : Option α) :
    y.or (x.or z) = x.or (y.or z) := by
  rcases silent with rfl | rfl <;> rfl

/-- Edits of different fields may change places, and so may edits that give roles. -/
theorem apply_comm (apart : e.field = f.field → e.field = .roles) :
    (d.apply e).apply f = (d.apply f).apply e := by
  apply ext_answers
  · simp only [id_apply]
    exact or_left_comm_of_silent (Edit.reads_identifier?.silent (by simp) apart) _
  · simp only [principal_apply]
    exact or_left_comm_of_silent (Edit.reads_principal?.silent (by simp) apart) _
  · intro name
    simp only [find?_apply]
    exact or_left_comm_of_silent ((Edit.reads_values? name).silent (by simp) apart) _
  · intro role
    simp only [mem_roles_apply]
    exact or_left_comm

/-- An edit that is made twice is made once. -/
theorem apply_self : (d.apply e).apply e = d.apply e := by
  apply ext_answers
  · simp only [id_apply, ← Option.or_assoc, Option.or_self]
  · simp only [principal_apply, ← Option.or_assoc, Option.or_self]
  · simp only [find?_apply, ← Option.or_assoc, Option.or_self, implies_true]
  · simp only [mem_roles_apply, or_self_left, implies_true]

end Laws

/-- What an identity is that these edits have built and that was then given these roles. -/
structure Built (edits : List Edit) (granted : List (List String)) (source : IdSource)
    (i : Identity) : Prop where
  id : i.id = (last? Edit.identifier? edits).getD (source.ids source.drawn)
  principal : i.principal = last? Edit.principal? edits
  attributes : ∀ name values, (name, values) ∈ i.attributes.entries ↔
    last? (Edit.values? name) edits = some values
  roles : ∀ role, role ∈ i.roles.toList ↔
    (∃ e ∈ edits, role ∈ e.given) ∨ ∃ given ∈ granted, role ∈ given
  ascending : i.roles.toList.Pairwise (· < ·)

/-- The description leaves nothing open. -/
theorem Built.unique {edits : List Edit} {granted : List (List String)} {source : IdSource}
    {i j : Identity} (hi : Built edits granted source i) (hj : Built edits granted source j) :
    i = j := by
  have attributes : i.attributes = j.attributes := TextMap.ext_find? fun name => by
    apply Option.ext
    intro values
    simp only [TextMap.find?, Entries.find?_eq_some_iff (TextMap.sorted _), hi.attributes,
      hj.attributes]
  have roles : i.roles = j.roles := TextSet.ext_mem fun role => by
    rw [← TextSet.mem_toList, ← TextSet.mem_toList, hi.roles, hj.roles]
  have id : i.id = j.id := hi.id.trans hj.id.symm
  have principal : i.principal = j.principal := hi.principal.trans hj.principal.symm
  cases i
  cases j
  simp_all

theorem build_eq (d : IdentityDraft) (source : IdSource) : d.build source =
    (⟨d.id.getD (source.ids source.drawn), d.principal, d.roles, d.attributes⟩,
      ⟨source.ids, source.drawn + if d.id = none then 1 else 0⟩) := by
  cases given : d.id <;> simp only [build, given] <;> rfl

section Construction

variable (edits : List Edit) (granted : List (List String)) (source : IdSource)

theorem id_applyAll_blank : (applyAll {} edits).id = last? Edit.identifier? edits :=
  (view_applyAll IdentityDraft.id id_apply {} edits).trans Option.or_none

theorem principal_applyAll_blank : (applyAll {} edits).principal = last? Edit.principal? edits :=
  (view_applyAll IdentityDraft.principal principal_apply {} edits).trans Option.or_none

theorem find?_applyAll_blank (name : String) :
    (applyAll {} edits).attributes.find? name = last? (Edit.values? name) edits :=
  (view_applyAll (fun d => d.attributes.find? name) (fun d e => find?_apply d e name) {}
    edits).trans Option.or_none

theorem mem_roles_applyAll_blank (role : String) :
    role ∈ (applyAll {} edits).roles ↔ ∃ e ∈ edits, role ∈ e.given :=
  (mem_roles_applyAll {} edits role).trans (or_iff_left (TextSet.not_mem_empty role))

theorem foldl_withRoles_built : Built edits granted source
    (granted.foldl Identity.withRoles ((applyAll {} edits).build source).1) := by
  rw [Identity.foldl_withRoles, build_eq, id_applyAll_blank, principal_applyAll_blank]
  refine ⟨rfl, rfl, fun name values => ?_, fun role => ?_, TextSet.toList_sorted _⟩
  · rw [← find?_applyAll_blank, ← Entries.find?_eq_some_iff (TextMap.sorted _)]
    rfl
  · rw [TextSet.mem_toList, Identity.mem_roles_withRoles, List.mem_flatten,
      ← mem_roles_applyAll_blank, or_comm]

theorem copies_built (n : Nat) (i : Identity) :
    (((applyAll {} edits).build source).1.copies granted)[n]? = some i ↔
      n ≤ granted.length ∧ Built edits (granted.take n) source i := by
  have built := foldl_withRoles_built edits (granted.take n) source
  rw [Identity.copies, List.getElem?_scanl, Option.ite_none_right_eq_some, Option.some.injEq]
  refine and_congr_right fun _ => ⟨fun same => same ▸ built, fun other => built.unique other⟩

end Construction

/-- An identity has the identifier and the principal that were set last, or a fresh identifier and
no principal; of each attribute the values that were written last, and no other attribute; and in
ascending order the roles that it was given, one by one or together, while it was built or later.
The description is complete, and holds of every identity at hand after copies have been made, the
first of them as it was built. So edits of different fields may change places, as may those that
give roles; an edit that is repeated makes no difference; and to give roles twice is to give all of
them once, whatever the order, and changes nothing else. -/
theorem construction_lawful (edits : List Edit) (granted : List (List String)) (source : IdSource) :
    let built := (applyAll {} edits).build source
    built.2 = ⟨source.ids, source.drawn + if last? Edit.identifier? edits = none then 1 else 0⟩ ∧
    (∀ (n : Nat) (i : Identity), (built.1.copies granted)[n]? = some i ↔
      n ≤ granted.length ∧ Built edits (granted.take n) source i) ∧
    (∀ (d : IdentityDraft) (e f : Edit), (e.field = f.field → e.field = .roles) →
      (d.apply e).apply f = (d.apply f).apply e) ∧
    (∀ (d : IdentityDraft) (e : Edit), (d.apply e).apply e = d.apply e) ∧
    ∀ (i : Identity) (a b : List String),
      (i.withRoles a).withRoles b = i.withRoles (a ++ b) ∧
      (i.withRoles a).withRoles b = (i.withRoles b).withRoles a ∧
      (i.withRoles a).withRoles a = i.withRoles a ∧
      { i.withRoles a with roles := i.roles } = i := by
  refine ⟨?_, copies_built edits granted source, fun d e f => apply_comm, fun d e => apply_self,
    fun i a b => ⟨i.withRoles_withRoles a b, i.withRoles_comm a b, i.withRoles_self a, rfl⟩⟩
  simp only [build_eq, id_applyAll_blank]

/-- An attribute written twice, and a role given to the copy that the original has as well. -/
theorem construction_lawful_copy :
    let edits : List Edit := [.role "user", .attributeValues "tenant" ["a", "b"],
      .principal "carol", .attributeValues "tenant" []]
    let source : IdSource := ⟨fun n => ⟨BitVec.ofNat 128 n⟩, 3⟩
    let original := ((applyAll {} edits).build source).1
    Built edits [] source original ∧
      Built edits [["user", "auditor"]] source (original.withRoles ["user", "auditor"]) ∧
      (original.withRoles ["user", "auditor"]).roles.toList = ["auditor", "user"] ∧
      (apply {} (.role "user")).apply (.principal "carol") =
        (apply {} (.principal "carol")).apply (.role "user") := by
  intro edits source original
  have lawful := construction_lawful edits [["user", "auditor"]] source
  exact ⟨((lawful.2.1 0 _).mp rfl).2, ((lawful.2.1 1 _).mp rfl).2, by decide,
    lawful.2.2.1 {} _ _ (by decide)⟩

end IdentityDraft
end RequestAuth
