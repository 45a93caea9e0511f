import RequestAuth.Ordered.Map

/-! Finite sets of text, listed in strictly ascending order. A set is a map without values. -/
namespace RequestAuth

structure TextSet where
  members : TextMap Unit
deriving DecidableEq

namespace TextSet

def empty : TextSet := ⟨.empty⟩

instance : EmptyCollection TextSet := ⟨empty⟩
instance : Inhabited TextSet := ⟨empty⟩

def toList (s : TextSet) : List String := s.members.entries.map Prod.fst

def contains (s : TextSet) (x : String) : Bool := (s.members.find? x).isSome

def insert (s : TextSet) (x : String) : TextSet := ⟨s.members.insert x ()⟩

def insertAll (s : TextSet) (xs : List String) : TextSet := xs.foldl insert s

def ofList (xs : List String) : TextSet := empty.insertAll xs

instance : Membership String TextSet := ⟨fun s x => s.contains x = true⟩

theorem mem_iff_contains {s : TextSet} {x : String} : x ∈ s ↔ s.contains x = true := Iff.rfl

@[simp] theorem not_mem_empty (x : String) : x ∉ empty := by
  simp [mem_iff_contains, contains, empty]

@[simp] theorem mem_insert (s : TextSet) (x y : String) : y ∈ s.insert x ↔ y = x ∨ y ∈ s := by
  simp only [mem_iff_contains, contains, insert]
  by_cases h : y = x
  · subst h; simp
  · simp [TextMap.find?_insert_other _ h, h]

@[simp] theorem mem_insertAll (s : TextSet) (xs : List String) (y : String) :
    y ∈ s.insertAll xs ↔ y ∈ xs ∨ y ∈ s := by
  induction xs generalizing s with
  | nil => simp [insertAll]
  | cons x xs ih =>
    have := ih (s.insert x)
    simp only [insertAll, List.foldl_cons] at this ⊢
    simp only [this, mem_insert, List.mem_cons]
    grind

theorem insertAll_append (s : TextSet) (xs ys : List String) :
    s.insertAll (xs ++ ys) = (s.insertAll xs).insertAll ys := List.foldl_append

/-- A set is its members. -/
theorem ext_mem {s t : TextSet} (h : ∀ x, x ∈ s ↔ x ∈ t) : s = t := by
  obtain ⟨a⟩ := s
  obtain ⟨b⟩ := t
  congr 1
  apply TextMap.ext_find?
  intro key
  have := h key
  simp only [mem_iff_contains, contains] at this
  cases ha : a.find? key <;> cases hb : b.find? key <;> simp_all

theorem toList_sorted (s : TextSet) : s.toList.Pairwise (· < ·) :=
  List.Pairwise.map _ (fun _ _ h => h) s.members.sorted

theorem mem_toList {s : TextSet} {x : String} : x ∈ s.toList ↔ x ∈ s := by
  simp only [toList, List.mem_map, mem_iff_contains, contains, TextMap.find?,
    Option.isSome_iff_exists, Entries.find?_eq_some_iff s.members.sorted]
  constructor
  · rintro ⟨⟨k, u⟩, mem, rfl⟩; exact ⟨u, mem⟩
  · rintro ⟨u, mem⟩; exact ⟨(x, u), mem, rfl⟩

@[simp] theorem ofList_toList (s : TextSet) : ofList s.toList = s :=
  ext_mem fun x => by simp [ofList, mem_toList]

end TextSet
end RequestAuth
