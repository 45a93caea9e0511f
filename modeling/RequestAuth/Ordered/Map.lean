/-! Finite maps with text keys, listed in strictly ascending key order, so that equal contents
are equal maps. The list operations come first; they need no order to be correct. -/
namespace RequestAuth

namespace Entries

def find? (key : String) : List (String × β) → Option β
  | [] => none
  | (k, v) :: rest => if k = key then some v else find? key rest

/-- Puts the pair before the first greater key, in place of an equal one. -/
def insert (key : String) (value : β) : List (String × β) → List (String × β)
  | [] => [(key, value)]
  | (k, v) :: rest =>
    if key < k then (key, value) :: (k, v) :: rest
    else if k = key then (key, value) :: rest
    else (k, v) :: insert key value rest

def erase (key : String) (entries : List (String × β)) : List (String × β) :=
  entries.filter fun e => e.1 ≠ key

def Sorted (entries : List (String × β)) : Prop := entries.Pairwise fun a b => a.1 < b.1

instance (entries : List (String × β)) : Decidable (Sorted entries) :=
  inferInstanceAs (Decidable (entries.Pairwise fun a b => a.1 < b.1))

@[simp] theorem find?_insert_same (key : String) (value : β) (entries : List (String × β)) :
    find? key (insert key value entries) = some value := by
  induction entries with
  | nil => simp [insert, find?]
  | cons e rest ih => simp only [insert]; split <;> (try split) <;> simp_all [find?]

theorem find?_insert_other {key other : String} (h : other ≠ key) (value : β)
    (entries : List (String × β)) :
    find? other (insert key value entries) = find? other entries := by
  induction entries with
  | nil => simp [insert, find?, Ne.symm h]
  | cons e rest ih =>
    simp only [insert]; split <;> (try split) <;> simp_all [find?, Ne.symm h]

@[simp] theorem find?_erase_same (key : String) (entries : List (String × β)) :
    find? key (erase key entries) = none := by
  induction entries with
  | nil => rfl
  | cons e rest ih =>
    simp only [erase, List.filter] at ih ⊢
    split <;> simp_all [find?]

theorem find?_erase_other {key other : String} (h : other ≠ key) (entries : List (String × β)) :
    find? other (erase key entries) = find? other entries := by
  induction entries with
  | nil => rfl
  | cons e rest ih =>
    simp only [erase, List.filter] at ih ⊢
    split <;> simp_all [find?]
    intro same
    exact absurd same (Ne.symm h)

theorem mem_insert {key : String} {value : β} {e : String × β} {entries : List (String × β)}
    (h : e ∈ insert key value entries) : e = (key, value) ∨ e ∈ entries := by
  induction entries with
  | nil => exact .inl (by simpa [insert] using h)
  | cons f rest ih => simp only [insert] at h; split at h <;> (try split at h) <;> grind

theorem insert_sorted (key : String) (value : β) {entries : List (String × β)}
    (h : Sorted entries) : Sorted (insert key value entries) := by
  induction entries with
  | nil => simp [insert, Sorted]
  | cons f rest ih =>
    obtain ⟨k, v⟩ := f
    have head : ∀ a ∈ rest, k < a.1 := fun a ha => List.rel_of_pairwise_cons h ha
    have tail : Sorted rest := h.of_cons
    simp only [insert]
    split
    · refine List.Pairwise.cons ?_ h
      intro a ha
      rcases List.mem_cons.mp ha with rfl | ha
      · assumption
      · have := head a ha; grind
    · split
      · subst_vars; exact List.Pairwise.cons head tail
      · refine List.Pairwise.cons ?_ (ih tail)
        intro a ha
        rcases mem_insert ha with rfl | ha
        · grind
        · exact head a ha

theorem erase_sorted (key : String) {entries : List (String × β)} (h : Sorted entries) :
    Sorted (erase key entries) := List.Pairwise.filter _ h

theorem find?_eq_some_iff {key : String} {value : β} {entries : List (String × β)}
    (h : Sorted entries) : find? key entries = some value ↔ (key, value) ∈ entries := by
  induction entries with
  | nil => simp [find?]
  | cons e rest ih =>
    obtain ⟨k, v⟩ := e
    have head : ∀ a ∈ rest, k < a.1 := fun a ha => List.rel_of_pairwise_cons h ha
    have tail := ih h.of_cons
    simp only [find?]
    split
    · subst_vars
      constructor
      · rintro ⟨⟩; exact List.mem_cons_self
      · intro mem
        rcases List.mem_cons.mp mem with equal | mem
        · simp_all
        · exact absurd (head _ mem) (String.lt_irrefl _)
    · rw [tail]; grind

/-- A sorted list does not repeat its first key. -/
theorem find?_tail {key : String} {value : β} {entries : List (String × β)}
    (h : Sorted ((key, value) :: entries)) : find? key entries = none := by
  cases found : find? key entries with
  | none => rfl
  | some x =>
    exact absurd (List.rel_of_pairwise_cons h ((find?_eq_some_iff h.of_cons).mp found))
      (String.lt_irrefl _)

/-- Sorted lists that answer every key alike are the same list. -/
theorem eq_of_find?_eq {a b : List (String × β)} (ha : Sorted a) (hb : Sorted b)
    (h : ∀ key, find? key a = find? key b) : a = b := by
  induction a generalizing b with
  | nil =>
    cases b with
    | nil => rfl
    | cons e rest => have := h e.1; simp [find?] at this
  | cons e rest ih =>
    obtain ⟨k, v⟩ := e
    cases b with
    | nil => have := h k; simp [find?] at this
    | cons f other =>
      obtain ⟨l, w⟩ := f
      have member : ∀ p : String × β, p ∈ (k, v) :: rest ↔ p ∈ (l, w) :: other := by
        intro p; rw [← find?_eq_some_iff ha, ← find?_eq_some_iff hb, h]
      have headA : ∀ a ∈ rest, k < a.1 := fun a m => List.rel_of_pairwise_cons ha m
      have headB : ∀ a ∈ other, l < a.1 := fun a m => List.rel_of_pairwise_cons hb m
      have same : (k, v) = (l, w) := by
        have inB := (member (k, v)).mp List.mem_cons_self
        have inA := (member (l, w)).mpr List.mem_cons_self
        rcases List.mem_cons.mp inB with e | inB
        · exact e
        · rcases List.mem_cons.mp inA with e | inA
          · exact e.symm
          · exact absurd (headA _ inA) (String.lt_asymm (headB _ inB))
      cases same
      congr 1
      apply ih ha.of_cons hb.of_cons
      intro key
      have here := h key
      by_cases eq : k = key
      · subst eq; rw [find?_tail ha, find?_tail hb]
      · simpa [find?, eq] using here

end Entries

structure TextMap (β : Type u) where
  entries : List (String × β)
  sorted : Entries.Sorted entries

namespace TextMap

@[ext] theorem ext_entries {a b : TextMap β} (h : a.entries = b.entries) : a = b := by
  cases a; cases b; simp_all

instance [DecidableEq β] : DecidableEq (TextMap β) := fun a b =>
  decidable_of_iff (a.entries = b.entries) ⟨ext_entries, fun h => h ▸ rfl⟩

def empty : TextMap β := ⟨[], List.Pairwise.nil⟩

instance : EmptyCollection (TextMap β) := ⟨empty⟩
instance : Inhabited (TextMap β) := ⟨empty⟩

def find? (m : TextMap β) (key : String) : Option β := Entries.find? key m.entries

def insert (m : TextMap β) (key : String) (value : β) : TextMap β :=
  ⟨Entries.insert key value m.entries, Entries.insert_sorted key value m.sorted⟩

def erase (m : TextMap β) (key : String) : TextMap β :=
  ⟨Entries.erase key m.entries, Entries.erase_sorted key m.sorted⟩

def size (m : TextMap β) : Nat := m.entries.length

/-- The last pair of a key wins. -/
def ofList (pairs : List (String × β)) : TextMap β :=
  pairs.foldl (fun m e => m.insert e.1 e.2) empty

@[simp] theorem find?_empty (key : String) : (empty : TextMap β).find? key = none := rfl

@[simp] theorem find?_insert_same (m : TextMap β) (key : String) (value : β) :
    (m.insert key value).find? key = some value := Entries.find?_insert_same ..

theorem find?_insert_other (m : TextMap β) {key other : String} (h : other ≠ key) (value : β) :
    (m.insert key value).find? other = m.find? other := Entries.find?_insert_other h ..

@[simp] theorem find?_erase_same (m : TextMap β) (key : String) :
    (m.erase key).find? key = none := Entries.find?_erase_same ..

theorem find?_erase_other (m : TextMap β) {key other : String} (h : other ≠ key) :
    (m.erase key).find? other = m.find? other := Entries.find?_erase_other h ..

/-- A map is what it answers. -/
theorem ext_find? {a b : TextMap β} (h : ∀ key, a.find? key = b.find? key) : a = b :=
  ext_entries (Entries.eq_of_find?_eq a.sorted b.sorted h)

theorem find?_foldl_insert (m : TextMap β) {entries : List (String × β)}
    (h : Entries.Sorted entries) (key : String) :
    (entries.foldl (fun m e => m.insert e.1 e.2) m).find? key =
      (Entries.find? key entries).or (m.find? key) := by
  induction entries generalizing m with
  | nil => simp [Entries.find?]
  | cons e rest ih =>
    obtain ⟨k, v⟩ := e
    rw [List.foldl_cons, ih _ h.of_cons]
    by_cases same : k = key
    · subst same; simp [Entries.find?, Entries.find?_tail h]
    · simp [Entries.find?, same, find?_insert_other m (Ne.symm same)]

@[simp] theorem ofList_entries (m : TextMap β) : ofList m.entries = m :=
  ext_find? fun key => by
    rw [ofList, find?_foldl_insert empty m.sorted, find?_empty, Option.or_none]; rfl

end TextMap
end RequestAuth
