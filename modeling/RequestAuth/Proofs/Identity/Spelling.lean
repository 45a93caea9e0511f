import Mathlib.Data.List.Induction
import Mathlib.Data.List.SplitLengths
import RequestAuth.Proofs.Identity.Document

/-! The written form of identifiers, told from the text alone: which texts are some identifier's
written form. -/
namespace RequestAuth

namespace Hex

def lower : List Char := "0123456789abcdef".toList

theorem lower_eq : lower = (List.range 16).map digit := by decide

theorem mem_lower_iff {c : Char} : c ∈ lower ↔ ∃ n < 16, digit n = c := by
  rw [lower_eq, List.mem_map]
  simp only [List.mem_range]

theorem mem_lower_of_digits {width n : Nat} {c : Char} (member : c ∈ digits width n) :
    c ∈ lower := by
  induction width generalizing n with
  | zero => simp [digits] at member
  | succ width ih =>
    rw [digits, List.mem_append, List.mem_singleton] at member
    rcases member with higher | rfl
    · exact ih higher
    · exact mem_lower_iff.mpr ⟨n % 16, Nat.mod_lt _ (by decide), rfl⟩

/-- Lower-case digits are the digits of a number that they have room for. -/
theorem exists_digits (cs : List Char) (spelled : ∀ c ∈ cs, c ∈ lower) :
    ∃ n < 16 ^ cs.length, digits cs.length n = cs := by
  -- the lowest digit is the last one
  induction cs using List.reverseRecOn with
  | nil => exact ⟨0, by simp, rfl⟩
  | append_singleton cs c ih =>
    obtain ⟨n, small, rest⟩ := ih fun c member => spelled c (List.mem_append_left _ member)
    obtain ⟨d, bound, rfl⟩ := mem_lower_iff.mp (spelled c (by simp))
    refine ⟨16 * n + d, ?_, ?_⟩
    · rw [List.length_append, List.length_singleton, Nat.pow_succ]
      omega
    · have quotient : (16 * n + d) / 16 = n := by omega
      have remainder : (16 * n + d) % 16 = d := by omega
      rw [List.length_append, List.length_singleton, digits, quotient, remainder, rest]

end Hex

namespace Uuid

/-- Lower-case digits in groups of 8, 4, 4, 4 and 12, with hyphens between them. -/
def Written (s : String) : Prop :=
  ∃ groups : List (List Char), groups.map List.length = [8, 4, 4, 4, 12] ∧
    (∀ g ∈ groups, ∀ c ∈ g, c ∈ Hex.lower) ∧ s.toList = ['-'].intercalate groups

theorem group_flatten (groups : List (List Char)) :
    group (groups.map List.length) groups.flatten = ['-'].intercalate groups := by
  induction groups with
  | nil => rfl
  | cons g groups ih =>
    cases groups with
    | nil => simp [group, List.intercalate]
    | cons next groups =>
      simp only [List.map_cons, group, List.flatten_cons, List.take_left, List.drop_left] at ih ⊢
      rw [ih]
      simp [List.intercalate, List.intersperse]

theorem written_text (u : Uuid) : Written u.text := by
  have fill := u.digits_fill_groups
  refine ⟨groupSizes.splitLengths (Hex.digits 32 u.bits.toNat), ?_, ?_, ?_⟩
  · exact List.map_splitLengths_length _ _ fill.ge
  · intro g cut c member
    have flat := List.mem_flatten_of_mem cut member
    rw [List.flatten_splitLengths _ _ fill.le] at flat
    exact Hex.mem_lower_of_digits flat
  · rw [← group_flatten, List.map_splitLengths_length _ _ fill.ge,
      List.flatten_splitLengths _ _ fill.le, text, String.toList_ofList]

/-- The texts of that form are the written forms of identifiers. -/
theorem written_iff {s : String} : Written s ↔ ∃ u : Uuid, u.text = s := by
  constructor
  · rintro ⟨groups, sizes, spelled, shape⟩
    have flat : ∀ c ∈ groups.flatten, c ∈ Hex.lower := by
      intro c member
      obtain ⟨g, cut, member⟩ := List.mem_flatten.mp member
      exact spelled g cut c member
    have length : groups.flatten.length = 32 := by
      rw [List.length_flatten, sizes]
      rfl
    obtain ⟨n, small, digits⟩ := Hex.exists_digits groups.flatten flat
    rw [length] at small digits
    refine ⟨⟨BitVec.ofNat 128 n⟩, String.toList_injective ?_⟩
    have value : (BitVec.ofNat 128 n).toNat = n := by
      rw [BitVec.toNat_ofNat]
      exact Nat.mod_eq_of_lt small
    rw [text, String.toList_ofList, value, digits, shape, ← group_flatten, sizes]
    rfl
  · rintro ⟨u, rfl⟩
    exact written_text u

end Uuid
end RequestAuth
