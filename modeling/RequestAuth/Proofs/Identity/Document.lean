import Mathlib.Algebra.GroupWithZero.Nat
import RequestAuth.Identity.Json
import RequestAuth.Proofs.Json.Reading

/-! Identities read back from their documents. Main statements: an identifier is read from its
written form, and an identity from its document. -/
namespace RequestAuth

/-- Reading gives back what the width had room for. -/
theorem Hex.value?_digits (width n : Nat) :
    value? (digits width n) = some (n % 16 ^ width) := by
  induction width generalizing n with
  | zero => simp [digits, value?, Nat.mod_one]
  | succ width ih =>
    have last : digitValue? (digit (n % 16)) = some (n % 16) :=
      digitValue?_digit _ (Nat.mod_lt _ (by decide))
    have rest := ih (n / 16)
    simp only [value?] at rest
    simp only [digits, value?, List.foldlM_append, rest, List.foldlM_cons, List.foldlM_nil, last]
    simp [Nat.pow_succ', Nat.mod_mul, Nat.add_comm]

namespace Uuid

theorem length_group (sizes : List Nat) (cs : List Char) (total : cs.length = sizes.sum)
    (some_ : sizes ≠ []) : (group sizes cs).length + 1 = sizes.sum + sizes.length := by
  induction sizes generalizing cs with
  | nil => exact absurd rfl some_
  | cons size sizes ih =>
    cases sizes with
    | nil => simp [group, total]
    | cons next sizes =>
      have rest : (cs.drop size).length = (next :: sizes).sum := by
        simp [total]
      have counted := ih (cs.drop size) rest (by simp)
      simp only [group, List.length_append, List.length_take, List.length_cons, List.sum_cons]
        at counted total ⊢
      omega

theorem ungroup?_group (sizes : List Nat) (cs : List Char) (total : cs.length = sizes.sum) :
    ungroup? sizes (group sizes cs) = some cs := by
  induction sizes generalizing cs with
  | nil =>
    have empty : cs = [] := List.eq_nil_of_length_eq_zero (by simpa using total)
    simp [group, ungroup?, empty]
  | cons size sizes ih =>
    cases sizes with
    | nil =>
      have fits : cs.length = size := by simpa using total
      simp [group, ungroup?, fits]
    | cons next sizes =>
      have enough : size ≤ cs.length := by simp [total]
      have rest : (cs.drop size).length = (next :: sizes).sum := by simp [total]
      have front : (cs.take size).length = size := by simp [enough]
      have cut : (group (size :: next :: sizes) cs).drop size =
          '-' :: group (next :: sizes) (cs.drop size) := by
        simp [group, front]
      have kept : (group (size :: next :: sizes) cs).take size = cs.take size := by
        simp [group, front]
      simp only [ungroup?, cut, kept, ih _ rest, Option.map_some, List.take_append_drop]

theorem digits_fill_groups (u : Uuid) :
    (Hex.digits 32 u.bits.toNat).length = groupSizes.sum := by
  rw [Hex.length_digits]
  rfl

theorem length_text (u : Uuid) : u.text.toList.length = 36 := by
  have counted := length_group groupSizes _ u.digits_fill_groups (by decide)
  simp only [text, String.toList_ofList]
  have sum : groupSizes.sum + groupSizes.length = 37 := rfl
  omega

/-- An identifier is read from its written form. -/
theorem parse?_text (u : Uuid) : parse? u.text = some u := by
  have value : u.bits.toNat % 16 ^ 32 = u.bits.toNat :=
    Nat.mod_eq_of_lt (lt_of_lt_of_eq u.bits.isLt (by decide))
  have hyphened : ofHyphened? u.text.toList = some u := by
    simp only [ofHyphened?, text, String.toList_ofList, ungroup?_group _ _ u.digits_fill_groups,
      Option.bind_eq_bind, Option.bind_some, ofDigits?, Hex.length_digits, if_true,
      Hex.value?_digits, value, Option.map_some, BitVec.ofNat_toNat, BitVec.setWidth_eq]
  have plain : ofDigits? u.text.toList = none := by
    simp [ofDigits?, length_text]
  simp [parse?, plain, hyphened]

end Uuid

namespace Decode

@[simp] theorem elements_text (texts : List String) :
    elements text (texts.map .str) = .ok texts := by
  induction texts with
  | nil => rfl
  | cons t texts ih => simp only [List.map_cons, elements, text, ih]; rfl

@[simp] theorem sequence_ofStrings (texts : List String) :
    sequence text (.ofStrings texts) = .ok texts := elements_text texts

theorem members_ofStrings (entries : List (String × List String)) :
    members (sequence text) (entries.map fun e => (e.1, .ofStrings e.2)) = .ok entries := by
  induction entries with
  | nil => rfl
  | cons e entries ih =>
    simp only [List.map_cons, members, sequence_ofStrings, ih]
    rfl

@[simp] theorem map_ofStrings (attributes : TextMap (List String)) :
    map (sequence text) (.obj (attributes.entries.map fun e => (e.1, .ofStrings e.2))) =
      .ok attributes := by
  simp only [map, members_ofStrings]
  exact congrArg Except.ok attributes.ofList_entries

@[simp] theorem optional_textOrNull (t : Option String) :
    optional text (.textOrNull t) = .ok t := by
  cases t <;> rfl

end Decode

theorem IdentityDraft.distinct_fields : shape.fieldNames.Nodup := by
  simp [Decode.RecordShape.fieldNames, shape]

/-- An identity is read from its document. -/
theorem Identity.decode_toJson (i : Identity) : Identity.decode i.toJson = .ok i := by
  have attributes (d : IdentityDraft) : IdentityDraft.readAttributes
      (.obj (i.attributes.entries.map fun e => (e.1, .ofStrings e.2))) d =
        .ok { d with attributes := i.attributes } := by
    simp only [IdentityDraft.readAttributes, Decode.map_ofStrings]
    rfl
  have id (d : IdentityDraft) : IdentityDraft.readId (.str i.id.text) d =
      .ok { d with id := some i.id } := by
    simp only [IdentityDraft.readId, Uuid.decode, Uuid.parse?_text]
    rfl
  have principal (d : IdentityDraft) : IdentityDraft.readPrincipal (.textOrNull i.principal) d =
      .ok { d with principal := i.principal } := by
    simp only [IdentityDraft.readPrincipal, Decode.optional_textOrNull]
    rfl
  have roles (d : IdentityDraft) : IdentityDraft.readRoles (.ofStrings i.roles.toList) d =
      .ok { d with roles := i.roles } := by
    simp only [IdentityDraft.readRoles, Decode.sequence_ofStrings]
    exact congrArg (fun read => Except.ok { d with roles := read }) i.roles.ofList_toList
  simp only [Identity.decode, toJson, Decode.RecordShape.read]
  have cons := @Decode.RecordShape.readMembers_cons _ _ IdentityDraft.distinct_fields
  rw [cons ⟨"attributes", IdentityDraft.readAttributes⟩ (by simp [IdentityDraft.shape])
      (attributes _),
    cons ⟨"id", IdentityDraft.readId⟩ (by simp [IdentityDraft.shape]) (id _),
    cons ⟨"principal", IdentityDraft.readPrincipal⟩ (by simp [IdentityDraft.shape]) (principal _),
    cons ⟨"roles", IdentityDraft.readRoles⟩ (by simp [IdentityDraft.shape]) (roles _)]
  rfl

end RequestAuth
