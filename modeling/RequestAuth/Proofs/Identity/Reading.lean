import RequestAuth.Proofs.Identity.Spelling
import RequestAuth.Proofs.Json.Layout
import RequestAuth.Text.Blank

/-! Which documents are read as an identity. An identifier is read from its digits in either case
and in four notations; the rest of an identity may be left out, and roles may be repeated. -/
namespace RequestAuth

namespace Hex

theorem toNat_digit : ∀ d < 16, (digit d).toNat = if d < 10 then 48 + d else 87 + d := by decide

/-- A character has the value of the digit that it is in lower case. -/
theorem digitValue?_eq_some_iff {c : Char} {d : Nat} :
    digitValue? c = some d ↔ d < 16 ∧ digit d = c.toLower := by
  have compared (small : d < 16) : digit d = c.toLower ↔ digitValue? c = some d := by
    rw [← Char.toNat_inj, toNat_digit d small, Text.toNat_toLower]
    simp only [digitValue?]
    split_ifs <;> simp only [Option.some.injEq, iff_false] <;> omega
  constructor
  · intro value
    have small : d < 16 := by
      simp only [digitValue?] at value
      split_ifs at value <;> simp only [Option.some.injEq] at value <;> omega
    exact ⟨small, (compared small).mpr value⟩
  · rintro ⟨small, same⟩
    exact (compared small).mp same

theorem value?_concat_eq_some_iff {cs : List Char} {c : Char} {n : Nat} :
    value? (cs ++ [c]) = some n ↔ value? cs = some (n / 16) ∧ digitValue? c = some (n % 16) := by
  simp only [value?, List.foldlM_append, List.foldlM_cons, List.foldlM_nil, Option.bind_eq_bind,
    Option.bind_eq_some_iff, Option.map_eq_some_iff]
  constructor
  · rintro ⟨m, front, last, ⟨d, back, rfl⟩, total⟩
    obtain rfl := Option.some.inj total
    have small : d < 16 := (digitValue?_eq_some_iff.mp back).1
    have quotient : (16 * m + d) / 16 = m := by omega
    have remainder : (16 * m + d) % 16 = d := by omega
    exact ⟨quotient.symm ▸ front, remainder.symm ▸ back⟩
  · rintro ⟨front, back⟩
    exact ⟨n / 16, front, n, ⟨n % 16, back, Nat.div_add_mod n 16⟩, rfl⟩

/-- Digits are read as the number that they are in lower case. -/
theorem value?_eq_some_iff {cs : List Char} {n : Nat} :
    value? cs = some n ↔ n < 16 ^ cs.length ∧ digits cs.length n = cs.map Char.toLower := by
  -- the lowest digit is the last one
  induction cs using List.reverseRecOn generalizing n with
  | nil =>
    have zero : value? [] = some 0 := rfl
    simp only [zero, Option.some.injEq, List.length_nil, pow_zero, Nat.lt_one_iff, digits,
      List.map_nil, and_true]
    exact eq_comm
  | append_singleton cs c ih =>
    have small : n % 16 < 16 := Nat.mod_lt n (by decide)
    have room : n / 16 < 16 ^ cs.length ↔ n < 16 ^ cs.length * 16 :=
      Nat.div_lt_iff_lt_mul (by decide)
    rw [value?_concat_eq_some_iff, ih, digitValue?_eq_some_iff, List.length_append,
      List.length_singleton, Nat.pow_succ, room, digits, List.map_append, List.map_singleton]
    constructor
    · rintro ⟨⟨bound, front⟩, -, back⟩
      exact ⟨bound, by rw [front, back]⟩
    · rintro ⟨bound, same⟩
      obtain ⟨front, back⟩ := List.append_inj' same rfl
      exact ⟨⟨bound, front⟩, small, (List.cons.inj back).1⟩

end Hex

namespace Uuid

/-- The digits of the identifier, each in either case. -/
def Digits (u : Uuid) (cs : List Char) : Prop := cs.map Char.toLower = Hex.digits 32 u.bits.toNat

/-- Its digits in groups of 8, 4, 4, 4 and 12, with hyphens between them. -/
def Hyphened (u : Uuid) (cs : List Char) : Prop :=
  ∃ groups : List (List Char), groups.map List.length = [8, 4, 4, 4, 12] ∧
    u.Digits groups.flatten ∧ cs = ['-'].intercalate groups

/-- The notations of the identifier. -/
inductive Spelled (u : Uuid) : List Char → Prop
  | plain (digits : u.Digits cs) : Spelled u cs
  | hyphened (grouped : u.Hyphened cs) : Spelled u cs
  | braced (grouped : u.Hyphened cs) : Spelled u ('\x7b' :: cs ++ ['\x7d'])
  | urn (start : front.map Char.toLower = "urn:uuid:".toList) (grouped : u.Hyphened cs) :
    Spelled u (front ++ cs)

theorem Digits.length {u : Uuid} {cs : List Char} (digits : u.Digits cs) : cs.length = 32 := by
  rw [← List.length_map Char.toLower, digits, Hex.length_digits]

theorem ungroup?_eq_some_iff {sizes : List Nat} {cs flat : List Char} :
    ungroup? sizes cs = some flat ↔ ∃ groups : List (List Char),
      groups.map List.length = sizes ∧ groups.flatten = flat ∧ cs = ['-'].intercalate groups := by
  constructor
  · intro cut
    induction sizes generalizing cs flat with
    | nil =>
      simp only [ungroup?] at cut
      split at cut
      · next empty => exact ⟨[], rfl, Option.some.inj cut, empty⟩
      · simp at cut
    | cons size sizes ih =>
      cases sizes with
      | nil =>
        simp only [ungroup?] at cut
        split at cut
        · next fits =>
          obtain rfl := Option.some.inj cut
          exact ⟨[cs], by simp [fits], by simp, by simp [List.intercalate]⟩
        · simp at cut
      | cons next sizes =>
        simp only [ungroup?] at cut
        split at cut
        · next rest dropped =>
          obtain ⟨tail, rest_cut, rfl⟩ := Option.map_eq_some_iff.mp cut
          obtain ⟨groups, sizes_eq, rfl, rfl⟩ := ih rest_cut
          have enough : size < cs.length := by
            have left := congrArg List.length dropped
            simp only [List.length_drop, List.length_cons] at left
            omega
          have front : (cs.take size).length = size := by simp [enough.le]
          obtain ⟨g, groups, rfl⟩ : ∃ g rest, groups = g :: rest :=
            List.exists_cons_of_ne_nil (by rintro rfl; simp at sizes_eq)
          refine ⟨cs.take size :: g :: groups, by simp [enough.le, ← sizes_eq], rfl, ?_⟩
          rw [List.intercalate_cons_cons, List.append_assoc, List.singleton_append, ← dropped,
            List.take_append_drop]
        · simp at cut
  · rintro ⟨groups, rfl, rfl, rfl⟩
    rw [← group_flatten, ungroup?_group _ _ List.length_flatten]

theorem ofDigits?_eq_some_iff {cs : List Char} {u : Uuid} :
    ofDigits? cs = some u ↔ u.Digits cs := by
  constructor
  · intro read
    simp only [ofDigits?] at read
    split at read
    · next full =>
      obtain ⟨n, value, rfl⟩ := Option.map_eq_some_iff.mp read
      obtain ⟨bound, digits⟩ := Hex.value?_eq_some_iff.mp value
      rw [full] at bound digits
      have kept : (BitVec.ofNat 128 n).toNat = n := by
        rw [BitVec.toNat_ofNat]
        exact Nat.mod_eq_of_lt bound
      rw [Digits, kept, digits]
    · simp at read
  · intro digits
    have bound : u.bits.toNat < 16 ^ cs.length := by
      rw [digits.length]
      exact u.bits.isLt
    have value : Hex.value? cs = some u.bits.toNat :=
      Hex.value?_eq_some_iff.mpr ⟨bound, digits.length ▸ digits.symm⟩
    simp [ofDigits?, digits.length, value]

theorem ofHyphened?_eq_some_iff {cs : List Char} {u : Uuid} :
    ofHyphened? cs = some u ↔ u.Hyphened cs := by
  simp only [ofHyphened?, Option.bind_eq_bind, Option.bind_eq_some_iff, ungroup?_eq_some_iff,
    ofDigits?_eq_some_iff]
  constructor
  · rintro ⟨_, ⟨groups, sizes, rfl, shape⟩, digits⟩
    exact ⟨groups, sizes, digits, shape⟩
  · rintro ⟨groups, sizes, digits, shape⟩
    exact ⟨_, ⟨groups, sizes, rfl, shape⟩, digits⟩

theorem Hyphened.length {u : Uuid} {cs : List Char} (grouped : u.Hyphened cs) : cs.length = 36 := by
  obtain ⟨groups, sizes, digits, rfl⟩ := grouped
  have total : groups.flatten.length = groupSizes.sum := digits.length
  have counted := length_group groupSizes groups.flatten total (by decide)
  have grouping : group groupSizes groups.flatten = ['-'].intercalate groups := by
    rw [← group_flatten, sizes]
    rfl
  have sum : groupSizes.sum + groupSizes.length = 37 := rfl
  rw [← grouping]
  omega

theorem ofBraced?_eq_some_iff {cs : List Char} {u : Uuid} :
    ofBraced? cs = some u ↔ ∃ inner, u.Hyphened inner ∧ cs = '\x7b' :: inner ++ ['\x7d'] := by
  constructor
  · intro read
    unfold ofBraced? at read
    split at read
    · next rest =>
      split at read
      · next closed =>
        obtain ⟨inner, rfl⟩ := List.getLast?_eq_some_iff.mp closed
        rw [List.dropLast_concat] at read
        exact ⟨inner, ofHyphened?_eq_some_iff.mp read, rfl⟩
      · simp at read
    · simp at read
  · rintro ⟨inner, grouped, rfl⟩
    simp [ofBraced?, ofHyphened?_eq_some_iff.mpr grouped]

theorem length_urn {front : List Char} (start : front.map Char.toLower = "urn:uuid:".toList) :
    front.length = 9 := by
  rw [← List.length_map Char.toLower, start]
  rfl

theorem ofUrn?_eq_some_iff {cs : List Char} {u : Uuid} :
    ofUrn? cs = some u ↔ ∃ front inner, front.map Char.toLower = "urn:uuid:".toList ∧
      u.Hyphened inner ∧ cs = front ++ inner := by
  constructor
  · intro read
    simp only [ofUrn?] at read
    split at read
    · next start =>
      exact ⟨cs.take 9, cs.drop 9, start, ofHyphened?_eq_some_iff.mp read,
        (List.take_append_drop 9 cs).symm⟩
    · simp at read
  · rintro ⟨front, inner, start, grouped, rfl⟩
    have nine : front.length = 9 := length_urn start
    rw [ofUrn?, List.take_left' nine, List.drop_left' nine, if_pos start,
      ofHyphened?_eq_some_iff.mpr grouped]

/-- An identifier is read from its notations, and from nothing else. -/
theorem parse?_eq_some_iff {s : String} {u : Uuid} : parse? s = some u ↔ u.Spelled s.toList := by
  -- the notations differ in length
  have notDigits (h : s.toList.length ≠ 32) : ofDigits? s.toList = none :=
    Option.eq_none_iff_forall_ne_some.mpr fun _ read => h (ofDigits?_eq_some_iff.mp read).length
  have notHyphened (h : s.toList.length ≠ 36) : ofHyphened? s.toList = none :=
    Option.eq_none_iff_forall_ne_some.mpr fun _ read =>
      h (ofHyphened?_eq_some_iff.mp read).length
  have notBraced (h : s.toList.length ≠ 38) : ofBraced? s.toList = none := by
    refine Option.eq_none_iff_forall_ne_some.mpr fun _ read => h ?_
    obtain ⟨inner, grouped, text⟩ := ofBraced?_eq_some_iff.mp read
    simp [text, grouped.length]
  simp only [parse?, Option.orElse_eq_orElse, Option.orElse_eq_or, Option.or_eq_some_iff,
    ofDigits?_eq_some_iff, ofHyphened?_eq_some_iff, ofBraced?_eq_some_iff, ofUrn?_eq_some_iff]
  constructor
  · rintro (digits | ⟨-, grouped | ⟨-, ⟨inner, grouped, text⟩ | ⟨-, front, inner, start, grouped,
      text⟩⟩⟩)
    · exact .plain digits
    · exact .hyphened grouped
    · exact text ▸ .braced grouped
    · exact text ▸ .urn start grouped
  · intro spelled
    generalize text : s.toList = cs at *
    cases spelled with
    | plain digits => exact .inl digits
    | hyphened grouped => exact .inr ⟨notDigits (by simp [grouped.length]), .inl grouped⟩
    | braced grouped =>
      have long := grouped.length
      exact .inr ⟨notDigits (by simp [long]), .inr ⟨notHyphened (by simp [long]),
        .inl ⟨_, grouped, rfl⟩⟩⟩
    | @urn _ front start grouped =>
      have nine : front.length = 9 := length_urn start
      have long := grouped.length
      exact .inr ⟨notDigits (by simp [long, nine]), .inr ⟨notHyphened (by simp [long, nine]),
        .inr ⟨notBraced (by simp [long, nine]), _, _, start, grouped, rfl⟩⟩⟩

end Uuid

theorem Uuid.decode_eq_ok_iff {v : Json} {u : Uuid} :
    decode v = .ok u ↔ ∃ s, v = .str s ∧ u.Spelled s.toList := by
  cases v with
  | str s =>
    simp only [decode, Json.str.injEq, exists_eq_left', ← parse?_eq_some_iff]
    cases parse? s <;> simp
  | _ => simp [decode, Decode.mismatch]

open Decode

def Uuid.grammar : Grammar Uuid where
  parse := decode
  Spells u v := ∃ s, v = .str s ∧ u.Spelled s.toList
  parse_eq_ok_iff _ _ _ := decode_eq_ok_iff

namespace IdentityDraft

/-- Roles are listed in any order, also more than once. -/
def roleGrammar : Grammar TextSet where
  parse v := TextSet.ofList <$> sequence text v
  Spells roles v := ∃ listed, v = .ofStrings listed ∧ ∀ role, role ∈ roles ↔ role ∈ listed
  parse_eq_ok_iff v roles _ := by
    simp only [map_eq_ok_iff, sequence_text_eq_ok_iff]
    refine exists_congr fun listed => and_congr_right fun _ => ?_
    constructor
    · rintro rfl role
      simp [TextSet.ofList]
    · intro members
      exact TextSet.ext_mem fun role => by simp [TextSet.ofList, members]

def attributeGrammar : Grammar (TextMap (List String)) where
  parse := map (sequence text)
  Spells attributes v := v = .obj (attributes.entries.map fun e => (e.1, .ofStrings e.2))
  parse_eq_ok_iff v attributes canonical := by
    rw [map_texts_eq_ok_iff]
    constructor
    · rintro ⟨entries, rfl, rfl⟩
      have sorted := (Json.canonical_obj.mp canonical).1
      have ascending : Entries.Sorted entries := by
        simpa [Entries.Sorted, List.pairwise_map] using sorted
      have same : TextMap.ofList entries = ⟨entries, ascending⟩ :=
        TextMap.ofList_entries ⟨entries, ascending⟩
      rw [same]
    · rintro rfl
      exact ⟨attributes.entries, rfl, attributes.ofList_entries⟩

def places : List (Place IdentityDraft) := [
  { name := "id", grammar := .present Uuid.grammar, get := IdentityDraft.id,
    put := fun id draft => { draft with id } },
  { name := "principal", grammar := .optionalText, get := principal,
    put := fun principal draft => { draft with principal } },
  { name := "roles", grammar := roleGrammar, get := roles,
    put := fun roles draft => { draft with roles } },
  { name := "attributes", grammar := attributeGrammar, get := attributes,
    put := fun attributes draft => { draft with attributes } }]

theorem layout : Layout shape places where
  fields := by
    have id : readId = fun v draft => ({ draft with id := · }) <$> some <$> Uuid.decode v := by
      funext v draft
      exact bind_put (Uuid.decode v) some fun id => ({ draft with id } : IdentityDraft)
    have roles : readRoles = fun v draft =>
        ({ draft with roles := · }) <$> TextSet.ofList <$> sequence text v := by
      funext v draft
      exact bind_put (sequence text v) .ofList fun roles => ({ draft with roles } : IdentityDraft)
    rw [shape, id, roles]
    rfl
  distinct := distinct_fields
  apart := by simp [places, Place.Apart]
  whole := by
    rintro ⟨⟩ ⟨⟩ same
    simpa [places] using same

end IdentityDraft

namespace Identity

/-- The document gives the identity. Its identifier is in one of the notations; an array stops
no earlier than with the principal. Roles are listed in any order, also more than once. -/
def Spelled (i : Identity) (v : Json) : Prop :=
  ∃ id principal roles attributes,
    v.Gives ["id", "principal", "roles", "attributes"] 2
      [some (.str id), principal, roles, attributes] ∧
    i.id.Spelled id.toList ∧
    Json.GivesText principal i.principal ∧
    (roles = none ∧ i.roles = ∅ ∨
      ∃ listed, roles = some (.ofStrings listed) ∧ ∀ role, role ∈ i.roles ↔ role ∈ listed) ∧
    (attributes = none ∧ i.attributes = ∅ ∨
      attributes = some (.obj (i.attributes.entries.map fun e => (e.1, .ofStrings e.2))))

theorem decode_eq_ok_iff_read {v : Json} {i : Identity} :
    decode v = .ok i ↔
      IdentityDraft.shape.read {} v = .ok ⟨some i.id, i.principal, i.roles, i.attributes⟩ := by
  simp only [decode, bind_eq_ok_iff]
  constructor
  · rintro ⟨⟨id?, principal, roles, attributes⟩, read, id, known, same⟩
    cases Except.ok.inj same
    cases id? with
    | none => simp [required] at known
    | some other =>
      obtain rfl := Except.ok.inj known
      exact read
  · intro read
    exact ⟨_, read, i.id, rfl, rfl⟩

/-- An identity is read from the documents that give it. -/
theorem decode_eq_ok_iff {v : Json} {i : Identity} (canonical : v.Canonical) :
    decode v = .ok i ↔ i.Spelled v := by
  rw [decode_eq_ok_iff_read, IdentityDraft.layout.read_open_iff rfl canonical]
  constructor
  · rintro ⟨_, gives, _ | ⟨id, _ | ⟨principal, _ | ⟨roles, _ | ⟨attributes, ⟨⟩⟩⟩⟩⟩⟩
    obtain ⟨_, rfl, _, same, text, rfl, spelled⟩ := id.resolve_left (by simp)
    obtain rfl := Option.some.inj same
    refine ⟨text, _, _, _, gives, spelled, Json.givesOr_textOrNull_iff.mp principal, ?_, ?_⟩
    · refine roles.imp_right ?_
      rintro ⟨_, known, listed, rfl, members⟩
      exact ⟨listed, known, members⟩
    · refine attributes.imp_right ?_
      rintro ⟨_, known, rfl⟩
      exact known
  · rintro ⟨text, _, _, _, gives, spelled, principal, roles, attributes⟩
    refine ⟨_, gives, .cons (.inr ⟨_, rfl, _, rfl, text, rfl, spelled⟩) <|
      .cons (Json.givesOr_textOrNull_iff.mpr principal) <| .cons ?_ <| .cons ?_ .nil⟩
    · refine roles.imp_right ?_
      rintro ⟨listed, known, members⟩
      exact ⟨_, known, listed, rfl, members⟩
    · exact attributes.imp_right fun known => ⟨_, known, rfl⟩

end Identity

end RequestAuth
