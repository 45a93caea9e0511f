import RequestAuth.Proofs.Identity.Spelling
import RequestAuth.Proofs.Session.RoundTrip

/-! The document of a record is its canonical form. Many documents can be read as one record; the
one that is written is told from its text alone: every member there and in order, sets and maps in
strictly ascending order, the identifier in its written form and no blank mechanism. -/
namespace RequestAuth

/-- The written form of an identity. -/
def Identity.Written (v : Json) : Prop :=
  ∃ (attributes : List (String × List String)) (id : String) (principal : Option String)
      (roles : List String),
    Entries.Sorted attributes ∧ Uuid.Written id ∧ roles.Pairwise (· < ·) ∧
      v = .obj [
        ("attributes", .obj (attributes.map fun e => (e.1, .ofStrings e.2))),
        ("id", .str id),
        ("principal", .textOrNull principal),
        ("roles", .ofStrings roles)]

theorem Identity.written_iff {v : Json} : Written v ↔ ∃ i : Identity, i.toJson = v := by
  constructor
  · rintro ⟨attributes, id, principal, roles, sorted, written, ascending, rfl⟩
    obtain ⟨u, rfl⟩ := Uuid.written_iff.mp written
    let set : TextSet :=
      ⟨⟨roles.map fun role => (role, ()), List.Pairwise.map _ (by simp) ascending⟩⟩
    have listed : set.toList = roles := by simp [set, TextSet.toList, Function.comp_def]
    exact ⟨⟨u, principal, set, ⟨attributes, sorted⟩⟩, by rw [toJson, listed]⟩
  · rintro ⟨i, rfl⟩
    exact ⟨i.attributes.entries, i.id.text, i.principal, i.roles.toList, i.attributes.sorted,
      i.id.written_text, i.roles.toList_sorted, rfl⟩

namespace IdentityRecord

/-- The written form of a record. -/
def Written (v : Json) : Prop :=
  ∃ (mechanism : Option String) (identity : Json),
    (∀ label, mechanism = some label → Text.isBlank label = false) ∧ Identity.Written identity ∧
      v = .obj [
        ("auth_type", .textOrNull mechanism),
        ("identity", identity),
        ("version", .int 1)]

theorem written_iff {v : Json} : Written v ↔ ∃ r : IdentityRecord, r.encode = v := by
  constructor
  · rintro ⟨mechanism, identity, labelled, written, rfl⟩
    obtain ⟨i, rfl⟩ := Identity.written_iff.mp written
    cases mechanism with
    | none => exact ⟨⟨i, none⟩, rfl⟩
    | some label => exact ⟨⟨i, some ⟨label, labelled label rfl⟩⟩, rfl⟩
  · rintro ⟨r, rfl⟩
    have labelled : ∀ label, r.authType.map AuthType.text = some label →
        Text.isBlank label = false := by
      intro label known
      obtain ⟨a, -, rfl⟩ := Option.map_eq_some_iff.mp known
      exact a.notBlank
    exact ⟨_, _, labelled, Identity.written_iff.mpr ⟨r.identity, rfl⟩, rfl⟩

theorem encode_injective : Function.Injective encode := by
  intro r s same
  have read := decode_encode r
  rw [same, decode_encode] at read
  exact (Except.ok.inj read).symm

/-- Every record is read back from its document, no two records have one document, and documents of
records are those in written form. Whatever document is read as a record, encoding that gives one
that is read the same and encoded as itself, and differs from the first unless that was in written
form. -/
theorem encode_canonical :
    (∀ r, decode r.encode = .ok r) ∧ Function.Injective encode ∧
      (∀ v, Written v ↔ ∃ r, encode r = v) ∧
      ∀ v r, decode v = .ok r →
        decode r.encode = .ok r ∧ encode <$> decode r.encode = .ok r.encode ∧
          (Written v ↔ r.encode = v) := by
  refine ⟨decode_encode, encode_injective, fun v => written_iff, fun v r read => ?_⟩
  refine ⟨decode_encode r, by rw [decode_encode]; rfl, fun written => ?_, fun same => ?_⟩
  · obtain ⟨s, rfl⟩ := written_iff.mp written
    rw [decode_encode] at read
    rw [Except.ok.inj read]
  · exact written_iff.mpr ⟨r, same⟩

/-- As arrays, with an identifier in capitals and braces, a role twice and a blank mechanism. -/
example :
    decode (.arr [.int 1,
        .arr [.str "\x7b00000000-0000-0000-0000-00000000000A\x7d", .null,
          .ofStrings ["b", "a", "b"]],
        .str " "]) =
      .ok ⟨⟨⟨10⟩, none, .ofList ["a", "b"], ∅⟩, none⟩ := by
  decide +kernel

end IdentityRecord
end RequestAuth
