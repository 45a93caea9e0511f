import RequestAuth.Proofs.Identity.Reading
import RequestAuth.Proofs.Session.Footprint
import RequestAuth.Proofs.Session.RoundTrip

/-! What is accepted as a cached identity. A value in the reserved attribute is recalled when it
gives the version, an identity and maybe a mechanism; any other value is removed, so that looking
again finds what was found. -/
namespace RequestAuth

open Decode

def Identity.grammar : Grammar Identity where
  parse := decode
  Spells := Spelled
  parse_eq_ok_iff _ _ canonical := decode_eq_ok_iff canonical

/-- A version is written as an integer. -/
def versionGrammar : Grammar Nat where
  parse := unsigned32
  Spells n v := v = .int n ∧ n < 1 <<< 32
  parse_eq_ok_iff _ _ _ := unsigned32_eq_ok_iff

namespace RecordDraft

def places : List (Place RecordDraft) := [
  { name := "version", grammar := .present versionGrammar, get := version,
    put := fun version record => { record with version } },
  { name := "identity", grammar := .optional Identity.grammar, get := identity,
    put := fun identity record => { record with identity } },
  { name := "auth_type", grammar := .optionalText, get := authType,
    put := fun authType record => { record with authType } }]

theorem layout : Layout shape places where
  fields := by
    have version : readVersion = fun v record =>
        ({ record with version := · }) <$> some <$> unsigned32 v := by
      funext v record
      exact bind_put (unsigned32 v) some fun version => ({ record with version } : RecordDraft)
    rw [shape, version]
    rfl
  distinct := distinct_fields
  apart := by simp [places, Place.Apart]
  whole := by
    rintro ⟨⟩ ⟨⟩ same
    simpa [places] using same

end RecordDraft

namespace IdentityRecord

/-- The document gives the record. The version is the integer 1; an array stops no earlier than
with the identity. A blank mechanism stands for none. -/
def Spelled (r : IdentityRecord) (v : Json) : Prop :=
  ∃ identity mechanism label,
    v.Gives ["version", "identity", "auth_type"] 2 [some (.int 1), some identity, mechanism] ∧
    r.identity.Spelled identity ∧
    Json.GivesText mechanism label ∧
    r.authType.map AuthType.text = label.filter fun s => !Text.isBlank s

theorem decode_eq_ok_iff_read {v : Json} {r : IdentityRecord} :
    decode v = .ok r ↔ ∃ label,
      RecordDraft.shape.read {} v = .ok ⟨some 1, some r.identity, label⟩ ∧
        label.bind AuthType.ofText? = r.authType := by
  simp only [decode, RecordDraft.decode]
  cases read : RecordDraft.shape.read {} v with
  | error e => simp [bind, Except.bind]
  | ok draft =>
    obtain ⟨version, identity, label⟩ := draft
    cases version with
    | none => simp [required, bind, Except.bind]
    | some n =>
      simp only [required, bind, Except.bind, pure, Except.pure, Except.ok.injEq,
        RecordDraft.mk.injEq, Option.some.injEq]
      by_cases current : n = 1
      · cases identity with
        | none => simp [current, WellKnown.recordVersion]
        | some i =>
          obtain ⟨j, mechanism⟩ := r
          simp [current, WellKnown.recordVersion]
      · simp [current, WellKnown.recordVersion]

/-- A label that is blank is none. -/
theorem bind_ofText?_eq_iff {label : Option String} {mechanism : Option AuthType} :
    label.bind AuthType.ofText? = mechanism ↔
      mechanism.map AuthType.text = label.filter fun s => !Text.isBlank s := by
  have injective : Function.Injective AuthType.text := fun _ _ => AuthType.text_inj.mp
  rw [← AuthType.map_text_bind_ofText?, (Option.map_injective injective).eq_iff]
  exact eq_comm

/-- A record is read from the documents that give it. -/
theorem decode_eq_ok_iff {v : Json} {r : IdentityRecord} (canonical : v.Canonical) :
    decode v = .ok r ↔ r.Spelled v := by
  simp only [decode_eq_ok_iff_read, RecordDraft.layout.read_open_iff rfl canonical,
    bind_ofText?_eq_iff]
  constructor
  · rintro ⟨label, ⟨_, gives, _ | ⟨version, _ | ⟨identity, _ | ⟨mechanism, ⟨⟩⟩⟩⟩⟩, named⟩
    obtain ⟨_, rfl, _, same, rfl, -⟩ := version.resolve_left (by simp)
    obtain rfl := Option.some.inj same
    obtain ⟨_, rfl, nothing | given⟩ := identity.resolve_left (by simp)
    · simp at nothing
    obtain ⟨-, _, spelled, same⟩ := given
    obtain rfl := Option.some.inj same
    exact ⟨_, _, label, gives, spelled, Json.givesOr_textOrNull_iff.mp mechanism, named⟩
  · rintro ⟨identity, _, label, gives, spelled, mechanism, named⟩
    have notNull : identity ≠ .null := by
      rintro rfl
      simp [Identity.Spelled, Json.Gives] at spelled
    exact ⟨label, ⟨_, gives, .cons (.inr ⟨_, rfl, 1, rfl, rfl, by decide⟩) <|
      .cons (.inr ⟨_, rfl, .inr ⟨notNull, _, spelled, rfl⟩⟩) <|
      .cons (Json.givesOr_textOrNull_iff.mpr mechanism) .nil⟩, named⟩

end IdentityRecord

/-- Nothing but the journal differs. -/
def Host.Untouched (h next : Host) : Prop := ∃ added, next = h.having added

/-- The session has nothing in the reserved attribute any more. All its other attributes are as they
were, and so is every other session. -/
structure Host.Cleared (h : Host) (id : String) (next : Host) : Prop where
  gone : next.store.attribute? id WellKnown.identityRecordKey = none
  spared : SessionStore.Spares (some id) h.store.sessions next.store.sessions
  untouched : h.Untouched { next with store := h.store }

/-- What is recalled from a session, for whatever value stands in the reserved attribute. A value
that gives a record is recalled and stays. Any other value is removed and counts as none; if it
cannot be removed, the answer is why not. Recalling again comes to the same and does no more. -/
theorem Host.recallFrom_accepts (h : Host) (id : String) (v : Json)
    (stored : h.store.attribute? id WellKnown.identityRecordKey = some v)
    (canonical : v.Canonical) :
    (∀ e, h.exchange.outage.attributeRead = some e →
      (recallFrom id h).1 = .error e ∧ h.Untouched (recallFrom id h).2) ∧
    (h.exchange.outage.attributeRead = none →
      (∀ r, (recallFrom id h).1 = .ok (some r) ↔ r.Spelled v) ∧
      ((∃ r, IdentityRecord.Spelled r v) → h.Untouched (recallFrom id h).2) ∧
      ((∀ r, ¬ IdentityRecord.Spelled r v) →
        (∀ e, h.exchange.outage.attributeRemoval = some e →
          (recallFrom id h).1 = .error e ∧ h.Untouched (recallFrom id h).2) ∧
        (h.exchange.outage.attributeRemoval = none →
          (recallFrom id h).1 = .ok none ∧ h.Cleared id (recallFrom id h).2)) ∧
      ∀ found, (recallFrom id h).1 = .ok found →
        (recallFrom id (recallFrom id h).2).1 = .ok found ∧
        (recallFrom id h).2.Untouched (recallFrom id (recallFrom id h).2).2) := by
  refine ⟨fun e fails => ?_, fun reads => ?_⟩
  · rw [recallFrom_readFails fails]
    exact ⟨rfl, _, rfl⟩
  have spells (r : IdentityRecord) : IdentityRecord.decode v = .ok r ↔ r.Spelled v :=
    IdentityRecord.decode_eq_ok_iff canonical
  cases decoded : IdentityRecord.decode v with
  | ok r =>
    have run := recallFrom_restored reads stored decoded
    have again := recallFrom_restored (h := (recallFrom id h).2) (by rw [run]; exact reads)
      (by rw [run]; exact stored) decoded
    refine ⟨fun other => ?_, fun _ => ⟨_, by rw [run]⟩, fun strange => ?_, fun found known => ?_⟩
    · rw [run, ← spells other, decoded]
      simp
    · exact absurd ((spells r).mp decoded) (strange r)
    · rw [again, ← known, run]
      exact ⟨rfl, _, rfl⟩
  | error cause =>
    have strange (r : IdentityRecord) : ¬ r.Spelled v := by
      rw [← spells r, decoded]
      simp
    cases removal : h.exchange.outage.attributeRemoval with
    | some e =>
      have run := recallFrom_removalFails reads stored decoded removal
      rw [run]
      refine ⟨fun r => by simp [strange r], fun ⟨r, spelled⟩ => absurd spelled (strange r), fun _ => ?_,
        by simp⟩
      refine ⟨fun e' same => ?_, by simp⟩
      obtain rfl := Option.some.inj same
      exact ⟨rfl, _, rfl⟩
    | none =>
      have run := recallFrom_removed reads stored decoded removal
      have gone : (recallFrom id h).2.store.attribute? id WellKnown.identityRecordKey = none := by
        rw [run]
        simp [SessionStore.attribute?_removeAttribute]
      have again := recallFrom_noRecord (by rw [run]; exact reads) gone
      refine ⟨fun r => by simp [run, strange r], fun ⟨r, spelled⟩ => absurd spelled (strange r),
        fun _ => ⟨by simp, fun _ => ⟨by rw [run], gone, ?_, _, by rw [run]; rfl⟩⟩,
        fun found known => ?_⟩
      · rw [run]
        exact h.store.spares_removeAttribute id
      · rw [again, ← known, run]
        exact ⟨rfl, _, rfl⟩

/-- A host with one session and this value in its reserved attribute. -/
def Host.holding (v : Json) : Host where
  store := ⟨[{ id := "s", attributes := (∅ : TextMap Json).insert WellKnown.identityRecordKey v }]⟩
  exchange := {}
  context := {}
  journal := ⟨⟨fun _ => default, 0⟩, []⟩

theorem Host.holding_attribute? (v : Json) :
    (holding v).store.attribute? "s" WellKnown.identityRecordKey = some v := by
  simp [holding, SessionStore.attribute?, SessionStore.held?]

/-- As arrays, with an identifier in capitals and braces, a role twice and a blank mechanism; and
the same with a version that is written with a fraction. -/
theorem Host.recallFrom_accepts_arrays :
    let identity := Json.arr [.str "\x7b00000000-0000-0000-0000-00000000000A\x7d", .null,
      .ofStrings ["b", "a", "b"]]
    let current := Json.arr [.int 1, identity, .str " "]
    let fractional := Json.arr [.float (.ofDecimal false 10 (-1)), identity, .str " "]
    (recallFrom "s" (holding current)).1 =
        .ok (some ⟨⟨⟨10⟩, none, .ofList ["a", "b"], ∅⟩, none⟩) ∧
      (recallFrom "s" (holding fractional)).1 = .ok none ∧
      (holding fractional).Cleared "s" (recallFrom "s" (holding fractional)).2 := by
  intro identity current fractional
  have parsed : identity.Canonical :=
    ⟨trivial, trivial, ⟨trivial, trivial, trivial, trivial⟩, trivial⟩
  have canonical : current.Canonical ∧ fractional.Canonical :=
    ⟨⟨⟨by decide, by decide⟩, parsed, trivial, trivial⟩, ⟨trivial, parsed, trivial, trivial⟩⟩
  have spelled : IdentityRecord.Spelled ⟨⟨⟨10⟩, none, .ofList ["a", "b"], ∅⟩, none⟩ current := by
    refine ⟨identity, some (.str " "), some " ", .inr ⟨_, rfl, by decide, by decide, rfl⟩, ?_,
      .inr rfl, by decide⟩
    refine ⟨_, some .null, some (.ofStrings ["b", "a", "b"]), none,
      .inr ⟨_, rfl, by decide, by decide, rfl⟩, Uuid.parse?_eq_some_iff.mp (by decide +kernel),
      .inr rfl, .inr ⟨_, rfl, fun role => ?_⟩, .inl ⟨rfl, rfl⟩⟩
    simp only [TextSet.ofList, TextSet.mem_insertAll, TextSet.not_mem_empty, or_false,
      List.mem_cons, List.not_mem_nil]
    grind
  have strange (r : IdentityRecord) : ¬ r.Spelled fractional := by
    rintro ⟨_, _, _, ⟨_, object, -⟩ | ⟨values, array, -, -, given⟩, -⟩
    · simp [fractional] at object
    · obtain rfl := Json.arr.inj array
      simp at given
  refine ⟨?_, ?_⟩
  · exact (((recallFrom_accepts _ "s" current (holding_attribute? _) canonical.1).2 rfl).1 _).mpr
      spelled
  · exact (((recallFrom_accepts _ "s" fractional (holding_attribute? _) canonical.2).2 rfl).2.2.1
      strange).2 rfl

end RequestAuth
