import Mathlib.Data.List.Forall2
import Mathlib.Data.List.Nodup
import RequestAuth.Json.Decode

/-! What readers accept. A record can be read from every document that gives values for its fields,
under their names or in their order, and what is read does not depend on the order of an object's
members, as long as the fields do not get in each other's way. -/
namespace RequestAuth

theorem Entries.find?_of_not_mem {key : String} {entries : List (String × β)}
    (absent : key ∉ entries.map Prod.fst) : find? key entries = none := by
  induction entries with
  | nil => rfl
  | cons e rest ih =>
    obtain ⟨other, rest_absent⟩ := not_or.mp (List.mem_cons.not.mp absent)
    rw [find?, if_neg (Ne.symm other), ih rest_absent]

/-- The document gives these values for the names: an object gives what it has under each of them,
an array gives its elements in turn. Of an array there are at least so many and none too many. -/
def Json.Gives (names : List String) (leading : Nat) (v : Json) (given : List (Option Json)) :
    Prop :=
  (∃ members, v = .obj members ∧ given = names.map fun name => Entries.find? name members) ∨
    ∃ values, v = .arr values ∧ leading ≤ values.length ∧ values.length ≤ names.length ∧
      given = values.map some ++ List.replicate (names.length - values.length) none

namespace Json

theorem Gives.length {names : List String} {leading : Nat} {v : Json} {given : List (Option Json)}
    (gives : v.Gives names leading given) : given.length = names.length := by
  rcases gives with ⟨members, -, rfl⟩ | ⟨values, -, -, fit, rfl⟩
  · simp
  · simp [fit]

theorem canonical_arr {elements : List Json} :
    Canonical (.arr elements) ↔ CanonicalElements elements := Iff.rfl

theorem canonical_obj {members : List (String × Json)} :
    Canonical (.obj members) ↔ Entries.Sorted members ∧ CanonicalMembers members := Iff.rfl

theorem canonicalElements_cons {x : Json} {xs : List Json} :
    CanonicalElements (x :: xs) ↔ x.Canonical ∧ CanonicalElements xs := Iff.rfl

theorem canonicalMembers_cons {e : String × Json} {xs : List (String × Json)} :
    CanonicalMembers (e :: xs) ↔ e.2.Canonical ∧ CanonicalMembers xs := Iff.rfl

/-- Text for a place that may be left empty: null or nothing at all stands for no text. -/
def GivesText (value? : Option Json) (t : Option String) : Prop :=
  value? = none ∧ t = none ∨ value? = some (.textOrNull t)

theorem Canonical.nodup_keys {members : List (String × Json)}
    (canonical : Canonical (.obj members)) : (members.map Prod.fst).Nodup := by
  refine List.pairwise_map.mpr ((canonical_obj.mp canonical).1.imp ?_)
  rintro a b below same
  exact String.lt_irrefl _ (same ▸ below)

theorem CanonicalElements.of_mem {x : Json} {elements : List Json}
    (canonical : CanonicalElements elements) (member : x ∈ elements) : x.Canonical := by
  induction elements with
  | nil => simp at member
  | cons first rest ih =>
    rw [canonicalElements_cons] at canonical
    rcases List.mem_cons.mp member with rfl | member
    · exact canonical.1
    · exact ih canonical.2 member

theorem CanonicalMembers.of_find? {key : String} {x : Json} {members : List (String × Json)}
    (canonical : CanonicalMembers members) (found : Entries.find? key members = some x) :
    x.Canonical := by
  induction members with
  | nil => simp [Entries.find?] at found
  | cons first rest ih =>
    rw [canonicalMembers_cons] at canonical
    rw [Entries.find?] at found
    split at found
    · exact Option.some.inj found ▸ canonical.1
    · exact ih canonical.2 found

/-- What a parsed document gives was parsed with it. -/
theorem Canonical.of_gives {names : List String} {leading : Nat} {v w : Json}
    {given : List (Option Json)} (canonical : v.Canonical) (gives : v.Gives names leading given)
    (member : some w ∈ given) : w.Canonical := by
  rcases gives with ⟨members, rfl, rfl⟩ | ⟨values, rfl, -, -, rfl⟩
  · obtain ⟨name, -, found⟩ := List.mem_map.mp member
    exact (canonical_obj.mp canonical).2.of_find? found
  · simp only [List.mem_append, List.mem_map, Option.some.injEq, exists_eq_right,
      List.mem_replicate, reduceCtorEq, and_false, or_false] at member
    exact (canonical_arr.mp canonical).of_mem member

end Json

namespace Decode

theorem bind_eq_ok_iff {x : Result α} {next : α → Result β} {b : β} :
    (x >>= next) = .ok b ↔ ∃ a, x = .ok a ∧ next a = .ok b := by
  cases x with
  | error e => simp [bind, Except.bind]
  | ok a => simp [bind, Except.bind]

theorem map_eq_ok_iff {x : Result α} {f : α → β} {b : β} :
    f <$> x = .ok b ↔ ∃ a, x = .ok a ∧ f a = b := by
  cases x with
  | error e => simp [Functor.map, Except.map]
  | ok a => simp [Functor.map, Except.map]

/-- What has been read is turned into something else and put in its place. -/
theorem bind_put (x : Result α) (f : α → β) (put : β → γ) :
    (do return put (f (← x))) = put <$> (f <$> x) := by
  cases x <;> rfl

theorem text_eq_ok_iff {v : Json} {s : String} : text v = .ok s ↔ v = .str s := by
  cases v <;> simp [text, mismatch]

theorem unsigned32_eq_ok_iff {v : Json} {n : Nat} :
    unsigned32 v = .ok n ↔ v = .int n ∧ n < 1 <<< 32 := by
  cases v with
  | int i =>
    simp only [unsigned32, Json.int.injEq]
    split
    · simp only [Except.ok.injEq]
      omega
    · simp only [reduceCtorEq, false_iff]
      omega
  | _ => simp [unsigned32, mismatch]

theorem optional_eq_ok_iff {read : Json → Result α} {v : Json} {found : Option α} :
    optional read v = .ok found ↔
      v = .null ∧ none = found ∨ v ≠ .null ∧ ∃ a, read v = .ok a ∧ some a = found := by
  cases v with
  | null => simp [optional]
  | _ => simp [optional, map_eq_ok_iff]

theorem optional_text_eq_ok_iff {v : Json} {t : Option String} :
    optional text v = .ok t ↔ v = .textOrNull t := by
  rw [optional_eq_ok_iff]
  cases t with
  | none => simp [Json.textOrNull]
  | some s =>
    simp only [reduceCtorEq, and_false, false_or, Option.some.injEq, exists_eq_right,
      text_eq_ok_iff, Json.textOrNull]
    exact ⟨And.right, fun spelled => ⟨by simp [spelled], spelled⟩⟩

/-- A list is read when each of its elements is. -/
theorem elements_eq_ok_iff {read : Json → Result α} {xs : List Json} {found : List α} :
    elements read xs = .ok found ↔ List.Forall₂ (fun x a => read x = .ok a) xs found := by
  induction xs generalizing found with
  | nil => simp [elements, List.forall₂_nil_left_iff, eq_comm]
  | cons x xs ih =>
    simp only [elements, bind_eq_ok_iff, ih, pure, Except.pure, Except.ok.injEq,
      List.forall₂_cons_left_iff]
    constructor
    · rintro ⟨a, reads, rest, others, rfl⟩
      exact ⟨a, rest, reads, others, rfl⟩
    · rintro ⟨a, rest, reads, others, rfl⟩
      exact ⟨a, reads, rest, others, rfl⟩

theorem members_eq_ok_iff {read : Json → Result α} {xs : List (String × Json)}
    {entries : List (String × α)} :
    members read xs = .ok entries ↔
      List.Forall₂ (fun x e => x.1 = e.1 ∧ read x.2 = .ok e.2) xs entries := by
  induction xs generalizing entries with
  | nil => simp [members, List.forall₂_nil_left_iff, eq_comm]
  | cons x xs ih =>
    obtain ⟨key, v⟩ := x
    simp only [members, bind_eq_ok_iff, ih, pure, Except.pure, Except.ok.injEq,
      List.forall₂_cons_left_iff]
    constructor
    · rintro ⟨a, reads, rest, others, rfl⟩
      exact ⟨(key, a), rest, ⟨rfl, reads⟩, others, rfl⟩
    · rintro ⟨⟨_, a⟩, rest, ⟨rfl, reads⟩, others, rfl⟩
      exact ⟨a, reads, rest, others, rfl⟩

theorem sequence_text_eq_ok_iff {v : Json} {texts : List String} :
    sequence text v = .ok texts ↔ v = .ofStrings texts := by
  cases v with
  | arr xs =>
    simp only [sequence, elements_eq_ok_iff, text_eq_ok_iff, Json.ofStrings, Json.arr.injEq]
    rw [← List.forall₂_eq_eq_eq, List.forall₂_map_right_iff]
  | _ => simp [sequence, Json.ofStrings, mismatch]

theorem members_texts_eq_ok_iff {xs : List (String × Json)}
    {entries : List (String × List String)} :
    members (sequence text) xs = .ok entries ↔
      xs = entries.map fun e => (e.1, .ofStrings e.2) := by
  rw [members_eq_ok_iff, ← List.forall₂_eq_eq_eq, List.forall₂_map_right_iff]
  simp only [sequence_text_eq_ok_iff, Prod.ext_iff]

theorem map_texts_eq_ok_iff {v : Json} {m : TextMap (List String)} :
    map (sequence text) v = .ok m ↔ ∃ entries : List (String × List String),
      v = .obj (entries.map fun e => (e.1, .ofStrings e.2)) ∧ TextMap.ofList entries = m := by
  cases v with
  | obj xs => simp [map, map_eq_ok_iff, members_texts_eq_ok_iff]
  | _ => simp [map, mismatch]

/-- Whichever of the fields is read first, they come to the same. -/
def Field.Commutes (f g : Field α) : Prop :=
  ∀ v w record next, (f.read v record >>= g.read w) = .ok next ↔
    (g.read w record >>= f.read v) = .ok next

/-- The field reads one place of the record. -/
structure Field.Fills (field : Field α) (parse : Json → Result β) (get : α → β)
    (put : β → α → α) : Prop where
  reads : ∀ value record, field.read value record = (put · record) <$> parse value
  kept : ∀ record, put (get record) record = record

/-- Fields of different places do not get in each other's way. -/
theorem Field.Fills.commutes {f g : Field α} {parse : Json → Result β} {get : α → β}
    {put : β → α → α} {parse' : Json → Result γ} {get' : α → γ} {put' : γ → α → α}
    (fills : f.Fills parse get put) (fills' : g.Fills parse' get' put')
    (apart : ∀ b c record, put' c (put b record) = put b (put' c record)) : f.Commutes g := by
  intro v w record next
  simp only [bind_eq_ok_iff, fills.reads, fills'.reads, map_eq_ok_iff]
  constructor
  · rintro ⟨_, ⟨b, found, rfl⟩, c, found', rfl⟩
    exact ⟨_, ⟨c, found', rfl⟩, b, found, (apart b c record).symm⟩
  · rintro ⟨_, ⟨c, found', rfl⟩, b, found, rfl⟩
    exact ⟨_, ⟨b, found, rfl⟩, c, found', apart b c record⟩

/-- The field with what there is for it. -/
def Field.readGiven (field : Field α) (value? : Option Json) (record : α) : Result α :=
  match value? with
  | some value => field.read value record
  | none => .ok record

/-- The place is left as it is, or what is given can be read and is put there. -/
theorem Field.Fills.readGiven_eq_ok_iff {field : Field α} {parse : Json → Result β} {get : α → β}
    {put : β → α → α} (fills : field.Fills parse get put) {value? : Option Json}
    {record next : α} :
    field.readGiven value? record = .ok next ↔
      ∃ b, (value? = none ∧ b = get record ∨ ∃ value, value? = some value ∧ parse value = .ok b) ∧
        put b record = next := by
  cases value? with
  | none => simp [readGiven, fills.kept]
  | some value => simp [readGiven, fills.reads, map_eq_ok_iff]

/-- The fields in turn with what there is for each of them. -/
def readGiven : List (Field α) → List (Option Json) → α → Result α
  | field :: fields, value? :: given, record => do
    readGiven fields given (← field.readGiven value? record)
  | _, _, record => .ok record

theorem readGiven_none (fields : List (Field α)) (record : α) :
    readGiven fields (List.replicate fields.length none) record = .ok record := by
  induction fields with
  | nil => rfl
  | cons field fields ih => exact ih

theorem readGiven_cons {field : Field α} {fields : List (Field α)} {value? : Option Json}
    {given : List (Option Json)} {record last : α} :
    readGiven (field :: fields) (value? :: given) record = .ok last ↔
      ∃ next, field.readGiven value? record = .ok next ∧ readGiven fields given next = .ok last :=
  bind_eq_ok_iff

theorem Field.Commutes.given {f g : Field α} (commutes : f.Commutes g) (value? : Option Json)
    (value : Json) (record last : α) :
    (∃ mid, f.readGiven value? record = .ok mid ∧ g.read value mid = .ok last) ↔
      ∃ mid, g.read value record = .ok mid ∧ f.readGiven value? mid = .ok last := by
  cases value? with
  | none => simp [readGiven]
  | some other =>
    have turns := commutes other value record last
    rw [bind_eq_ok_iff, bind_eq_ok_iff] at turns
    exact turns

/-- A member may be read before all the others. -/
theorem readGiven_member {fields : List (Field α)} {field : Field α} (member : field ∈ fields)
    (distinct : (fields.map Field.name).Nodup) (commute : fields.Pairwise Field.Commutes)
    {value : Json} {rest : List (String × Json)} (absent : Entries.find? field.name rest = none)
    {record last : α} :
    readGiven fields (fields.map fun g => Entries.find? g.name ((field.name, value) :: rest))
        record = .ok last ↔
      ∃ next, field.read value record = .ok next ∧
        readGiven fields (fields.map fun g => Entries.find? g.name rest) next = .ok last := by
  induction fields generalizing record with
  | nil => simp at member
  | cons first fields ih =>
    obtain ⟨apart, distinct⟩ := List.nodup_cons.mp distinct
    obtain ⟨across, commute⟩ := List.pairwise_cons.mp commute
    simp only [List.map_cons, readGiven_cons]
    rcases List.mem_cons.mp member with rfl | member
    · have others : (fields.map fun g => Entries.find? g.name ((field.name, value) :: rest)) =
          fields.map fun g => Entries.find? g.name rest := by
        refine List.map_congr_left fun g mem => if_neg fun same => apart ?_
        exact same ▸ List.mem_map_of_mem mem
      have here : Entries.find? field.name ((field.name, value) :: rest) = some value := if_pos rfl
      simp [others, here, absent, Field.readGiven]
    · have other : field.name ≠ first.name := fun same =>
        apart (same ▸ List.mem_map_of_mem member)
      have passed : Entries.find? first.name ((field.name, value) :: rest) =
          Entries.find? first.name rest := if_neg other
      have turns := (across field member).given (Entries.find? first.name rest) value record
      simp only [passed, ih member distinct commute]
      constructor
      · rintro ⟨mid, read, next, reads, reached⟩
        obtain ⟨mid', reads', read'⟩ := (turns next).mp ⟨mid, read, reads⟩
        exact ⟨mid', reads', next, read', reached⟩
      · rintro ⟨mid, reads, next, read, reached⟩
        obtain ⟨mid', read', reads'⟩ := (turns next).mpr ⟨mid, reads, read⟩
        exact ⟨mid', read', next, reads', reached⟩

namespace RecordShape

variable {shape : RecordShape α}

theorem find?_field {fields : List (Field α)} (distinct : (fields.map Field.name).Nodup)
    {field : Field α} (member : field ∈ fields) :
    fields.find? (·.name = field.name) = some field := by
  induction fields with
  | nil => simp at member
  | cons first fields ih =>
    obtain ⟨apart, distinct⟩ := List.nodup_cons.mp distinct
    rcases List.mem_cons.mp member with rfl | member
    · simp
    · have other : first.name ≠ field.name := by
        intro same
        exact apart (same ▸ List.mem_map_of_mem member)
      simp [other, ih distinct member]

/-- A member of a document is read by the field of its name. -/
theorem readMembers_cons (distinct : shape.fieldNames.Nodup) (field : Field α)
    (member : field ∈ shape.fields) {value : Json} {rest : List (String × Json)} {record next : α}
    (reads : field.read value record = .ok next) :
    shape.readMembers ((field.name, value) :: rest) record = shape.readMembers rest next := by
  simp only [readMembers, readMember, find?_field distinct member, reads]
  rfl

/-- Members are passed over or read in any order; a closed record has none to pass over. -/
theorem readMembers_eq_ok_iff (distinct : shape.fieldNames.Nodup)
    (commute : shape.fields.Pairwise Field.Commutes) {members : List (String × Json)}
    (unique : (members.map Prod.fst).Nodup) {record last : α} :
    shape.readMembers members record = .ok last ↔
      (shape.closed = true → ∀ e ∈ members, e.1 ∈ shape.fieldNames) ∧
        readGiven shape.fields (shape.fields.map fun g => Entries.find? g.name members) record =
          .ok last := by
  induction members generalizing record with
  | nil =>
    simp [readMembers, Entries.find?, readGiven_none]
  | cons e rest ih =>
    obtain ⟨key, value⟩ := e
    obtain ⟨once, unique⟩ := List.nodup_cons.mp unique
    simp only [readMembers, bind_eq_ok_iff, ih unique, List.forall_mem_cons]
    cases known : shape.fields.find? (·.name = key) with
    | some field =>
      have member : field ∈ shape.fields := List.mem_of_find?_eq_some known
      obtain rfl : field.name = key := by simpa using List.find?_some known
      have named : field.name ∈ shape.fieldNames := List.mem_map_of_mem member
      have absent : Entries.find? field.name rest = none := Entries.find?_of_not_mem once
      simp only [readMember, known, named, true_and,
        readGiven_member member distinct commute absent]
      constructor
      · rintro ⟨next, reads, passes, reached⟩
        exact ⟨passes, next, reads, reached⟩
      · rintro ⟨passes, next, reads, reached⟩
        exact ⟨next, reads, passes, reached⟩
    | none =>
      have strange : key ∉ shape.fieldNames := by
        intro named
        obtain ⟨field, member, rfl⟩ := List.mem_map.mp named
        simp [find?_field distinct member] at known
      have passed : (shape.fields.map fun g => Entries.find? g.name ((key, value) :: rest)) =
          shape.fields.map fun g => Entries.find? g.name rest := by
        refine List.map_congr_left fun g mem => if_neg fun same => strange ?_
        exact same ▸ List.mem_map_of_mem mem
      simp only [readMember, known, passed, strange, false_and]
      cases shape.closed <;> simp

/-- The elements are given to the fields in turn. -/
theorem readElements_eq {fields : List (Field α)} {values : List Json} {record : α}
    (fit : values.length ≤ fields.length) :
    readElements fields values record = readGiven fields
      (values.map some ++ List.replicate (fields.length - values.length) none) record := by
  induction values generalizing fields record with
  | nil =>
    simp [readElements, readGiven_none]
  | cons value values ih =>
    cases fields with
    | nil => simp at fit
    | cons field fields =>
      have rest : values.length ≤ fields.length := Nat.le_of_succ_le_succ fit
      simp only [readElements, ih rest, List.length_cons, Nat.add_sub_add_right, List.map_cons,
        List.cons_append]
      rfl

/-- What a record is read from: a document that gives values for its fields, whatever else an
object has, unless the record is closed. -/
theorem read_eq_ok_iff (distinct : shape.fieldNames.Nodup)
    (commute : shape.fields.Pairwise Field.Commutes) {v : Json} (canonical : v.Canonical)
    {start last : α} :
    shape.read start v = .ok last ↔
      (shape.closed = true → ∀ members, v = .obj members → ∀ e ∈ members,
        e.1 ∈ shape.fieldNames) ∧
      ∃ given, v.Gives shape.fieldNames shape.leading given ∧
        readGiven shape.fields given start = .ok last := by
  cases v with
  | obj members =>
    have looked : (shape.fieldNames.map fun name => Entries.find? name members) =
        shape.fields.map fun g => Entries.find? g.name members := by
      simp [fieldNames]
    simp [read, readMembers_eq_ok_iff distinct commute canonical.nodup_keys, Json.Gives, looked]
  | arr values =>
    have counted : shape.fieldNames.length = shape.fields.length := by simp [fieldNames]
    simp only [read, bind_eq_ok_iff, Json.Gives, counted, reduceCtorEq, false_and, exists_false,
      false_or, IsEmpty.forall_iff, implies_true, true_and, Json.arr.injEq]
    constructor
    · rintro ⟨record, reads, checked⟩
      split at checked
      · simp at checked
      · next enough =>
        split at checked
        · simp at checked
        · next fit =>
          obtain rfl := Except.ok.inj checked
          have fit : values.length ≤ shape.fields.length := by omega
          exact ⟨_, ⟨values, rfl, by omega, fit, rfl⟩, readElements_eq fit ▸ reads⟩
    · rintro ⟨_, ⟨_, rfl, enough, fit, rfl⟩, reads⟩
      refine ⟨last, (readElements_eq fit).trans reads, ?_⟩
      rw [if_neg (by omega), if_neg (by omega)]
  | _ => simp [read, mismatch, Json.Gives]

end RecordShape

end Decode
end RequestAuth
