import RequestAuth.Proofs.Json.Reading

/-! Records place by place. A record whose fields have places of their own is read from the documents
that give each place what it may hold; a place that is given nothing keeps its default. -/
namespace RequestAuth

/-- The document gives these values for the names, and an object has no other members. -/
def Json.GivesOnly (names : List String) (leading : Nat) (v : Json) (given : List (Option Json)) :
    Prop :=
  v.Gives names leading given ∧ ∀ members, v = .obj members → ∀ e ∈ members, e.1 ∈ names

/-- What is given spells the content; where nothing is given, that is the default. -/
def Json.GivesOr {β : Type} (Spells : β → Json → Prop) (default : β) (value? : Option Json)
    (content : β) : Prop :=
  value? = none ∧ content = default ∨ ∃ value, value? = some value ∧ Spells content value

theorem Json.givesOr_textOrNull_iff {value? : Option Json} {t : Option String} :
    GivesOr (textOrNull · = ·) none value? t ↔ GivesText value? t := by
  simp [GivesOr, GivesText]

/-- An array that spells each of the contents in turn. -/
def Json.SpellsEach {β : Type} (Spells : β → Json → Prop) (contents : List β) (v : Json) : Prop :=
  ∃ xs, v = .arr xs ∧ List.Forall₂ (fun x content => Spells content x) xs contents

namespace Decode

theorem boolean_eq_ok_iff {v : Json} {b : Bool} : boolean v = .ok b ↔ .bool b = v := by
  cases v <;> simp [boolean, mismatch, eq_comm]

theorem sequence_eq_ok_iff {read : Json → Result α} {v : Json} {found : List α} :
    sequence read v = .ok found ↔
      ∃ xs, v = .arr xs ∧ List.Forall₂ (fun x a => read x = .ok a) xs found := by
  cases v <;> simp [sequence, mismatch, elements_eq_ok_iff]

/-- A variant is spelled by any of its names, alone or as the key of null. -/
theorem variant_eq_ok_iff {named : List (String × α)} {v : Json} {a : α} :
    variant named v = .ok a ↔
      ∃ name, Entries.find? name named = some a ∧ (v = .str name ∨ v = .obj [(name, .null)]) := by
  have picked (name : String) :
      variant.pick named name = .ok a ↔ Entries.find? name named = some a := by
    simp only [variant.pick]
    cases Entries.find? name named <;> simp
  cases v with
  | str name => simp [variant, picked]
  | obj members =>
    match members with
    | [] => simp [variant]
    | [(name, content)] =>
      cases content <;> simp [variant, bind_eq_ok_iff, picked, mismatch]
    | _ :: _ :: _ => simp [variant]
  | _ => simp [variant, mismatch]

/-- A reader, and the documents that spell what it reads. -/
structure Grammar (β : Type) where
  parse : Json → Result β
  Spells : β → Json → Prop
  parse_eq_ok_iff : ∀ v content, v.Canonical → (parse v = .ok content ↔ Spells content v)

namespace Grammar

def boolean : Grammar Bool where
  parse := Decode.boolean
  Spells b v := .bool b = v
  parse_eq_ok_iff _ _ _ := boolean_eq_ok_iff

def text : Grammar String where
  parse := Decode.text
  Spells s v := .str s = v
  parse_eq_ok_iff _ _ _ := text_eq_ok_iff.trans eq_comm

/-- Null is no text. -/
def optionalText : Grammar (Option String) where
  parse := optional Decode.text
  Spells t v := .textOrNull t = v
  parse_eq_ok_iff _ _ _ := optional_text_eq_ok_iff.trans eq_comm

def texts : Grammar (List String) where
  parse := sequence Decode.text
  Spells ts v := .ofStrings ts = v
  parse_eq_ok_iff _ _ _ := sequence_text_eq_ok_iff.trans eq_comm

/-- An array, element by element. -/
def list {β : Type} (g : Grammar β) : Grammar (List β) where
  parse := sequence g.parse
  Spells := Json.SpellsEach g.Spells
  parse_eq_ok_iff v contents canonical := by
    rw [sequence_eq_ok_iff]
    refine exists_congr fun xs => and_congr_right fun array => ?_
    have parsed : ∀ x ∈ xs, x.Canonical := fun x member => (array ▸ canonical).of_mem member
    constructor
    · intro reads
      exact (List.forall₂_and_left _ _ |>.mpr ⟨parsed, reads⟩).imp fun x c read =>
        (g.parse_eq_ok_iff x c read.1).mp read.2
    · intro spells
      exact (List.forall₂_and_left _ _ |>.mpr ⟨parsed, spells⟩).imp fun x c spelled =>
        (g.parse_eq_ok_iff x c spelled.1).mpr spelled.2

/-- Null is no content. -/
def optional {β : Type} (g : Grammar β) : Grammar (Option β) where
  parse := Decode.optional g.parse
  Spells content? v := v = .null ∧ none = content? ∨
    v ≠ .null ∧ ∃ content, g.Spells content v ∧ some content = content?
  parse_eq_ok_iff v content? canonical := by
    simp only [optional_eq_ok_iff, g.parse_eq_ok_iff v _ canonical]

/-- Content that has to be there. -/
def present {β : Type} (g : Grammar β) : Grammar (Option β) where
  parse v := some <$> g.parse v
  Spells content? v := ∃ content, content? = some content ∧ g.Spells content v
  parse_eq_ok_iff v content? canonical := by
    simp only [map_eq_ok_iff, g.parse_eq_ok_iff v _ canonical]
    exact exists_congr fun content => and_comm.trans (and_congr_left' eq_comm)

end Grammar

/-- A place of a record. -/
structure Place (α : Type) where
  name : String
  {Content : Type}
  grammar : Grammar Content
  get : α → Content
  put : Content → α → α
  put_get (record : α) : put (get record) record = record := by intros; rfl
  get_put (content : Content) (record : α) : get (put content record) = content := by intros; rfl

namespace Place

variable {α : Type}

def field (p : Place α) : Field α := ⟨p.name, fun v record => (p.put · record) <$> p.grammar.parse v⟩

theorem fills (p : Place α) : p.field.Fills p.grammar.parse p.get p.put :=
  ⟨fun _ _ => rfl, p.put_get⟩

/-- What is put in one place and what is put in the other do not get in each other's way. -/
def Apart (p q : Place α) : Prop :=
  ∀ b c record, q.put c (p.put b record) = p.put b (q.put c record)

theorem Apart.symm {p q : Place α} (apart : p.Apart q) : q.Apart p :=
  fun b c record => (apart c b record).symm

theorem Apart.commutes {p q : Place α} (apart : p.Apart q) : p.field.Commutes q.field :=
  p.fills.commutes q.fills apart

theorem Apart.kept {p q : Place α} (apart : p.Apart q) (content : p.Content) (record : α) :
    q.get (p.put content record) = q.get record :=
  calc q.get (p.put content record)
      = q.get (p.put content (q.put (q.get record) record)) := by rw [q.put_get]
    _ = q.get (q.put (q.get record) (p.put content record)) := by rw [apart]
    _ = q.get record := q.get_put ..

/-- The place holds what is given, or what it held at the start. -/
def Holds (start last : α) (p : Place α) (value? : Option Json) : Prop :=
  Json.GivesOr p.grammar.Spells (p.get start) value? (p.get last)

/-- What is given decides what the place holds. -/
theorem Holds.unique {p : Place α} {value? : Option Json}
    (canonical : ∀ value, value? = some value → value.Canonical) {start last other : α}
    (holds : p.Holds start last value?) (holds' : p.Holds start other value?) :
    p.get last = p.get other := by
  rcases holds with ⟨nothing, kept⟩ | ⟨value, known, spelled⟩
  · rcases holds' with ⟨-, kept'⟩ | ⟨value, known, -⟩
    · rw [kept, kept']
    · simp [nothing] at known
  · rcases holds' with ⟨nothing, -⟩ | ⟨value', known', spelled'⟩
    · simp [nothing] at known
    · obtain rfl := Option.some.inj (known.symm.trans known')
      have parsed := canonical value known
      exact Except.ok.inj (((p.grammar.parse_eq_ok_iff value _ parsed).mpr spelled).symm.trans
        ((p.grammar.parse_eq_ok_iff value _ parsed).mpr spelled'))

theorem readGiven_eq_ok_iff (p : Place α) {value? : Option Json}
    (canonical : ∀ value, value? = some value → value.Canonical) {record next : α} :
    p.field.readGiven value? record = .ok next ↔
      ∃ content, Json.GivesOr p.grammar.Spells (p.get record) value? content ∧
        p.put content record = next := by
  rw [p.fills.readGiven_eq_ok_iff]
  refine exists_congr fun content => and_congr_left' (or_congr_right (exists_congr fun value => ?_))
  exact and_congr_right fun known =>
    p.grammar.parse_eq_ok_iff value content (canonical value known)

end Place

section Places

variable {α : Type} {places : List (Place α)} {given : List (Option Json)} {start last : α}

/-- A place apart from all that are read stays as it is. -/
theorem get_of_readGiven {q : Place α} (apart : ∀ p ∈ places, p.Apart q)
    (canonical : ∀ value, some value ∈ given → value.Canonical)
    (reads : readGiven (places.map Place.field) given start = .ok last) :
    q.get last = q.get start := by
  induction places generalizing given start with
  | nil =>
    obtain rfl := Except.ok.inj reads
    rfl
  | cons p places ih =>
    cases given with
    | nil =>
      obtain rfl := Except.ok.inj reads
      rfl
    | cons value? given =>
      obtain ⟨next, first, rest⟩ := readGiven_cons.mp reads
      obtain ⟨content, -, rfl⟩ := (p.readGiven_eq_ok_iff fun value known =>
        canonical value (by simp [known])).mp first
      obtain ⟨here, apart⟩ := List.forall_mem_cons.mp apart
      rw [ih apart (fun value member => canonical value (List.mem_cons_of_mem _ member)) rest]
      exact here.kept content start

theorem holds_of_readGiven (apart : places.Pairwise Place.Apart)
    (fit : given.length = places.length)
    (canonical : ∀ value, some value ∈ given → value.Canonical)
    (reads : readGiven (places.map Place.field) given start = .ok last) :
    List.Forall₂ (Place.Holds start last) places given := by
  induction places generalizing given start with
  | nil =>
    obtain rfl := List.length_eq_zero_iff.mp fit
    exact .nil
  | cons p places ih =>
    obtain ⟨across, apart⟩ := List.pairwise_cons.mp apart
    obtain ⟨value?, given, rfl⟩ := List.exists_cons_of_length_eq_add_one fit
    obtain ⟨next, first, rest⟩ := readGiven_cons.mp reads
    obtain ⟨content, gives, rfl⟩ := (p.readGiven_eq_ok_iff fun value known =>
      canonical value (by simp [known])).mp first
    have canonical : ∀ value, some value ∈ given → value.Canonical :=
      fun value member => canonical value (List.mem_cons_of_mem _ member)
    have held : p.get last = content := by
      rw [get_of_readGiven (fun q member => (across q member).symm) canonical rest, p.get_put]
    have others := ih apart (Nat.succ.inj fit) canonical rest
    refine .cons ?_ (List.Forall₂.imp ?_ (List.forall₂_and_left _ _ |>.mpr ⟨across, others⟩))
    · rw [Place.Holds, held]
      exact gives
    · rintro q value? ⟨away, holds⟩
      rw [Place.Holds, ← away.kept content start]
      exact holds

/-- Reading goes well where everything that is given spells some content. -/
theorem exists_readGiven (canonical : ∀ value, some value ∈ given → value.Canonical)
    (holds : List.Forall₂ (Place.Holds start last) places given) (record : α) :
    ∃ next, readGiven (places.map Place.field) given record = .ok next := by
  induction holds generalizing record with
  | nil => exact ⟨record, rfl⟩
  | @cons p value? places given first rest ih =>
    have canonical' : ∀ value, some value ∈ given → value.Canonical :=
      fun value member => canonical value (List.mem_cons_of_mem _ member)
    have gives : ∃ content, Json.GivesOr p.grammar.Spells (p.get record) value? content := by
      rcases first with ⟨nothing, -⟩ | spelled
      · exact ⟨_, .inl ⟨nothing, rfl⟩⟩
      · exact ⟨_, .inr spelled⟩
    obtain ⟨content, gives⟩ := gives
    have read := (p.readGiven_eq_ok_iff fun value known =>
      canonical value (by simp [known])).mpr ⟨content, gives, rfl⟩
    obtain ⟨next, reads⟩ := ih canonical' (p.put content record)
    exact ⟨next, readGiven_cons.mpr ⟨_, read, reads⟩⟩

theorem get_eq_of_holds {other : α} (canonical : ∀ value, some value ∈ given → value.Canonical)
    (holds : List.Forall₂ (Place.Holds start last) places given)
    (holds' : List.Forall₂ (Place.Holds start other) places given) :
    ∀ p ∈ places, p.get last = p.get other := by
  induction holds with
  | nil => simp
  | cons first rest ih =>
    obtain ⟨first', rest'⟩ := List.forall₂_cons.mp holds'
    refine List.forall_mem_cons.mpr ⟨?_, ih (fun value member => ?_) rest'⟩
    · exact first.unique (fun value known => canonical value (by simp [known])) first'
    · exact canonical value (List.mem_cons_of_mem _ member)

end Places

/-- The fields of the record are read into these places. No two of them overlap, and together they
are the whole record. -/
structure Layout {α : Type} (shape : RecordShape α) (places : List (Place α)) : Prop where
  fields : shape.fields = places.map Place.field
  distinct : (places.map Place.name).Nodup
  apart : places.Pairwise Place.Apart
  whole : ∀ r s, (∀ p ∈ places, p.get r = p.get s) → r = s

namespace Layout

variable {α : Type} {shape : RecordShape α} {places : List (Place α)}

theorem fieldNames (layout : Layout shape places) : shape.fieldNames = places.map Place.name := by
  rw [RecordShape.fieldNames, layout.fields, List.map_map]
  rfl

theorem commutes (layout : Layout shape places) : shape.fields.Pairwise Field.Commutes := by
  rw [layout.fields]
  exact List.pairwise_map.mpr (layout.apart.imp Place.Apart.commutes)

theorem readGiven_eq_ok_iff (layout : Layout shape places) {given : List (Option Json)}
    (fit : given.length = places.length)
    (canonical : ∀ value, some value ∈ given → value.Canonical) {start last : α} :
    readGiven shape.fields given start = .ok last ↔
      List.Forall₂ (Place.Holds start last) places given := by
  rw [layout.fields]
  constructor
  · exact holds_of_readGiven layout.apart fit canonical
  · intro holds
    obtain ⟨next, reads⟩ := exists_readGiven canonical holds start
    have holds' := holds_of_readGiven layout.apart fit canonical reads
    rw [reads, layout.whole _ _ (get_eq_of_holds canonical holds' holds)]

/-- What a record is read from: a document that gives every place what it holds, whatever else an
object has, unless the record is closed. -/
theorem read_eq_ok_iff (layout : Layout shape places) {v : Json} (canonical : v.Canonical)
    {start last : α} :
    shape.read start v = .ok last ↔
      (shape.closed = true → ∀ members, v = .obj members → ∀ e ∈ members,
        e.1 ∈ places.map Place.name) ∧
      ∃ given, v.Gives (places.map Place.name) shape.leading given ∧
        List.Forall₂ (Place.Holds start last) places given := by
  rw [RecordShape.read_eq_ok_iff (layout.fieldNames ▸ layout.distinct) layout.commutes canonical,
    layout.fieldNames]
  refine and_congr_right' (exists_congr fun given => and_congr_right fun gives => ?_)
  have fit : given.length = places.length := by rw [gives.length, List.length_map]
  exact layout.readGiven_eq_ok_iff fit fun value => canonical.of_gives gives

theorem read_open_iff (layout : Layout shape places) (isOpen : shape.closed = false) {v : Json}
    (canonical : v.Canonical) {start last : α} :
    shape.read start v = .ok last ↔
      ∃ given, v.Gives (places.map Place.name) shape.leading given ∧
        List.Forall₂ (Place.Holds start last) places given := by
  rw [layout.read_eq_ok_iff canonical, isOpen]
  exact and_iff_right fun closed => absurd closed Bool.false_ne_true

theorem read_closed_iff (layout : Layout shape places) (closed : shape.closed = true) {v : Json}
    (canonical : v.Canonical) {start last : α} :
    shape.read start v = .ok last ↔
      ∃ given, v.GivesOnly (places.map Place.name) shape.leading given ∧
        List.Forall₂ (Place.Holds start last) places given := by
  rw [layout.read_eq_ok_iff canonical]
  constructor
  · rintro ⟨only, given, gives, holds⟩
    exact ⟨given, ⟨gives, only closed⟩, holds⟩
  · rintro ⟨given, ⟨gives, only⟩, holds⟩
    exact ⟨fun _ => only, given, gives, holds⟩

end Layout

end Decode
end RequestAuth
