import RequestAuth.Proofs.Engine.Course
import RequestAuth.Proofs.Traffic.Run

/-! The session cache as a ledger: the live sessions, each with the login it holds or none. Serving
requests on a store shows the same and comes to the same as the steps of the ledger, which knows
nothing of documents, attributes and sessions without an identifier. -/
namespace RequestAuth

/-- Who is logged in, and the mechanism that was reported for it. -/
structure Login where
  identity : Identity
  authType : AuthType
deriving DecidableEq

namespace Login

def record (l : Login) : IdentityRecord := ⟨l.identity, some l.authType⟩

def completion (l : Login) : Completion := Engine.completion l.identity l.authType

def ofJson? (value : Json) : Option Login :=
  match IdentityRecord.decode value with
  | .ok ⟨identity, some authType⟩ => some ⟨identity, authType⟩
  | _ => none

@[simp] theorem ofJson?_encode (l : Login) : ofJson? l.record.encode = some l := by
  simp only [ofJson?, IdentityRecord.decode_encode]
  rfl

end Login

instance (r : Response) : Decidable r.Registers :=
  inferInstanceAs (Decidable ((_ ∨ _) ∧ _))

/-- A response with the login that it establishes if it is accepted. -/
structure Verdict where
  response : Response
  login : Login
  /-- The identifier that a session made for it would get. -/
  spare : String

namespace Visit

/-- What asking the provider comes to when nothing has happened before. -/
def answer (v : Visit) : Except ProviderError Negotiated × Journal :=
  v.engine.negotiation.run v.provider v.request v.required ⟨⟨v.ids, 0⟩, []⟩

def calls (v : Visit) : List ProviderCall := v.answer.2.events.filterMap Event.call?

def verdict (v : Visit) : Option Verdict :=
  match v.answer with
  | (.ok (.validated response handler), j) =>
    let (identity, j) := handler.authorizedIdentity j
    some ⟨response, ⟨identity, response.resolvedAuthType v.engine.mechanism⟩,
      (j.ids.ids j.ids.drawn).text⟩
  | _ => none

end Visit

/-- The live sessions by their identifiers, each with its login. -/
abbrev Ledger := String → Option (Option Login)

namespace Ledger

def set (ledger : Ledger) (id : String) (entry : Option (Option Login)) : Ledger :=
  fun other => if other = id then entry else ledger other

/-- The login of the session that a request presents. -/
def login? (ledger : Ledger) (presented : Option String) : Option Login :=
  (presented.bind ledger).join

/-- The session that a login goes into: the one that is presented if it is live, else a new one. -/
def place (ledger : Ledger) (presented : Option String) (spare : String) : String :=
  (presented.filter fun id => (ledger id).isSome).getD spare

theorem login?_eq_some_iff {ledger : Ledger} {presented : Option String} {login : Login} :
    ledger.login? presented = some login ↔
      ∃ id, presented = some id ∧ ledger id = some (some login) := by
  cases presented with
  | none => simp [login?]
  | some id => simp [login?, Option.join_eq_some_iff]

theorem place_live {ledger : Ledger} {id : String} (live : (ledger id).isSome) (spare : String) :
    ledger.place (some id) spare = id := by
  simp [place, Option.filter, live]

theorem place_absent {ledger : Ledger} {presented : Option String}
    (absent : presented.bind ledger = none) (spare : String) :
    ledger.place presented spare = spare := by
  cases presented with
  | none => rfl
  | some id =>
    have absent : ledger id = none := absent
    simp [place, Option.filter, absent]

/-- A login decides its requests. Without one the provider does, and a registering response adds
its login to the ledger whether the request is completed or not. -/
def visit (ledger : Ledger) (v : Visit) : Seen × Ledger :=
  match ledger.login? v.presented with
  | some login => (⟨.ok true, [login.completion], [], [], v.presented⟩, ledger)
  | none =>
    match v.verdict with
    | none => (⟨.ok false, [], v.calls, [], v.presented⟩, ledger)
    | some ⟨response, login, spare⟩ =>
      let succeeds : Bool := response.status = .success
      let completions := if succeeds then [login.completion] else []
      if response.Registers then
        let id := ledger.place v.presented spare
        (⟨.ok succeeds, completions, v.calls, [login.record.encode], some id⟩,
          ledger.set id (some (some login)))
      else (⟨.ok succeeds, completions, v.calls, [], v.presented⟩, ledger)

def step (ledger : Ledger) : Step → Shown × Ledger
  | .visit v => (.served (ledger.visit v).1, (ledger.visit v).2)
  | .invalidate id => (.invalidated (ledger id).isSome, ledger.set id none)
  | .make id => (.made id.text, ledger.set id.text (some none))
  | .write _ _ _ _ | .erase _ _ _ => (.nothing, ledger)

end Ledger

namespace SessionStore

/-- What a store has in its reserved attributes, by live session. -/
def ledger (store : SessionStore) : Ledger := fun id =>
  (store.find? id).map fun s =>
    (s.attributes.find? WellKnown.identityRecordKey).bind Login.ofJson?

/-- Sessions have their identifiers for themselves, and whatever is in the reserved attribute of a
live one is a login as the engine writes it. -/
structure Kept (store : SessionStore) : Prop where
  distinct : store.Distinct
  recorded : ∀ id s value, store.find? id = some s →
    s.attributes.find? WellKnown.identityRecordKey = some value →
    ∃ login : Login, value = login.record.encode

/-- What the session that is presented has in the reserved attribute. -/
def record? (store : SessionStore) (presented : Option String) : Option Json :=
  (presented.bind store.find?).bind (·.attributes.find? WellKnown.identityRecordKey)

/-- No live session has anything in the reserved attribute. -/
def Unrecorded (store : SessionStore) : Prop := ∀ presented, store.record? presented = none

section Ledger

variable {store : SessionStore}

theorem record?_of_find? {id : String} {s : Session} (found : store.find? id = some s) :
    store.record? (some id) = s.attributes.find? WellKnown.identityRecordKey := by
  simp [record?, found]

theorem login?_eq (presented : Option String) :
    store.ledger.login? presented = (store.record? presented).bind Login.ofJson? := by
  cases presented with
  | none => rfl
  | some id => cases found : store.find? id <;> simp [Ledger.login?, ledger, record?, found]

theorem Unrecorded.kept (unrecorded : store.Unrecorded) (distinct : store.Distinct) :
    store.Kept where
  distinct
  recorded id s value found stored := by
    rw [← record?_of_find? found, unrecorded] at stored
    cases stored

theorem Unrecorded.login? (unrecorded : store.Unrecorded) (presented : Option String) :
    store.ledger.login? presented = none := by
  rw [login?_eq, unrecorded]
  rfl

theorem Kept.login_of_record? {presented : Option String} {value : Json} (kept : store.Kept)
    (stored : store.record? presented = some value) :
    ∃ login : Login, value = login.record.encode := by
  obtain ⟨s, presents, cached⟩ := Option.bind_eq_some_iff.mp stored
  obtain ⟨id, -, found⟩ := Option.bind_eq_some_iff.mp presents
  exact kept.recorded id s value found cached

/-- In a kept store, a session without a login has nothing in the reserved attribute. -/
theorem Kept.record?_of_login? {presented : Option String} (kept : store.Kept)
    (missing : store.ledger.login? presented = none) : store.record? presented = none := by
  cases stored : store.record? presented with
  | none => rfl
  | some value =>
    obtain ⟨login, rfl⟩ := kept.login_of_record? stored
    simp [login?_eq, stored] at missing

theorem unrecorded_empty : Unrecorded {} := by
  intro presented
  cases presented with
  | none => rfl
  | some id => rfl

theorem ledger_isSome (id : String) : (store.ledger id).isSome = (store.find? id).isSome := by
  simp [ledger]

/-- Changes of a session that leave the reserved attribute alone leave the ledger alone. -/
theorem ledger_modify {change : Session → Session} (id : String)
    (same : ∀ s, (change s).id = s.id ∧ (change s).live = s.live)
    (apart : ∀ s, (change s).attributes.find? WellKnown.identityRecordKey =
      s.attributes.find? WellKnown.identityRecordKey) :
    (store.modify id change).ledger = store.ledger := by
  funext other
  simp only [ledger, find?_modify store id other same]
  split
  · simp [Option.map_map, Function.comp_def, apart]
  · rfl

theorem Kept.modify {change : Session → Session} (kept : store.Kept) (id : String)
    (same : ∀ s, (change s).id = s.id ∧ (change s).live = s.live)
    (recorded : ∀ s value, (change s).attributes.find? WellKnown.identityRecordKey = some value →
      s.attributes.find? WellKnown.identityRecordKey = some value ∨
        ∃ login : Login, value = login.record.encode) :
    (store.modify id change).Kept where
  distinct := modify_distinct id (fun s => (same s).1) kept.distinct
  recorded other s value found stored := by
    rw [find?_modify store id other same] at found
    split at found
    · obtain ⟨before, earlier, rfl⟩ := Option.map_eq_some_iff.mp found
      rcases recorded before value stored with unchanged | written
      · exact kept.recorded other before value earlier unchanged
      · exact written
    · exact kept.recorded other s value found stored

/-- A login that is written to a live session is in the ledger afterwards. -/
theorem ledger_setAttribute_login {id : String} (live : (store.find? id).isSome) (login : Login) :
    (store.setAttribute id WellKnown.identityRecordKey login.record.encode).ledger =
      store.ledger.set id (some (some login)) := by
  obtain ⟨s, found⟩ := Option.isSome_iff_exists.mp live
  funext other
  simp only [ledger, find?_setAttribute, Ledger.set]
  by_cases same : other = id
  · subst same
    simp [found]
  · simp [same]

theorem Kept.setAttribute_login (kept : store.Kept) (id : String) (login : Login) :
    (store.setAttribute id WellKnown.identityRecordKey login.record.encode).Kept := by
  refine kept.modify id (fun s => ⟨rfl, rfl⟩) fun s value stored => .inr ⟨login, ?_⟩
  simpa using stored.symm

theorem ledger_made {id : String} (unused : store.Unused id) :
    (store.made id).ledger = store.ledger.set id (some none) := by
  funext other
  simp only [ledger, find?_made unused other, Ledger.set]
  split
  · rfl
  · rfl

theorem Kept.made (kept : store.Kept) {id : String} (unused : store.Unused id) :
    (store.made id).Kept where
  distinct := made_distinct unused kept.distinct
  recorded other s value found stored := by
    rw [find?_made unused other] at found
    split at found
    · cases found
      cases stored
    · exact kept.recorded other s value found stored

theorem ledger_invalidate (id : String) :
    (store.invalidate id).2.ledger = store.ledger.set id none := by
  funext other
  simp only [ledger, find?_invalidate, Ledger.set]
  split
  · rfl
  · rfl

theorem Kept.invalidate (kept : store.Kept) (id : String) : (store.invalidate id).2.Kept where
  distinct := modify_distinct id (fun _ => rfl) kept.distinct
  recorded other s value found stored := by
    rw [find?_invalidate] at found
    split at found
    · cases found
    · exact kept.recorded other s value found stored

end Ledger

end SessionStore
end RequestAuth
