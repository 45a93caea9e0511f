import RequestAuth.Proofs.Engine.Call
import RequestAuth.Proofs.Journal.Appending
import RequestAuth.Proofs.Negotiation.Handling
import RequestAuth.Proofs.Session.Table

/-! Traffic on one session store: requests that are served one after the other, each by an engine
and a provider of its own, and between them whatever else may happen to sessions. Everyone but the
engines keeps off the attribute that is reserved for identities. -/
namespace RequestAuth

/-- A request that nobody has authenticated yet and for which a provider is selected. -/
structure Visit where
  engine : Engine
  registry : Registry
  provider : Provider
  selected : engine.Selects registry provider
  request : Request := {}
  /-- The session identifier that the request presents. -/
  presented : Option String := none
  required : Bool := false
  /-- The identifiers that are drawn while it is served. -/
  ids : Nat → Uuid

namespace Visit

/-- The host as the request finds it. -/
def host (v : Visit) (store : SessionStore) : Host where
  store
  exchange := { request := v.request, sessionId := v.presented }
  context := { required := v.required }
  journal := ⟨⟨v.ids, 0⟩, []⟩

def serve (v : Visit) (store : SessionStore) : Except ExchangeError Bool × Host :=
  v.engine.authenticate v.registry (v.host store)

/-- A request to an engine in its default configuration that has this provider for it. -/
def plain (domain : SecurityDomain) (p : Provider) (presented : Option String := none)
    (required : Bool := false) : Visit where
  engine := .plain domain
  registry := .serving p
  provider := p
  selected := Engine.plain_selects domain p
  presented
  required
  ids _ := default

end Visit

/-- The value that is written to the reserved attribute. -/
def Event.written? : Event → Option Json
  | .attributeWritten key value => if key = WellKnown.identityRecordKey then some value else none
  | _ => none

/-- What serving a request shows. -/
structure Seen where
  result : Except ExchangeError Bool
  completions : List Completion
  calls : List ProviderCall
  written : List Json
  /-- The session identifier of the exchange afterwards. -/
  attached : Option String

def Seen.of (result : Except ExchangeError Bool) (last : Host) : Seen where
  result
  completions := last.context.completions
  calls := last.journal.events.filterMap Event.call?
  written := last.journal.events.filterMap Event.written?
  attached := last.exchange.sessionId

def Visit.seen (v : Visit) (store : SessionStore) : Seen :=
  .of (v.serve store).1 (v.serve store).2

inductive Step
  | visit (v : Visit)
  | invalidate (id : String)
  /-- The application makes itself a session. -/
  | make (id : Uuid)
  | write (id key : String) (value : Json) (apart : key ≠ WellKnown.identityRecordKey)
  | erase (id key : String) (apart : key ≠ WellKnown.identityRecordKey)

/-- What holds of two requests holds of every one in the run that they are. -/
theorem Step.forall_visit_pair {P : Visit → Prop} {u v : Visit} (first : P u) (second : P v) :
    ∀ w, .visit w ∈ [Step.visit u] ++ [Step.visit v] → P w := by
  intro w member
  have asked : w = u ∨ w = v := by simpa using member
  rcases asked with rfl | rfl
  · exact first
  · exact second

/-- What a step shows. -/
inductive Shown
  | served (seen : Seen)
  | invalidated (existed : Bool)
  | made (id : String)
  | nothing

def SessionStore.step (store : SessionStore) : Step → Shown × SessionStore
  | .visit v => (.served (v.seen store), (v.serve store).2.store)
  | .invalidate id => (.invalidated (store.invalidate id).1, (store.invalidate id).2)
  | .make id => (.made id.text, store.made id.text)
  | .write id key value _ => (.nothing, store.setAttribute id key value)
  | .erase id key _ => (.nothing, store.removeAttribute id key)

/-- A run of a machine: all that its steps show, and where it ends. -/
def trail (machine : σ → Step → Shown × σ) : σ → List Step → List Shown × σ
  | s, [] => ([], s)
  | s, step :: steps =>
    let (shown, next) := machine s step
    let (others, last) := trail machine next steps
    (shown :: others, last)

namespace SessionStore

/-- The store after a run. -/
def after (store : SessionStore) (steps : List Step) : SessionStore :=
  (trail SessionStore.step store steps).2

/-- A session that `next` has in addition has an identifier that no session had before. -/
def Extends (next store : SessionStore) : Prop :=
  ∀ s ∈ next.sessions.drop store.sessions.length, store.Unused s.id

instance (next store : SessionStore) : Decidable (next.Extends store) :=
  inferInstanceAs
    (Decidable (∀ s ∈ next.sessions.drop _, ∀ other ∈ store.sessions, other.id ≠ s.id))

/-- The identifiers of sessions are fresh throughout a run. -/
def FreshRun : SessionStore → List Step → Prop
  | _, [] => True
  | store, step :: steps => (store.step step).2.Extends store ∧ FreshRun (store.step step).2 steps

instance decidableFreshRun :
    (store : SessionStore) → (steps : List Step) → Decidable (store.FreshRun steps)
  | _, [] => isTrue trivial
  | store, step :: steps =>
    have := decidableFreshRun (store.step step).2 steps
    inferInstanceAs (Decidable (_ ∧ _))

theorem freshRun_append {store : SessionStore} {first later : List Step} :
    store.FreshRun (first ++ later) ↔
      store.FreshRun first ∧ (store.after first).FreshRun later := by
  induction first generalizing store with
  | nil => simp [FreshRun, after, trail]
  | cons step first ih =>
    simp only [List.cons_append, FreshRun, ih, and_assoc]
    rfl

end SessionStore
end RequestAuth
