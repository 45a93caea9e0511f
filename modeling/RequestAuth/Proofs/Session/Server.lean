import Mathlib.Data.List.Forall2
import RequestAuth.Proofs.Session.Operations

/-! A server in operation: one session store, and the exchanges that have reached it so far. Each of
them keeps the identifier of its session from one call to the next, while sessions are made and
invalidated around it. -/
namespace RequestAuth

structure Server where
  store : SessionStore := {}
  exchanges : List Exchange := []
  source : IdSource

namespace Server

inductive Act
  /-- A request comes in, with the session identifier that it presents. -/
  | arrive (request : Request) (presented : Option String)
  | create
  | get (id : String)
  | invalidate (id : String)
  | read (id key : String)
  | write (id key : String) (value : Json)
  | erase (id key : String)
  /-- One of the exchanges is asked for its session. -/
  | session (exchange : Nat) (create : Bool)

inductive Answer
  | arrived (exchange : Nat)
  | created (id : String)
  | found (session : Option Session)
  | invalidated (existed : Bool)
  | value (value : Option Json)
  | written
  | exchanged (result : Except ExchangeError (Option String))
  /-- There is no such exchange. -/
  | unopened

/-- What an exchange sees of the server. -/
def host (server : Server) (x : Exchange) : Host where
  store := server.store
  exchange := x
  context := {}
  journal := ⟨server.source, []⟩

def step (server : Server) : Act → Answer × Server
  | .arrive request presented =>
    (.arrived server.exchanges.length,
      { server with exchanges := server.exchanges ++ [{ request, sessionId := presented }] })
  | .create =>
    let ((id, store), source) := server.store.create server.source
    (.created id, { server with store, source })
  | .get id => (.found (server.store.find? id), server)
  | .invalidate id =>
    let (existed, store) := server.store.invalidate id
    (.invalidated existed, { server with store })
  | .read id key => (.value (server.store.attribute? id key), server)
  | .write id key value =>
    (.written, { server with store := server.store.setAttribute id key value })
  | .erase id key =>
    (.value (server.store.attribute? id key),
      { server with store := server.store.removeAttribute id key })
  | .session i create =>
    match server.exchanges[i]? with
    | none => (.unopened, server)
    | some x =>
      let (result, h) := Host.session create (server.host x)
      (.exchanged result, ⟨h.store, server.exchanges.set i h.exchange, h.journal.ids⟩)

/-- The identifier that is handed out next. -/
def spare (server : Server) : String := (server.source.ids server.source.drawn).text

/-- The source once that has been handed out. -/
def drawn (server : Server) : IdSource := { server.source with drawn := server.source.drawn + 1 }

/-- An identifier that no session ever had and no exchange carries. -/
structure Novel (server : Server) (id : String) : Prop where
  unused : server.store.Unused id
  unattached : ∀ x ∈ server.exchanges, x.sessionId ≠ some id

/-- One empty session more, under a new identifier. -/
structure Grows (server next : Server) (id : String) : Prop where
  spare : id = server.spare
  source : next.source = server.drawn
  novel : server.Novel id
  sessions : next.store.sessions = server.store.sessions ++ [{ id := id }]

/-- Session by session, nothing else happens to the server. -/
structure Alters (R : Session → Session → Prop) (server next : Server) : Prop where
  sessions : List.Forall₂ R server.store.sessions next.store.sessions
  exchanges : next.exchanges = server.exchanges
  source : next.source = server.source

/-- The session of the identifier ceases to be live, and any other one stays as it is. -/
def Ceases (id : String) (s t : Session) : Prop :=
  t.id = s.id ∧ t.attributes = s.attributes ∧ t.live = (s.live && s.id ≠ id)

/-- Of the session of the identifier, one attribute comes to be this; the rest stays as it is. -/
def Puts (id key : String) (value : Option Json) (s t : Session) : Prop :=
  t.id = s.id ∧ t.live = s.live ∧
    ∀ other, t.attributes.find? other =
      if s.id = id ∧ other = key then value else s.attributes.find? other

/-- The exchange has no live session. -/
def Idle (server : Server) (x : Exchange) : Prop :=
  ∀ id, x.sessionId = some id → server.store.find? id = none

/-- All that an act can come to: its answer, and the server after it. -/
inductive Effect (server : Server) : Act → Answer → Server → Prop
  | arrived (request : Request) (presented : Option String) :
    Effect server (.arrive request presented) (.arrived server.exchanges.length)
      { server with exchanges := server.exchanges ++ [{ request, sessionId := presented }] }
  | created {id : String} {next : Server} (grown : server.Grows next id)
    (exchanges : next.exchanges = server.exchanges) : Effect server .create (.created id) next
  | got (id : String) : Effect server (.get id) (.found (server.store.find? id)) server
  | invalidated {id : String} {next : Server} (ceased : server.Alters (Ceases id) next) :
    Effect server (.invalidate id) (.invalidated (server.store.find? id).isSome) next
  | read (id key : String) :
    Effect server (.read id key) (.value (server.store.attribute? id key)) server
  | written {id key : String} {value : Json} {next : Server}
    (put : server.Alters (Puts id key (some value)) next) :
    Effect server (.write id key value) .written next
  | erased {id key : String} {next : Server} (put : server.Alters (Puts id key none) next) :
    Effect server (.erase id key) (.value (server.store.attribute? id key)) next
  | unopened {i : Nat} {create : Bool} (absent : server.exchanges[i]? = none) :
    Effect server (.session i create) .unopened server
  | existing {i : Nat} {create : Bool} {x : Exchange} {id : String}
    (opened : server.exchanges[i]? = some x) (attached : x.sessionId = some id)
    (alive : (server.store.find? id).isSome) :
    Effect server (.session i create) (.exchanged (.ok (some id))) server
  | absent {i : Nat} {x : Exchange} (opened : server.exchanges[i]? = some x)
    (idle : server.Idle x) : Effect server (.session i false) (.exchanged (.ok none)) server
  | made {i : Nat} {x : Exchange} {id : String} {next : Server}
    (opened : server.exchanges[i]? = some x) (idle : server.Idle x)
    (grown : server.Grows next id)
    (attached : next.exchanges = server.exchanges.set i { x with sessionId := some id }) :
    Effect server (.session i true) (.exchanged (.ok (some id))) next

variable {server next : Server} {act : Act} {answer : Answer} {x : Exchange} {id key : String}

theorem step_create (server : Server) :
    server.step .create = (.created server.spare,
      { server with store := server.store.made server.spare, source := server.drawn }) := rfl

theorem Grows.store (grown : server.Grows next id) : next.store = server.store.made id :=
  congrArg SessionStore.mk grown.sessions

theorem currentSession_eq_none_iff : (server.host x).currentSession = none ↔ server.Idle x := by
  cases attached : x.sessionId <;> simp [host, Host.currentSession, Idle, attached]

theorem alters_modify {R : Session → Session → Prop} (id : String) (change : Session → Session)
    (alters : ∀ s, R s (if s.id = id then change s else s)) :
    server.Alters R { server with store := server.store.modify id change } where
  sessions := by
    simp only [SessionStore.modify, List.forall₂_map_right_iff, List.forall₂_same]
    exact fun s _ => alters s
  exchanges := rfl
  source := rfl

theorem alters_invalidate (id : String) :
    server.Alters (Ceases id) { server with store := (server.store.invalidate id).2 } := by
  refine alters_modify id _ fun s => ?_
  by_cases named : s.id = id <;> simp [Ceases, named]

theorem alters_setAttribute (id key : String) (value : Json) :
    server.Alters (Puts id key (some value))
      { server with store := server.store.setAttribute id key value } := by
  refine alters_modify id _ fun s => ?_
  by_cases named : s.id = id
  · refine ⟨by simp [named], by simp [named], fun other => ?_⟩
    by_cases same : other = key
    · simp [named, same]
    · simp [named, same, TextMap.find?_insert_other]
  · simp [Puts, named]

theorem alters_removeAttribute (id key : String) :
    server.Alters (Puts id key none)
      { server with store := server.store.removeAttribute id key } := by
  refine alters_modify id _ fun s => ?_
  by_cases named : s.id = id
  · refine ⟨by simp [named], by simp [named], fun other => ?_⟩
    by_cases same : other = key
    · simp [named, same]
    · simp [named, same, TextMap.find?_erase_other]
  · simp [Puts, named]

/-- An exchange that is put back where it was leaves the exchanges as they are. -/
theorem set_opened {i : Nat} (opened : server.exchanges[i]? = some x) :
    server.exchanges.set i x = server.exchanges := by
  obtain ⟨inside, rfl⟩ := List.getElem?_eq_some_iff.mp opened
  exact List.set_getElem_self inside

section

variable {i : Nat} (opened : server.exchanges[i]? = some x) (plain : x.outage = {})
include opened plain

/-- An exchange with a live session gets that one, whether it asks for a new one or not. -/
theorem step_session_existing {create : Bool} {s : Session}
    (current : (server.host x).currentSession = some s) :
    server.step (.session i create) = (.exchanged (.ok (some s.id)), server) := by
  have works : (if create then (server.host x).exchange.outage.sessionCreation
      else (server.host x).exchange.outage.sessionLookup) = none := by simp [host, plain]
  simp only [step, opened, Host.session_existing works current]
  simp [host, set_opened opened]

theorem step_session_absent (current : (server.host x).currentSession = none) :
    server.step (.session i false) = (.exchanged (.ok none), server) := by
  have looked : Host.session false (server.host x) =
      (.ok none, (server.host x).having [.sessionRequested false]) :=
    Host.session_absent (by simp [host, plain]) current rfl
  simp only [step, opened, looked]
  simp [host, set_opened opened]

theorem step_session_made (current : (server.host x).currentSession = none) :
    server.step (.session i true) = (.exchanged (.ok (some server.spare)),
      { store := server.store.made server.spare
        exchanges := server.exchanges.set i { x with sessionId := some server.spare }
        source := server.drawn }) := by
  have works : (server.host x).exchange.outage.sessionCreation = none := by simp [host, plain]
  have granted : (server.host x).exchange.outage.withholds = false := by simp [host, plain]
  simp only [step, opened, Host.session_made works current granted]
  rfl

/-- The call of an exchange on a server that fails none of them. -/
theorem session_effect {create : Bool}
    (novel : server.Idle x → create = true → server.Novel server.spare) :
    server.Effect (.session i create) (server.step (.session i create)).1
      (server.step (.session i create)).2 := by
  cases current : (server.host x).currentSession with
  | some s =>
    obtain ⟨id, attached, found⟩ := Option.bind_eq_some_iff.mp current
    have same : s.id = id := SessionStore.find?_id found
    rw [step_session_existing opened plain current, same]
    exact .existing opened attached (Option.isSome_of_eq_some found)
  | none =>
    have idle := currentSession_eq_none_iff.mp current
    cases create with
    | false =>
      rw [step_session_absent opened plain current]
      exact .absent opened idle
    | true =>
      rw [step_session_made opened plain current]
      exact .made opened idle ⟨rfl, rfl, novel idle rfl, rfl⟩ rfl

end

end Server
end RequestAuth
