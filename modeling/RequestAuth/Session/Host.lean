import RequestAuth.Journal
import RequestAuth.Session.Store

/-! The hosting server as one request sees it: the session store, the exchange that carries the
request and its response, and the security context. Every operation is journaled first; one that
the outage makes fail does nothing else. -/
namespace RequestAuth

/-- The session operations that fail, each with its error; `withholds` makes the server give no
session where there is none yet. -/
structure Outage where
  sessionLookup : Option ExchangeError := none
  sessionCreation : Option ExchangeError := none
  attributeRead : Option ExchangeError := none
  attributeWrite : Option ExchangeError := none
  attributeRemoval : Option ExchangeError := none
  withholds : Bool := false

structure Exchange where
  request : Request := {}
  sessionId : Option String := none
  status : Nat := 200
  outage : Outage := {}

structure SecurityContext where
  /-- Authenticated by someone else before. -/
  authenticated : Bool := false
  required : Bool := false
  completions : List Completion := []

def SecurityContext.isAuthenticated (c : SecurityContext) : Bool :=
  c.authenticated || !c.completions.isEmpty

structure Host where
  store : SessionStore
  exchange : Exchange
  context : SecurityContext
  journal : Journal

abbrev Hosted := StateM Host

/-- An operation that may fail with the server's error. -/
abbrev Exchanging := ExceptT ExchangeError Hosted

namespace Host

def journaled (act : Journaled α) : Hosted α := fun h =>
  let (a, journal) := act h.journal
  (a, { h with journal })

def record (e : Event) : Hosted Unit := journaled (Journal.record e)

def note (n : Notice) : Hosted Unit := journaled (Journal.note n)

def failOn (failure : Outage → Option ExchangeError) : Exchanging Unit := do
  match failure (← get).exchange.outage with
  | some e => throw e
  | none => return ()

/-- The live session of the exchange. -/
def currentSession (h : Host) : Option Session := h.exchange.sessionId.bind h.store.find?

/-- Makes a session and attaches it to the exchange. -/
def createSession : Hosted String := fun h =>
  let ((id, store), ids) := h.store.create h.journal.ids
  (id, { h with
    store
    exchange := { h.exchange with sessionId := some id }
    journal := { h.journal with ids } })

/-- The session of the exchange; where it has none and `create` is set, a new one. -/
def session (create : Bool) : Exchanging (Option String) := do
  record (.sessionRequested create)
  failOn fun o => if create then o.sessionCreation else o.sessionLookup
  match (← get).currentSession with
  | some s => return some s.id
  | none =>
    if create && !(← get).exchange.outage.withholds then return some (← createSession)
    else return none

def attribute? (sessionId key : String) : Exchanging (Option Json) := do
  record (.attributeRead key)
  failOn Outage.attributeRead
  return (← get).store.attribute? sessionId key

def setAttribute (sessionId key : String) (value : Json) : Exchanging Unit := do
  record (.attributeWritten key value)
  failOn Outage.attributeWrite
  modify fun h => { h with store := h.store.setAttribute sessionId key value }

def removeAttribute (sessionId key : String) : Exchanging Unit := do
  record (.attributeRemoved key)
  failOn Outage.attributeRemoval
  modify fun h => { h with store := h.store.removeAttribute sessionId key }

def setStatus (code : Nat) : Hosted Unit := do
  record (.statusSet code)
  modify fun h => { h with exchange := { h.exchange with status := code } }

def complete (c : Completion) : Hosted Unit := do
  record (.completed c)
  modify fun h => { h with context := { h.context with completions := h.context.completions ++ [c] } }

end Host
end RequestAuth
