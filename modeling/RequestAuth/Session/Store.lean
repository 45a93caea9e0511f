import RequestAuth.Json.Basic
import RequestAuth.Uuid

/-! Sessions in memory. The store lists every session it ever made, in the order of creation; an
invalidated session is not found again, but whoever still holds it can go on using it. -/
namespace RequestAuth

structure Session where
  id : String
  attributes : TextMap Json := ∅
  live : Bool := true

structure SessionStore where
  sessions : List Session := []

namespace SessionStore

/-- Makes an empty session under a fresh identifier. -/
def create (store : SessionStore) : StateM IdSource (String × SessionStore) := do
  let id := (← IdSource.draw).text
  return (id, ⟨store.sessions ++ [{ id := id }]⟩)

def find? (store : SessionStore) (id : String) : Option Session :=
  store.sessions.find? fun s => s.live && s.id = id

/-- The session of that identifier, live or not. -/
def held? (store : SessionStore) (id : String) : Option Session :=
  store.sessions.find? (·.id = id)

def live (store : SessionStore) : List Session := store.sessions.filter Session.live

def size (store : SessionStore) : Nat := store.live.length

def modify (store : SessionStore) (id : String) (change : Session → Session) : SessionStore :=
  ⟨store.sessions.map fun s => if s.id = id then change s else s⟩

/-- Says whether there was a live session to invalidate. -/
def invalidate (store : SessionStore) (id : String) : Bool × SessionStore :=
  ((store.find? id).isSome, store.modify id fun s => { s with live := false })

def attribute? (store : SessionStore) (id key : String) : Option Json :=
  (store.held? id).bind (·.attributes.find? key)

def setAttribute (store : SessionStore) (id key : String) (value : Json) : SessionStore :=
  store.modify id fun s => { s with attributes := s.attributes.insert key value }

def removeAttribute (store : SessionStore) (id key : String) : SessionStore :=
  store.modify id fun s => { s with attributes := s.attributes.erase key }

end SessionStore
end RequestAuth
