import RequestAuth.Session.Host

/-! The identity cached in the session of an exchange. One attribute is reserved for it; a value
there that is no identity record is removed and counts as none. -/
namespace RequestAuth

def Host.recallFrom (sessionId : String) : Exchanging (Option IdentityRecord) := do
  match ← attribute? sessionId WellKnown.identityRecordKey with
  | none => return none
  | some value =>
    match IdentityRecord.decode value with
    | .ok r => return some r
    | .error cause =>
      note (.recordRemoved sessionId cause)
      removeAttribute sessionId WellKnown.identityRecordKey
      return none

/-- Looks in the session that exists; makes none. -/
def Host.recall : Exchanging (Option IdentityRecord) := do
  match ← session false with
  | none => return none
  | some id => recallFrom id

def Host.sessionNotCreated : ExchangeError := .session "session could not be created"

/-- Puts the record into the session, which is made if need be, in place of any earlier value. -/
def Host.remember (r : IdentityRecord) : Exchanging Unit := do
  match ← session true with
  | none => throw sessionNotCreated
  | some id =>
    note (.recordStored id r.identity.displayName)
    setAttribute id WellKnown.identityRecordKey r.encode

end RequestAuth
