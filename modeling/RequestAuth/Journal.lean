import RequestAuth.Provider

/-! The journal of a run: everything that happens between the engine and its surroundings, in
order, and the fresh identifiers still to be handed out. It only grows. -/
namespace RequestAuth

/-- The announcement that a request is authenticated. -/
structure Completion where
  identity : Identity
  authType : AuthType
  layer : String
deriving DecidableEq

inductive Event
  | notice (notice : Notice)
  | providerCalled (call : ProviderCall)
  | callbacksHandled (reply : Reply)
  /-- The response that validation came back with. -/
  | responded (response : Response)
  | identityRequested (name : String)
  | passwordRequested (username password : String)
  | sessionRequested (create : Bool)
  | attributeRead (key : String)
  | attributeWritten (key : String) (value : Json)
  | attributeRemoved (key : String)
  | statusSet (code : Nat)
  | completed (completion : Completion)
  | fallbackCalled

structure Journal where
  ids : IdSource
  events : List Event := []

abbrev Journaled := StateM Journal

namespace Journal

def record (e : Event) : Journaled Unit := modify fun j => { j with events := j.events ++ [e] }

def note (n : Notice) : Journaled Unit := record (.notice n)

/-- Builds an identity with a fresh identifier if it needs one. -/
def build (draft : IdentityDraft) : Journaled Identity := fun j =>
  let (identity, ids) := draft.build j.ids
  (identity, { j with ids })

def notices (j : Journal) : List Notice :=
  j.events.filterMap fun
    | .notice n => some n
    | _ => none

end Journal
end RequestAuth
