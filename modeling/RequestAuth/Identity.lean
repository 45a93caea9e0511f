import RequestAuth.Ordered.Set
import RequestAuth.Uuid
import RequestAuth.WellKnown

/-! Identities of authenticated callers. The identifier names the authentication event, not the
caller: an identity built without one gets a fresh identifier each time it is built. -/
namespace RequestAuth

structure Identity where
  id : Uuid
  principal : Option String
  roles : TextSet
  attributes : TextMap (List String)
deriving DecidableEq

namespace Identity

/-- The principal, for display. -/
def displayName (i : Identity) : String := i.principal.getD WellKnown.anonymousPrincipal

def isAnonymous (i : Identity) : Bool := i.principal.isNone

def hasRole (i : Identity) (role : String) : Bool := i.roles.contains role

/-- The values of one attribute; none when it is not set. -/
def attributeValues (i : Identity) (name : String) : List String :=
  (i.attributes.find? name).getD []

def withRoles (i : Identity) (roles : List String) : Identity :=
  { i with roles := i.roles.insertAll roles }

end Identity

/-- An identity that may still lack its identifier. -/
structure IdentityDraft where
  id : Option Uuid := none
  principal : Option String := none
  roles : TextSet := ∅
  attributes : TextMap (List String) := ∅
deriving DecidableEq

namespace IdentityDraft

/-- One edit of a draft. Roles accumulate, everything else is replaced. -/
inductive Edit
  | identifier (id : Uuid)
  | principal (name : String)
  | role (role : String)
  | roles (roles : List String)
  | attributeValues (name : String) (values : List String)

def apply (draft : IdentityDraft) : Edit → IdentityDraft
  | .identifier id => { draft with id := some id }
  | .principal name => { draft with principal := some name }
  | .role role => { draft with roles := draft.roles.insert role }
  | .roles roles => { draft with roles := draft.roles.insertAll roles }
  | .attributeValues name values => { draft with attributes := draft.attributes.insert name values }

def applyAll (draft : IdentityDraft) (edits : List Edit) : IdentityDraft := edits.foldl apply draft

def named (principal : String) : IdentityDraft := { principal := some principal }

def anonymous : IdentityDraft := {}

/-- Draws an identifier exactly when the draft has none. -/
def build (draft : IdentityDraft) : StateM IdSource Identity := do
  let id ← match draft.id with
    | some id => pure id
    | none => IdSource.draw
  return ⟨id, draft.principal, draft.roles, draft.attributes⟩

end IdentityDraft
end RequestAuth
