import RequestAuth.Identity

/-! Identities as documents. -/
namespace RequestAuth

def Identity.toJson (i : Identity) : Json :=
  .obj [
    ("attributes", .obj (i.attributes.entries.map fun e => (e.1, .ofStrings e.2))),
    ("id", .str i.id.text),
    ("principal", .textOrNull i.principal),
    ("roles", .ofStrings i.roles.toList)]

namespace IdentityDraft

open Decode

def readId (value : Json) (draft : IdentityDraft) : Result IdentityDraft := do
  return { draft with id := some (← Uuid.decode value) }

def readPrincipal (value : Json) (draft : IdentityDraft) : Result IdentityDraft := do
  return { draft with principal := ← optional text value }

def readRoles (value : Json) (draft : IdentityDraft) : Result IdentityDraft := do
  return { draft with roles := .ofList (← sequence text value) }

def readAttributes (value : Json) (draft : IdentityDraft) : Result IdentityDraft := do
  return { draft with attributes := ← map (sequence text) value }

/-- Members of other names are passed over. -/
def shape : RecordShape IdentityDraft where
  name := "SecurityIdentity"
  fields := [⟨"id", readId⟩, ⟨"principal", readPrincipal⟩, ⟨"roles", readRoles⟩,
    ⟨"attributes", readAttributes⟩]
  leading := 2
  closed := false

end IdentityDraft

/-- A document has to give the identifier; nothing is drawn. -/
def Identity.decode (value : Json) : Decode.Result Identity := do
  let draft ← IdentityDraft.shape.read {} value
  let id ← Decode.required "id" draft.id
  return ⟨id, draft.principal, draft.roles, draft.attributes⟩

end RequestAuth
