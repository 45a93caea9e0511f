import RequestAuth.AuthType
import RequestAuth.Identity.Json

/-! The identity cached in a session and its document: a version, the identity, and the mechanism
that established it. A record without identity can be told from one that is no record at all. -/
namespace RequestAuth

structure IdentityRecord where
  identity : Identity
  authType : Option AuthType
deriving DecidableEq

/-- Why a stored document is no identity record. -/
inductive Corruption
  | undecodable (cause : DecodeError)
  | unsupportedVersion (version : Nat)
  | noIdentity
deriving DecidableEq

def Corruption.reason : Corruption → String
  | .undecodable cause => cause.message
  | .unsupportedVersion version => "unsupported record version " ++ toString version
  | .noIdentity => "record carries no identity"

/-- The members of a stored record as far as they have been read. -/
structure RecordDraft where
  version : Option Nat := none
  identity : Option Identity := none
  authType : Option String := none

namespace RecordDraft

open Decode

def readVersion (value : Json) (record : RecordDraft) : Result RecordDraft := do
  return { record with version := some (← unsigned32 value) }

def readIdentity (value : Json) (record : RecordDraft) : Result RecordDraft := do
  return { record with identity := ← optional Identity.decode value }

def readAuthType (value : Json) (record : RecordDraft) : Result RecordDraft := do
  return { record with authType := ← optional text value }

def shape : RecordShape RecordDraft where
  name := "StoredRecord"
  fields := [⟨"version", readVersion⟩, ⟨"identity", readIdentity⟩, ⟨"auth_type", readAuthType⟩]
  leading := 2
  closed := false

/-- The version and the rest of a well-formed record. -/
def decode (value : Json) : Result (Nat × RecordDraft) := do
  let record ← shape.read {} value
  let version ← required "version" record.version
  return (version, record)

end RecordDraft

namespace IdentityRecord

def encode (r : IdentityRecord) : Json :=
  .obj [
    ("auth_type", .textOrNull (r.authType.map AuthType.text)),
    ("identity", r.identity.toJson),
    ("version", .int WellKnown.recordVersion)]

/-- A blank mechanism is an absent one. -/
def decode (value : Json) : Except Corruption IdentityRecord :=
  match RecordDraft.decode value with
  | .error cause => .error (.undecodable cause)
  | .ok (version, stored) =>
    if version ≠ WellKnown.recordVersion then .error (.unsupportedVersion version)
    else
      match stored.identity with
      | none => .error .noIdentity
      | some identity => .ok ⟨identity, stored.authType.bind AuthType.ofText?⟩

end IdentityRecord
end RequestAuth
