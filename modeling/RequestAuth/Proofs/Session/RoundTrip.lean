import RequestAuth.Proofs.Identity.Document
import RequestAuth.Session.Record

/-! A cached identity is read back from the session as it was stored. -/
namespace RequestAuth

open Decode

theorem RecordDraft.distinct_fields : shape.fieldNames.Nodup := by
  simp [RecordShape.fieldNames, shape]

namespace IdentityRecord

theorem decode_encode (r : IdentityRecord) : decode r.encode = .ok r := by
  have authType (d : RecordDraft) :
      RecordDraft.readAuthType (.textOrNull (r.authType.map AuthType.text)) d =
        .ok { d with authType := r.authType.map AuthType.text } := by
    simp only [RecordDraft.readAuthType, optional_textOrNull]
    rfl
  have identity (d : RecordDraft) : RecordDraft.readIdentity r.identity.toJson d =
      .ok { d with identity := some r.identity } := by
    have read : optional Identity.decode r.identity.toJson =
        some <$> Identity.decode r.identity.toJson := rfl
    rw [Identity.decode_toJson] at read
    simp only [RecordDraft.readIdentity, read]
    rfl
  have version (d : RecordDraft) : RecordDraft.readVersion (.int WellKnown.recordVersion) d =
      .ok { d with version := some WellKnown.recordVersion } := rfl
  have read : RecordDraft.decode r.encode = .ok (WellKnown.recordVersion,
      { version := some WellKnown.recordVersion, identity := some r.identity,
        authType := r.authType.map AuthType.text }) := by
    simp only [RecordDraft.decode, encode, RecordShape.read]
    have cons := @RecordShape.readMembers_cons _ _ RecordDraft.distinct_fields
    rw [cons ⟨"auth_type", RecordDraft.readAuthType⟩ (by simp [RecordDraft.shape]) (authType _),
      cons ⟨"identity", RecordDraft.readIdentity⟩ (by simp [RecordDraft.shape]) (identity _),
      cons ⟨"version", RecordDraft.readVersion⟩ (by simp [RecordDraft.shape]) (version _)]
    rfl
  have label : (r.authType.map AuthType.text).bind AuthType.ofText? = r.authType := by
    cases r.authType <;> simp
  simp [decode, read, label]

end IdentityRecord
end RequestAuth
