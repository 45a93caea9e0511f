import RequestAuth.Proofs.Session.Operations
import RequestAuth.Session.Cache

/-! What looking up and storing a cached identity can come to, with everything that either does to
the host on the way. The cases are exhaustive, and each says which operations worked. -/
namespace RequestAuth.Host

section

variable {h : Host} {id : String} {value : Json} {e : ExchangeError}

theorem recallFrom_readFails (fails : h.exchange.outage.attributeRead = some e) :
    recallFrom id h = (.error e, h.having [.attributeRead WellKnown.identityRecordKey]) := by
  rw [recallFrom, bind_apply, attribute?_fails fails]

theorem recallFrom_noRecord (reads : h.exchange.outage.attributeRead = none)
    (absent : h.store.attribute? id WellKnown.identityRecordKey = none) :
    recallFrom id h = (.ok none, h.having [.attributeRead WellKnown.identityRecordKey]) := by
  rw [recallFrom, bind_apply, attribute?_works reads]
  simp only [absent, pure_apply]

theorem recallFrom_restored {r : IdentityRecord} (reads : h.exchange.outage.attributeRead = none)
    (stored : h.store.attribute? id WellKnown.identityRecordKey = some value)
    (valid : IdentityRecord.decode value = .ok r) :
    recallFrom id h = (.ok (some r), h.having [.attributeRead WellKnown.identityRecordKey]) := by
  rw [recallFrom, bind_apply, attribute?_works reads]
  simp only [stored, valid, pure_apply]

theorem recallFrom_removalFails {cause : Corruption}
    (reads : h.exchange.outage.attributeRead = none)
    (stored : h.store.attribute? id WellKnown.identityRecordKey = some value)
    (corrupt : IdentityRecord.decode value = .error cause)
    (fails : h.exchange.outage.attributeRemoval = some e) :
    recallFrom id h = (.error e, h.having [.attributeRead WellKnown.identityRecordKey,
      .notice (.recordRemoved id cause), .attributeRemoved WellKnown.identityRecordKey]) := by
  rw [recallFrom, bind_apply, attribute?_works reads]
  simp only [stored, corrupt, bind_apply, lift_apply, note_apply, having_having]
  rw [removeAttribute_fails (by simpa using fails), having_having]
  rfl

theorem recallFrom_removed {cause : Corruption} (reads : h.exchange.outage.attributeRead = none)
    (stored : h.store.attribute? id WellKnown.identityRecordKey = some value)
    (corrupt : IdentityRecord.decode value = .error cause)
    (removes : h.exchange.outage.attributeRemoval = none) :
    recallFrom id h = (.ok none,
      { h.having [.attributeRead WellKnown.identityRecordKey, .notice (.recordRemoved id cause),
          .attributeRemoved WellKnown.identityRecordKey] with
        store := h.store.removeAttribute id WellKnown.identityRecordKey }) := by
  rw [recallFrom, bind_apply, attribute?_works reads]
  simp only [stored, corrupt, bind_apply, lift_apply, note_apply, having_having]
  rw [removeAttribute_works (by simpa using removes), having_having]
  rfl

end

/-- What looking for a cached identity comes to. -/
inductive Recalled (h : Host) : Except ExchangeError (Option IdentityRecord) → Host → Prop
  | lookupFails (fails : h.exchange.outage.sessionLookup = some e) :
    Recalled h (.error e) (h.having [.sessionRequested false])
  | noSession (works : h.exchange.outage.sessionLookup = none) (absent : h.currentSession = none) :
    Recalled h (.ok none) (h.having [.sessionRequested false])
  | readFails (works : h.exchange.outage.sessionLookup = none)
    (found : h.currentSession = some s) (fails : h.exchange.outage.attributeRead = some e) :
    Recalled h (.error e)
      (h.having [.sessionRequested false, .attributeRead WellKnown.identityRecordKey])
  | noRecord (works : h.exchange.outage.sessionLookup = none) (found : h.currentSession = some s)
    (reads : h.exchange.outage.attributeRead = none)
    (absent : h.store.attribute? s.id WellKnown.identityRecordKey = none) :
    Recalled h (.ok none)
      (h.having [.sessionRequested false, .attributeRead WellKnown.identityRecordKey])
  | restored (works : h.exchange.outage.sessionLookup = none) (found : h.currentSession = some s)
    (reads : h.exchange.outage.attributeRead = none)
    (stored : h.store.attribute? s.id WellKnown.identityRecordKey = some value)
    (valid : IdentityRecord.decode value = .ok r) :
    Recalled h (.ok (some r))
      (h.having [.sessionRequested false, .attributeRead WellKnown.identityRecordKey])
  | removalFails (works : h.exchange.outage.sessionLookup = none)
    (found : h.currentSession = some s) (reads : h.exchange.outage.attributeRead = none)
    (stored : h.store.attribute? s.id WellKnown.identityRecordKey = some value)
    (corrupt : IdentityRecord.decode value = .error cause)
    (fails : h.exchange.outage.attributeRemoval = some e) :
    Recalled h (.error e)
      (h.having [.sessionRequested false, .attributeRead WellKnown.identityRecordKey,
        .notice (.recordRemoved s.id cause), .attributeRemoved WellKnown.identityRecordKey])
  | removed (works : h.exchange.outage.sessionLookup = none) (found : h.currentSession = some s)
    (reads : h.exchange.outage.attributeRead = none)
    (stored : h.store.attribute? s.id WellKnown.identityRecordKey = some value)
    (corrupt : IdentityRecord.decode value = .error cause)
    (removes : h.exchange.outage.attributeRemoval = none) :
    Recalled h (.ok none)
      { h.having [.sessionRequested false, .attributeRead WellKnown.identityRecordKey,
          .notice (.recordRemoved s.id cause), .attributeRemoved WellKnown.identityRecordKey] with
        store := h.store.removeAttribute s.id WellKnown.identityRecordKey }

theorem recall_cases (h : Host) : Recalled h (Host.recall h).1 (Host.recall h).2 := by
  cases lookup : h.exchange.outage.sessionLookup with
  | some e =>
    have run : Host.recall h = (.error e, h.having [.sessionRequested false]) := by
      rw [Host.recall, bind_apply, session_fails (by simpa using lookup)]
    rw [run]
    exact .lookupFails lookup
  | none =>
    cases found : h.currentSession with
    | none =>
      have run : Host.recall h = (.ok none, h.having [.sessionRequested false]) := by
        rw [Host.recall, bind_apply, session_absent (by simpa using lookup) found rfl]
        rfl
      rw [run]
      exact .noSession lookup found
    | some s =>
      have attached : Host.recall h = recallFrom s.id (h.having [.sessionRequested false]) := by
        rw [Host.recall, bind_apply, session_existing (by simpa using lookup) found]
      rw [attached]
      cases reading : h.exchange.outage.attributeRead with
      | some e =>
        rw [recallFrom_readFails (by simpa using reading), having_having]
        exact .readFails lookup found reading
      | none =>
        have reads : (h.having [.sessionRequested false]).exchange.outage.attributeRead = none :=
          reading
        cases stored : h.store.attribute? s.id WellKnown.identityRecordKey with
        | none =>
          rw [recallFrom_noRecord reads stored, having_having]
          exact .noRecord lookup found reading stored
        | some value =>
          cases decoded : IdentityRecord.decode value with
          | ok r =>
            rw [recallFrom_restored reads stored decoded, having_having]
            exact .restored lookup found reading stored decoded
          | error cause =>
            cases removal : h.exchange.outage.attributeRemoval with
            | some e =>
              rw [recallFrom_removalFails reads stored decoded removal, having_having]
              exact .removalFails lookup found reading stored decoded removal
            | none =>
              rw [recallFrom_removed reads stored decoded removal, having_having]
              exact .removed lookup found reading stored decoded removal

/-- How the session is come by that a record goes into: it is there, or it is made. -/
inductive Attached (h : Host) : String → Host → Prop
  | existing (found : h.currentSession = some s) : Attached h s.id h
  | made (absent : h.currentSession = none) (granted : h.exchange.outage.withholds = false) :
    Attached h (createSession h).1 (createSession h).2

/-- What storing a record comes to. -/
inductive Remembered (r : IdentityRecord) (h : Host) : Except ExchangeError Unit → Host → Prop
  | sessionFails (fails : h.exchange.outage.sessionCreation = some e) :
    Remembered r h (.error e) (h.having [.sessionRequested true])
  | withheld (works : h.exchange.outage.sessionCreation = none) (absent : h.currentSession = none)
    (refused : h.exchange.outage.withholds = true) :
    Remembered r h (.error sessionNotCreated) (h.having [.sessionRequested true])
  | writeFails (id : String) (works : h.exchange.outage.sessionCreation = none)
    (attached : Attached (h.having [.sessionRequested true]) id next)
    (fails : h.exchange.outage.attributeWrite = some e) :
    Remembered r h (.error e)
      (next.having [.notice (.recordStored id r.identity.displayName),
        .attributeWritten WellKnown.identityRecordKey r.encode])
  | written (id : String) (works : h.exchange.outage.sessionCreation = none)
    (attached : Attached (h.having [.sessionRequested true]) id next)
    (writes : h.exchange.outage.attributeWrite = none) :
    Remembered r h (.ok ())
      { next.having [.notice (.recordStored id r.identity.displayName),
          .attributeWritten WellKnown.identityRecordKey r.encode] with
        store := next.store.setAttribute id WellKnown.identityRecordKey r.encode }

theorem Attached.outage {h next : Host} {id : String} (attached : Attached h id next) :
    next.exchange.outage = h.exchange.outage := by
  cases attached with
  | existing found => rfl
  | made absent granted => rfl

theorem remember_cases (r : IdentityRecord) (h : Host) :
    Remembered r h (remember r h).1 (remember r h).2 := by
  have store {id : String} {next : Host}
      (works : h.exchange.outage.sessionCreation = none)
      (attached : Attached (h.having [.sessionRequested true]) id next)
      (run : session true h = (.ok (some id), next)) :
      Remembered r h (remember r h).1 (remember r h).2 := by
    have outage : next.exchange.outage = h.exchange.outage := attached.outage
    rw [remember, bind_apply, run]
    simp only [bind_apply, lift_apply, note_apply]
    cases writing : h.exchange.outage.attributeWrite with
    | some e =>
      rw [setAttribute_fails (by simpa [outage] using writing), having_having]
      exact .writeFails id works attached writing
    | none =>
      rw [setAttribute_works (by simpa [outage] using writing), having_having]
      exact .written id works attached writing
  cases creation : h.exchange.outage.sessionCreation with
  | some e =>
    rw [remember, bind_apply, session_fails (by simpa using creation)]
    exact .sessionFails creation
  | none =>
    cases found : h.currentSession with
    | some s =>
      exact store creation (.existing found) (session_existing (by simpa using creation) found)
    | none =>
      cases withholding : h.exchange.outage.withholds with
      | true =>
        rw [remember, bind_apply,
          session_absent (by simpa using creation) found (by simp [withholding])]
        exact .withheld creation found withholding
      | false =>
        exact store creation (.made found withholding) (session_made creation found withholding)

end RequestAuth.Host
