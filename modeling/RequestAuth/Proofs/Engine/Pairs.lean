import RequestAuth.Proofs.Engine.Call
import RequestAuth.Proofs.Negotiation.Answer

/-! Hosts in pairs. An activity keeps a relation of hosts if it answers the same on related ones and
leaves them related. A relation that the operations of a host keep is kept by all that the engine
does, except that what is asked of a provider may differ with the request. -/
namespace RequestAuth

namespace Host

/-- The activity answers the same on related hosts, which remain related. -/
def Keeps (R : Host → Host → Prop) (act : Hosted α) : Prop :=
  ∀ h k, R h k → (act k).1 = (act h).1 ∧ R (act h).2 (act k).2

variable {R : Host → Host → Prop}

section Combinators

theorem Keeps.pure (a : α) : Keeps R (pure a : Hosted α) := fun _ _ related => ⟨rfl, related⟩

theorem Keeps.bind {act : Hosted α} {next : α → Hosted β} (first : Keeps R act)
    (later : ∀ a, Keeps R (next a)) : Keeps R (act >>= next) := by
  intro h k related
  obtain ⟨same, after⟩ := first h k related
  change (next (act k).1 (act k).2).1 = (next (act h).1 (act h).2).1 ∧
    R (next (act h).1 (act h).2).2 (next (act k).1 (act k).2).2
  rw [same]
  exact later _ _ _ after

theorem Keeps.lift {act : Hosted α} (keeps : Keeps R act) :
    Keeps R (liftM act : ExceptT ε Hosted α).run :=
  Keeps.bind keeps fun _ => Keeps.pure _

theorem Keeps.throw (e : ε) : Keeps R (throw e : ExceptT ε Hosted α).run := Keeps.pure _

theorem Keeps.ebind {act : ExceptT ε Hosted α} {next : α → ExceptT ε Hosted β}
    (first : Keeps R act.run) (later : ∀ a, Keeps R (next a).run) :
    Keeps R (act >>= next).run := by
  change Keeps R (act.run >>= ExceptT.bindCont next)
  apply Keeps.bind first
  intro ended
  cases ended with
  | error e => exact Keeps.pure _
  | ok a => exact later a

/-- What is read off a host has to make no difference between related ones. -/
theorem Keeps.reading {next : Host → ExceptT ε Hosted α} (keeps : ∀ h, Keeps R (next h).run)
    (same : ∀ h k, R h k → next k = next h) : Keeps R (get >>= next).run := by
  intro h k related
  change (next k k).1 = (next h h).1 ∧ R (next h h).2 (next k k).2
  rw [same h k related]
  exact keeps h h k related

theorem Keeps.exchanging {act : Exchanging α} (keeps : Keeps R act.run) :
    Keeps R (Engine.exchanging act).run := by
  intro h k related
  obtain ⟨same, after⟩ := keeps h k related
  exact ⟨congrArg (Except.mapError EngineError.exchange) same, after⟩

end Combinators

/-- The operations of a host keep the relation. -/
structure Fair (R : Host → Host → Prop) : Prop where
  outage : ∀ {h k}, R h k → k.exchange.outage = h.exchange.outage
  attached : ∀ {h k}, R h k → k.currentSession.map Session.id = h.currentSession.map Session.id
  journaled : ∀ {α : Type} {P : Event → Prop} {act : Journaled α}, Journaled.Adds P act →
    Keeps R (journaled act)
  created : Keeps R createSession
  modified : ∀ {h k} (id : String) (change : Session → Session),
    (∀ s, (change s).id = s.id ∧ (change s).live = s.live) → R h k →
      R { h with store := h.store.modify id change } { k with store := k.store.modify id change }
  answered : ∀ {h k} (code : Nat), R h k →
    R { h with exchange := { h.exchange with status := code } }
      { k with exchange := { k.exchange with status := code } }
  completed : ∀ {h k} (c : Completion), R h k →
    R { h with context := { h.context with completions := h.context.completions ++ [c] } }
      { k with context := { k.context with completions := k.context.completions ++ [c] } }

namespace Fair

theorem record (fair : Fair R) (e : Event) : Keeps R (Host.record e) :=
  fair.journaled (P := fun _ => True) (.record trivial)

theorem note (fair : Fair R) (n : Notice) : Keeps R (Host.note n) := fair.record (.notice n)

theorem failOn (fair : Fair R) (failure : Outage → Option ExchangeError) :
    Keeps R (Host.failOn failure).run := by
  refine Keeps.reading (fun h => ?_) fun h k related => by rw [fair.outage related]
  split
  · exact Keeps.throw _
  · exact Keeps.pure _

/-- An operation is journaled, may fail, and only then acts. -/
theorem operation (fair : Fair R) {e : Event} {failure : Outage → Option ExchangeError}
    {act : Exchanging α} (keeps : Keeps R act.run) :
    Keeps R (do Host.record e; Host.failOn failure; act : Exchanging α).run :=
  Keeps.ebind (Keeps.lift (fair.record e)) fun _ => Keeps.ebind (fair.failOn failure) fun _ => keeps

theorem setAttribute (fair : Fair R) (id key : String) (value : Json) :
    Keeps R (Host.setAttribute id key value).run := by
  apply fair.operation
  exact fun h k related => ⟨rfl, fair.modified id _ (fun _ => ⟨rfl, rfl⟩) related⟩

theorem removeAttribute (fair : Fair R) (id key : String) :
    Keeps R (Host.removeAttribute id key).run := by
  apply fair.operation
  exact fun h k related => ⟨rfl, fair.modified id _ (fun _ => ⟨rfl, rfl⟩) related⟩

theorem session (fair : Fair R) (create : Bool) : Keeps R (Host.session create).run := by
  apply fair.operation
  refine Keeps.reading (fun h => ?_) fun h k related => ?_
  · split
    · exact Keeps.pure _
    · refine Keeps.reading (fun h => ?_) fun h k related => by rw [fair.outage related]
      split
      · exact Keeps.ebind (Keeps.lift fair.created) fun _ => Keeps.pure _
      · exact Keeps.pure _
  · have attached := fair.attached related
    cases found : h.currentSession with
    | none =>
      simp only [found, Option.map_none, Option.map_eq_none_iff] at attached
      simp only [attached]
    | some s =>
      obtain ⟨t, there, named⟩ := Option.map_eq_some_iff.mp (found ▸ attached)
      simp only [there, named]

theorem setStatus (fair : Fair R) (code : Nat) : Keeps R (Host.setStatus code) :=
  Keeps.bind (fair.record _) fun _ _ _ related => ⟨rfl, fair.answered code related⟩

theorem complete (fair : Fair R) (c : Completion) : Keeps R (Host.complete c) :=
  Keeps.bind (fair.record _) fun _ _ _ related => ⟨rfl, fair.completed c related⟩

/-- Related hosts have the same value under the key. -/
def Reads (R : Host → Host → Prop) (id key : String) : Prop :=
  ∀ h k, R h k → k.store.attribute? id key = h.store.attribute? id key

theorem attribute? (fair : Fair R) {id key : String} (reads : Reads R id key) :
    Keeps R (Host.attribute? id key).run := by
  apply fair.operation
  refine Keeps.reading (fun h => Keeps.pure _) fun h k related => ?_
  rw [reads h k related]

theorem recallFrom (fair : Fair R) {id : String} (reads : Reads R id WellKnown.identityRecordKey) :
    Keeps R (Host.recallFrom id).run := by
  apply Keeps.ebind (fair.attribute? reads)
  intro stored
  cases stored with
  | none => exact Keeps.pure _
  | some value =>
    cases decoded : IdentityRecord.decode value with
    | ok r =>
      simp only [decoded]
      exact Keeps.pure _
    | error cause =>
      simp only [decoded]
      refine Keeps.ebind (Keeps.lift (fair.note _)) fun _ => ?_
      exact Keeps.ebind (fair.removeAttribute _ _) fun _ => Keeps.pure _

theorem currentSession_of_session {h next : Host} {id : String}
    (ran : Host.session false h = (.ok (some id), next)) :
    ∃ s, h.currentSession = some s ∧ s.id = id := by
  cases lookup : h.exchange.outage.sessionLookup with
  | some e =>
    have run : Host.session false h = (.error e, _) := session_fails (by simpa using lookup)
    cases run.symm.trans ran
  | none =>
    cases found : h.currentSession with
    | none =>
      have run : Host.session false h = (.ok none, _) :=
        session_absent (by simpa using lookup) found rfl
      cases run.symm.trans ran
    | some s =>
      have run : Host.session false h = (.ok (some s.id), _) :=
        session_existing (by simpa using lookup) found
      cases run.symm.trans ran
      exact ⟨s, rfl, rfl⟩

/-- Looking for a record goes by what the session of the exchange has. -/
theorem recalls (fair : Fair R) {h k : Host}
    (reads : ∀ s, h.currentSession = some s → Reads R s.id WellKnown.identityRecordKey)
    (related : R h k) :
    (Host.recall k).1 = (Host.recall h).1 ∧ R (Host.recall h).2 (Host.recall k).2 := by
  obtain ⟨same, after⟩ := fair.session false h k related
  change (Host.session false k).1 = (Host.session false h).1 at same
  change R (Host.session false h).2 (Host.session false k).2 at after
  rw [Host.recall, Host.bind_apply, Host.bind_apply]
  rcases here : Host.session false h with ⟨answer, next⟩
  rcases there : Host.session false k with ⟨answer', next'⟩
  rw [here, there] at same after
  obtain rfl : answer' = answer := same
  rcases answer' with cause | _ | id
  · exact ⟨rfl, after⟩
  · exact ⟨rfl, after⟩
  · obtain ⟨s, found, rfl⟩ := currentSession_of_session here
    exact fair.recallFrom (reads s found) next next' after

theorem remember (fair : Fair R) (r : IdentityRecord) : Keeps R (Host.remember r).run := by
  apply Keeps.ebind (fair.session true)
  intro attached
  cases attached with
  | none => exact Keeps.throw _
  | some id =>
    exact Keeps.ebind (Keeps.lift (fair.note _)) fun _ => fair.setAttribute _ _ _

end Fair
end Host

namespace Engine

open Host

variable {R : Host → Host → Prop}

theorem keeps_conclude (fair : Fair R) (e : Engine) (response : Response)
    (handler : CallbackHandler) : Keeps R (e.conclude response handler).run := by
  have outcome : Keeps R (response.outcome e.mechanism
      (liftM (journaled handler.authorizedIdentity) : Engaged Identity)).run := by
    unfold Response.outcome
    split
    · exact Keeps.ebind (Keeps.lift (fair.journaled handler.authorizedIdentity_adds))
        fun _ => Keeps.pure _
    · exact Keeps.pure _
  apply Keeps.ebind outcome
  intro decided
  cases decided with
  | authenticated identity authType register =>
    have announce : Keeps R (ExceptT.run (do
        Host.note (.authenticated identity.displayName authType)
        Host.complete (completion identity authType)
        return true : Engaged Bool)) :=
      Keeps.ebind (Keeps.lift (fair.note _)) fun _ =>
        Keeps.ebind (Keeps.lift (fair.complete _)) fun _ => Keeps.pure _
    cases register with
    | true => exact Keeps.ebind (Keeps.exchanging (fair.remember _)) fun _ => announce
    | false => exact announce
  | sessionOnly identity authType =>
    exact Keeps.ebind (Keeps.exchanging (fair.remember _)) fun _ => Keeps.pure _
  | notAuthenticated => exact Keeps.pure _

theorem keeps_settle (fair : Fair R) (answer : Except EngineError Bool) :
    Keeps R (settle answer).run := by
  cases answer with
  | ok authenticated => exact Keeps.pure _
  | error cause =>
    cases cause with
    | exchange cause => exact Keeps.throw _
    | negotiation cause =>
      exact Keeps.ebind (Keeps.lift (fair.note _)) fun _ =>
        Keeps.ebind (Keeps.lift (fair.setStatus _)) fun _ => Keeps.pure _

/-- A record that is found is announced. -/
theorem keeps_restore (fair : Fair R) (identity : Identity) (authType : AuthType) :
    Keeps R (do
      Host.note (.recordRestored identity.displayName)
      Host.complete (completion identity authType) : Hosted Unit) :=
  Keeps.bind (fair.note _) fun _ => fair.complete _

/-- Calls of the engine on related hosts end the same, whichever providers they ask, if it makes no
difference whether one is asked or the other. -/
theorem authenticateWith_keeps (fair : Fair R) {e : Engine} {p p' : Provider} {h k : Host}
    (reads : ∀ s, h.currentSession = some s → Fair.Reads R s.id WellKnown.identityRecordKey)
    (consults : ∀ h k, R h k →
      (e.consult p' k).1 = (e.consult p h).1 ∧ R (e.consult p h).2 (e.consult p' k).2)
    (related : R h k) :
    (settle (e.authenticateWith p' k).1 (e.authenticateWith p' k).2).1 =
        (settle (e.authenticateWith p h).1 (e.authenticateWith p h).2).1 ∧
      R (settle (e.authenticateWith p h).1 (e.authenticateWith p h).2).2
        (settle (e.authenticateWith p' k).1 (e.authenticateWith p' k).2).2 := by
  obtain ⟨same, looked⟩ := fair.recalls reads related
  rw [authenticateWith_eq, authenticateWith_eq]
  generalize Host.recall h = here at same looked ⊢
  generalize Host.recall k = there at same looked ⊢
  obtain ⟨answer, next⟩ := here
  obtain ⟨answer', next'⟩ := there
  obtain rfl : answer' = answer := same
  rcases answer' with cause | _ | r
  · exact keeps_settle fair _ next next' looked
  · obtain ⟨agreed, after⟩ := consults next next' looked
    simp only [agreed]
    exact keeps_settle fair _ _ _ after
  · have announced := keeps_restore fair r.identity (r.authType.getD e.mechanism) next next' looked
    exact keeps_settle fair _ _ _ announced.2

end Engine
end RequestAuth
