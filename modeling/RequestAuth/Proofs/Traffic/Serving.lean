import RequestAuth.Proofs.Traffic.Ledger

/-! One request on a store, followed through the endings of a call to what the ledger has for it. -/
namespace RequestAuth

open Host

namespace Event

/-- Neither a call of a provider nor a write to the reserved attribute. -/
def Unseen (x : Event) : Prop := x.call? = none ∧ x.written? = none

theorem Looking.unseen {x : Event} (h : x.Looking) : x.Unseen := by
  cases x <;> simp_all [Looking, Unseen, call?, written?]

theorem Consulting.unseen {x : Event} (h : x.Consulting) : x.Unseen := by
  cases x <;> simp_all [Consulting, Unseen, call?, written?]

theorem Negotiating.unwritten {x : Event} (h : x.Negotiating) : x.written? = none := by
  cases x <;> simp_all [Negotiating, Consulting, call?, response?, written?]

theorem calls_of_unseen {es : List Event} (unseen : ∀ x ∈ es, x.Unseen) :
    es.filterMap call? = [] :=
  List.filterMap_eq_nil_iff.mpr fun x member => (unseen x member).1

theorem writes_of_unseen {es : List Event} (unseen : ∀ x ∈ es, x.Unseen) :
    es.filterMap written? = [] :=
  List.filterMap_eq_nil_iff.mpr fun x member => (unseen x member).2

/-- Of the events of storing a record, only the write is seen. -/
theorem seen_of_writing (id : String) (r : IdentityRecord) :
    (writing id r).filterMap call? = [] ∧ (writing id r).filterMap written? = [r.encode] := by
  refine ⟨rfl, ?_⟩
  simp [writing, List.filterMap_cons, written?]

/-- Nothing is seen of the end of a call in its journal. -/
theorem unseen_of_ending (n : Notice) (c : Completion) :
    [notice n, completed c].filterMap call? = [] ∧
      [notice n, completed c].filterMap written? = [] :=
  ⟨rfl, rfl⟩

end Event

namespace Visit

variable {v : Visit} {store : SessionStore} {n : Notice}

/-- The session that a request finds is the one it presents, with what that has cached. -/
theorem session_found {es : List Event} {s : Session} (kept : store.Kept)
    (found : ((v.host store).having es).currentSession = some s) :
    store.attribute? s.id WellKnown.identityRecordKey = store.record? v.presented := by
  obtain ⟨id, presented, live⟩ := Option.bind_eq_some_iff.mp found
  have presented : v.presented = some id := presented
  have live : store.find? id = some s := live
  have named : s.id = id := SessionStore.find?_id live
  rw [presented, SessionStore.record?_of_find? live, named]
  exact SessionStore.attribute?_of_find? kept.distinct live WellKnown.identityRecordKey

/-- A record that is recalled is the login in the ledger, and recalling it changes nothing. -/
theorem recalled_some {r : IdentityRecord} {next : Host} (kept : store.Kept)
    (recalled : Recalled ((v.host store).having [.notice n]) (.ok (some r)) next) :
    ∃ es login, next = (v.host store).having es ∧ (∀ x ∈ es, x.Unseen) ∧ r = login.record ∧
      store.ledger.login? v.presented = some login := by
  cases recalled with
  | restored works found reads stored valid =>
    have stored := (session_found kept found).symm.trans stored
    obtain ⟨login, rfl⟩ := kept.login_of_record? stored
    rw [IdentityRecord.decode_encode] at valid
    cases valid
    refine ⟨_, login, having_having _ _ _, ?_, rfl, ?_⟩
    · simp [Event.Unseen, Event.call?, Event.written?]
    · simp [SessionStore.login?_eq, stored]

/-- When no record is recalled there is no login in the ledger; nothing unreadable is ever found
that would have to be removed. -/
theorem recalled_none {next : Host} (kept : store.Kept)
    (recalled : Recalled ((v.host store).having [.notice n]) (.ok none) next) :
    ∃ es, next = (v.host store).having es ∧ (∀ x ∈ es, x.Unseen) ∧
      store.ledger.login? v.presented = none := by
  cases recalled with
  | noSession works absent =>
    have absent : v.presented.bind store.find? = none := absent
    refine ⟨_, having_having _ _ _, ?_, ?_⟩
    · simp [Event.Unseen, Event.call?, Event.written?]
    · simp [SessionStore.login?_eq, SessionStore.record?, absent]
  | noRecord works found reads absent =>
    have absent := (session_found kept found).symm.trans absent
    refine ⟨_, having_having _ _ _, ?_, ?_⟩
    · simp [Event.Unseen, Event.call?, Event.written?]
    · simp [SessionStore.login?_eq, absent]
  | removed works found reads stored corrupt removes =>
    have stored := (session_found kept found).symm.trans stored
    obtain ⟨login, rfl⟩ := kept.login_of_record? stored
    rw [IdentityRecord.decode_encode] at corrupt
    cases corrupt

theorem recalled_error {cause : ExchangeError} {es : List Event} {next : Host} :
    ¬ Recalled ((v.host store).having es) (.error cause) next := by
  intro recalled
  cases recalled with
  | lookupFails fails => simp [host] at fails
  | readFails works found fails => simp [host] at fails
  | removalFails works found reads stored corrupt fails => simp [host] at fails

/-- What a provider answers does not depend on what happened before it is asked. -/
theorem asked {es : List Event} {answer : Except ProviderError Negotiated} {j : Journal}
    (ran : v.engine.ask v.provider ((v.host store).having es) = (answer, j)) :
    v.answer.1 = answer ∧ j = ⟨v.answer.2.ids, es ++ v.answer.2.events⟩ ∧
      v.answer.2.events.filterMap Event.written? = [] := by
  obtain ⟨found, drawn, added, -, only, -, runs⟩ :=
    Negotiation.run_answers v.engine.negotiation v.provider v.request v.required ⟨v.ids, 0⟩
  have alone : v.answer = (found, ⟨⟨v.ids, drawn⟩, added⟩) := runs []
  have here : v.engine.ask v.provider ((v.host store).having es) =
      (found, ⟨⟨v.ids, drawn⟩, es ++ added⟩) := runs es
  rw [here] at ran
  cases ran
  rw [alone]
  exact ⟨rfl, rfl, List.filterMap_eq_nil_iff.mpr fun x member => (only x member).unwritten⟩

/-- Whom a handler has established does not depend on what happened before either, and finding it
out is not seen. -/
theorem resolved {handler : CallbackHandler} {es : List Event} {identity : Identity} {j : Journal}
    (unseen : ∀ x ∈ es, x.Unseen) (unwritten : v.answer.2.events.filterMap Event.written? = [])
    (ran : handler.authorizedIdentity ⟨v.answer.2.ids, es ++ v.answer.2.events⟩ = (identity, j)) :
    (handler.authorizedIdentity v.answer.2).1 = identity ∧
      (handler.authorizedIdentity v.answer.2).2.ids = j.ids ∧
      j.events.filterMap Event.call? = v.calls ∧ j.events.filterMap Event.written? = [] := by
  obtain ⟨found, drawn, added, -, only, runs⟩ := handler.authorizedIdentity_adds v.answer.2.ids
  have alone : handler.authorizedIdentity v.answer.2 =
      (found, ⟨{ v.answer.2.ids with drawn }, v.answer.2.events ++ added⟩) :=
    runs v.answer.2.events
  have consulting : ∀ x ∈ added, x.Unseen := fun x member => (only x member).unseen
  rw [runs] at ran
  cases ran
  rw [alone]
  refine ⟨rfl, rfl, ?_, ?_⟩
  · simp [calls, Event.calls_of_unseen unseen, Event.calls_of_unseen consulting]
  · simp [unwritten, Event.writes_of_unseen unseen, Event.writes_of_unseen consulting]

theorem verdict_eq {response : Response} {handler : CallbackHandler}
    (answered : v.answer.1 = .ok (.validated response handler)) :
    v.verdict = some ⟨response, ⟨(handler.authorizedIdentity v.answer.2).1,
      response.resolvedAuthType v.engine.mechanism⟩,
      ((handler.authorizedIdentity v.answer.2).2.ids.ids
        (handler.authorizedIdentity v.answer.2).2.ids.drawn).text⟩ := by
  rcases answer : v.answer with ⟨found, j⟩
  rw [answer] at answered
  cases answered
  rw [verdict, answer]
  rfl

theorem verdict_none
    (unanswered : ∀ response handler, v.answer.1 ≠ .ok (.validated response handler)) :
    v.verdict = none := by
  rcases answer : v.answer with ⟨_ | _ | ⟨response, handler⟩, j⟩
  · rw [verdict, answer]
  · rw [verdict, answer]
  · exact absurd (congrArg Prod.fst answer) (unanswered response handler)

/-- Where a login is once it has been stored. -/
structure Entered (store : SessionStore) (j : Journal) (login : Login) (place : String)
    (last : Host) : Prop where
  events : ∃ id, last.journal.events = j.events ++ writing id login.record
  completions : last.context.completions = []
  attached : last.exchange.sessionId = some place
  stored : ∃ base, last.store =
      base.setAttribute place WellKnown.identityRecordKey login.record.encode ∧
    (base = store ∧ (store.find? place).isSome ∨ base = store.made place)

/-- The session memory never refuses, so that a login is always stored. -/
theorem remembered (v : Visit) (store : SessionStore) {identity : Identity} {authType : AuthType}
    {j : Journal} {result : Except ExchangeError Unit} {last : Host}
    (ended : Remembered ⟨identity, some authType⟩ { v.host store with journal := j } result last) :
    result = .ok () ∧ Entered store j ⟨identity, authType⟩
      (store.ledger.place v.presented (j.ids.ids j.ids.drawn).text) last := by
  cases ended with
  | sessionFails fails => simp [host] at fails
  | withheld works absent refused => simp [host] at refused
  | writeFails id works attached fails => simp [host] at fails
  | written id works attached writes =>
    refine ⟨rfl, ?_⟩
    cases attached with
    | @existing s found =>
      obtain ⟨id, presented, live⟩ := Option.bind_eq_some_iff.mp found
      have presented : v.presented = some id := presented
      have live : store.find? id = some s := live
      have named : s.id = id := SessionStore.find?_id live
      have listed : (store.ledger id).isSome := by simp [SessionStore.ledger_isSome, live]
      rw [presented, Ledger.place_live listed, named]
      refine ⟨⟨id, ?_⟩, rfl, presented, store, rfl, .inl ⟨rfl, by simp [live]⟩⟩
      simp [writing, Login.record]
    | made absent granted =>
      have unlisted : v.presented.bind store.ledger = none := by
        cases presented : v.presented with
        | none => rfl
        | some id =>
          have absent : store.find? id = none := by
            simpa [currentSession, host, presented] using absent
          simp [SessionStore.ledger, absent]
      rw [Ledger.place_absent unlisted]
      refine ⟨⟨(j.ids.ids j.ids.drawn).text, ?_⟩, rfl, rfl, _, rfl, .inr rfl⟩
      change _ ++ _ = _
      rw [(Attached.made absent granted).events, having_events, List.append_assoc]
      rfl

/-- A stored login is in the ledger. That the place of a new session was not taken is what the
freshness of its identifier says. -/
theorem Entered.stays {j : Journal} {login : Login} {place : String} {last : Host}
    (entered : Entered store j login place last) (kept : store.Kept)
    (fresh : last.store.Extends store) :
    last.store.ledger = store.ledger.set place (some (some login)) ∧ last.store.Kept := by
  obtain ⟨base, stored, ⟨rfl, live⟩ | rfl⟩ := entered.stored
  · rw [stored]
    exact ⟨SessionStore.ledger_setAttribute_login live login, kept.setAttribute_login place login⟩
  · have unused : store.Unused place := by
      refine fresh ⟨place, (∅ : TextMap Json).insert WellKnown.identityRecordKey
        login.record.encode, true⟩ ?_
      simp [stored, SessionStore.setAttribute, SessionStore.modify, SessionStore.made]
    have live : ((store.made place).find? place).isSome := by
      simp [SessionStore.find?_made unused]
    rw [stored, SessionStore.ledger_setAttribute_login live, SessionStore.ledger_made unused]
    refine ⟨?_, (kept.made unused).setAttribute_login place login⟩
    funext other
    simp only [Ledger.set]
    split
    · rfl
    · rfl

theorem Entered.seen {j : Journal} {login : Login} {place : String} {last : Host}
    {asked : List ProviderCall} (entered : Entered store j login place last)
    (called : j.events.filterMap Event.call? = asked)
    (unwritten : j.events.filterMap Event.written? = []) (result : Except ExchangeError Bool) :
    Seen.of result last = ⟨result, [], asked, [login.record.encode], some place⟩ := by
  obtain ⟨id, written⟩ := entered.events
  simp [Seen.of, written, entered.completions, entered.attached, called, unwritten,
    Event.seen_of_writing]

theorem seen_announcing (result : Except ExchangeError Bool) (h : Host) (c : Completion) :
    Seen.of result ((h.having [.notice n]).announcing c) =
      { Seen.of result h with completions := h.context.completions ++ [c] } := by
  simp [Seen.of, announcing, Event.unseen_of_ending]

/-- Acting on a response is what the verdict says. -/
theorem concluded_refines {response : Response} {handler : CallbackHandler} {es : List Event}
    {result : Except ExchangeError Bool} {last : Host} (kept : store.Kept)
    (fresh : last.store.Extends store) (unseen : ∀ x ∈ es, x.Unseen)
    (miss : store.ledger.login? v.presented = none)
    (answered : v.answer.1 = .ok (.validated response handler))
    (unwritten : v.answer.2.events.filterMap Event.written? = [])
    (concluded : Engine.Concluded v.engine response handler
      { v.host store with journal := ⟨v.answer.2.ids, es ++ v.answer.2.events⟩ } result last) :
    (Seen.of result last, last.store.ledger) = store.ledger.visit v ∧ last.store.Kept := by
  have verdict := verdict_eq answered
  cases concluded with
  | unaccepted rejected =>
    have unregistered := Engine.not_registers_of_rejected rejected
    have unsuccessful : response.status ≠ .success := by
      intro status
      simp [Response.isAccepted, status] at rejected
    refine ⟨?_, kept⟩
    simp [Ledger.visit, miss, verdict, unregistered, unsuccessful, Seen.of, host, calls, unwritten,
      Event.calls_of_unseen unseen, Event.writes_of_unseen unseen]
  | announced identity j status unasked ran =>
    obtain ⟨same, ids, called, silent⟩ := resolved unseen unwritten ran
    have unregistered : ¬ response.Registers := by
      rintro ⟨-, asked⟩
      simp [unasked] at asked
    refine ⟨?_, kept⟩
    rw [seen_announcing]
    simp [Ledger.visit, miss, verdict, unregistered, status, Seen.of, host, called, silent, same,
      Login.completion]
  | unregistered identity j accepted asked ran stored =>
    obtain ⟨impossible, -⟩ := remembered v store stored
    cases impossible
  | registered identity j status asked ran stored =>
    obtain ⟨same, ids, called, silent⟩ := resolved unseen unwritten ran
    have registers : response.Registers := ⟨.inl status, asked⟩
    obtain ⟨-, entered⟩ := remembered v store stored
    obtain ⟨stays, keeps⟩ := entered.stays kept fresh
    refine ⟨?_, keeps⟩
    rw [seen_announcing, entered.seen called silent, entered.completions]
    simp [Ledger.visit, miss, verdict, registers, status, same, ids, stays, Login.completion]
  | deferred identity j status asked ran stored =>
    obtain ⟨same, ids, called, silent⟩ := resolved unseen unwritten ran
    have registers : response.Registers := ⟨.inr status, asked⟩
    obtain ⟨-, entered⟩ := remembered v store stored
    obtain ⟨stays, keeps⟩ := entered.stays kept fresh
    refine ⟨?_, keeps⟩
    rw [entered.seen called silent, stays]
    simp [Ledger.visit, miss, verdict, registers, status, same, ids]

theorem ended_refines {result : Except ExchangeError Bool} {last : Host} (kept : store.Kept)
    (fresh : last.store.Extends store)
    (ended : Engine.Ended v.engine v.provider ((v.host store).having [.notice n]) result last) :
    (Seen.of result last, last.store.ledger) = store.ledger.visit v ∧ last.store.Kept := by
  cases ended with
  | unrecalled next recalled => exact absurd recalled recalled_error
  | restored next r recalled =>
    obtain ⟨es, login, rfl, unseen, rfl, hit⟩ := recalled_some kept recalled
    have announced : Engine.completion login.record.identity
        (login.record.authType.getD v.engine.mechanism) = login.completion := rfl
    refine ⟨?_, kept⟩
    rw [seen_announcing, announced]
    simp [Ledger.visit, hit, Seen.of, host, Event.calls_of_unseen unseen,
      Event.writes_of_unseen unseen]
  | refused next cause j recalled ran =>
    obtain ⟨es, rfl, unseen, miss⟩ := recalled_none kept recalled
    obtain ⟨answered, rfl, unwritten⟩ := asked ran
    have verdict : v.verdict = none := verdict_none (by simp [answered])
    refine ⟨?_, kept⟩
    simp [Ledger.visit, miss, verdict, Seen.of, answering, host, calls, unwritten,
      Event.calls_of_unseen unseen, Event.writes_of_unseen unseen, Event.call?, Event.written?]
  | declined next j recalled ran =>
    obtain ⟨es, rfl, unseen, miss⟩ := recalled_none kept recalled
    obtain ⟨answered, rfl, unwritten⟩ := asked ran
    have verdict : v.verdict = none := verdict_none (by simp [answered])
    refine ⟨?_, kept⟩
    simp [Ledger.visit, miss, verdict, Seen.of, host, calls, unwritten,
      Event.calls_of_unseen unseen, Event.writes_of_unseen unseen]
  | concluded next response handler j recalled ran end_ =>
    obtain ⟨es, rfl, unseen, miss⟩ := recalled_none kept recalled
    obtain ⟨answered, rfl, unwritten⟩ := asked ran
    exact concluded_refines kept fresh unseen miss answered unwritten end_

/-- Serving one request is one step of the ledger. -/
theorem serve_refines (kept : store.Kept) (fresh : (v.serve store).2.store.Extends store) :
    (v.seen store, (v.serve store).2.store.ledger) = store.ledger.visit v ∧
      (v.serve store).2.store.Kept := by
  have unauthenticated : (v.host store).context.isAuthenticated = false := rfl
  obtain ⟨n, ended⟩ := Engine.authenticate_cases v.selected unauthenticated
  exact ended_refines kept fresh ended

end Visit

end RequestAuth
