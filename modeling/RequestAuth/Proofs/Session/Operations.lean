import RequestAuth.Proofs.Session.Table
import RequestAuth.Session.Host

/-! The operations of the host as equations: the answer and the host afterwards, once it is known
whether the operation works. -/
namespace RequestAuth

namespace Host

theorem bind_apply (act : Exchanging α) (next : α → Exchanging β) (h : Host) :
    (act >>= next) h =
      match act h with
      | (.ok a, h) => next a h
      | (.error e, h) => (.error e, h) := by
  change ExceptT.bindCont next (act h).1 (act h).2 = _
  rcases act h with ⟨_ | _, _⟩ <;> rfl

theorem pure_apply (a : α) (h : Host) : (pure a : Exchanging α) h = (.ok a, h) := rfl

theorem throw_apply (e : ExchangeError) (h : Host) :
    (throw e : Exchanging α) h = (.error e, h) := rfl

theorem get_apply (h : Host) : (get : Exchanging Host) h = (.ok h, h) := rfl

theorem modify_apply (change : Host → Host) (h : Host) :
    (modify change : Exchanging Unit) h = (.ok (), change h) := rfl

theorem lift_apply (act : Hosted α) (h : Host) :
    (liftM act : Exchanging α) h = (.ok (act h).1, (act h).2) := rfl

/-- The host with more in its journal, and nothing else changed. -/
def having (h : Host) (added : List Event) : Host :=
  { h with journal := { h.journal with events := h.journal.events ++ added } }

theorem record_apply (e : Event) (h : Host) : record e h = ((), h.having [e]) := rfl

theorem note_apply (n : Notice) (h : Host) : note n h = ((), h.having [.notice n]) := rfl

@[simp] theorem having_store (h : Host) (added : List Event) :
    (h.having added).store = h.store := rfl

@[simp] theorem having_exchange (h : Host) (added : List Event) :
    (h.having added).exchange = h.exchange := rfl

@[simp] theorem having_context (h : Host) (added : List Event) :
    (h.having added).context = h.context := rfl

@[simp] theorem having_events (h : Host) (added : List Event) :
    (h.having added).journal.events = h.journal.events ++ added := rfl

@[simp] theorem having_ids (h : Host) (added : List Event) :
    (h.having added).journal.ids = h.journal.ids := rfl

@[simp] theorem having_currentSession (h : Host) (added : List Event) :
    (h.having added).currentSession = h.currentSession := rfl

@[simp] theorem having_having (h : Host) (first later : List Event) :
    (h.having first).having later = h.having (first ++ later) := by
  simp [having]

/-- The host with the request announced as authenticated. -/
def announcing (h : Host) (c : Completion) : Host :=
  { h.having [.completed c] with
    context := { h.context with completions := h.context.completions ++ [c] } }

@[simp] theorem announcing_store (h : Host) (c : Completion) :
    (h.announcing c).store = h.store := rfl

theorem announced_events (h : Host) (n : Notice) (c : Completion) :
    ((h.having [.notice n]).announcing c).journal.events =
      h.journal.events ++ [.notice n, .completed c] := by
  simp [announcing]

theorem complete_apply (c : Completion) (h : Host) : complete c h = ((), h.announcing c) := rfl

/-- The host with the status of its response set. -/
def answering (h : Host) (code : Nat) : Host :=
  { h.having [.statusSet code] with exchange := { h.exchange with status := code } }

theorem journaled_apply (act : Journaled α) (h : Host) :
    journaled act h = ((act h.journal).1, { h with journal := (act h.journal).2 }) := rfl

theorem failOn_none {failure : Outage → Option ExchangeError} {h : Host}
    (works : failure h.exchange.outage = none) : failOn failure h = (.ok (), h) := by
  simp only [failOn, bind_apply, get_apply, works, pure_apply]

theorem failOn_some {failure : Outage → Option ExchangeError} {h : Host} {e : ExchangeError}
    (fails : failure h.exchange.outage = some e) : failOn failure h = (.error e, h) := by
  simp only [failOn, bind_apply, get_apply, fails, throw_apply]

theorem createSession_apply (h : Host) :
    createSession h = ((h.journal.ids.ids h.journal.ids.drawn).text,
      { h with
        store := h.store.made (h.journal.ids.ids h.journal.ids.drawn).text
        exchange :=
          { h.exchange with sessionId := some (h.journal.ids.ids h.journal.ids.drawn).text }
        journal :=
          ⟨{ h.journal.ids with drawn := h.journal.ids.drawn + 1 }, h.journal.events⟩ }) := rfl

theorem session_fails {create : Bool} {h : Host} {e : ExchangeError}
    (fails : (if create then h.exchange.outage.sessionCreation
      else h.exchange.outage.sessionLookup) = some e) :
    session create h = (.error e, h.having [.sessionRequested create]) := by
  simp only [session, bind_apply, lift_apply, record_apply]
  rw [failOn_some (e := e) (by simpa using fails)]

theorem session_existing {create : Bool} {h : Host} {s : Session}
    (works : (if create then h.exchange.outage.sessionCreation
      else h.exchange.outage.sessionLookup) = none) (found : h.currentSession = some s) :
    session create h = (.ok (some s.id), h.having [.sessionRequested create]) := by
  simp only [session, bind_apply, lift_apply, record_apply]
  rw [failOn_none (by simpa using works)]
  simp only [get_apply, having_currentSession, found, pure_apply]

/-- Without a session, none is made unless one is asked for and the server grants it. -/
theorem session_absent {create : Bool} {h : Host}
    (works : (if create then h.exchange.outage.sessionCreation
      else h.exchange.outage.sessionLookup) = none) (absent : h.currentSession = none)
    (refused : (create && !h.exchange.outage.withholds) = false) :
    session create h = (.ok none, h.having [.sessionRequested create]) := by
  simp only [session, bind_apply, lift_apply, record_apply]
  rw [failOn_none (by simpa using works)]
  simp only [get_apply, having_currentSession, absent, having_exchange, refused, pure_apply,
    bind_apply, Bool.false_eq_true, if_false]

theorem session_made {h : Host} (works : h.exchange.outage.sessionCreation = none)
    (absent : h.currentSession = none) (granted : h.exchange.outage.withholds = false) :
    session true h = (.ok (some (createSession (h.having [.sessionRequested true])).1),
      (createSession (h.having [.sessionRequested true])).2) := by
  simp only [session, bind_apply, lift_apply, record_apply]
  rw [failOn_none (by simpa using works)]
  simp only [get_apply, having_currentSession, absent, having_exchange, granted, pure_apply,
    bind_apply, Bool.true_and, Bool.not_false, if_true, lift_apply]

theorem attribute?_fails {h : Host} {id key : String} {e : ExchangeError}
    (fails : h.exchange.outage.attributeRead = some e) :
    attribute? id key h = (.error e, h.having [.attributeRead key]) := by
  simp only [attribute?, bind_apply, lift_apply, record_apply]
  rw [failOn_some (e := e) (by simpa using fails)]

theorem attribute?_works {h : Host} {id key : String}
    (works : h.exchange.outage.attributeRead = none) :
    attribute? id key h = (.ok (h.store.attribute? id key), h.having [.attributeRead key]) := by
  simp only [attribute?, bind_apply, lift_apply, record_apply]
  rw [failOn_none (by simpa using works)]
  simp only [get_apply, pure_apply, having_store]

theorem setAttribute_fails {h : Host} {id key : String} {value : Json} {e : ExchangeError}
    (fails : h.exchange.outage.attributeWrite = some e) :
    setAttribute id key value h = (.error e, h.having [.attributeWritten key value]) := by
  simp only [setAttribute, bind_apply, lift_apply, record_apply]
  rw [failOn_some (e := e) (by simpa using fails)]

theorem setAttribute_works {h : Host} {id key : String} {value : Json}
    (works : h.exchange.outage.attributeWrite = none) :
    setAttribute id key value h = (.ok (),
      { h.having [.attributeWritten key value] with
        store := h.store.setAttribute id key value }) := by
  simp only [setAttribute, bind_apply, lift_apply, record_apply]
  rw [failOn_none (by simpa using works)]
  simp only [modify_apply, having_store]

theorem removeAttribute_fails {h : Host} {id key : String} {e : ExchangeError}
    (fails : h.exchange.outage.attributeRemoval = some e) :
    removeAttribute id key h = (.error e, h.having [.attributeRemoved key]) := by
  simp only [removeAttribute, bind_apply, lift_apply, record_apply]
  rw [failOn_some (e := e) (by simpa using fails)]

theorem removeAttribute_works {h : Host} {id key : String}
    (works : h.exchange.outage.attributeRemoval = none) :
    removeAttribute id key h = (.ok (),
      { h.having [.attributeRemoved key] with store := h.store.removeAttribute id key }) := by
  simp only [removeAttribute, bind_apply, lift_apply, record_apply]
  rw [failOn_none (by simpa using works)]
  simp only [modify_apply, having_store]

end Host
end RequestAuth
