import RequestAuth.Proofs.Engine.Course
import RequestAuth.Proofs.Session.Footprint

/-! What one call leaves alone. It keeps to the session of the exchange, and there to the reserved
attribute; it removes no session, and makes one only for a response that asks for it. -/
namespace RequestAuth

namespace Host

/-- The identifiers still to be handed out are in use nowhere. -/
def Supplied (h : Host) : Prop :=
  ∀ n, h.journal.ids.drawn ≤ n → h.store.Unused (h.journal.ids.ids n).text

theorem Issued.unused {h : Host} {place : Option String} {drawn : Nat} {s : Session}
    (issued : h.Issued place drawn s) (supplied : h.Supplied) : h.store.Unused s.id := by
  obtain ⟨n, from_, -, named⟩ := issued.identifier
  rw [named]
  exact supplied n from_

end Host

namespace Engine

open Host

theorem ask_draws {e : Engine} {p : Provider} {h : Host} {answer : Except ProviderError Negotiated}
    {j : Journal} (asked : e.ask p h = (answer, j)) :
    j.ids.ids = h.journal.ids.ids ∧ h.journal.ids.drawn ≤ j.ids.drawn := by
  obtain ⟨found, drawn, added, onward, -, -, runs⟩ :=
    Negotiation.run_answers e.negotiation p h.exchange.request h.context.required h.journal.ids
  have run := runs h.journal.events
  have same : (found, (⟨{ h.journal.ids with drawn }, h.journal.events ++ added⟩ : Journal)) =
      (answer, j) := run.symm.trans asked
  cases same
  exact ⟨rfl, onward⟩

/-- Acting on a response leaves the sessions alone, or it was to register. -/
theorem Concluded.sessions {e : Engine} {response : Response} {handler : CallbackHandler}
    {h last : Host} {result : Except ExchangeError Bool}
    (concluded : Concluded e response handler h result last) :
    (last.exchange.sessionId = h.exchange.sessionId ∧ last.store = h.store) ∨
      response.Registers ∧
        h.Framed last.exchange.sessionId last.store last.journal.ids.drawn := by
  have remembering {r : IdentityRecord} {identity : Identity} {j : Journal} {next : Host}
      {stored : Except ExchangeError Unit}
      (resolved : handler.authorizedIdentity h.journal = (identity, j))
      (remembered : Remembered r { h with journal := j } stored next) :
      h.Framed next.exchange.sessionId next.store next.journal.ids.drawn := by
    obtain ⟨source, onward⟩ := handler.authorizedIdentity_adds.draws h.journal
    rw [resolved] at source onward
    have untouched : h.Healed ({ h with journal := j } : Host).store := .inl rfl
    exact untouched.framed rfl source onward remembered.framed
  cases concluded with
  | unaccepted rejected => exact .inl ⟨rfl, rfl⟩
  | announced identity j status unasked resolved => exact .inl ⟨rfl, rfl⟩
  | unregistered identity j accepted asked resolved remembered =>
    have framed := remembering resolved remembered
    exact .inr ⟨registers_of_accepted accepted asked, framed⟩
  | registered identity j status asked resolved remembered =>
    have framed := remembering resolved remembered
    exact .inr ⟨⟨.inl status, asked⟩, framed⟩
  | deferred identity j status asked resolved remembered =>
    have framed := remembering resolved remembered
    exact .inr ⟨⟨.inr status, asked⟩, framed⟩

theorem responded_mem {es : List Event} {r : Response}
    (answered : es.filterMap Event.response? = [r]) : .responded r ∈ es := by
  have counted : r ∈ es.filterMap Event.response? := by simp [answered]
  obtain ⟨x, member, found⟩ := List.mem_filterMap.mp counted
  cases x with
  | responded response =>
    cases found
    exact member
  | _ => cases found

/-- A call at most heals the session of the exchange, or a response of its provider was to
register. -/
theorem Ended.sessions {e : Engine} {p : Provider} {h last : Host}
    {result : Except ExchangeError Bool} (ended : Ended e p h result last) :
    (last.exchange.sessionId = h.exchange.sessionId ∧ h.Healed last.store) ∨
      (∃ added r, last.journal.events = h.journal.events ++ added ∧ .responded r ∈ added ∧
        r.Registers) ∧ h.Framed last.exchange.sessionId last.store last.journal.ids.drawn := by
  have looking {found : Except ExchangeError (Option IdentityRecord)} {next : Host}
      (recalled : Recalled h found next) :
      next.exchange.sessionId = h.exchange.sessionId ∧ h.Healed next.store := by
    obtain ⟨exchange, -, -, healed⟩ := recalled.kept
    exact ⟨congrArg Exchange.sessionId exchange, healed⟩
  cases ended with
  | unrecalled next recalled => exact .inl (looking recalled)
  | restored next r recalled =>
    have kept := looking recalled
    exact .inl kept
  | refused next cause j recalled asked =>
    have kept := looking recalled
    exact .inl kept
  | declined next j recalled asked =>
    have kept := looking recalled
    exact .inl kept
  | concluded next response handler j recalled asked end_ =>
    obtain ⟨attached, healed⟩ := looking recalled
    rcases end_.sessions with ⟨stays, same⟩ | ⟨registers, framed⟩
    · refine .inl ⟨stays.trans attached, ?_⟩
      rw [same]
      exact healed
    · obtain ⟨source, onward⟩ := ask_draws asked
      rw [recalled.kept.2.2.1] at source onward
      have before : h.Healed ({ next with journal := j } : Host).store := healed
      refine .inr ⟨?_, before.framed attached source onward framed⟩
      obtain ⟨first, grown, -⟩ := recalled.added
      obtain ⟨talk, more, -, answered⟩ := ask_added asked
      obtain ⟨resolving, finish, ending, -⟩ := end_.finish
      refine ⟨first ++ (talk ++ (resolving ++ finish)), response, ?_, ?_, registers⟩
      · simp [ending, more, grown]
      · simp [responded_mem answered]

/-- However a call ends, it leaves the host framed. -/
theorem authenticate_framed {e : Engine} {registry : Registry} {p : Provider} {h : Host}
    (selected : e.Selects registry p) (unauthenticated : h.context.isAuthenticated = false) :
    h.Framed (e.authenticate registry h).2.exchange.sessionId (e.authenticate registry h).2.store
      (e.authenticate registry h).2.journal.ids.drawn := by
  obtain ⟨n, ended⟩ := authenticate_cases selected unauthenticated
  have noted : h.Healed (h.having [.notice n]).store := .inl rfl
  rcases ended.sessions with ⟨attached, healed⟩ | ⟨-, framed⟩
  · refine .same attached ?_
    rw [attached]
    exact healed.spares
  · exact noted.framed rfl rfl (Nat.le_refl _) framed

/-- A call with these effects has kept to its session: `kept` are the sessions there were, `made`
the ones it has added. -/
structure Confined (h last : Host) (effects : List Event) (kept made : List Session) : Prop where
  sessions : last.store.sessions = kept ++ made
  spared : SessionStore.Spares last.exchange.sessionId h.store.sessions kept
  one : made.length ≤ 1
  attached : made = [] → last.exchange.sessionId = h.exchange.sessionId
  issued : ∀ s ∈ made, h.Issued last.exchange.sessionId last.journal.ids.drawn s
  unused : h.Supplied → ∀ s ∈ made, h.store.Unused s.id
  asked : made ≠ [] → ∃ r, .responded r ∈ effects ∧ r.Registers

theorem Confined.of_spares {h last : Host} {effects : List Event}
    (attached : last.exchange.sessionId = h.exchange.sessionId)
    (spared : SessionStore.Spares last.exchange.sessionId h.store.sessions last.store.sessions) :
    Confined h last effects last.store.sessions [] where
  sessions := (List.append_nil _).symm
  spared := spared
  one := Nat.zero_le 1
  attached _ := attached
  issued s member := by cases member
  unused _ s member := by cases member
  asked nonempty := absurd rfl nonempty

/-- Whatever the provider does, whatever the sessions hold and whichever operations fail, a call
that finds a provider keeps to its session. -/
theorem authenticate_confined {e : Engine} {registry : Registry} {p : Provider} {h : Host}
    (selected : e.Selects registry p) (unauthenticated : h.context.isAuthenticated = false) :
    ∃ effects kept made,
      (e.authenticate registry h).2.journal.events = h.journal.events ++ effects ∧
      Confined h (e.authenticate registry h).2 effects kept made := by
  obtain ⟨n, ended⟩ := authenticate_cases selected unauthenticated
  generalize (e.authenticate registry h).2 = last at ended
  obtain ⟨added, grown, -⟩ := ended.course
  rcases ended.sessions with ⟨attached, healed⟩ |
    ⟨⟨events, r, happened, responded, registers⟩, framed⟩
  · have spared := healed.spares
    rw [← attached] at spared
    exact ⟨.notice n :: added, last.store.sessions, [], by simp [grown], .of_spares attached spared⟩
  · have noted : h.Healed (h.having [.notice n]).store := .inl rfl
    cases noted.framed rfl rfl (Nat.le_refl _) framed with
    | same attached spared =>
      exact ⟨.notice n :: added, last.store.sessions, [], by simp [grown],
        .of_spares attached spared⟩
    | grown kept s sessions spared issued =>
      refine ⟨.notice n :: events, kept, [s], by simp [happened], ?_⟩
      exact {
        sessions
        spared
        one := Nat.le_refl 1
        attached := fun impossible => by cases impossible
        issued := fun t member => List.mem_singleton.mp member ▸ issued
        unused := fun supplied t member => List.mem_singleton.mp member ▸ issued.unused supplied
        asked := fun _ => ⟨r, List.mem_cons_of_mem _ responded, registers⟩ }

/-- The hypotheses are met, and a session is made, where an anonymous caller is cached for a request
that presents no session. -/
theorem authenticate_confined_first :
    let p := Provider.steady [.caller none] (Response.registerSession ⟨.success, ∅⟩ true)
    let e := plain ⟨fun _ => none, fun _ _ => false⟩
    let cart : TextMap Json := (∅ : TextMap Json).insert "cart" .null
    let h : Host := ⟨⟨[{ id := "other", attributes := cart }]⟩, {}, {},
      ⟨⟨fun _ => default, 0⟩, []⟩⟩
    e.Selects (.serving p) p ∧ h.context.isAuthenticated = false ∧
      (e.authenticate (.serving p) h).2.store.sessions.length = 2 ∧
      ∃ effects kept made,
        (e.authenticate (.serving p) h).2.journal.events = h.journal.events ++ effects ∧
        Confined h (e.authenticate (.serving p) h).2 effects kept made :=
  ⟨plain_selects _ _, rfl, by decide +kernel, authenticate_confined (plain_selects _ _) rfl⟩

end Engine
end RequestAuth
