import RequestAuth.Proofs.Engine.Pairs
import RequestAuth.Proofs.Session.Table

/-! Two hosts side by side that agree in all that the engine goes by. They may differ in what their
journals begin with and in their stores, and each activity of the engine does the same on both. -/
namespace RequestAuth

/-- A relation of stores that stays when the same is done to both: sessions are changed, all but
their identifiers and their liveness, or one is made. -/
structure SessionStore.Lasting (S : SessionStore → SessionStore → Prop) : Prop where
  modify : ∀ {a b} (id : String) (change : Session → Session),
    (∀ s, (change s).id = s.id ∧ (change s).live = s.live) → S a b →
      S (a.modify id change) (b.modify id change)
  made : ∀ {a b} (id : String), S a b → S (a.made id) (b.made id)

theorem SessionStore.lasting_eq : Lasting Eq where
  modify _ _ _ same := by rw [same]
  made _ same := by rw [same]

namespace Host

/-- The hosts have the same exchange with a session of the same identifier, the same context and the
same identifiers to draw, and the same has happened to them since their journals held `start`. -/
structure Twins (S : SessionStore → SessionStore → Prop) (start start' : List Event)
    (h k : Host) : Prop where
  exchange : k.exchange = h.exchange
  context : k.context = h.context
  ids : k.journal.ids = h.journal.ids
  events : ∃ added, h.journal.events = start ++ added ∧ k.journal.events = start' ++ added
  attached : k.currentSession.map Session.id = h.currentSession.map Session.id
  stores : S h.store k.store

/-- Where the journals began with the same they are the same. -/
theorem Twins.journal {S : SessionStore → SessionStore → Prop} {start : List Event} {h k : Host}
    (twins : Twins S start start h k) : k.journal = h.journal := by
  obtain ⟨added, here, there⟩ := twins.events
  have split (x : Host) : x.journal = ⟨x.journal.ids, x.journal.events⟩ := rfl
  rw [split h, split k, twins.ids, here, there]

/-- The activity answers the same on twins, which remain twins. -/
def Impartial (S : SessionStore → SessionStore → Prop) (act : Hosted α) : Prop :=
  ∀ start start' h k, Twins S start start' h k →
    (act k).1 = (act h).1 ∧ Twins S start start' (act h).2 (act k).2

variable {S : SessionStore → SessionStore → Prop}

/-- Hosts stay twins when the same is added to their journals. -/
theorem Twins.journaled {start start' added : List Event} {h k : Host} {ids : IdSource}
    (twins : Twins S start start' h k) :
    Twins S start start' { h with journal := ⟨ids, h.journal.events ++ added⟩ }
      { k with journal := ⟨ids, k.journal.events ++ added⟩ } where
  exchange := twins.exchange
  context := twins.context
  ids := rfl
  events := by
    obtain ⟨before, here, there⟩ := twins.events
    exact ⟨before ++ added, by simp [here], by simp [there]⟩
  attached := twins.attached
  stores := twins.stores

theorem attached_modify {change : Session → Session} (h : Host) (id : String)
    (same : ∀ s, (change s).id = s.id ∧ (change s).live = s.live) :
    ({ h with store := h.store.modify id change } : Host).currentSession.map Session.id =
      h.currentSession.map Session.id := by
  cases attached : h.exchange.sessionId with
  | none => simp [currentSession, attached]
  | some place =>
    simp only [currentSession, attached, Option.bind_some, SessionStore.find?_modify _ _ _ same]
    split
    · have ids : Session.id ∘ change = Session.id := funext fun s => (same s).1
      rw [Option.map_map, ids]
    · rfl

/-- A session that was made is found, unless another one has its identifier. -/
theorem attached_made (h : Host) :
    (createSession h).2.currentSession.map Session.id =
      some (h.journal.ids.ids h.journal.ids.drawn).text := by
  change ((h.store.made _).find? _).map Session.id = _
  rw [SessionStore.find?_made_or, if_pos rfl]
  cases found : h.store.find? _ with
  | none => rfl
  | some s => exact congrArg some (SessionStore.find?_id found)

theorem twins_createSession (lasting : SessionStore.Lasting S) : Impartial S createSession := by
  intro start start' h k twins
  have attached := (attached_made k).trans (twins.ids ▸ (attached_made h).symm)
  refine ⟨by simp only [createSession_apply, twins.ids], ?_⟩
  exact {
    exchange := by simp only [createSession_apply, twins.exchange, twins.ids]
    context := twins.context
    ids := by simp only [createSession_apply, twins.ids]
    events := twins.events
    attached
    stores := by
      simp only [createSession_apply, twins.ids]
      exact lasting.made _ twins.stores }

/-- The operations of a host make no difference between twins. -/
theorem twins_fair (lasting : SessionStore.Lasting S) (start start' : List Event) :
    Fair (Twins S start start') where
  outage twins := congrArg Exchange.outage twins.exchange
  attached twins := twins.attached
  journaled := by
    intro α P act adds h k twins
    obtain ⟨a, drawn, added, here, there⟩ := adds.both twins.ids
    rw [journaled_apply, journaled_apply, here, there]
    exact ⟨rfl, twins.journaled⟩
  created := twins_createSession lasting start start'
  modified := by
    intro h k id change same twins
    exact { twins with
      attached := (k.attached_modify id same).trans
        (twins.attached.trans (h.attached_modify id same).symm)
      stores := lasting.modify id change same twins.stores }
  answered code twins := { twins with exchange := by rw [twins.exchange] }
  completed c twins := { twins with context := by rw [twins.context] }

end Host

namespace Engine

open Host

variable {S : SessionStore → SessionStore → Prop}

theorem impartial_consult (lasting : SessionStore.Lasting S) (e : Engine) (p : Provider) :
    Impartial S (e.consult p).run := by
  intro start start' h k twins
  change (e.consult p k).1 = (e.consult p h).1 ∧
    Twins S start start' (e.consult p h).2 (e.consult p k).2
  obtain ⟨answer, drawn, added, -, -, -, runs⟩ := e.negotiation.run_answers p h.exchange.request
    h.context.required h.journal.ids
  have here : e.ask p h = (answer, ⟨{ h.journal.ids with drawn }, h.journal.events ++ added⟩) :=
    runs h.journal.events
  have there : e.ask p k = (answer, ⟨{ h.journal.ids with drawn }, k.journal.events ++ added⟩) := by
    have split : k.journal = ⟨h.journal.ids, k.journal.events⟩ := by rw [← twins.ids]
    rw [ask, twins.exchange, twins.context, split]
    exact runs k.journal.events
  have talked : Twins S start start'
      { h with journal := ⟨{ h.journal.ids with drawn }, h.journal.events ++ added⟩ }
      { k with journal := ⟨{ h.journal.ids with drawn }, k.journal.events ++ added⟩ } :=
    twins.journaled
  simp only [consult, here, there]
  rcases answer with cause | _ | ⟨response, handler⟩
  · exact ⟨rfl, talked⟩
  · exact ⟨rfl, talked⟩
  · exact keeps_conclude (twins_fair lasting start start') e response handler _ _ talked

/-- Calls on twins in which no record has been found end the same. -/
theorem consult_twins {start start' : List Event} {h k : Host} (lasting : SessionStore.Lasting S)
    (e : Engine) (p : Provider) (twins : Twins S start start' h k) :
    (settle (e.consult p k).1 (e.consult p k).2).1 =
        (settle (e.consult p h).1 (e.consult p h).2).1 ∧
      Twins S start start' (settle (e.consult p h).1 (e.consult p h).2).2
        (settle (e.consult p k).1 (e.consult p k).2).2 := by
  obtain ⟨same, after⟩ := impartial_consult lasting e p start start' h k twins
  change (e.consult p k).1 = (e.consult p h).1 at same
  rw [same]
  exact keeps_settle (twins_fair lasting start start') _ _ _ after

/-- Calls on twins end the same, if the session that they have holds the same for both. -/
theorem authenticate_twins {start start' : List Event} {h k : Host} {e : Engine}
    {registry : Registry} {p : Provider} (lasting : SessionStore.Lasting S)
    (selected : e.Selects registry p) (unauthenticated : h.context.isAuthenticated = false)
    (reads : ∀ s, h.currentSession = some s → ∀ a b, S a b →
      b.attribute? s.id WellKnown.identityRecordKey = a.attribute? s.id WellKnown.identityRecordKey)
    (twins : Twins S start start' h k) :
    (e.authenticate registry k).1 = (e.authenticate registry h).1 ∧
      Twins S start start' (e.authenticate registry h).2 (e.authenticate registry k).2 := by
  obtain ⟨n, run⟩ := authenticate_eq selected
  have fair := twins_fair lasting start start'
  have noted : Twins S start start' (h.having [.notice n]) (k.having [.notice n]) :=
    (fair.note n h k twins).2
  rw [run h unauthenticated, run k (twins.context ▸ unauthenticated)]
  exact authenticateWith_keeps fair (fun s found x y pair => reads s found _ _ pair.stores)
    (impartial_consult lasting e p start start') noted

end Engine
end RequestAuth
