import RequestAuth.Proofs.Engine.Pairs
import RequestAuth.Proofs.Negotiation.Discretion

/-! The engine looks at a request only to hand it to a provider. Calls with different requests end
the same, and are logged the same, if they go to providers that are alike for these requests. -/
namespace RequestAuth

namespace Host

/-- The hosts have these requests; else they are the same, but for events that are no notices. -/
structure Alike (r r' : Request) (required : Bool) (h k : Host) : Prop where
  store : k.store = h.store
  request : h.exchange.request = r
  exchange : k.exchange = { h.exchange with request := r' }
  required : h.context.required = required
  context : k.context = h.context
  journal : h.journal.Alike k.journal

variable {r r' : Request} {required : Bool}

theorem Alike.currentSession {h k : Host} (alike : Alike r r' required h k) :
    k.currentSession = h.currentSession := by
  simp only [Host.currentSession, alike.store, alike.exchange]

/-- No operation of a host looks at the request. -/
theorem alike_fair : Fair (Alike r r' required) where
  outage alike := by rw [alike.exchange]
  attached alike := by rw [alike.currentSession]
  journaled adds h k alike := by
    obtain ⟨same, after⟩ := Journaled.Pairs.of_adds adds _ _ alike.journal
    exact ⟨same.symm, { alike with journal := after }⟩
  created h k alike := by
    have ids := alike.journal.ids
    refine ⟨by simp only [createSession_apply, ids], ?_⟩
    exact {
      store := by simp only [createSession_apply, alike.store, ids]
      request := alike.request
      exchange := by simp only [createSession_apply, alike.exchange, ids]
      required := alike.required
      context := alike.context
      journal := ⟨by simp only [createSession_apply, ids], alike.journal.notices⟩ }
  modified id change _ alike := { alike with store := by rw [alike.store] }
  answered code alike := { alike with exchange := by rw [alike.exchange] }
  completed c alike := { alike with context := by rw [alike.context] }

end Host

namespace Engine

open Host

/-- The message that a provider gets with a request. -/
def message (r : Request) (required : Bool) : MessageInfo := .mandatory { request := r } required

variable {e : Engine} {p p' : Provider} {r r' : Request} {required : Bool} {h k : Host}

theorem consult_alike
    (providers : Provider.Alike e.domain (message r required) (message r' required) p p')
    (alike : Alike r r' required h k) :
    (e.consult p' k).1 = (e.consult p h).1 ∧
      Alike r r' required (e.consult p h).2 (e.consult p' k).2 := by
  obtain ⟨ended, after⟩ := Negotiation.run_pairs (n := e.negotiation) providers _ _ alike.journal
  have here : e.ask p h = (e.negotiation.run p r required).run h.journal := by
    rw [ask, alike.request, alike.required]
    rfl
  have there : e.ask p' k = (e.negotiation.run p' r' required).run k.journal := by
    rw [ask, alike.exchange, alike.context, alike.required]
    rfl
  rw [← here, ← there] at ended after
  simp only [consult]
  generalize e.ask p h = asked at ended after ⊢
  generalize e.ask p' k = asked' at ended after ⊢
  obtain ⟨answer, j⟩ := asked
  obtain ⟨answer', j'⟩ := asked'
  have talked : Alike r r' required { h with journal := j } { k with journal := j' } :=
    { alike with journal := after }
  cases ended with
  | error cause => exact ⟨rfl, talked⟩
  | @ok negotiated _ same =>
    subst same
    cases negotiated with
    | declined => exact ⟨rfl, talked⟩
    | validated response handler =>
      exact keeps_conclude alike_fair e response handler _ _ talked

/-- Calls that find registrations under one key end the same, and leave hosts that are alike, if the
providers are alike for the requests. -/
theorem authenticate_alike {registry registry' : Registry} {found found' : Registration}
    (finds : e.Finds registry found) (finds' : e.Finds registry' found')
    (key : found'.key = found.key)
    (providers : Provider.Alike e.domain (message r required) (message r' required)
      found.provider found'.provider) (alike : Alike r r' required h k) :
    (e.authenticate registry' k).1 = (e.authenticate registry h).1 ∧
      Alike r r' required (e.authenticate registry h).2 (e.authenticate registry' k).2 := by
  cases authenticated : h.context.isAuthenticated with
  | true =>
    have done (x : Host) (y : Registry) (same : x.context = h.context) :
        e.authenticate y x = (.ok true, x) := by
      simp only [authenticate, Host.bind_apply, Host.get_apply, same, authenticated, if_true]
      rfl
    rw [done h registry rfl, done k registry' alike.context]
    exact ⟨rfl, alike⟩
  | false =>
    have noted := (alike_fair.note
      (.registrationMatched found.key.id WellKnown.servletLayer e.config.appContext) h k alike).2
    rw [authenticate_of_select finds.select authenticated,
      authenticate_of_select finds'.select (alike.context ▸ authenticated), key]
    refine authenticateWith_keeps alike_fair (fun s _ x y pair => ?_)
      (fun x y pair => consult_alike providers pair) noted
    rw [pair.store]

end Engine
end RequestAuth
