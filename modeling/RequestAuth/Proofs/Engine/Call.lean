import RequestAuth.Engine
import RequestAuth.Proofs.Session.Caching

/-! How one call of the engine can end when the registry selects a provider for it. Each ending
carries what recalling, negotiating and remembering came to, and the host it leaves behind. -/
namespace RequestAuth

/-- A process whose factory has this provider for every request. -/
def Registry.serving (p : Provider) : Registry where
  factories _ := ⟨[⟨⟨none, none⟩, p, ""⟩]⟩
  installed := some 0

namespace Engine

open Host

/-- The engine asks providers, and the factory it uses, as it is now, answers with this one. -/
def Selects (e : Engine) (registry : Registry) (p : Provider) : Prop :=
  e.config.enabled = true ∧ ∃ f r, registry.factory e.access = .ok (some f) ∧
    f.match? WellKnown.servletLayer e.config.appContext = some r ∧ r.provider = p

/-- The engine asks providers, and this registration is the one that it finds. -/
def Finds (e : Engine) (registry : Registry) (found : Registration) : Prop :=
  e.config.enabled = true ∧ ∃ f, registry.factory e.access = .ok (some f) ∧
    f.match? WellKnown.servletLayer e.config.appContext = some found

/-- A selection is noted and changes nothing. -/
theorem Finds.select {e : Engine} {registry : Registry} {found : Registration}
    (finds : e.Finds registry found) (j : Journal) :
    e.selectProvider registry j = (some found.provider, ⟨j.ids, j.events ++
      [.notice (.registrationMatched found.key.id WellKnown.servletLayer e.config.appContext)]⟩) := by
  obtain ⟨enabled, f, factory, matched⟩ := finds
  simp only [selectProvider, enabled, if_true, Registry.lookup, factory, Factory.provider?, matched]
  rfl

theorem selectProvider_of_selects {e : Engine} {registry : Registry} {p : Provider}
    (selected : e.Selects registry p) : ∃ n, ∀ j,
      e.selectProvider registry j = (some p, ⟨j.ids, j.events ++ [.notice n]⟩) := by
  obtain ⟨enabled, f, r, factory, matched, rfl⟩ := selected
  have finds : e.Finds registry r := ⟨enabled, f, factory, matched⟩
  exact ⟨_, finds.select⟩

/-- An engine that uses the factory of the process, in its default configuration. -/
def plain (domain : SecurityDomain) : Engine where
  config := {}
  mechanism := ⟨WellKnown.defaultMechanism, by decide⟩
  access := .process
  domain
  fallback := return false

/-- Any provider at all can be the one that is selected. -/
theorem plain_selects (domain : SecurityDomain) (p : Provider) :
    (plain domain).Selects (.serving p) p :=
  ⟨rfl, _, _, rfl, rfl, rfl⟩

/-- What the provider's negotiation comes to on this host. -/
def ask (e : Engine) (p : Provider) (h : Host) : Except ProviderError Negotiated × Journal :=
  e.negotiation.run p h.exchange.request h.context.required h.journal

/-- How acting on a response ends. -/
inductive Concluded (e : Engine) (response : Response) (handler : CallbackHandler) (h : Host) :
    Except ExchangeError Bool → Host → Prop
  | unaccepted (rejected : response.isAccepted = false) :
    Concluded e response handler h (.ok false) h
  | announced (identity : Identity) (j : Journal) (status : response.status = .success)
    (unasked : response.sessionRequested = false)
    (resolved : handler.authorizedIdentity h.journal = (identity, j)) :
    Concluded e response handler h (.ok true)
      (({ h with journal := j }.having [.notice (.authenticated identity.displayName
        (response.resolvedAuthType e.mechanism))]).announcing
        (completion identity (response.resolvedAuthType e.mechanism)))
  | unregistered (identity : Identity) (j : Journal) (accepted : response.isAccepted = true)
    (asked : response.sessionRequested = true)
    (resolved : handler.authorizedIdentity h.journal = (identity, j))
    (remembered : Remembered ⟨identity, some (response.resolvedAuthType e.mechanism)⟩
      { h with journal := j } (.error cause) next) :
    Concluded e response handler h (.error cause) next
  | registered (identity : Identity) (j : Journal) (status : response.status = .success)
    (asked : response.sessionRequested = true)
    (resolved : handler.authorizedIdentity h.journal = (identity, j))
    (remembered : Remembered ⟨identity, some (response.resolvedAuthType e.mechanism)⟩
      { h with journal := j } (.ok ()) next) :
    Concluded e response handler h (.ok true)
      ((next.having [.notice (.authenticated identity.displayName
        (response.resolvedAuthType e.mechanism))]).announcing
        (completion identity (response.resolvedAuthType e.mechanism)))
  | deferred (identity : Identity) (j : Journal) (status : response.status = .sendSuccess)
    (asked : response.sessionRequested = true)
    (resolved : handler.authorizedIdentity h.journal = (identity, j))
    (remembered : Remembered ⟨identity, some (response.resolvedAuthType e.mechanism)⟩
      { h with journal := j } (.ok ()) next) :
    Concluded e response handler h (.ok false) next

/-- How a call ends. -/
inductive Ended (e : Engine) (p : Provider) (h : Host) : Except ExchangeError Bool → Host → Prop
  | unrecalled (next : Host) (recalled : Recalled h (.error cause) next) :
    Ended e p h (.error cause) next
  | restored (next : Host) (r : IdentityRecord) (recalled : Recalled h (.ok (some r)) next) :
    Ended e p h (.ok true)
      ((next.having [.notice (.recordRestored r.identity.displayName)]).announcing
        (completion r.identity (r.authType.getD e.mechanism)))
  | refused (next : Host) (cause : ProviderError) (j : Journal)
    (recalled : Recalled h (.ok none) next)
    (asked : e.ask p next = (.error cause, j)) :
    Ended e p h (.ok false)
      (({ next with journal := j }.having [.notice (.authenticationFailed cause)]).answering 500)
  | declined (next : Host) (j : Journal) (recalled : Recalled h (.ok none) next)
    (asked : e.ask p next = (.ok .declined, j)) :
    Ended e p h (.ok false) { next with journal := j }
  | concluded (next : Host) (response : Response) (handler : CallbackHandler) (j : Journal)
    (recalled : Recalled h (.ok none) next)
    (asked : e.ask p next = (.ok (.validated response handler), j))
    (end_ : Concluded e response handler { next with journal := j } result last) :
    Ended e p h result last

section Engaged

theorem bind_apply (act : Engaged α) (next : α → Engaged β) (h : Host) :
    (act >>= next) h =
      match act h with
      | (.ok a, h) => next a h
      | (.error e, h) => (.error e, h) := by
  change ExceptT.bindCont next (act h).1 (act h).2 = _
  rcases act h with ⟨_ | _, _⟩ <;> rfl

theorem pure_apply (a : α) (h : Host) : (pure a : Engaged α) h = (.ok a, h) := rfl

theorem get_apply (h : Host) : (get : Engaged Host) h = (.ok h, h) := rfl

theorem lift_apply (act : Hosted α) (h : Host) :
    (liftM act : Engaged α) h = (.ok (act h).1, (act h).2) := rfl

theorem exchanging_apply (act : Exchanging α) (h : Host) :
    exchanging act h = ((act h).1.mapError .exchange, (act h).2) := rfl

theorem negotiating_apply (act : Negotiation.Staged α) (h : Host) :
    negotiating act h =
      ((act h.journal).1.mapError .negotiation, { h with journal := (act h.journal).2 }) := rfl

end Engaged

/-- An accepted response is a success, or one to be sent that asks for the session. -/
theorem status_of_accepted {response : Response} (accepted : response.isAccepted = true) :
    response.status = .success ∨
      response.status = .sendSuccess ∧ response.sessionRequested = true := by
  cases status : response.status <;> simp_all [Response.isAccepted]

theorem conclude_cases (e : Engine) (response : Response) (handler : CallbackHandler) (h : Host) :
    ∃ result, (e.conclude response handler h).1 = result.mapError .exchange ∧
      Concluded e response handler h result (e.conclude response handler h).2 := by
  cases accepted : response.isAccepted with
  | false =>
    have run : e.conclude response handler h = (.ok false, h) := by
      simp only [conclude, Response.outcome, accepted, Bool.false_eq_true, if_false, bind_apply,
        pure_apply]
    rw [run]
    exact ⟨.ok false, rfl, .unaccepted accepted⟩
  | true =>
    rcases resolved : handler.authorizedIdentity h.journal with ⟨identity, j⟩
    have remembering := remember_cases ⟨identity, some (response.resolvedAuthType e.mechanism)⟩
      { h with journal := j }
    rcases status_of_accepted accepted with status | ⟨status, asked⟩
    · cases asked : response.sessionRequested with
      | false =>
        have run : e.conclude response handler h = (.ok true,
            ({ h with journal := j }.having [.notice (.authenticated identity.displayName
              (response.resolvedAuthType e.mechanism))]).announcing
              (completion identity (response.resolvedAuthType e.mechanism))) := by
          simp only [conclude, Response.outcome, accepted, status, asked, if_true, bind_apply,
            lift_apply, journaled_apply, resolved, pure_apply, Bool.false_eq_true, if_false,
            note_apply, complete_apply]
        rw [run]
        exact ⟨.ok true, rfl, .announced identity j status asked resolved⟩
      | true =>
        have run : e.conclude response handler h =
            match remember ⟨identity, some (response.resolvedAuthType e.mechanism)⟩
                { h with journal := j } with
            | (.ok _, next) => (.ok true,
              ((next.having [.notice (.authenticated identity.displayName
                (response.resolvedAuthType e.mechanism))]).announcing
                (completion identity (response.resolvedAuthType e.mechanism))))
            | (.error cause, next) => (.error (.exchange cause), next) := by
          simp only [conclude, Response.outcome, accepted, status, asked, if_true, bind_apply,
            lift_apply, journaled_apply, resolved, pure_apply, exchanging_apply]
          rcases remember _ _ with ⟨_ | _, next⟩ <;> rfl
        rw [run]
        generalize remember _ _ = ended at remembering
        rcases ended with ⟨cause | _, next⟩
        · exact ⟨.error cause, rfl, .unregistered identity j accepted asked resolved remembering⟩
        · exact ⟨.ok true, rfl, .registered identity j status asked resolved remembering⟩
    · have run : e.conclude response handler h =
          match remember ⟨identity, some (response.resolvedAuthType e.mechanism)⟩
              { h with journal := j } with
          | (.ok _, next) => (.ok false, next)
          | (.error cause, next) => (.error (.exchange cause), next) := by
        simp only [conclude, Response.outcome, accepted, status, if_true, bind_apply,
          lift_apply, journaled_apply, resolved, pure_apply, exchanging_apply]
        rcases remember _ _ with ⟨_ | _, next⟩ <;> rfl
      rw [run]
      generalize remember _ _ = ended at remembering
      rcases ended with ⟨cause | _, next⟩
      · exact ⟨.error cause, rfl, .unregistered identity j accepted asked resolved remembering⟩
      · exact ⟨.ok false, rfl, .deferred identity j status asked resolved remembering⟩

/-- A request that nobody has authenticated yet goes to the provider that is selected. -/
theorem authenticate_of_select {e : Engine} {registry : Registry} {p : Provider} {n : Notice}
    (selects : ∀ j, e.selectProvider registry j = (some p, ⟨j.ids, j.events ++ [.notice n]⟩))
    {h : Host} (unauthenticated : h.context.isAuthenticated = false) :
    e.authenticate registry h =
      settle (e.authenticateWith p (h.having [.notice n])).1
        (e.authenticateWith p (h.having [.notice n])).2 := by
  simp only [authenticate, Host.bind_apply, Host.get_apply, unauthenticated, Bool.false_eq_true,
    if_false, Host.lift_apply, journaled_apply, selects]
  rfl

/-- What is noted of the selection does not depend on the request. -/
theorem authenticate_eq {e : Engine} {registry : Registry} {p : Provider}
    (selected : e.Selects registry p) :
    ∃ n, ∀ h : Host, h.context.isAuthenticated = false →
      e.authenticate registry h =
        settle (e.authenticateWith p (h.having [.notice n])).1
          (e.authenticateWith p (h.having [.notice n])).2 := by
  obtain ⟨n, selects⟩ := selectProvider_of_selects selected
  exact ⟨n, fun h unauthenticated => authenticate_of_select selects unauthenticated⟩

/-- What a call comes to once no record has been found. -/
def consult (e : Engine) (p : Provider) : Engaged Bool := fun h =>
  match e.ask p h with
  | (.error cause, j) => (.error (.negotiation cause), { h with journal := j })
  | (.ok .declined, j) => (.ok false, { h with journal := j })
  | (.ok (.validated response handler), j) => e.conclude response handler { h with journal := j }

/-- A record that is found decides the request; only without one is the provider asked. -/
theorem authenticateWith_eq (e : Engine) (p : Provider) (h : Host) :
    e.authenticateWith p h =
      match Host.recall h with
      | (.error cause, next) => (.error (.exchange cause), next)
      | (.ok (some r), next) => (.ok true,
        (next.having [.notice (.recordRestored r.identity.displayName)]).announcing
          (completion r.identity (r.authType.getD e.mechanism)))
      | (.ok none, next) => e.consult p next := by
  simp only [authenticateWith, bind_apply, exchanging_apply]
  rcases Host.recall h with ⟨_ | _ | r, next⟩
  · rfl
  · simp only [Except.mapError, bind_apply, get_apply, negotiating_apply, consult, ask]
    rcases e.negotiation.run p next.exchange.request next.context.required next.journal with
      ⟨_ | _ | _, j⟩ <;> rfl
  · rfl

/-- Every call with a provider ends in one of the listed ways. -/
theorem authenticate_cases {e : Engine} {registry : Registry} {p : Provider} {h : Host}
    (selected : e.Selects registry p) (unauthenticated : h.context.isAuthenticated = false) :
    ∃ n, Ended e p (h.having [.notice n]) (e.authenticate registry h).1
      (e.authenticate registry h).2 := by
  obtain ⟨n, run⟩ := authenticate_eq selected
  refine ⟨n, ?_⟩
  rw [run h unauthenticated, authenticateWith_eq]
  have recalling := recall_cases (h.having [.notice n])
  generalize Host.recall (h.having [.notice n]) = recalled at recalling
  rcases recalled with ⟨cause | _ | r, next⟩
  · exact .unrecalled next recalling
  · rcases asked : e.ask p next with ⟨cause | _ | ⟨response, handler⟩, j⟩
    · simp only [consult, asked]
      exact .refused next cause j recalling asked
    · simp only [consult, asked]
      exact .declined next j recalling asked
    · obtain ⟨result, settled, end_⟩ := conclude_cases e response handler { next with journal := j }
      simp only [consult, asked, settled]
      cases result with
      | error cause => exact .concluded next response handler j recalling asked end_
      | ok authenticated => exact .concluded next response handler j recalling asked end_
  · exact .restored next r recalling

end Engine
end RequestAuth
