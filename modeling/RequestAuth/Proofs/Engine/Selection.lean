import RequestAuth.Proofs.Engine.Breaks
import RequestAuth.Proofs.Registration.Directory

/-! Who decides a request. Factories come to be installed and removed, and providers registered and
removed, while requests are served; each request goes to the provider that is registered for it at
that moment, and to the base mechanism where there is none. -/
namespace RequestAuth

open Journaled

namespace Event

/-- No call of the base mechanism, and none that configures another provider than this one, or for
something else. -/
def Of (n : Negotiation) (p : Provider) : Event → Prop
  | .fallbackCalled => False
  | .providerCalled (.configure name layer appContext) =>
    name = p.name ∧ layer = n.layer ∧ appContext = n.appContext
  | _ => True

variable {n : Negotiation} {p : Provider} {x : Event}

theorem of_consulting (consulting : x.Consulting) : x.Of n p := by
  cases x <;> simp_all [Consulting, Of]

theorem of_looking (looking : x.Looking) : x.Of n p := by
  cases x <;> simp_all [Looking, Of]

end Event

namespace Negotiation

variable {n : Negotiation} {p : Provider}

theorem note_of (notice : Notice) : Adds (Event.Of n p) (Journal.note notice) := Adds.record trivial

theorem responded_of (response : Response) :
    Adds (Event.Of n p) (Journal.record (.responded response)) := Adds.record trivial

theorem stage_of (call : ProviderCall) (own : (Event.providerCalled call).Of n p)
    (dialogue : Dialogue α) (handler : CallbackHandler) :
    Adds (Event.Of n p) (stage call dialogue handler) :=
  Adds.bind (Adds.record own) fun _ =>
    (handler.converse_adds dialogue).mono fun _ => Event.of_consulting

theorem attempt_of (call : ProviderCall) (own : (Event.providerCalled call).Of n p)
    (dialogue : Dialogue (Except ProviderError α)) (handler : CallbackHandler) :
    Adds (Event.Of n p) (attempt call dialogue handler).run := by
  apply Adds.ebind (stage_of call own dialogue handler).lift
  intro ended
  rcases ended with ⟨_ | _, _⟩
  · exact Adds.pure _
  · exact Adds.pure _

/-- A negotiation calls its own provider and never the base mechanism. -/
theorem run_of (n : Negotiation) (p : Provider) (request : Request) (mandatory : Bool) :
    Adds (Event.Of n p) (n.run p request mandatory).run := by
  apply Adds.ebind (attempt_of (.configure p.name n.layer n.appContext) ⟨rfl, rfl, rfl⟩ _ _)
  intro configured
  apply Adds.ebind (attempt_of (.contextId _) trivial _ _)
  intro named
  apply Adds.ebind (attempt_of (.context _ _ _) trivial _ _)
  intro acquired
  obtain ⟨context?, handler⟩ := acquired
  cases context? with
  | none => exact Adds.ebind (note_of _).lift fun _ => Adds.pure _
  | some context =>
    apply Adds.ebind (stage_of (.validate _ _ _) trivial _ _).lift
    intro ended
    obtain ⟨⟨client, result⟩, handler⟩ := ended
    cases result with
    | error e => exact Adds.pure _
    | ok response =>
      exact Adds.ebind (Adds.pure (Except.ok response)) fun response =>
        Adds.ebind (responded_of response).lift fun _ =>
          Adds.ebind (note_of _).lift fun _ => Adds.pure _

end Negotiation

namespace Host

/-- The journal of the host has grown by such events only. -/
def GrownBy (P : Event → Prop) (h last : Host) : Prop :=
  ∃ added, last.journal.events = h.journal.events ++ added ∧ ∀ x ∈ added, P x

theorem GrownBy.trans {P : Event → Prop} {h next last : Host} (first : GrownBy P h next)
    (later : GrownBy P next last) : GrownBy P h last := by
  obtain ⟨added, grown, only⟩ := first
  obtain ⟨more, further, onlyMore⟩ := later
  exact ⟨added ++ more, by rw [further, grown, List.append_assoc],
    List.forall_mem_append.mpr ⟨only, onlyMore⟩⟩

variable {n : Negotiation} {p : Provider}

theorem Recalled.of {h next : Host} {result : Except ExchangeError (Option IdentityRecord)}
    (recalled : Recalled h result next) : GrownBy (Event.Of n p) h next := by
  obtain ⟨added, grown, looking⟩ := recalled.added
  exact ⟨added, grown, fun x member => Event.of_looking (looking x member)⟩

theorem Remembered.of {r : IdentityRecord} {h next : Host} {result : Except ExchangeError Unit}
    (remembered : Remembered r h result next) : GrownBy (Event.Of n p) h next := by
  have writing_of (id : String) : ∀ x ∈ writing id r, x.Of n p := by
    simp [writing, Event.Of]
  cases result with
  | error cause =>
    rcases remembered.added_error with grown | ⟨id, grown⟩
    · exact ⟨_, grown, by simp [Event.Of]⟩
    · exact ⟨_, grown, writing_of id⟩
  | ok _ =>
    obtain ⟨id, grown⟩ := remembered.added_ok
    exact ⟨_, grown, writing_of id⟩

theorem announced_of (h : Host) (m : Notice) (c : Completion) :
    GrownBy (Event.Of n p) h ((h.having [.notice m]).announcing c) :=
  ⟨_, announced_events h m c, by simp [Event.Of]⟩

end Host

namespace Engine

open Host

variable {e : Engine} {p : Provider} {h last : Host} {result : Except ExchangeError Bool}

theorem Concluded.of {response : Response} {handler : CallbackHandler}
    (concluded : Concluded e response handler h result last) :
    GrownBy (Event.Of e.negotiation p) h last := by
  have resolving {identity : Identity} {j : Journal}
      (resolved : handler.authorizedIdentity h.journal = (identity, j)) :
      GrownBy (Event.Of e.negotiation p) h { h with journal := j } :=
    (handler.authorizedIdentity_adds.mono fun _ => Event.of_consulting).grows resolved
  cases concluded with
  | unaccepted rejected => exact ⟨[], (List.append_nil _).symm, by simp⟩
  | announced identity j status unasked resolved =>
    exact (resolving resolved).trans (announced_of _ _ _)
  | unregistered identity j accepted asked resolved remembered =>
    exact (resolving resolved).trans remembered.of
  | registered identity j status asked resolved remembered =>
    exact ((resolving resolved).trans remembered.of).trans (announced_of _ _ _)
  | deferred identity j status asked resolved remembered =>
    exact (resolving resolved).trans remembered.of

theorem Ended.of (ended : Ended e p h result last) : GrownBy (Event.Of e.negotiation p) h last := by
  have asking {next : Host} {answer : Except ProviderError Negotiated} {j : Journal}
      (asked : e.ask p next = (answer, j)) :
      GrownBy (Event.Of e.negotiation p) next { next with journal := j } :=
    (e.negotiation.run_of p next.exchange.request next.context.required).grows asked
  cases ended with
  | unrecalled next recalled => exact recalled.of
  | restored next r recalled => exact recalled.of.trans (announced_of _ _ _)
  | refused next cause j recalled asked =>
    exact (recalled.of.trans (asking asked)).trans
      ⟨[.notice (.authenticationFailed cause), .statusSet 500], by simp [answering],
        by simp [Event.Of]⟩
  | declined next j recalled asked => exact recalled.of.trans (asking asked)
  | concluded next response handler j recalled asked end_ =>
    exact (recalled.of.trans (asking asked)).trans end_.of

/-- The request is decided with this provider, and with nobody else. -/
structure Served (e : Engine) (p : Provider) (h : Host) (result : Except ExchangeError Bool)
    (last : Host) : Prop where
  /-- All that happens, after a notice, is between the engine and this provider. -/
  alone : ∃ notice,
    settle (e.authenticateWith p (h.having [.notice notice])).1
      (e.authenticateWith p (h.having [.notice notice])).2 = (result, last)
  calls : ∃ effects, last.journal.events = h.journal.events ++ effects ∧
    .fallbackCalled ∉ effects ∧
    ∀ name layer appContext, .providerCalled (.configure name layer appContext) ∈ effects →
      name = p.name ∧ layer = WellKnown.servletLayer ∧ appContext = e.config.appContext

/-- The request is left to the base mechanism: after notices, and the one call of it, all is up to
that mechanism. -/
def FallsBack (e : Engine) (h : Host) (result : Except ExchangeError Bool) (last : Host) : Prop :=
  ∃ notices : List Notice,
    e.fallback (h.having (notices.map .notice ++ [.fallbackCalled])) = (result, last)

theorem served_of_selects {registry : Registry} (selected : e.Selects registry p)
    (unauthenticated : h.context.isAuthenticated = false) :
    e.Served p h (e.authenticate registry h).1 (e.authenticate registry h).2 where
  alone := by
    obtain ⟨notice, run⟩ := authenticate_eq selected
    exact ⟨notice, (run h unauthenticated).symm⟩
  calls := by
    obtain ⟨notice, ended⟩ := authenticate_cases selected unauthenticated
    obtain ⟨added, grown, only⟩ := ended.of
    refine ⟨.notice notice :: added, by simp [grown], ?_, fun name layer appContext member => ?_⟩
    · intro member
      exact only _ (by simpa using member)
    · exact only _ (by simpa using member)

end Engine

namespace Registry

/-- The registry as those who ask it see it: the directory of each factory, and which of them is
installed. -/
structure View where
  directories : Nat → Directory := fun _ => .empty
  installed : Option Nat := none

def view (r : Registry) : View := ⟨fun i => (r.factories i).directory, r.installed⟩

namespace View

/-- The directory that this access leads to; without a factory, or when it cannot be had, none. -/
def directory? (v : View) : RegistryAccess → Option Directory
  | .process => v.installed.map v.directories
  | .fixed index => index.map v.directories
  | .failing _ => none

/-- What is registered for the requests to an engine. -/
def chosen (v : View) (e : Engine) : Option Entry :=
  if e.config.enabled then
    (v.directory? e.access).bind (·.mostSpecific WellKnown.servletLayer e.config.appContext)
  else none

end View

variable {r : Registry} {e : Engine}

theorem directory?_view (access : RegistryAccess) :
    r.view.directory? access =
      match r.factory access with
      | .ok (some f) => some f.directory
      | _ => none := by
  cases access with
  | process =>
    simp only [View.directory?, view, factory]
    cases r.installed <;> rfl
  | fixed index => cases index <;> rfl
  | failing cause => rfl

theorem selects_of_chosen {entry : Entry} (chosen : r.view.chosen e = some entry) :
    e.Selects r entry.provider := by
  simp only [View.chosen, directory?_view] at chosen
  split at chosen
  · next enabled =>
    split at chosen
    · next f found =>
      rw [Option.bind_some, ← Factory.match?_entry] at chosen
      obtain ⟨registration, matched, rfl⟩ := Option.map_eq_some_iff.mp chosen
      exact ⟨enabled, f, registration, found, matched, rfl⟩
    · cases chosen
  · cases chosen

/-- Where nothing is registered for the requests to an engine, that is noted, at most. -/
theorem selectProvider_of_unchosen (unchosen : r.view.chosen e = none) :
    ∃ notices : List Notice, ∀ j,
      e.selectProvider r j = (none, ⟨j.ids, j.events ++ notices.map .notice⟩) := by
  simp only [View.chosen, directory?_view] at unchosen
  cases enabled : e.config.enabled with
  | false =>
    refine ⟨[], fun j => ?_⟩
    simp only [Engine.selectProvider, enabled, Bool.false_eq_true, if_false, List.map_nil,
      List.append_nil]
    rfl
  | true =>
    simp only [enabled, if_true] at unchosen
    rcases found : r.factory e.access with cause | _ | f
    · refine ⟨[.factoryUnavailable cause], fun j => ?_⟩
      simp only [Engine.selectProvider, enabled, if_true, lookup, found]
      rfl
    · refine ⟨[.noFactory], fun j => ?_⟩
      simp only [Engine.selectProvider, enabled, if_true, lookup, found]
      rfl
    · rw [found, Option.bind_some, ← Factory.match?_entry, Option.map_eq_none_iff] at unchosen
      refine ⟨[.noProvider WellKnown.servletLayer e.config.appContext], fun j => ?_⟩
      simp only [Engine.selectProvider, enabled, if_true, lookup, found, Factory.provider?,
        unchosen]
      rfl

theorem fallsBack_of_unchosen {h : Host} (unchosen : r.view.chosen e = none)
    (unauthenticated : h.context.isAuthenticated = false) :
    e.FallsBack h (e.authenticate r h).1 (e.authenticate r h).2 := by
  obtain ⟨notices, selects⟩ := selectProvider_of_unchosen unchosen
  refine ⟨notices ++ [.baseMechanismUsed], ?_⟩
  have noted : ({ h with journal := ⟨h.journal.ids, h.journal.events ++ notices.map .notice⟩ } :
      Host) = h.having (notices.map .notice) := rfl
  simp only [Engine.authenticate, Host.bind_apply, Host.get_apply, unauthenticated,
    Bool.false_eq_true, if_false, Host.lift_apply, Host.journaled_apply, selects, Engine.fallBack,
    Host.note_apply, Host.record_apply, noted, Host.having_having,
    List.map_append, List.map_cons, List.map_nil]
  rfl

/-- What can happen in a process: a factory is installed or removed, a factory changes, or a request
reaches an engine, which finds whatever host it finds. -/
inductive Move
  | install (factory : Nat)
  | clear
  | change (factory : Nat) (change : Directory.Change)
  | request (engine : Engine) (host : Host)

/-- What comes of a move: the factory that was installed before, the answer to a change, or how the
request ended and what it left behind. -/
inductive Sight
  | replaced (earlier : Option Nat)
  | changed (answer : Directory.Answer)
  | decided (result : Except ExchangeError Bool) (last : Host)

def move (r : Registry) : Move → Journaled (Sight × Registry)
  | .install factory => return (.replaced (r.install factory).1, (r.install factory).2)
  | .clear => return (.replaced r.clear.1, r.clear.2)
  | .change factory change => do
    let (answer, f) ← (r.factories factory).change change
    return (.changed answer, r.update factory f)
  | .request engine host =>
    let (result, last) := engine.authenticate r host
    return (.decided result last, r)

def run (r : Registry) : List Move → Journaled (List Sight × Registry)
  | [] => return ([], r)
  | m :: moves => do
    let (sight, r) ← r.move m
    let (sights, r) ← r.run moves
    return (sight :: sights, r)

namespace View

/-- What a move comes to, from nothing but what is registered and installed when it is made. -/
inductive Step : View → Move → Sight → View → Prop
  | installed (v : View) (factory : Nat) :
    Step v (.install factory) (.replaced v.installed) { v with installed := some factory }
  | cleared (v : View) : Step v .clear (.replaced v.installed) { v with installed := none }
  | changed (v : View) (factory : Nat) (changes : (v.directories factory).Step c a d) :
    Step v (.change factory c) (.changed a)
      { v with directories := Function.update v.directories factory d }
  | authenticated (v : View) (e : Engine) (h : Host)
    (before : h.context.isAuthenticated = true) : Step v (.request e h) (.decided (.ok true) h) v
  | served (v : View) (e : Engine) (h : Host) (unauthenticated : h.context.isAuthenticated = false)
    (chosen : v.chosen e = some entry) (served : e.Served entry.provider h result last) :
    Step v (.request e h) (.decided result last) v
  | fellBack (v : View) (e : Engine) (h : Host)
    (unauthenticated : h.context.isAuthenticated = false) (unchosen : v.chosen e = none)
    (falls : e.FallsBack h result last) : Step v (.request e h) (.decided result last) v

inductive Run : View → List Move → List Sight → View → Prop
  | nil (v : View) : Run v [] [] v
  | cons (first : Step v m sight next) (later : Run next moves sights last) :
    Run v (m :: moves) (sight :: sights) last

end View

/-- In each factory a key is registered once. -/
def Distinct (r : Registry) : Prop := ∀ i, (r.factories i).Distinct

theorem view_update (r : Registry) (i : Nat) (f : Factory) :
    (r.update i f).view =
      { r.view with directories := Function.update r.view.directories i f.directory } := by
  simp only [view, update, View.mk.injEq, and_true]
  funext other
  by_cases here : other = i
  · subst here
    simp
  · simp [here]

theorem update_distinct {f : Factory} {i : Nat} (distinct : r.Distinct) (kept : f.Distinct) :
    (r.update i f).Distinct := by
  intro other
  change (if other = i then f else r.factories other).Distinct
  split
  · exact kept
  · exact distinct other

theorem move_step (distinct : r.Distinct) (m : Move) (j : Journal) :
    View.Step r.view m (r.move m j).1.1 (r.move m j).1.2.view ∧ (r.move m j).1.2.Distinct := by
  cases m with
  | install factory => exact ⟨.installed _ _, distinct⟩
  | clear => exact ⟨.cleared _, distinct⟩
  | change factory change =>
    obtain ⟨changes, kept⟩ := Factory.change_step (distinct factory) change j
    have step := View.Step.changed r.view factory changes
    rw [← view_update] at step
    exact ⟨step, update_distinct distinct kept⟩
  | request e h =>
    refine ⟨?_, distinct⟩
    cases authenticated : h.context.isAuthenticated with
    | true =>
      have run : e.authenticate r h = (.ok true, h) := by
        simp only [Engine.authenticate, Host.bind_apply, Host.get_apply, authenticated, if_true,
          Host.pure_apply]
      simp only [move, run]
      exact .authenticated _ _ _ authenticated
    | false =>
      cases chosen : r.view.chosen e with
      | some entry =>
        exact .served _ _ _ authenticated chosen
          (Engine.served_of_selects (selects_of_chosen chosen) authenticated)
      | none =>
        exact .fellBack _ _ _ authenticated chosen (fallsBack_of_unchosen chosen authenticated)

theorem run_follows (distinct : r.Distinct) (moves : List Move) (j : Journal) :
    View.Run r.view moves (r.run moves j).1.1 (r.run moves j).1.2.view := by
  induction moves generalizing r j with
  | nil => exact .nil _
  | cons m moves ih =>
    obtain ⟨first, distinct⟩ := move_step distinct m j
    exact .cons first (ih distinct (r.move m j).2)

/-- Whatever is installed, cleared, registered, removed and requested in whatever order, each
request is decided by what is registered and installed at its own moment: by the most specific
provider for it alone, and where there is none by the base mechanism alone. -/
theorem requests_decided (moves : List Move) (j : Journal) :
    View.Run {} moves (run {} moves j).1.1 (run {} moves j).1.2.view := by
  have distinct : Distinct {} := fun _ => List.nodup_nil
  exact run_follows distinct moves j

end Registry
end RequestAuth
