import Mathlib.Data.List.Forall2
import RequestAuth.Proofs.Negotiation.Answer
import RequestAuth.Proofs.Negotiation.Rounds

/-! What a negotiation gives away of passwords: nothing but the domain's verdict on them. Callbacks
with other passwords on which the verdict is the same lead to the same handler, and to the same
notices; so do dialogues in which such callbacks are handed over, and providers that have them. -/
namespace RequestAuth

/-- The callbacks are the same, or they ask for the password of one user, and what they have for it
is right in both of them or in neither. -/
inductive Callback.Alike (domain : SecurityDomain) : Callback → Callback → Prop
  | same (c : Callback) : Alike domain c c
  | password (username : String) {text text' : String} (verified : Bool)
    (verdict : domain.verifyPassword username text' = domain.verifyPassword username text) :
    Alike domain (.password username text verified) (.password username text' verified)

/-- The callback without the text of a password. -/
def Callback.redacted : Callback → Callback
  | .password username _ verified => .password username "" verified
  | c => c

/-- The reply without the texts of passwords, which the handler returns with the callbacks. -/
def Reply.redacted (r : Reply) : Reply := ⟨r.callbacks.map Callback.redacted, r.result⟩

theorem Callback.Alike.redacted {domain : SecurityDomain} {c c' : Callback}
    (alike : Callback.Alike domain c c') : c'.redacted = c.redacted := by
  cases alike with
  | same => rfl
  | password => rfl

theorem Callback.redacted_of_alike {domain : SecurityDomain} {cs cs' : List Callback}
    (alike : List.Forall₂ (Callback.Alike domain) cs cs') :
    cs'.map Callback.redacted = cs.map Callback.redacted := by
  induction alike with
  | nil => rfl
  | cons first _ ih => rw [List.map_cons, List.map_cons, first.redacted, ih]

/-- The rounds are in one domain and have callbacks that are alike there. -/
structure Round.Alike (r r' : Round) : Prop where
  domain : r'.domain = r.domain
  callbacks : List.Forall₂ (Callback.Alike r.domain) r.callbacks r'.callbacks

/-- Both have failed with one error, or they have come to results that are related. -/
inductive Both (R : α → β → Prop) : Except ε α → Except ε β → Prop
  | error (e : ε) : Both R (.error e) (.error e)
  | ok {a : α} {b : β} (related : R a b) : Both R (.ok a) (.ok b)

def Event.notice? : Event → Option Notice
  | .notice n => some n
  | _ => none

/-- The journals have the same notices and the same identifiers to draw. -/
structure Journal.Alike (j k : Journal) : Prop where
  ids : k.ids = j.ids
  notices : k.notices = j.notices

namespace Journaled

/-- On journals that are alike the activities come to results that are related, and leave the
journals alike. -/
def Pairs (R : α → β → Prop) (act : Journaled α) (act' : Journaled β) : Prop :=
  ∀ j k, Journal.Alike j k → R (act j).1 (act' k).1 ∧ Journal.Alike (act j).2 (act' k).2

theorem Pairs.pure {R : α → β → Prop} {a : α} {b : β} (related : R a b) :
    Pairs R (pure a) (pure b) := fun _ _ alike => ⟨related, alike⟩

theorem Pairs.bind {R : α → β → Prop} {S : γ → δ → Prop} {act : Journaled α} {act' : Journaled β}
    {next : α → Journaled γ} {next' : β → Journaled δ} (first : Pairs R act act')
    (later : ∀ a b, R a b → Pairs S (next a) (next' b)) :
    Pairs S (act >>= next) (act' >>= next') := by
  intro j k alike
  obtain ⟨related, after⟩ := first j k alike
  exact later _ _ related _ _ after

theorem Pairs.ebind {R : α → β → Prop} {S : γ → δ → Prop} {act : Negotiation.Staged α}
    {act' : Negotiation.Staged β} {next : α → Negotiation.Staged γ}
    {next' : β → Negotiation.Staged δ} (first : Pairs (Both R) act.run act'.run)
    (later : ∀ a b, R a b → Pairs (Both S) (next a).run (next' b).run) :
    Pairs (Both S) (act >>= next).run (act' >>= next').run := by
  change Pairs _ (act.run >>= ExceptT.bindCont next) (act'.run >>= ExceptT.bindCont next')
  apply Pairs.bind first
  intro x y ended
  cases ended with
  | error e => exact Pairs.pure (.error e)
  | ok related => exact later _ _ related

theorem Pairs.lift {R : α → β → Prop} {act : Journaled α} {act' : Journaled β}
    (pairs : Pairs R act act') :
    Pairs (Both R) (liftM act : Negotiation.Staged α).run (liftM act' : Negotiation.Staged β).run :=
  Pairs.bind pairs fun _ _ related => Pairs.pure (.ok related)

/-- An activity does the same on journals that are alike, whatever else they hold. -/
theorem Pairs.of_adds {act : Journaled α} (adds : Adds P act) : Pairs Eq act act := by
  intro j k alike
  obtain ⟨a, drawn, added, here, there⟩ := adds.both alike.ids
  rw [here, there]
  refine ⟨rfl, rfl, ?_⟩
  have before : k.notices = j.notices := alike.notices
  simp only [Journal.notices, List.filterMap_append] at before ⊢
  rw [before]

/-- Of events that are no notices, it makes no difference which are recorded. -/
theorem Pairs.record {e e' : Event} (silent : e.notice? = none) (silent' : e'.notice? = none) :
    Pairs Eq (Journal.record e) (Journal.record e') := by
  intro j k alike
  refine ⟨rfl, alike.ids, ?_⟩
  have before : k.events.filterMap Event.notice? = j.events.filterMap Event.notice? := alike.notices
  change (k.events ++ [e']).filterMap Event.notice? = (j.events ++ [e]).filterMap Event.notice?
  simp [before, silent, silent']

theorem Pairs.note (n : Notice) : Pairs Eq (Journal.note n) (Journal.note n) :=
  Pairs.of_adds (P := fun _ => True) (.record trivial)

end Journaled

open Journaled

namespace CallbackHandler

variable {domain : SecurityDomain}

theorem take_domain {s t : CallbackHandler} {c d : Callback} {j : Journal}
    (taken : (s.take c j).1 = .ok (t, d)) : t.domain = s.domain := by
  cases refused : Taken.isRefused s.integrated ⟨s.domain, c⟩ with
  | true =>
    obtain ⟨e, events, fails⟩ := take_refused refused j
    rw [fails] at taken
    cases taken
  | false =>
    obtain ⟨next, c', after, works, same, -⟩ := take_admitted refused j
    rw [works] at taken
    cases taken
    exact same

/-- What handlers of callbacks that are alike have come to: one handler, of the domain. -/
def Come (domain : SecurityDomain) (R : α → β → Prop) (x : α × CallbackHandler)
    (y : β × CallbackHandler) : Prop :=
  R x.1 y.1 ∧ y.2 = x.2 ∧ x.2.domain = domain

theorem Come.eq {x y : α × CallbackHandler} (come : Come domain Eq x y) :
    y = x ∧ x.2.domain = domain :=
  ⟨Prod.ext come.1.symm come.2.1, come.2.2⟩

theorem take_pairs {s : CallbackHandler} {c c' : Callback} (of : s.domain = domain)
    (alike : Callback.Alike domain c c') :
    Pairs (Both fun x y => y.1 = x.1 ∧ x.1.domain = domain ∧ Callback.Alike domain x.2 y.2)
      (s.take c) (s.take c') := by
  cases alike with
  | same =>
    intro j k alike
    obtain ⟨same, after⟩ := Pairs.of_adds (take_adds s c) j k alike
    rw [← same]
    refine ⟨?_, after⟩
    cases taken : (s.take c j).1 with
    | error e => exact .error e
    | ok next => exact .ok ⟨rfl, (take_domain taken).trans of, .same _⟩
  | password username verified verdict =>
    rw [← of] at verdict
    apply Pairs.bind (Pairs.record rfl rfl)
    intro _ _ _
    rw [verdict]
    apply Pairs.bind (Pairs.note _)
    intro _ _ _
    refine Pairs.pure (.ok ⟨rfl, ?_, .password username _ (of ▸ verdict)⟩)
    change (if _ then _ else s : CallbackHandler).domain = domain
    split
    · exact of
    · exact of

theorem handle_pairs {s : CallbackHandler} {cs cs' : List Callback} (of : s.domain = domain)
    (alike : List.Forall₂ (Callback.Alike domain) cs cs') :
    Pairs (Come domain fun r r' => r'.redacted = r.redacted) (s.handle cs) (s.handle cs') := by
  induction alike generalizing s with
  | nil => exact Pairs.pure ⟨rfl, rfl, of⟩
  | cons first rest ih =>
    apply Pairs.bind (take_pairs of first)
    intro x y taken
    cases taken with
    | error e =>
      refine Pairs.pure ⟨?_, rfl, of⟩
      simp only [Reply.redacted, List.map_cons, first.redacted, Callback.redacted_of_alike rest]
    | @ok after after' related =>
      obtain ⟨next, c⟩ := after
      obtain ⟨next', c'⟩ := after'
      obtain ⟨same, still, alike⟩ := related
      obtain rfl : next' = next := same
      have shown : c'.redacted = c.redacted := alike.redacted
      apply Pairs.bind (ih still)
      rintro ⟨reply, last⟩ ⟨reply', last'⟩ ⟨hidden, rfl, kept⟩
      refine Pairs.pure ⟨?_, rfl, kept⟩
      simp only [Reply.redacted, Reply.mk.injEq] at hidden
      simp only [Reply.redacted, List.map_cons, shown, hidden]

/-- The handler says the same to callbacks that are alike, but for the texts of passwords. -/
theorem rounds_pairs {s : CallbackHandler} {rs rs' : List Round}
    (alike : List.Forall₂ Round.Alike rs rs') :
    Pairs (fun x y => y.1.map Reply.redacted = x.1.map Reply.redacted ∧ y.2 = x.2)
      (s.rounds rs) (s.rounds rs') := by
  induction alike generalizing s with
  | nil => exact Pairs.pure ⟨rfl, rfl⟩
  | cons first rest ih =>
    obtain ⟨same, callbacks⟩ := first
    rw [rounds, rounds, same]
    apply Pairs.bind (handle_pairs rfl callbacks)
    rintro ⟨reply, next⟩ ⟨reply', next'⟩ ⟨hidden, rfl, -⟩
    apply Pairs.bind ih
    rintro ⟨replies, last⟩ ⟨replies', last'⟩ ⟨others, rfl⟩
    refine Pairs.pure ⟨?_, rfl⟩
    rw [List.map_cons, List.map_cons, hidden, others]

/-- What a handler shows of its dealings: its replies, without the texts of passwords, whom it takes
the caller for, what it has noted, and the identifiers that are left. -/
structure Disclosed where
  replies : List Reply
  identity : Identity
  notices : List Notice
  ids : IdSource

def disclosed (s : CallbackHandler) (rs : List Round) (ids : IdSource) : Disclosed :=
  let heard := s.rounds rs ⟨ids, []⟩
  let authorized := heard.1.2.authorizedIdentity heard.2
  ⟨heard.1.1.map Reply.redacted, authorized.1, authorized.2.notices, authorized.2.ids⟩

theorem disclosed_eq {s : CallbackHandler} {rs rs' : List Round}
    (alike : List.Forall₂ Round.Alike rs rs') (ids : IdSource) :
    s.disclosed rs' ids = s.disclosed rs ids := by
  obtain ⟨⟨replies, handler⟩, journals⟩ := rounds_pairs (s := s) alike ⟨ids, []⟩ ⟨ids, []⟩ ⟨rfl, rfl⟩
  obtain ⟨identity, after⟩ :=
    Pairs.of_adds (authorizedIdentity_adds (s.rounds rs ⟨ids, []⟩).1.2) _ _ journals
  simp only [disclosed, replies, handler, identity, after.notices, after.ids]

end CallbackHandler

namespace Dialogue

/-- Dialogues that differ in what they hand over for passwords, and come to results that are
related. They need to go on alike only from replies that they can get to those callbacks. -/
inductive Alike (domain : SecurityDomain) (R : α → β → Prop) : Dialogue α → Dialogue β → Prop
  | done (related : R a b) : Alike domain R (.done a) (.done b)
  | tell (n : Notice) (later : Alike domain R next next') :
    Alike domain R (.tell n next) (.tell n next')
  | ask {next : Reply → Dialogue α} {next' : Reply → Dialogue β}
    (callbacks : List.Forall₂ (Callback.Alike domain) cs cs')
    (later : ∀ (s : CallbackHandler) (j : Journal), s.domain = domain →
      Alike domain R (next (s.handle cs j).1.1) (next' (s.handle cs' j).1.1)) :
    Alike domain R (.ask cs next) (.ask cs' next')

variable {domain : SecurityDomain} {R : α → β → Prop}

theorem Alike.refl {R : α → α → Prop} (related : ∀ a, R a a) (d : Dialogue α) :
    Alike domain R d d := by
  induction d with
  | done a => exact .done (related a)
  | tell n next ih => exact .tell n ih
  | ask cs next ih =>
    exact .ask (List.forall₂_same.mpr fun c _ => .same c) fun s j _ => ih _

open CallbackHandler in
theorem Alike.converse {d : Dialogue α} {d' : Dialogue β} (alike : Alike domain R d d')
    {s : CallbackHandler} (of : s.domain = domain) :
    Pairs (Come domain R) (s.converse d) (s.converse d') := by
  induction alike generalizing s with
  | done related => exact Pairs.pure ⟨related, rfl, of⟩
  | tell n later ih =>
    apply Pairs.bind (Pairs.note n)
    intro _ _ _
    exact ih of
  | @ask cs cs' next next' callbacks later ih =>
    intro j k alike
    obtain ⟨⟨-, same, kept⟩, after⟩ := handle_pairs of callbacks j k alike
    -- A reply does not depend on the journal, so that each dialogue gets one that it may get.
    have reply : (s.handle cs' j).1 = (s.handle cs' k).1 :=
      (Pairs.of_adds (handle_adds s cs') j k alike).1
    have goes := ih s j of kept
    rw [reply] at goes
    rcases here : s.handle cs j with ⟨⟨r, t⟩, after_here⟩
    rcases there : s.handle cs' k with ⟨⟨r', t'⟩, after_there⟩
    rw [here, there] at goes after same
    obtain rfl : t' = t := same
    rw [converse_ask here, converse_ask there]
    exact goes _ _ (Pairs.record rfl rfl _ _ after).2

end Dialogue

variable {domain : SecurityDomain} {m m' : MessageInfo}

/-- The contexts validate these messages in dialogues that are alike. -/
def AuthContext.Alike (domain : SecurityDomain) (m m' : MessageInfo) (v v' : AuthContext) : Prop :=
  ∀ client service,
    Dialogue.Alike domain Eq (v.validate m client service) (v'.validate m' client service)

structure AuthConfig.Alike (domain : SecurityDomain) (m m' : MessageInfo) (c c' : AuthConfig) :
    Prop where
  contextId : Dialogue.Alike domain (Both Eq) (c.contextId m) (c'.contextId m')
  context : ∀ id service properties,
    Dialogue.Alike domain (Both (Option.Rel (AuthContext.Alike domain m m')))
      (c.context id service properties) (c'.context id service properties)

/-- Faced with these messages the providers have dialogues that are alike at every stage. -/
def Provider.Alike (domain : SecurityDomain) (m m' : MessageInfo) (p p' : Provider) : Prop :=
  ∀ layer appContext, Dialogue.Alike domain (Both (AuthConfig.Alike domain m m'))
    (p.configure layer appContext) (p'.configure layer appContext)

namespace Negotiation

open CallbackHandler (Come)

theorem stage_pairs {R : α → β → Prop} {d : Dialogue α} {d' : Dialogue β} {s : CallbackHandler}
    (of : s.domain = domain) (alike : Dialogue.Alike domain R d d') (call call' : ProviderCall) :
    Pairs (Come domain R) (stage call d s) (stage call' d' s) :=
  Pairs.bind (Pairs.record rfl rfl) fun _ _ _ => alike.converse of

theorem attempt_pairs {R : α → β → Prop} {d : Dialogue (Except ProviderError α)}
    {d' : Dialogue (Except ProviderError β)} {s : CallbackHandler} (of : s.domain = domain)
    (alike : Dialogue.Alike domain (Both R) d d') (call call' : ProviderCall) :
    Pairs (Both (Come domain R)) (attempt call d s).run (attempt call' d' s).run := by
  apply Pairs.ebind (stage_pairs of alike call call').lift
  rintro ⟨x, t⟩ ⟨y, t'⟩ ⟨ended, rfl, kept⟩
  cases ended with
  | error e => exact Pairs.pure (.error e)
  | ok related => exact Pairs.pure (.ok ⟨related, rfl, kept⟩)

theorem validated_pairs (response : Response) (n : Notice) (handler : CallbackHandler) :
    let act : Staged Negotiated := do
      Journal.record (.responded response)
      Journal.note n
      return .validated response handler
    Pairs (Both Eq) act.run act.run := by
  refine (Pairs.record rfl rfl).lift.ebind fun _ _ _ => ?_
  exact (Pairs.note n).lift.ebind fun _ _ _ => Pairs.pure (.ok rfl)

/-- Negotiations with providers that are alike come to the same. -/
theorem run_pairs {n : Negotiation} {p p' : Provider} {r r' : Request} {mandatory : Bool}
    (alike : Provider.Alike n.domain (.mandatory { request := r } mandatory)
      (.mandatory { request := r' } mandatory) p p') :
    Pairs (Both Eq) (n.run p r mandatory).run (n.run p' r' mandatory).run := by
  apply Pairs.ebind (attempt_pairs (s := n.start) rfl (alike n.layer n.appContext) _ _)
  rintro ⟨config, s⟩ ⟨config', _⟩ ⟨configs, rfl, of⟩
  apply Pairs.ebind (attempt_pairs of configs.contextId _ _)
  intro _ named come
  obtain ⟨rfl, of⟩ := come.eq
  obtain ⟨id, s⟩ := named
  apply Pairs.ebind (attempt_pairs of (configs.context id none ∅) _ _)
  rintro ⟨context, s⟩ ⟨context', _⟩ ⟨contexts, rfl, of⟩
  cases contexts with
  | none => exact (Pairs.note _).lift.ebind fun _ _ _ => Pairs.pure (.ok rfl)
  | some validates =>
    apply Pairs.ebind (stage_pairs of (validates {} none) _ _).lift
    intro _ ended come
    obtain ⟨rfl, -⟩ := come.eq
    obtain ⟨⟨client, result⟩, s⟩ := ended
    cases result with
    | error e => exact Pairs.pure (.error e)
    | ok response =>
      exact validated_pairs _ _ _

end Negotiation

/-- Providers that hand over callbacks that are alike, and then give one response, are alike. -/
theorem Provider.steady_alike {cs cs' : List Callback}
    (callbacks : List.Forall₂ (Callback.Alike domain) cs cs') (response : Response) :
    Provider.Alike domain m m' (.steady cs response) (.steady cs' response) := by
  have validates (s : CallbackHandler) (j : Journal) (of : s.domain = domain) :
      (s.handle cs' j).1.1.result = (s.handle cs j).1.1.result := by
    obtain ⟨⟨hidden, -, -⟩, -⟩ := CallbackHandler.handle_pairs of callbacks j j ⟨rfl, rfl⟩
    exact (congrArg Reply.result hidden : (Reply.redacted _).result = _)
  refine fun _ _ => .done (.ok ⟨.done (.ok rfl), fun _ _ _ => .done (.ok (.some ?_))⟩)
  intro client _
  refine .ask callbacks fun s j of => .done ?_
  rw [validates s j of]

end RequestAuth
