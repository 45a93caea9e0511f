import RequestAuth.Negotiation
import RequestAuth.Proofs.Identity.Construction

/-! What a handler does with the callbacks it is handed, and what a dialogue with it comes to. -/
namespace RequestAuth

/-- Every identity of the domain has a principal. -/
def SecurityDomain.HasPrincipals (domain : SecurityDomain) : Prop :=
  ∀ name draft, domain.identityFor name = some draft → draft.principal.isSome

/-- An identity that the draft is built to, and that has further roles besides those of the draft.
The identifier is one of the source unless the draft gives it. -/
structure IdentityDraft.Yields (draft : IdentityDraft) (ids : Nat → Uuid) (further : List String)
    (identity : Identity) : Prop where
  id : ∃ drawn, identity.id = draft.id.getD (ids drawn)
  principal : identity.principal = draft.principal
  attributes : identity.attributes = draft.attributes
  roles : ∀ role, role ∈ identity.roles ↔ role ∈ draft.roles ∨ role ∈ further

theorem IdentityDraft.build_principal (draft : IdentityDraft) (ids : IdSource) :
    (draft.build ids).1.principal = draft.principal := by
  rw [build_eq]

theorem IdentityDraft.yields_withRoles (draft : IdentityDraft) (source : IdSource)
    (further : List String) :
    draft.Yields source.ids further ((draft.build source).1.withRoles further) := by
  rw [build_eq]
  refine ⟨⟨source.drawn, rfl⟩, rfl, rfl, fun role => ?_⟩
  rw [Identity.mem_roles_withRoles, or_comm]

namespace CallbackHandler

/-- Whom a name stands for: in the domain if callers have to be known there, else by itself. -/
def draft? (s : CallbackHandler) (name : String) : Option IdentityDraft :=
  if s.integrated then s.domain.identityFor name else some (.named name)

theorem resolve_none {s : CallbackHandler} {name : String} (unknown : s.draft? name = none)
    (j : Journal) :
    ∃ events, s.resolve name j = (.error (unknownPrincipal name), ⟨j.ids, events⟩) := by
  cases integrated : s.integrated with
  | false => simp [draft?, integrated] at unknown
  | true =>
    have unknown : s.domain.identityFor name = none := by simpa [draft?, integrated] using unknown
    refine ⟨j.events ++ [.identityRequested name], ?_⟩
    simp only [resolve, integrated, if_true, lookUp, unknown]
    rfl

theorem resolve_some {s : CallbackHandler} {name : String} {draft : IdentityDraft}
    (known : s.draft? name = some draft) (j : Journal) :
    ∃ events, s.resolve name j =
      (.ok (draft.build j.ids).1, ⟨(draft.build j.ids).2, events⟩) := by
  cases integrated : s.integrated with
  | false =>
    have named : IdentityDraft.named name = draft := by simpa [draft?, integrated] using known
    refine ⟨j.events, ?_⟩
    simp only [resolve, integrated, Bool.false_eq_true, if_false, named]
    rfl
  | true =>
    have known : s.domain.identityFor name = some draft := by
      simpa [draft?, integrated] using known
    refine ⟨j.events ++ [.identityRequested name], ?_⟩
    simp only [resolve, integrated, if_true, lookUp, known]
    rfl

theorem authorizedIdentity_caller {s : CallbackHandler} {identity : Identity}
    (established : s.caller = some identity) (j : Journal) :
    s.authorizedIdentity j = (identity.withRoles s.groups, j) := by
  simp only [authorizedIdentity, baseIdentity, established]
  rfl

theorem handle_anonymous (s : CallbackHandler) (j : Journal) :
    ∃ events, s.handle [.caller none] j =
      ((⟨[.caller none], .ok ()⟩, { s with
        caller := some (IdentityDraft.anonymous.build j.ids).1, validatedName := none }),
        ⟨(IdentityDraft.anonymous.build j.ids).2, events⟩) :=
  ⟨_, rfl⟩

theorem take_unknown {s : CallbackHandler} {name : String} (unknown : s.draft? name = none)
    (j : Journal) :
    ∃ events, s.take (.caller (some name)) j =
      (.error (unknownPrincipal name), ⟨j.ids, events⟩) := by
  obtain ⟨events, resolves⟩ := resolve_none unknown j
  refine ⟨events, ?_⟩
  simp only [take, bind, StateT.bind, resolves]
  rfl

theorem take_known {s : CallbackHandler} {name : String} {draft : IdentityDraft}
    (known : s.draft? name = some draft) (j : Journal) :
    ∃ events, s.take (.caller (some name)) j =
      (.ok ({ s with caller := some (draft.build j.ids).1 }, .caller (some name)),
        ⟨(draft.build j.ids).2, events⟩) := by
  obtain ⟨events, resolves⟩ := resolve_some known j
  refine ⟨events ++ [.notice (.callerEstablished name)], ?_⟩
  simp only [take, bind, StateT.bind, resolves]
  rfl

theorem handle_error {s : CallbackHandler} {c : Callback} {j after : Journal} {e : ProviderError}
    (fails : s.take c j = (.error e, after)) (cs : List Callback) :
    s.handle (c :: cs) j = ((⟨c :: cs, .error e⟩, s), after) := by
  simp only [handle, bind, StateT.bind, fails]
  rfl

theorem handle_ok {s next : CallbackHandler} {c taken : Callback} {j after : Journal}
    (works : s.take c j = (.ok (next, taken), after)) (cs : List Callback) :
    s.handle (c :: cs) j =
      ((⟨taken :: (next.handle cs after).1.1.callbacks, (next.handle cs after).1.1.result⟩,
        (next.handle cs after).1.2), (next.handle cs after).2) := by
  simp only [handle, bind, StateT.bind, works]
  rfl

theorem converse_done (s : CallbackHandler) (a : α) (j : Journal) :
    s.converse (.done a) j = ((a, s), j) := rfl

theorem converse_tell (s : CallbackHandler) (n : Notice) (next : Dialogue α) (j : Journal) :
    s.converse (.tell n next) j = s.converse next ⟨j.ids, j.events ++ [.notice n]⟩ := rfl

theorem converse_ask {s last : CallbackHandler} {cs : List Callback} {j after : Journal}
    {reply : Reply} (handled : s.handle cs j = ((reply, last), after)) (next : Reply → Dialogue α) :
    s.converse (.ask cs next) j =
      last.converse (next reply) ⟨after.ids, after.events ++ [.callbacksHandled reply]⟩ := by
  simp only [converse, bind, StateT.bind, handled]
  rfl

end CallbackHandler

end RequestAuth
