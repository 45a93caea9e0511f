import Mathlib.Data.List.Induction
import RequestAuth.Proofs.Negotiation.Handling

/-! Whom the callbacks of a negotiation add up to. They come in rounds, one for each call of the
handler, and the security domain may know others in each of them. A round ends at the first callback
that is refused; what went before it has been taken, and only what has been taken counts. -/
namespace RequestAuth

/-- A callback with the security domain as it is when the callback comes. -/
structure Taken where
  domain : SecurityDomain
  callback : Callback

namespace Taken

/-- Whom a callback establishes as the caller: nobody, somebody that the domain knows, or, where
callers need not be known to it, anybody. -/
def established? (integrated : Bool) (t : Taken) : Option IdentityDraft :=
  match t.callback with
  | .caller none => some .anonymous
  | .caller (some name) => if integrated then t.domain.identityFor name else some (.named name)
  | _ => none

/-- A caller whom the domain would have to know. -/
def isRefused (integrated : Bool) (t : Taken) : Bool :=
  match t.callback with
  | .caller (some name) => integrated && (t.domain.identityFor name).isNone
  | _ => false

/-- The user for whom the password is right. -/
def verified? (t : Taken) : Option String :=
  match t.callback with
  | .password user password _ => if t.domain.verifyPassword user password then some user else none
  | _ => none

def groups (t : Taken) : List String :=
  match t.callback with
  | .groups names => names
  | _ => []

def isGroups (t : Taken) : Bool :=
  match t.callback with
  | .groups _ => true
  | _ => false

/-- An identifier is drawn for the callback. -/
def draws (integrated : Bool) (t : Taken) : Bool :=
  (t.established? integrated).any (·.id.isNone)

end Taken

/-- One call of the handler. -/
structure Round where
  domain : SecurityDomain
  callbacks : List Callback

namespace Round

def offered (r : Round) : List Taken := r.callbacks.map (Taken.mk r.domain)

def taken (integrated : Bool) (r : Round) : List Taken :=
  r.offered.takeWhile fun t => !t.isRefused integrated

/-- All the callbacks of the rounds that are taken, in their order. -/
def allTaken (integrated : Bool) (rs : List Round) : List Taken := rs.flatMap (taken integrated)

end Round

/-- Where the next identifiers come from when so many more have been drawn. -/
def IdSource.onward (ids : IdSource) (count : Nat) : IdSource :=
  { ids with drawn := ids.drawn + count }

/-- The identity that the callbacks amount to without their groups: that of the latest caller, as it
was made when the caller was established; without a caller, that of the latest user whose password
was right; else nobody's. A user whom the domain does not know has the name and nothing else. -/
inductive Base (integrated : Bool) (start now : IdSource) (domain : SecurityDomain)
    (ts : List Taken) : Identity → Prop
  | caller (split : ts = before ++ t :: after)
    (established : t.established? integrated = some draft)
    (last : ∀ u ∈ after, u.established? integrated = none) :
    Base integrated start now domain ts
      (draft.build (start.onward (before.countP (·.draws integrated)))).1
  | verified (uncalled : ∀ u ∈ ts, u.established? integrated = none)
    (split : ts = before ++ t :: after) (right : t.verified? = some user)
    (last : ∀ u ∈ after, u.verified? = none) :
    Base integrated start now domain ts
      (((domain.identityFor user).getD (.named user)).build now).1
  | nobody (uncalled : ∀ u ∈ ts, u.established? integrated = none)
    (unverified : ∀ u ∈ ts, u.verified? = none) :
    Base integrated start now domain ts (IdentityDraft.anonymous.build now).1

/-- What a handler has learned about the caller, and the identifiers still to be drawn. -/
structure Claim where
  caller : Option Identity
  validatedName : Option String
  ids : IdSource

namespace Claim

/-- Groups make no difference to it. -/
def take (integrated : Bool) (c : Claim) (t : Taken) : Claim :=
  match t.established? integrated, t.verified? with
  | some draft, _ => {
      caller := some (draft.build c.ids).1
      validatedName := if t.callback = .caller none then none else c.validatedName
      ids := (draft.build c.ids).2 }
  | none, some user => { c with validatedName := some user }
  | none, none => c

theorem take_groups (integrated : Bool) (c : Claim) {t : Taken} (groups : t.isGroups = true) :
    c.take integrated t = c := by
  obtain ⟨domain, callback⟩ := t
  cases callback with
  | groups names => rfl
  | caller name => simp [Taken.isGroups] at groups
  | password user password verified => simp [Taken.isGroups] at groups

/-- Groups may be left out. -/
theorem foldl_filter (integrated : Bool) (c : Claim) (ts : List Taken) :
    (ts.filter fun t => !t.isGroups).foldl (take integrated) c = ts.foldl (take integrated) c := by
  induction ts generalizing c with
  | nil => rfl
  | cons t ts ih =>
    cases groups : t.isGroups with
    | true => rw [List.filter_cons_of_neg (by simp [groups]), ih, List.foldl_cons,
        take_groups integrated c groups]
    | false => rw [List.filter_cons_of_pos (by simp [groups]), List.foldl_cons, ih, List.foldl_cons]

theorem build_onward (draft : IdentityDraft) (ids : IdSource) :
    (draft.build ids).2 = ids.onward (if draft.id.isNone then 1 else 0) := by
  cases given : draft.id with
  | none =>
    simp only [IdentityDraft.build, given]
    rfl
  | some id =>
    simp only [IdentityDraft.build, given]
    rfl

/-- What the claim stands for after the callbacks. -/
structure Stands (integrated : Bool) (start : IdSource) (ts : List Taken) (c : Claim) : Prop where
  ids : c.ids = start.onward (ts.countP (·.draws integrated))
  caller : ∀ identity, c.caller = some identity → ∃ before t after draft,
    ts = before ++ t :: after ∧ t.established? integrated = some draft ∧
      (∀ u ∈ after, u.established? integrated = none) ∧
      identity = (draft.build (start.onward (before.countP (·.draws integrated)))).1
  uncalled : c.caller = none → ∀ u ∈ ts, u.established? integrated = none
  verified : c.caller = none → ∀ user, c.validatedName = some user → ∃ before t after,
    ts = before ++ t :: after ∧ t.verified? = some user ∧ ∀ u ∈ after, u.verified? = none
  unverified : c.caller = none → c.validatedName = none → ∀ u ∈ ts, u.verified? = none

theorem stands_nil (integrated : Bool) (start : IdSource) :
    Stands integrated start [] ⟨none, none, start⟩ where
  ids := rfl
  caller _ none := by cases none
  uncalled _ := by simp
  verified _ _ none := by cases none
  unverified _ _ := by simp

theorem Stands.snoc {integrated : Bool} {start : IdSource} {ts : List Taken} {c : Claim}
    (stands : Stands integrated start ts c) (t : Taken) :
    Stands integrated start (ts ++ [t]) (c.take integrated t) := by
  cases established : t.established? integrated with
  | some draft =>
    have drawn : t.draws integrated = draft.id.isNone := by simp [Taken.draws, established]
    simp only [take, established]
    exact {
      ids := by
        simp only [build_onward, stands.ids, IdSource.onward, List.countP_append,
          List.countP_singleton, drawn, Nat.add_assoc]
      caller := by
        rintro identity ⟨⟩
        exact ⟨ts, t, [], draft, rfl, established, by simp, by rw [stands.ids]⟩
      uncalled := by simp
      verified := by simp
      unverified := by simp }
  | none =>
    have drawn : t.draws integrated = false := by simp [Taken.draws, established]
    have ids : c.ids = start.onward ((ts ++ [t]).countP (·.draws integrated)) := by
      simp [stands.ids, drawn]
    have caller (identity : Identity) (called : c.caller = some identity) :
        ∃ before u after draft, ts ++ [t] = before ++ u :: after ∧
          u.established? integrated = some draft ∧
          (∀ v ∈ after, v.established? integrated = none) ∧
          identity = (draft.build (start.onward (before.countP (·.draws integrated)))).1 := by
      obtain ⟨before, u, after, draft, rfl, found, last, made⟩ := stands.caller identity called
      refine ⟨before, u, after ++ [t], draft, by simp, found, ?_, made⟩
      exact List.forall_mem_append.mpr ⟨last, by simpa using established⟩
    have uncalled (missing : c.caller = none) :
        ∀ u ∈ ts ++ [t], u.established? integrated = none :=
      List.forall_mem_append.mpr ⟨stands.uncalled missing, by simpa using established⟩
    cases verified : t.verified? with
    | some user =>
      simp only [take, established, verified]
      exact {
        ids, caller, uncalled
        verified := by
          rintro - _ ⟨⟩
          exact ⟨ts, t, [], rfl, verified, by simp⟩
        unverified := by simp }
    | none =>
      simp only [take, established, verified]
      exact {
        ids, caller, uncalled
        verified := by
          intro missing user named
          obtain ⟨before, u, after, rfl, right, last⟩ := stands.verified missing user named
          refine ⟨before, u, after ++ [t], by simp, right, ?_⟩
          exact List.forall_mem_append.mpr ⟨last, by simpa using verified⟩
        unverified := fun missing unnamed =>
          List.forall_mem_append.mpr
            ⟨stands.unverified missing unnamed, by simpa using verified⟩ }

theorem stands_foldl (integrated : Bool) (start : IdSource) (ts : List Taken) :
    Stands integrated start ts (ts.foldl (take integrated) ⟨none, none, start⟩) := by
  induction ts using List.reverseRecOn with
  | nil => exact stands_nil integrated start
  | append_singleton ts t ih =>
    rw [List.foldl_append]
    exact ih.snoc t

end Claim

namespace CallbackHandler

/-- The handler is called once for each round. -/
def rounds (s : CallbackHandler) : List Round → Journaled (List Reply × CallbackHandler)
  | [] => return ([], s)
  | r :: rs => do
    let (reply, s) ← { s with domain := r.domain }.handle r.callbacks
    let (replies, s) ← s.rounds rs
    return (reply :: replies, s)

def claim (s : CallbackHandler) (ids : IdSource) : Claim := ⟨s.caller, s.validatedName, ids⟩

/-- Taking these callbacks makes this handler of the other. -/
structure Takes (s : CallbackHandler) (ids : IdSource) (ts : List Taken) (last : CallbackHandler)
    (after : IdSource) : Prop where
  integrated : last.integrated = s.integrated
  groups : last.groups = s.groups ++ ts.flatMap Taken.groups
  claim : last.claim after = ts.foldl (Claim.take s.integrated) (s.claim ids)

variable {s next last : CallbackHandler} {ids mid after : IdSource}

theorem Takes.refl (s : CallbackHandler) (ids : IdSource) : s.Takes ids [] s ids :=
  ⟨rfl, (List.append_nil _).symm, rfl⟩

theorem Takes.trans {ts us : List Taken} (first : s.Takes ids ts next mid)
    (later : next.Takes mid us last after) : s.Takes ids (ts ++ us) last after where
  integrated := later.integrated.trans first.integrated
  groups := by
    rw [later.groups, first.groups, List.flatMap_append, List.append_assoc]
  claim := by
    rw [later.claim, first.integrated, first.claim, List.foldl_append]

theorem take_refused {c : Callback} (refused : Taken.isRefused s.integrated ⟨s.domain, c⟩ = true)
    (j : Journal) : ∃ e events, s.take c j = (.error e, ⟨j.ids, events⟩) := by
  cases c with
  | groups names => simp [Taken.isRefused] at refused
  | password user password verified => simp [Taken.isRefused] at refused
  | caller name =>
    cases name with
    | none => simp [Taken.isRefused] at refused
    | some name =>
      have unknown : s.draft? name = none := by
        simp only [Taken.isRefused, Bool.and_eq_true, Option.isNone_iff_eq_none] at refused
        simp [draft?, refused]
      obtain ⟨events, fails⟩ := take_unknown unknown j
      exact ⟨_, events, fails⟩

theorem take_admitted {c : Callback} (admitted : Taken.isRefused s.integrated ⟨s.domain, c⟩ = false)
    (j : Journal) : ∃ next taken after, s.take c j = (.ok (next, taken), after) ∧
      next.domain = s.domain ∧ s.Takes j.ids [⟨s.domain, c⟩] next after.ids := by
  cases c with
  | groups names =>
    exact ⟨_, _, _, rfl, rfl, rfl, by simp [Taken.groups], rfl⟩
  | password user password verified =>
    refine ⟨_, _, _, rfl, ?_⟩
    cases right : s.domain.verifyPassword user password with
    | true =>
      exact ⟨rfl, rfl, by simp [Taken.groups], by
        simp [claim, Claim.take, Taken.established?, Taken.verified?, right]⟩
    | false =>
      exact ⟨rfl, rfl, by simp [Taken.groups], by
        simp [claim, Claim.take, Taken.established?, Taken.verified?, right]⟩
  | caller name =>
    cases name with
    | none => exact ⟨_, _, _, rfl, rfl, rfl, by simp [Taken.groups], rfl⟩
    | some name =>
      cases drafted : s.draft? name with
      | none =>
        simp only [draft?] at drafted
        split at drafted
        · next integrated => simp [Taken.isRefused, integrated, drafted] at admitted
        · cases drafted
      | some draft =>
        have established : Taken.established? s.integrated ⟨s.domain, .caller (some name)⟩ =
          some draft := drafted
        obtain ⟨events, works⟩ := take_known drafted j
        refine ⟨_, _, _, works, rfl, rfl, by simp [Taken.groups], ?_⟩
        simp [claim, Claim.take, established]

/-- A call takes the callbacks before the first one that is refused, and succeeds if there is none
such. -/
theorem handle_taken (s : CallbackHandler) (cs : List Callback) (j : Journal) :
    (s.handle cs j).1.2.domain = s.domain ∧
      s.Takes j.ids (Round.taken s.integrated ⟨s.domain, cs⟩) (s.handle cs j).1.2
        (s.handle cs j).2.ids ∧
      (s.handle cs j).1.1.result.isOk =
        (Round.offered ⟨s.domain, cs⟩).all fun t => !t.isRefused s.integrated := by
  induction cs generalizing s j with
  | nil => exact ⟨rfl, .refl s j.ids, rfl⟩
  | cons c cs ih =>
    cases refused : Taken.isRefused s.integrated ⟨s.domain, c⟩ with
    | true =>
      obtain ⟨e, events, fails⟩ := take_refused refused j
      have taken : Round.taken s.integrated ⟨s.domain, c :: cs⟩ = [] :=
        List.takeWhile_cons_of_neg (by simp [refused])
      rw [handle_error fails, taken]
      exact ⟨rfl, .refl s j.ids, by simp [Round.offered, refused, Except.isOk, Except.toBool]⟩
    | false =>
      obtain ⟨next, c', after, works, domain, takes⟩ := take_admitted refused j
      have taken : Round.taken s.integrated ⟨s.domain, c :: cs⟩ =
          [⟨s.domain, c⟩] ++ Round.taken next.integrated ⟨next.domain, cs⟩ := by
        rw [domain, takes.integrated]
        exact List.takeWhile_cons_of_pos (by simp [refused])
      obtain ⟨same, later, ok⟩ := ih next after
      rw [handle_ok works, taken]
      refine ⟨same.trans domain, takes.trans later, ok.trans ?_⟩
      simp [Round.offered, refused, domain, takes.integrated]

/-- Rounds take one after the other what each of them takes. -/
theorem rounds_taken (s : CallbackHandler) (rs : List Round) (j : Journal) :
    s.Takes j.ids (Round.allTaken s.integrated rs) (s.rounds rs j).1.2 (s.rounds rs j).2.ids ∧
      (s.rounds rs j).1.1.map (·.result.isOk) =
        rs.map fun r => r.offered.all fun t => !t.isRefused s.integrated := by
  induction rs generalizing s j with
  | nil => exact ⟨.refl s j.ids, rfl⟩
  | cons r rs ih =>
    obtain ⟨-, takes, ok⟩ := handle_taken { s with domain := r.domain } r.callbacks j
    rcases handled : CallbackHandler.handle { s with domain := r.domain } r.callbacks j with
      ⟨⟨reply, next⟩, after⟩
    rw [handled] at takes ok
    have first : s.Takes j.ids (r.taken s.integrated) next after.ids :=
      ⟨takes.integrated, takes.groups, takes.claim⟩
    obtain ⟨later, oks⟩ := ih next after
    have ran : s.rounds (r :: rs) j =
        ((reply :: (next.rounds rs after).1.1, (next.rounds rs after).1.2),
          (next.rounds rs after).2) := by
      simp only [rounds, bind, StateT.bind, handled]
      rfl
    rw [first.integrated] at later oks
    rw [ran, Round.allTaken, List.flatMap_cons]
    refine ⟨first.trans later, ?_⟩
    rw [List.map_cons, List.map_cons, oks]
    exact congrArg (· :: _) ok

/-- The base of the identity of a handler that stands for a claim. -/
theorem base_of_stands {integrated : Bool} {start : IdSource} {ts : List Taken}
    {s : CallbackHandler} (stands : (s.claim ids).Stands integrated start ts) (k : Journal) :
    Base integrated start k.ids s.domain ts (s.baseIdentity k).1 := by
  cases called : s.caller with
  | some identity =>
    obtain ⟨before, t, after, draft, split, established, last, rfl⟩ :=
      stands.caller identity called
    have made : (s.baseIdentity k).1 =
        (draft.build (start.onward (before.countP (·.draws integrated)))).1 := by
      simp only [baseIdentity, called]
      rfl
    rw [made]
    exact .caller split established last
  | none =>
    have uncalled := stands.uncalled called
    cases named : s.validatedName with
    | some user =>
      obtain ⟨before, t, after, split, right, last⟩ := stands.verified called user named
      have made : (s.baseIdentity k).1 =
          (((s.domain.identityFor user).getD (.named user)).build k.ids).1 := by
        simp only [baseIdentity, called, named, lookUp]
        cases s.domain.identityFor user with
        | none => rfl
        | some draft => rfl
      rw [made]
      exact .verified uncalled split right last
    | none =>
      have made : (s.baseIdentity k).1 = (IdentityDraft.anonymous.build k.ids).1 := by
        simp only [baseIdentity, called, named]
        rfl
      rw [made]
      exact .nobody uncalled (stands.unverified called named)

/-- Handlers that have learned the same about the caller, and have the same groups in whatever
order and number, authorize the same identity. -/
theorem authorizedIdentity_congr {s t : CallbackHandler} (domain : s.domain = t.domain)
    (caller : s.caller = t.caller) (validatedName : s.validatedName = t.validatedName)
    (groups : ∀ role, role ∈ s.groups ↔ role ∈ t.groups) (k : Journal) :
    (s.authorizedIdentity k).1 = (t.authorizedIdentity k).1 := by
  have base : s.baseIdentity k = t.baseIdentity k := by
    simp only [baseIdentity, lookUp, domain, caller, validatedName]
  change (s.baseIdentity k).1.withRoles s.groups = (t.baseIdentity k).1.withRoles t.groups
  rw [base, Identity.withRoles, Identity.withRoles, Identity.mk.injEq]
  refine ⟨rfl, rfl, TextSet.ext_mem fun role => ?_, rfl⟩
  rw [TextSet.mem_insertAll, TextSet.mem_insertAll, groups]

end CallbackHandler

namespace Negotiation

/-- What the rounds of a negotiation add up to: a base with all the groups. -/
theorem rounds_base (n : Negotiation) (rs : List Round) (domain : SecurityDomain) (j k : Journal) :
    ∃ base, Base n.integrated j.ids k.ids domain (Round.allTaken n.integrated rs) base ∧
      ({ (n.start.rounds rs j).1.2 with domain }.authorizedIdentity k).1 =
        base.withRoles ((Round.allTaken n.integrated rs).flatMap Taken.groups) := by
  obtain ⟨takes, -⟩ := n.start.rounds_taken rs j
  have groups : (n.start.rounds rs j).1.2.groups =
    (Round.allTaken n.integrated rs).flatMap Taken.groups := takes.groups
  have claim : (n.start.rounds rs j).1.2.claim _ =
      (Round.allTaken n.integrated rs).foldl (Claim.take n.integrated) ⟨none, none, j.ids⟩ :=
    takes.claim
  have stands := Claim.stands_foldl n.integrated j.ids (Round.allTaken n.integrated rs)
  rw [← claim] at stands
  refine ⟨({ (n.start.rounds rs j).1.2 with domain }.baseIdentity k).1, ?_, ?_⟩
  · exact CallbackHandler.base_of_stands (s := { (n.start.rounds rs j).1.2 with domain }) stands k
  · rw [← groups]
    rfl

/-- Rounds that take the same callbacks but for their groups, and have the same groups anywhere in
them, add up to the same. -/
theorem rounds_congr (n : Negotiation) {rs others : List Round} (domain : SecurityDomain)
    (j k : Journal)
    (same : (Round.allTaken n.integrated others).filter (!·.isGroups) =
      (Round.allTaken n.integrated rs).filter (!·.isGroups))
    (named : ∀ role, (∃ t ∈ Round.allTaken n.integrated others, role ∈ t.groups) ↔
      ∃ t ∈ Round.allTaken n.integrated rs, role ∈ t.groups) :
    ({ (n.start.rounds others j).1.2 with domain }.authorizedIdentity k).1 =
      ({ (n.start.rounds rs j).1.2 with domain }.authorizedIdentity k).1 := by
  obtain ⟨takes, -⟩ := n.start.rounds_taken rs j
  obtain ⟨takes', -⟩ := n.start.rounds_taken others j
  have claims : (n.start.rounds others j).1.2.claim (n.start.rounds others j).2.ids =
      (n.start.rounds rs j).1.2.claim (n.start.rounds rs j).2.ids := by
    rw [takes.claim, takes'.claim, ← Claim.foldl_filter, ← Claim.foldl_filter _ _
      (Round.allTaken n.start.integrated rs)]
    exact congrArg (List.foldl _ _) same
  have caller : (n.start.rounds others j).1.2.caller = (n.start.rounds rs j).1.2.caller :=
    congrArg Claim.caller claims
  have validatedName : (n.start.rounds others j).1.2.validatedName =
      (n.start.rounds rs j).1.2.validatedName := congrArg Claim.validatedName claims
  refine CallbackHandler.authorizedIdentity_congr
    (s := { (n.start.rounds others j).1.2 with domain })
    (t := { (n.start.rounds rs j).1.2 with domain }) rfl caller validatedName (fun role => ?_) k
  change role ∈ (n.start.rounds others j).1.2.groups ↔ role ∈ (n.start.rounds rs j).1.2.groups
  rw [takes.groups, takes'.groups]
  have gathered (ts : List Taken) :
      role ∈ n.start.groups ++ ts.flatMap Taken.groups ↔ ∃ t ∈ ts, role ∈ t.groups := by
    simp [start]
  rw [gathered, gathered]
  exact named role

/-- However callbacks are spread over rounds, the identity that is authorized is the base that the
callbacks taken amount to, with the groups of all of them for further roles. Where the groups come
among the other callbacks makes no difference, nor does how they are split. -/
theorem rounds_authorize (n : Negotiation) (rs : List Round) (domain : SecurityDomain)
    (j k : Journal) :
    let heard := (n.start.rounds rs j).1
    let ts := Round.allTaken n.integrated rs
    let authorized := ({ heard.2 with domain }.authorizedIdentity k).1
    heard.1.map (·.result.isOk) =
        rs.map (fun r => r.offered.all fun t => !t.isRefused n.integrated) ∧
      (∃ base, Base n.integrated j.ids k.ids domain ts base ∧ authorized.id = base.id ∧
        authorized.principal = base.principal ∧ authorized.attributes = base.attributes ∧
        (base.principal.isSome →
          ∀ role, role ∈ authorized.roles ↔ role ∈ base.roles ∨ ∃ t ∈ ts, role ∈ t.groups)) ∧
      ∀ others, (Round.allTaken n.integrated others).filter (!·.isGroups) =
          ts.filter (!·.isGroups) →
        (∀ role, (∃ t ∈ Round.allTaken n.integrated others, role ∈ t.groups) ↔
          ∃ t ∈ ts, role ∈ t.groups) →
        ({ (n.start.rounds others j).1.2 with domain }.authorizedIdentity k).1 = authorized := by
  intro heard ts authorized
  obtain ⟨-, answered⟩ := n.start.rounds_taken rs j
  obtain ⟨base, amounts, made⟩ := n.rounds_base rs domain j k
  have made : authorized = base.withRoles (ts.flatMap Taken.groups) := made
  refine ⟨answered, ⟨base, amounts, ?_⟩, fun others same named =>
    n.rounds_congr domain j k same named⟩
  rw [made]
  refine ⟨rfl, rfl, rfl, fun _ role => ?_⟩
  rw [Identity.mem_roles_withRoles, List.mem_flatMap, or_comm]

end Negotiation
end RequestAuth
