import RequestAuth.Proofs.Negotiation.Backing

/-! What the identity is and has that is authorized while nobody is identified. It is anonymous and
has no attributes, but whatever groups were handed over are its roles, for whomever they were meant;
without groups it has no roles either. -/
namespace RequestAuth

/-- Whom a callback makes the caller. -/
def Taken.caller? (t : Taken) : Option (Option String) :=
  match t.callback with
  | .caller name => some name
  | _ => none

/-- The latest caller is nobody, or there has been no caller and no password was right. -/
def Unidentified (ts : List Taken) : Prop :=
  ts.reverse.findSome? Taken.caller? = some none ∨
    ∀ t ∈ ts, t.caller? = none ∧ t.verified? = none

theorem Round.admitted_of_mem {integrated : Bool} {rs : List Round} {t : Taken}
    (member : t ∈ allTaken integrated rs) :
    t.isRefused integrated = false ∧ ∃ r ∈ rs, r.domain = t.domain := by
  obtain ⟨r, mem, member⟩ := List.mem_flatMap.mp member
  have admitted : t.isRefused integrated = false := by
    simpa using List.all_eq_true.mp List.all_takeWhile t member
  obtain ⟨c, -, rfl⟩ := List.mem_map.mp ((List.takeWhile_sublist _).mem member)
  exact ⟨admitted, r, mem, rfl⟩

namespace Taken

variable {integrated : Bool} {t : Taken}

/-- Of the callbacks that are taken, those for callers establish somebody. -/
theorem caller?_eq_none_iff (admitted : t.isRefused integrated = false) :
    t.caller? = none ↔ t.established? integrated = none := by
  obtain ⟨domain, callback⟩ := t
  cases callback with
  | groups names => simp [caller?, established?]
  | password user password verified => simp [caller?, established?]
  | caller name =>
    cases name with
    | none => simp [caller?, established?]
    | some name =>
      cases integrated with
      | false => simp [caller?, established?]
      | true =>
        simp only [isRefused, Bool.true_and, Option.isNone_eq_false_iff] at admitted
        simpa [caller?, established?, Option.isSome_iff_ne_none] using admitted

theorem caller?_of_established {draft : IdentityDraft} (principals : t.domain.HasPrincipals)
    (established : t.established? integrated = some draft) :
    ∃ name, t.caller? = some name ∧ (draft.principal.isSome ↔ name.isSome) ∧
      (name = none → draft = .anonymous) := by
  obtain ⟨domain, callback⟩ := t
  cases callback with
  | groups names => simp [established?] at established
  | password user password verified => simp [established?] at established
  | caller name =>
    refine ⟨name, rfl, ?_⟩
    cases name with
    | none =>
      obtain rfl : IdentityDraft.anonymous = draft := by simpa [established?] using established
      simp [IdentityDraft.anonymous]
    | some name =>
      cases integrated with
      | false =>
        obtain rfl : IdentityDraft.named name = draft := by simpa [established?] using established
        simp [IdentityDraft.named]
      | true =>
        have found : domain.identityFor name = some draft := by
          simpa [established?] using established
        simp [principals name draft found]

end Taken

variable {integrated : Bool} {start now : IdSource} {domain : SecurityDomain} {ts : List Taken}
  {base : Identity}

/-- What the callbacks amount to without their groups is bare when nobody is identified, and has a
principal when somebody is. -/
theorem Base.unidentified_iff (amounts : Base integrated start now domain ts base)
    (admitted : ∀ t ∈ ts, t.isRefused integrated = false)
    (principals : ∀ t ∈ ts, t.domain.HasPrincipals) (current : domain.HasPrincipals) :
    (base.isAnonymous = true ↔ Unidentified ts) ∧
      (Unidentified ts → base.roles = ∅ ∧ base.attributes = ∅) := by
  have uncalled_of (uncalled : ∀ u ∈ ts, u.established? integrated = none) :
      ∀ u ∈ ts, u.caller? = none := fun u member =>
    (Taken.caller?_eq_none_iff (admitted u member)).mpr (uncalled u member)
  cases amounts with
  | @caller before t after draft split established last =>
    have here : t ∈ ts := split ▸ List.mem_append_cons_self
    obtain ⟨name, called, named, bare⟩ :=
      Taken.caller?_of_established (principals t here) established
    have latest : ts.reverse.findSome? Taken.caller? = some name :=
      Taken.findSome?_of_last split called fun u member =>
        (Taken.caller?_eq_none_iff (admitted u (by simp [split, member]))).mpr (last u member)
    have identified : Unidentified ts ↔ name = none := by
      refine ⟨?_, fun none => .inl (none ▸ latest)⟩
      rintro (found | silent)
      · simpa [latest] using found
      · simp [(silent t here).1] at called
    rw [identified, Identity.isAnonymous, IdentityDraft.build_principal]
    refine ⟨?_, fun nobody => ?_⟩
    · cases name <;> cases principal : draft.principal <;> simp_all
    · rw [bare nobody]
      exact ⟨rfl, rfl⟩
  | @verified before t after user uncalled split right last =>
    have identified : ¬ Unidentified ts := by
      rintro (found | silent)
      · have none : ts.reverse.findSome? Taken.caller? = none := by
          simpa using uncalled_of uncalled
        simp [none] at found
      · simp [(silent t (split ▸ List.mem_append_cons_self)).2] at right
    refine ⟨?_, fun nobody => absurd nobody identified⟩
    rw [Identity.isAnonymous, IdentityDraft.build_principal]
    cases found : domain.identityFor user with
    | none => simp [IdentityDraft.named, identified]
    | some draft => simpa [identified, Option.isSome_iff_ne_none] using current user draft found
  | nobody uncalled unverified =>
    have silent : Unidentified ts := .inr fun t member =>
      ⟨uncalled_of uncalled t member, unverified t member⟩
    exact ⟨⟨fun _ => silent, fun _ => rfl⟩, fun _ => ⟨rfl, rfl⟩⟩

namespace Negotiation

/-- The identity that is authorized is anonymous exactly while nobody is identified. It then has no
attributes, and its roles are all the groups that have been handed over; none if there are none. -/
theorem anonymous_has_groups (n : Negotiation) (rs : List Round) (domain : SecurityDomain)
    (j k : Journal) (principals : ∀ r ∈ rs, r.domain.HasPrincipals)
    (current : domain.HasPrincipals) :
    let ts := Round.allTaken n.integrated rs
    let authorized := ({ (n.start.rounds rs j).1.2 with domain }.authorizedIdentity k).1
    (authorized.isAnonymous = true ↔ Unidentified ts) ∧
      (Unidentified ts → authorized.attributes = ∅ ∧
        (∀ role, role ∈ authorized.roles ↔ ∃ t ∈ ts, role ∈ t.groups) ∧
        (authorized.roles = ∅ ↔ ∀ t ∈ ts, t.groups = [])) := by
  intro ts authorized
  obtain ⟨base, amounts, made⟩ := n.rounds_base rs domain j k
  have made : authorized = base.withRoles (ts.flatMap Taken.groups) := made
  have admitted : ∀ t ∈ ts, t.isRefused n.integrated = false := fun t member =>
    (Round.admitted_of_mem member).1
  have known : ∀ t ∈ ts, t.domain.HasPrincipals := by
    intro t member
    obtain ⟨-, r, mem, same⟩ := Round.admitted_of_mem member
    exact same ▸ principals r mem
  obtain ⟨anonymous, bare⟩ := amounts.unidentified_iff admitted known current
  rw [made]
  refine ⟨anonymous, fun nobody => ?_⟩
  obtain ⟨roles, attributes⟩ := bare nobody
  have gathered (role : String) :
      role ∈ (base.withRoles (ts.flatMap Taken.groups)).roles ↔ ∃ t ∈ ts, role ∈ t.groups := by
    rw [Identity.mem_roles_withRoles, roles, List.mem_flatMap]
    exact or_iff_left (TextSet.not_mem_empty role)
  refine ⟨attributes, gathered, fun empty t member => ?_, fun ungrouped => ?_⟩
  · rw [List.eq_nil_iff_forall_not_mem]
    intro role given
    have held := (gathered role).mpr ⟨t, member, given⟩
    rw [empty] at held
    exact TextSet.not_mem_empty role held
  · refine TextSet.ext_mem fun role => ?_
    rw [gathered]
    constructor
    · rintro ⟨t, member, given⟩
      simp [ungrouped t member] at given
    · intro held
      exact absurd held (TextSet.not_mem_empty role)

/-- After a wrong password nobody is identified, and the groups that have been handed over are held
by nobody in particular. -/
theorem anonymous_has_groups_rejected :
    let domain : SecurityDomain := ⟨fun _ => some (.named "alice"), fun _ password =>
      password = "boo"⟩
    let n : Negotiation := ⟨"HttpServlet", "default-host /", true, domain⟩
    let rs : List Round :=
      [⟨domain, [.groups ["ops"]]⟩, ⟨domain, [.password "alice" "far" false]⟩]
    let j : Journal := ⟨⟨fun _ => default, 0⟩, []⟩
    let authorized := ((n.start.rounds rs j).1.2.authorizedIdentity j).1
    domain.HasPrincipals ∧ authorized.isAnonymous = true ∧ authorized.attributes = ∅ ∧
      ∀ role, role ∈ authorized.roles ↔ role = "ops" := by
  intro domain n rs j authorized
  have current : domain.HasPrincipals := by
    rintro name draft ⟨⟩
    rfl
  have silent : Unidentified (Round.allTaken true rs) := by
    refine .inr fun t member => ?_
    have offered : t ∈ [⟨domain, .groups ["ops"]⟩, ⟨domain, .password "alice" "far" false⟩] :=
      member
    simp only [List.mem_cons, List.not_mem_nil, or_false] at offered
    rcases offered with rfl | rfl <;> decide
  obtain ⟨anonymous, held⟩ := n.anonymous_has_groups rs domain j j
    (by simpa [rs] using current) current
  obtain ⟨attributes, roles, -⟩ := held silent
  refine ⟨current, anonymous.mpr silent, attributes, fun role => (roles role).trans ?_⟩
  change (∃ t ∈ [⟨domain, .groups ["ops"]⟩, ⟨domain, .password "alice" "far" false⟩],
    role ∈ Taken.groups t) ↔ _
  simp [Taken.groups]

/-- The anonymous caller who comes after another has the other's groups for roles. -/
theorem anonymous_privileged :
    let domain : SecurityDomain :=
      ⟨fun name => if name = "alice" then some (.named "alice") else none, fun _ _ => false⟩
    let n : Negotiation := ⟨"HttpServlet", "default-host /", true, domain⟩
    let rs : List Round := [⟨domain, [.caller (some "alice"), .groups ["ops"], .caller none]⟩]
    let j : Journal := ⟨⟨fun _ => default, 0⟩, []⟩
    let authorized := ((n.start.rounds rs j).1.2.authorizedIdentity j).1
    ¬ (domain.HasPrincipals → authorized.isAnonymous = true →
      authorized.roles = ∅ ∧ authorized.attributes = ∅) := by
  intro domain n rs j authorized promised
  have current : domain.HasPrincipals := by
    intro name draft found
    simp only [domain] at found
    split at found
    · cases found
      rfl
    · cases found
  have held : authorized.roles.contains "ops" = true := by decide
  rw [(promised current (by decide)).1] at held
  cases held

end Negotiation
end RequestAuth
