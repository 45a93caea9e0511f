import RequestAuth.Proofs.Negotiation.Rounds

/-! Whether the security domain stands behind an identity. Where callers have to be known, it does,
but for one case: a password may be right for a user whom the domain does not know, and then the
user's name is all that the identity comes from. -/
namespace RequestAuth

/-- The name that a callback gives. -/
def Taken.name? (t : Taken) : Option String :=
  match t.callback with
  | .caller name => name
  | .groups _ => none
  | .password user _ _ => some user

theorem Taken.name?_of_verified? {t : Taken} {user : String} (right : t.verified? = some user) :
    t.name? = some user := by
  obtain ⟨domain, callback⟩ := t
  cases callback with
  | caller name => simp [verified?] at right
  | groups names => simp [verified?] at right
  | password other password verified =>
    simp only [verified?] at right
    split at right
    · exact right
    · cases right

/-- Somebody established where callers have to be known is known, unless it is nobody. -/
theorem Taken.known_of_established {t : Taken} {draft : IdentityDraft}
    (established : t.established? true = some draft) (principal : draft.principal.isSome) :
    ∃ name, t.name? = some name ∧ t.domain.identityFor name = some draft := by
  obtain ⟨domain, callback⟩ := t
  cases callback with
  | groups names => simp [established?] at established
  | password user password verified => simp [established?] at established
  | caller name =>
    cases name with
    | none =>
      obtain rfl : IdentityDraft.anonymous = draft := by simpa [established?] using established
      cases principal
    | some name => exact ⟨name, rfl, by simpa [established?] using established⟩

/-- Up to groups, the identity is what the domain has for a name that a callback gave. It was asked
when the callback came, or now. -/
def Backed (start now : IdSource) (domain : SecurityDomain) (ts : List Taken)
    (identity : Identity) : Prop :=
  ∃ t ∈ ts, ∃ name draft, t.name? = some name ∧
    (t.domain.identityFor name = some draft ∧
        draft.Yields start.ids (ts.flatMap Taken.groups) identity ∨
      domain.identityFor name = some draft ∧
        draft.Yields now.ids (ts.flatMap Taken.groups) identity)

/-- Nobody has been called, and the last user whose password was right is unknown to the domain. -/
def Unbacked (domain : SecurityDomain) (ts : List Taken) (user : String) : Prop :=
  (∀ u ∈ ts, u.established? true = none) ∧ domain.identityFor user = none ∧
    ∃ before t after, ts = before ++ t :: after ∧ t.verified? = some user ∧
      ∀ u ∈ after, u.verified? = none

/-- What is found last is found first from the end. -/
theorem Taken.findSome?_of_last {find : Taken → Option α} {ts before after : List Taken}
    {t : Taken} {a : α} (split : ts = before ++ t :: after) (found : find t = some a)
    (last : ∀ u ∈ after, find u = none) : ts.reverse.findSome? find = some a := by
  have silent : after.reverse.findSome? find = none := by simpa using last
  simp [split, List.findSome?_append, silent, found]

theorem Base.unbacked {start now : IdSource} {domain : SecurityDomain} {ts : List Taken}
    {base : Identity} {user : String} (amounts : Base true start now domain ts base)
    (unbacked : Unbacked domain ts user) : base = ((IdentityDraft.named user).build now).1 := by
  obtain ⟨uncalled, unknown, before, t, after, split, right, last⟩ := unbacked
  cases amounts with
  | caller split established _ => simp [uncalled _ (split ▸ List.mem_append_cons_self)] at established
  | nobody _ unverified => simp [unverified t (split ▸ List.mem_append_cons_self)] at right
  | verified _ split' right' last' =>
    have same := Taken.findSome?_of_last split right last
    rw [Taken.findSome?_of_last split' right' last'] at same
    cases same
    rw [unknown]
    rfl

theorem Base.backed {start now : IdSource} {domain : SecurityDomain} {ts : List Taken}
    {base : Identity} (amounts : Base true start now domain ts base)
    (known : ∀ user, ¬ Unbacked domain ts user) (principal : base.principal.isSome) :
    Backed start now domain ts (base.withRoles (ts.flatMap Taken.groups)) := by
  cases amounts with
  | @caller before t after draft split established last =>
    rw [IdentityDraft.build_principal] at principal
    obtain ⟨name, given, found⟩ := Taken.known_of_established established principal
    exact ⟨t, split ▸ List.mem_append_cons_self, name, draft, given,
      .inl ⟨found, draft.yields_withRoles (start.onward _) _⟩⟩
  | @verified before t after user uncalled split right last =>
    cases found : domain.identityFor user with
    | none => exact absurd ⟨uncalled, found, before, t, after, split, right, last⟩ (known user)
    | some draft =>
      exact ⟨t, split ▸ List.mem_append_cons_self, user, draft, Taken.name?_of_verified? right,
        .inr ⟨found, draft.yields_withRoles _ _⟩⟩
  | nobody uncalled unverified => cases principal

namespace Negotiation

/-- What is authorized where callers have to be known is backed by the domain, except for a user
whose password was right and whom the domain does not know: that identity has the user's name, and
nothing else but the groups. -/
theorem integrated_backed (n : Negotiation) (rs : List Round) (domain : SecurityDomain)
    (j k : Journal) :
    let ts := Round.allTaken true rs
    let last := (({ n with integrated := true } : Negotiation).start.rounds rs j).1.2
    let authorized := ({ last with domain }.authorizedIdentity k).1
    ((∀ user, ¬ Unbacked domain ts user) → authorized.principal.isSome →
        Backed j.ids k.ids domain ts authorized) ∧
      ∀ user, Unbacked domain ts user →
        (IdentityDraft.named user).Yields k.ids.ids (ts.flatMap Taken.groups) authorized := by
  intro ts last authorized
  obtain ⟨base, amounts, made⟩ := ({ n with integrated := true } : Negotiation).rounds_base rs
    domain j k
  have made : authorized = base.withRoles (ts.flatMap Taken.groups) := made
  rw [made]
  refine ⟨fun known principal => amounts.backed known principal, fun user unbacked => ?_⟩
  rw [amounts.unbacked unbacked]
  exact (IdentityDraft.named user).yields_withRoles k.ids _

/-- A domain that knows nobody takes a password for right, and an identity comes of it. -/
theorem unknown_user_authorized :
    let domain : SecurityDomain := ⟨fun _ => none, fun user password =>
      user = "ghost" && password = "boo"⟩
    let n : Negotiation := ⟨"HttpServlet", "default-host /", true, domain⟩
    let rs : List Round := [⟨domain, [.password "ghost" "boo" false]⟩]
    let j : Journal := ⟨⟨fun _ => default, 0⟩, []⟩
    let authorized := ((n.start.rounds rs j).1.2.authorizedIdentity (n.start.rounds rs j).2).1
    ¬ (authorized.principal.isSome →
      Backed j.ids j.ids domain (Round.allTaken true rs) authorized) := by
  intro domain n rs j authorized backed
  obtain ⟨t, member, name, draft, -, ⟨found, -⟩ | ⟨found, -⟩⟩ := backed (by decide)
  · obtain rfl : t = ⟨domain, .password "ghost" "boo" false⟩ := List.mem_singleton.mp member
    cases found
  · cases found

end Negotiation
end RequestAuth
