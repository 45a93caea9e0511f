import RequestAuth.StaticTokens.Provider

/-! What a request presents as a token, and whom the configuration has for it. -/
namespace RequestAuth

theorem TextMap.find?_foldl_insert_iff (m : TextMap β) (pairs : List (String × β)) (key : String)
    (value : β) :
    (pairs.foldl (fun m e => m.insert e.1 e.2) m).find? key = some value ↔
      (∃ front back, pairs = front ++ (key, value) :: back ∧ ∀ e ∈ back, e.1 ≠ key) ∨
        (∀ e ∈ pairs, e.1 ≠ key) ∧ m.find? key = some value := by
  induction pairs generalizing m with
  | nil => simp
  | cons e rest ih =>
    rw [List.foldl_cons, ih]
    constructor
    · rintro (⟨front, back, rfl, last⟩ | ⟨absent, found⟩)
      · exact .inl ⟨e :: front, back, rfl, last⟩
      · by_cases same : e.1 = key
        · rw [same, find?_insert_same] at found
          cases found
          exact .inl ⟨[], rest, by rw [← same]; rfl, absent⟩
        · rw [find?_insert_other m (Ne.symm same)] at found
          exact .inr ⟨List.forall_mem_cons.mpr ⟨same, absent⟩, found⟩
    · rintro (⟨_ | ⟨f, front⟩, back, split, last⟩ | ⟨absent, found⟩)
      · cases split
        exact .inr ⟨last, find?_insert_same m key value⟩
      · cases split
        exact .inl ⟨front, back, rfl, last⟩
      · obtain ⟨apart, absent⟩ := List.forall_mem_cons.mp absent
        rw [find?_insert_other m (Ne.symm apart)]
        exact .inr ⟨absent, found⟩

/-- The last pair of a key is the one that is found. -/
theorem TextMap.find?_ofList_iff (pairs : List (String × β)) (key : String) (value : β) :
    (TextMap.ofList pairs).find? key = some value ↔
      ∃ front back, pairs = front ++ (key, value) :: back ∧ ∀ e ∈ back, e.1 ≠ key := by
  rw [ofList, find?_foldl_insert_iff]
  simp

namespace Request

/-- The first authorization header is text, names the bearer scheme and goes on with the token,
which may have white space around it. -/
def Presents (r : Request) (token : String) : Prop :=
  ∃ front h back rest, r.headers = front ++ h :: back ∧
    (∀ g ∈ front, Text.sameLetters g.name "authorization" = false) ∧
    Text.sameLetters h.name "authorization" = true ∧
    Header.text? h.value = some ("Bearer " ++ rest) ∧ token = Text.trim rest

theorem header?_eq_some_iff (r : Request) (name : String) (value : List UInt8) :
    r.header? name = some value ↔ ∃ front h back, r.headers = front ++ h :: back ∧
      (∀ g ∈ front, Text.sameLetters g.name name = false) ∧
      Text.sameLetters h.name name = true ∧ h.value = value := by
  simp only [header?, Option.map_eq_some_iff, List.find?_eq_some_iff_append,
    Bool.not_eq_eq_eq_not, Bool.not_true]
  constructor
  · rintro ⟨h, ⟨named, front, back, split, apart⟩, rfl⟩
    exact ⟨front, h, back, split, apart, named, rfl⟩
  · rintro ⟨front, h, back, split, apart, named, rfl⟩
    exact ⟨h, ⟨named, front, back, split, apart⟩, rfl⟩

theorem isPrefixOf_bearerScheme (text : String) :
    bearerScheme.isPrefixOf text.toList = true ↔ ∃ rest : String, text = "Bearer " ++ rest := by
  rw [List.isPrefixOf_iff_prefix]
  constructor
  · rintro ⟨rest, eq⟩
    refine ⟨String.ofList rest, String.toList_inj.mp ?_⟩
    have spelled : (String.ofList rest).toList = rest := String.toList_ofList
    rw [String.toList_append, spelled]
    exact eq.symm
  · rintro ⟨rest, rfl⟩
    exact ⟨rest.toList, String.toList_append.symm⟩

theorem bearerToken?_eq_some_iff (r : Request) (token : String) :
    r.bearerToken? = some token ↔ r.Presents token := by
  have remainder (rest : String) :
      String.ofList (("Bearer " ++ rest).toList.drop bearerScheme.length) = rest := by
    rw [String.toList_append]
    change String.ofList ((bearerScheme ++ rest.toList).drop bearerScheme.length) = rest
    rw [List.drop_left, String.ofList_toList]
  simp only [bearerToken?, Option.bind_eq_bind, Option.bind_eq_some_iff, header?_eq_some_iff]
  constructor
  · rintro ⟨value, ⟨front, h, back, split, apart, named, rfl⟩, text, readable, found⟩
    by_cases scheme : bearerScheme.isPrefixOf text.toList = true
    · rw [if_pos scheme] at found
      obtain ⟨rest, rfl⟩ := (isPrefixOf_bearerScheme text).mp scheme
      rw [remainder] at found
      exact ⟨front, h, back, rest, split, apart, named, readable, (Option.some.inj found).symm⟩
    · rw [if_neg scheme] at found
      cases found
  · rintro ⟨front, h, back, rest, split, apart, named, readable, rfl⟩
    have scheme := (isPrefixOf_bearerScheme ("Bearer " ++ rest)).mpr ⟨rest, rfl⟩
    refine ⟨h.value, ⟨front, h, back, split, apart, named, rfl⟩, _, readable, ?_⟩
    rw [if_pos scheme, remainder]

theorem bearerToken?_eq_none_iff (r : Request) :
    r.bearerToken? = none ↔ ∀ token, ¬ r.Presents token := by
  simp only [← bearerToken?_eq_some_iff, Option.eq_none_iff_forall_ne_some, ne_eq]

end Request

namespace StaticTokens

/-- The configuration has this identity for a token: the default one for any token, or the one of
the token's last mapping. -/
def Config.Assigns (c : Config) (token : String) (i : TokenIdentity) : Prop :=
  token ≠ "" ∧
    match c.mode with
    | .acceptAll => i = c.defaultIdentity
    | .staticTokens => ∃ front back, c.tokens = front ++ ⟨token, i⟩ :: back ∧
        ∀ m ∈ back, m.token ≠ token

theorem identify_ofConfig_iff (c : Config) (token : String) (i : TokenIdentity) :
    (Authenticator.ofConfig c).identify token = some i ↔ c.Assigns token i := by
  by_cases empty : token = ""
  · simp [Authenticator.identify, Config.Assigns, empty]
  · cases mode : c.mode with
    | acceptAll =>
      simp only [Authenticator.identify, Authenticator.ofConfig, Config.Assigns, empty, mode,
        if_false, ne_eq, not_false_eq_true, true_and, Option.some.injEq]
      exact eq_comm
    | staticTokens =>
      simp only [Authenticator.identify, Authenticator.ofConfig, Config.Assigns, empty, mode,
        if_false, ne_eq, not_false_eq_true, true_and, TextMap.find?_ofList_iff]
      constructor
      · rintro ⟨front, back, split, last⟩
        obtain ⟨earlier, others, tokens, rfl, cons⟩ := List.map_eq_append_iff.mp split
        obtain ⟨⟨_, _⟩, later, rfl, pair, rfl⟩ := List.map_eq_cons_iff.mp cons
        cases pair
        refine ⟨earlier, later, tokens, fun m member => ?_⟩
        exact last (m.token, m.identity) (List.mem_map.mpr ⟨m, member, rfl⟩)
      · rintro ⟨front, back, split, last⟩
        refine ⟨_, _, by rw [split, List.map_append, List.map_cons], ?_⟩
        intro e member
        obtain ⟨m, there, rfl⟩ := List.mem_map.mp member
        exact last m there

end StaticTokens
end RequestAuth
