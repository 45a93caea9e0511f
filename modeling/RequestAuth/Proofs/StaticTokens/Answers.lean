import Mathlib.Data.List.DropRight
import RequestAuth.Proofs.Outcome
import RequestAuth.Proofs.StaticTokens.Validation

/-! What the static token provider answers, whatever the handler of its callbacks does. The token
is told from the bytes of the header; the handler is called once at most, and a principal is added
only when it took the callbacks. -/
namespace RequestAuth

namespace Text

/-- Neither end is white space. -/
def Trimmed (cs : List Char) : Prop :=
  ∀ c, cs.head? = some c ∨ cs.getLast? = some c → isSpace c = false

theorem trimmed_trimRight_trimLeft (cs : List Char) : Trimmed (trimRight (trimLeft cs)) := by
  rintro c (first | last)
  · have front : trimRight (trimLeft cs) <+: trimLeft cs := List.rdropWhile_prefix isSpace _
    obtain ⟨rest, whole⟩ := front
    have head : (trimLeft cs).head? = some c := by rw [← whole, List.head?_append, first]; rfl
    have stops := List.head?_dropWhile_not isSpace cs
    rw [show (cs.dropWhile isSpace).head? = some c from head] at stops
    exact stops
  · have some_ : (trimLeft cs).rdropWhile isSpace ≠ [] := by
      intro empty
      rw [show trimRight (trimLeft cs) = [] from empty] at last
      cases last
    have stops := List.rdropWhile_last_not isSpace (trimLeft cs) some_
    have same : ((trimLeft cs).rdropWhile isSpace).getLast some_ = c := by
      rw [← Option.some_inj, ← List.getLast?_eq_some_getLast]
      exact last
    simpa [same] using stops

/-- Trimming takes all the white space around. -/
theorem trimRight_trimLeft_eq_iff {cs t : List Char} :
    trimRight (trimLeft cs) = t ↔ ∃ before after, cs = before ++ t ++ after ∧
      (∀ c ∈ before ++ after, isSpace c = true) ∧ Trimmed t := by
  constructor
  · rintro rfl
    refine ⟨cs.takeWhile isSpace, (trimLeft cs).rtakeWhile isSpace, ?_, ?_,
      trimmed_trimRight_trimLeft cs⟩
    · have right : trimRight (trimLeft cs) ++ (trimLeft cs).rtakeWhile isSpace = trimLeft cs :=
        List.rdropWhile_append_rtakeWhile ..
      rw [List.append_assoc, right]
      exact List.takeWhile_append_dropWhile.symm
    · intro c member
      rcases List.mem_append.mp member with left | right
      · exact List.mem_takeWhile_imp left
      · exact List.mem_rtakeWhile_imp right
  · rintro ⟨before, after, rfl, spaces, trimmed⟩
    have left : ∀ c ∈ before, isSpace c = true := fun c m => spaces c (List.mem_append_left _ m)
    have right : ∀ c ∈ after, isSpace c = true := fun c m => spaces c (List.mem_append_right _ m)
    cases t with
    | nil =>
      have nothing : trimLeft (before ++ [] ++ after) = [] := by
        rw [trimLeft, List.append_nil]
        exact List.dropWhile_eq_nil_iff.mpr spaces
      rw [nothing]
      rfl
    | cons c t =>
      have first : ¬ isSpace c = true := by simp [trimmed c (.inl rfl)]
      have cut : trimLeft (before ++ (c :: t) ++ after) = c :: t ++ after := by
        rw [trimLeft, List.append_assoc, List.dropWhile_append_of_pos left, List.cons_append,
          List.dropWhile_cons_of_neg first]
      rw [cut, trimRight, List.reverse_append,
        List.dropWhile_append_of_pos fun c m => right c (List.mem_reverse.mp m)]
      refine List.rdropWhile_eq_self_iff.mpr fun some_ => ?_
      have last : (c :: t).getLast? = some ((c :: t).getLast some_) :=
        List.getLast?_eq_some_getLast some_
      simp [trimmed _ (.inr last)]

theorem trim_eq_iff {s t : String} :
    trim s = t ↔ ∃ before after, s.toList = before ++ t.toList ++ after ∧
      (∀ c ∈ before ++ after, isSpace c = true) ∧ Trimmed t.toList := by
  rw [← trimRight_trimLeft_eq_iff, trim, ← String.toList_inj, String.toList_ofList]

end Text

namespace Header

/-- The bytes are printable ASCII and tabs, begin with the bearer scheme and go on with the token,
which may have blanks and tabs around it. -/
def Bears (value : List UInt8) (token : String) : Prop :=
  (∀ b ∈ value, b = 0x09 ∨ 0x20 ≤ b ∧ b ≤ 0x7E) ∧
    ∃ before after : List Char,
      value.map (fun b => Char.ofNat b.toNat) =
        "Bearer ".toList ++ (before ++ token.toList ++ after) ∧
      (∀ c ∈ before ++ after, c = '\t' ∨ c = ' ') ∧
      ∀ c, token.toList.head? = some c ∨ token.toList.getLast? = some c → c ≠ '\t' ∧ c ≠ ' '

theorem text?_eq_some_iff {value : List UInt8} {s : String} :
    text? value = some s ↔ (∀ b ∈ value, b = 0x09 ∨ 0x20 ≤ b ∧ b ≤ 0x7E) ∧
      value.map (fun b => Char.ofNat b.toNat) = s.toList := by
  have bytes : value.all isTextByte = true ↔ ∀ b ∈ value, b = 0x09 ∨ 0x20 ≤ b ∧ b ≤ 0x7E := by
    simp [isTextByte]
  simp only [text?, ← bytes]
  split
  · next readable =>
    rw [Option.some.injEq, ← String.toList_inj, String.toList_ofList]
    exact (and_iff_right readable).symm
  · next unreadable => simp [unreadable]

/-- White space in the text of a header is blanks and tabs. -/
theorem isSpace_textByte {b : UInt8} (readable : b = 0x09 ∨ 0x20 ≤ b ∧ b ≤ 0x7E) :
    Text.isSpace (Char.ofNat b.toNat) = true ↔
      Char.ofNat b.toNat = '\t' ∨ Char.ofNat b.toNat = ' ' := by
  have ascii : ∀ n < 127, n = 9 ∨ 32 ≤ n →
      (Text.isSpace (Char.ofNat n) = true ↔ Char.ofNat n = '\t' ∨ Char.ofNat n = ' ') := by
    decide
  rw [UInt8.le_iff_toNat_le, UInt8.le_iff_toNat_le, ← UInt8.toNat_inj] at readable
  have numbers :
      (0x09 : UInt8).toNat = 9 ∧ (0x20 : UInt8).toNat = 32 ∧ (0x7E : UInt8).toNat = 126 :=
    ⟨rfl, rfl, rfl⟩
  exact ascii b.toNat (by omega) (by omega)

theorem bears_iff {value : List UInt8} {token : String} :
    Bears value token ↔
      ∃ rest, text? value = some ("Bearer " ++ rest) ∧ token = Text.trim rest := by
  have blank (readable : ∀ b ∈ value, b = 0x09 ∨ 0x20 ≤ b ∧ b ≤ 0x7E) (c : Char)
      (member : c ∈ value.map fun b => Char.ofNat b.toNat) :
      Text.isSpace c = true ↔ c = '\t' ∨ c = ' ' := by
    obtain ⟨b, there, rfl⟩ := List.mem_map.mp member
    exact isSpace_textByte (readable b there)
  have ends {cs : List Char} {c : Char} (at_ : cs.head? = some c ∨ cs.getLast? = some c) : c ∈ cs :=
    at_.elim List.mem_of_head? List.mem_of_getLast?
  constructor
  · rintro ⟨readable, before, after, spelled, blanks, apart⟩
    let rest := String.ofList (before ++ token.toList ++ after)
    have whole : rest.toList = before ++ token.toList ++ after := String.toList_ofList
    have read : text? value = some ("Bearer " ++ rest) :=
      text?_eq_some_iff.mpr ⟨readable, by rw [spelled, String.toList_append, whole]⟩
    refine ⟨rest, read, (Text.trim_eq_iff.mpr ⟨before, after, whole, ?_, ?_⟩).symm⟩
    · intro c member
      rcases blanks c member with rfl | rfl <;> decide
    · intro c at_
      have inside : c ∈ value.map fun b => Char.ofNat b.toNat := by
        rw [spelled]
        simp [ends at_]
      rw [← Bool.not_eq_true, blank readable c inside, not_or]
      exact apart c at_
  · rintro ⟨rest, read, trimmed⟩
    obtain ⟨readable, spelled⟩ := text?_eq_some_iff.mp read
    obtain ⟨before, after, whole, spaces, apart⟩ := Text.trim_eq_iff.mp trimmed.symm
    rw [String.toList_append, whole] at spelled
    have inside {c : Char} (member : c ∈ before ++ token.toList ++ after) :
        c ∈ value.map fun b => Char.ofNat b.toNat := by
      rw [spelled]
      exact List.mem_append_right _ member
    refine ⟨readable, before, after, spelled, fun c member => ?_, fun c at_ => ?_⟩
    · have there : c ∈ before ++ token.toList ++ after := by
        rcases List.mem_append.mp member with left | right
        · simp [left]
        · simp [right]
      exact (blank readable c (inside there)).mp (spaces c member)
    · have there : c ∈ before ++ token.toList ++ after := by simp [ends at_]
      have notSpace := apart c at_
      rw [← Bool.not_eq_true, blank readable c (inside there), not_or] at notSpace
      exact notSpace

end Header

/-- The subject `t` has the principals of `s` in their order, and this one after them unless it was
among them. -/
def Subject.Gains (s : Subject) (name : String) (t : Subject) : Prop :=
  (name ∈ s.principals ∧ t.principals = s.principals) ∨
    (name ∉ s.principals ∧ t.principals = s.principals ++ [name])

theorem Subject.gains_add (s : Subject) (name : String) : s.Gains name (s.add name) := by
  by_cases present : name ∈ s.principals
  · exact .inl ⟨present, by rw [add, if_pos present]⟩
  · exact .inr ⟨present, by rw [add, if_neg present]⟩

/-- The first authorization header bears the token. -/
def Request.Bears (r : Request) (token : String) : Prop :=
  ∃ front h back, r.headers = front ++ h :: back ∧
    (∀ g ∈ front, Text.sameLetters g.name "authorization" = false) ∧
    Text.sameLetters h.name "authorization" = true ∧ Header.Bears h.value token

theorem Request.bears_iff_presents {r : Request} {token : String} :
    r.Bears token ↔ r.Presents token := by
  simp only [Bears, Presents, Header.bears_iff]
  constructor
  · rintro ⟨front, h, back, split, apart, named, rest, readable, trimmed⟩
    exact ⟨front, h, back, rest, split, apart, named, readable, trimmed⟩
  · rintro ⟨front, h, back, rest, split, apart, named, readable, trimmed⟩
    exact ⟨front, h, back, split, apart, named, rest, readable, trimmed⟩

namespace Dialogue

variable {σ α : Type}

/-- A handler with a memory of its own, and the lists of callbacks it has been handed so far. -/
def witnessed (handler : σ → List Callback → Reply × σ) (callbacks : List Callback) :
    StateM (List (List Callback) × σ) Reply := fun (calls, s) =>
  ((handler s callbacks).1, calls ++ [callbacks], (handler s callbacks).2)

/-- What the dialogue comes to against the handler, what the handler was handed in its calls, and
its memory afterwards. -/
def against (handler : σ → List Callback → Reply × σ) (dialogue : Dialogue α) (start : σ) :
    α × List (List Callback) × σ :=
  dialogue.run (fun _ => pure ()) (witnessed handler) ([], start)

end Dialogue

namespace StaticTokens

/-- The response to a token that the configuration has an identity for. Whether the session is to
remember the identity is always said; the mechanism is named if there is one. -/
structure Config.Confirms (c : Config) (r : Response) : Prop where
  status : r.status = if c.sendSuccess then .sendSuccess else .success
  options : ∀ key value, r.options.find? key = some value ↔
    key = WellKnown.registerSessionOption ∧
        value = (if c.registerSession then "true" else "false") ∨
      key = WellKnown.authTypeOption ∧ c.authType = some value

theorem confirms_accepted (c : Config) : c.Confirms (Authenticator.ofConfig c).accepted := by
  let bare : Response := ⟨if c.sendSuccess then .sendSuccess else .success, ∅⟩
  have registered (key : String) : (bare.registerSession c.registerSession).options.find? key =
      if key = WellKnown.registerSessionOption then
        some (if c.registerSession then "true" else "false")
      else none :=
    bare.find?_withOption ..
  have apart : WellKnown.registerSessionOption ≠ WellKnown.authTypeOption := by decide
  cases label : c.authType with
  | none =>
    have written :
        (Authenticator.ofConfig c).accepted = bare.registerSession c.registerSession := by
      simp only [Authenticator.accepted, Authenticator.ofConfig, label]
      rfl
    refine ⟨by rw [written]; rfl, fun key value => ?_⟩
    rw [written, registered]
    by_cases asked : key = WellKnown.registerSessionOption
    · simp only [asked, label, if_true, Option.some.injEq, true_and, reduceCtorEq, and_false,
        or_false]
      exact eq_comm
    · simp [asked, label]
  | some text =>
    have written : (Authenticator.ofConfig c).accepted =
        (bare.registerSession c.registerSession).authType text := by
      simp only [Authenticator.accepted, Authenticator.ofConfig, label]
      rfl
    refine ⟨by rw [written]; rfl, fun key value => ?_⟩
    rw [written, Response.authType, Response.find?_withOption, registered]
    by_cases named : key = WellKnown.authTypeOption
    · simp [named, apart.symm, label]
    · by_cases asked : key = WellKnown.registerSessionOption
      · simp only [asked, apart, if_true, if_false, Option.some.injEq, true_and, false_and,
          or_false]
        exact eq_comm
      · simp [named, asked]

/-- A known token is one call of the handler, which decides on the answer. -/
theorem Authenticator.against_known {σ : Type} {a : Authenticator} {message : MessageInfo}
    {token : String} {i : TokenIdentity}
    (presented : message.request.bearerToken? = some token) (known : a.identify token = some i)
    (client : Subject) (handler : σ → List Callback → Reply × σ) (start : σ) :
    (a.validate message client).against handler start =
      ((match (handler start (callbacks i)).1.result with
        | .error e => (client, Except.error e)
        | .ok _ => (client.add i.principal, Except.ok a.accepted)),
        [callbacks i], (handler start (callbacks i)).2) := by
  rw [validate_known presented known]
  simp only [Dialogue.against, Dialogue.run]
  -- the dialogue goes on by what the handler replied
  change (Dialogue.run (m := StateM _) _ _ (match (handler start (callbacks i)).1.result with
    | .error e => _
    | .ok _ => _)) _ = _
  cases (handler start (callbacks i)).1.result <;> rfl

open Authenticator in
/-- What validation answers. Without a token the handler is not called for a mandatory request, and
for an optional one it is handed the anonymous caller. A token without an identity is refused before
the handler is called; otherwise the handler is handed the caller and its groups, and it decides:
its error is the answer and the subject stays as it was, or the principal is added and the response
confirms it. -/
theorem validate_answers {σ : Type} (c : Config) (message : MessageInfo) (client : Subject)
    (handler : σ → List Callback → Reply × σ) (start : σ) :
    let answer := ((ofConfig c).validate message client).against handler start
    ((∀ token, ¬ message.request.Bears token) →
      (message.isMandatory = true → answer = ((client, .ok ⟨.sendFailure, ∅⟩), [], start)) ∧
      (message.isMandatory = false →
        let (reply, last) := handler start [.caller none]
        answer = ((client, reply.result.map fun _ => ⟨.success, ∅⟩), [[.caller none]], last))) ∧
    ∀ token, message.request.Bears token →
      ((∀ i, ¬ c.Assigns token i) → answer = ((client, .ok ⟨.sendFailure, ∅⟩), [], start)) ∧
      ∀ i, c.Assigns token i →
        let callbacks := .caller (some i.principal) ::
          if i.groups = [] then [] else [.groups i.groups]
        let (reply, last) := handler start callbacks
        (∀ e, reply.result = .error e → answer = ((client, .error e), [callbacks], last)) ∧
        (reply.result = .ok () → ∃ response subject, c.Confirms response ∧
          client.Gains i.principal subject ∧
          answer = ((subject, .ok response), [callbacks], last)) := by
  have presents (token : String) :
      message.request.Bears token ↔ message.request.bearerToken? = some token :=
    Request.bears_iff_presents.trans (message.request.bearerToken?_eq_some_iff token).symm
  refine ⟨fun absent => ?_, fun token borne => ?_⟩
  · have missing : message.request.bearerToken? = none := by
      refine Option.eq_none_iff_forall_ne_some.mpr fun token found => ?_
      exact absent token ((presents token).mpr found)
    refine ⟨fun mandatory => ?_, fun optional => ?_⟩
    · rw [validate_missing missing mandatory]
      rfl
    · rw [validate_anonymous missing optional]
      rfl
  · have presented : message.request.bearerToken? = some token := (presents token).mp borne
    refine ⟨fun unknown => ?_, fun i assigned => ?_⟩
    · have nobody : (ofConfig c).identify token = none := by
        simpa [Option.eq_none_iff_forall_ne_some, identify_ofConfig_iff] using unknown
      rw [validate_unknown presented nobody]
      rfl
    · have known := (identify_ofConfig_iff c token i).mpr assigned
      have answered := against_known presented known client handler start
      refine ⟨fun e refused => ?_,
        fun taken => ⟨_, _, confirms_accepted c, client.gains_add i.principal, ?_⟩⟩
      · simp only [callbacks] at answered
        rw [refused] at answered
        exact answered
      · simp only [callbacks] at answered
        rw [taken] at answered
        exact answered

end StaticTokens

end RequestAuth
