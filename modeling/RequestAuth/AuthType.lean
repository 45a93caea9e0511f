import RequestAuth.Json.Decode
import RequestAuth.Text.Blank

/-! Labels of authentication mechanisms. A label is kept as given and is never blank. -/
namespace RequestAuth

structure AuthType where
  text : String
  notBlank : Text.isBlank text = false
deriving DecidableEq

namespace AuthType

def ofText? (s : String) : Option AuthType :=
  if h : Text.isBlank s = false then some ⟨s, h⟩ else none

def decode (value : Json) : Decode.Result AuthType := do
  match ofText? (← Decode.text value) with
  | some a => .ok a
  | none => .error .blankAuthType

def toJson (a : AuthType) : Json := .str a.text

theorem text_inj {a b : AuthType} : a.text = b.text ↔ a = b := by
  obtain ⟨s, _⟩ := a
  obtain ⟨t, _⟩ := b
  simp

@[simp] theorem ofText?_text (a : AuthType) : ofText? a.text = some a := by
  simp [ofText?, a.notBlank]

theorem ofText?_eq_none_iff (s : String) : ofText? s = none ↔ Text.isBlank s = true := by
  simp only [ofText?]; split <;> simp_all

theorem text_of_ofText? {s : String} {a : AuthType} (h : ofText? s = some a) : a.text = s := by
  simp only [ofText?] at h; split at h <;> simp_all; subst h; rfl

/-- Of a text that may be missing the label is kept, and blank text is none. -/
theorem map_text_bind_ofText? (s? : Option String) :
    (s?.bind ofText?).map text = s?.filter fun s => !Text.isBlank s := by
  cases s? with
  | none => rfl
  | some s =>
    cases blank : Text.isBlank s with
    | true => simp [(ofText?_eq_none_iff s).mpr blank, blank, Option.filter]
    | false => simp [ofText?, blank, Option.filter]

end AuthType
end RequestAuth
