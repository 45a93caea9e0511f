import RequestAuth.Number.Binary64
import RequestAuth.Ordered.Map

/-! Parsed documents. A number is an integer when it is written without fraction and exponent and
fits 64 bits, with or without sign; any other number is a double. -/
namespace RequestAuth

inductive Json
  | null
  | bool (value : Bool)
  | int (value : Int)
  | float (value : Binary64)
  | str (value : String)
  | arr (elements : List Json)
  | obj (members : List (String × Json))
deriving Inhabited

namespace Json

/-- The number `digits * 10 ^ exponent`, negated when it has a sign; `whole` when it is written
without fraction and exponent. The negative zero is a double in both spellings. -/
def number (negative : Bool) (digits : Nat) (exponent : Int) (whole : Bool) : Json :=
  if !whole then .float (.ofDecimal negative digits exponent)
  else if negative then
    if 0 < digits ∧ digits ≤ 1 <<< 63 then .int (-digits) else .float (.ofDecimal true digits 0)
  else if digits < 1 <<< 64 then .int digits
  else .float (.ofDecimal false digits 0)

/-- Members in ascending key order; the last of equal keys wins. -/
def ofPairs (pairs : List (String × Json)) : Json := .obj (TextMap.ofList pairs).entries

def ofMap (m : TextMap Json) : Json := .obj m.entries

def ofStrings (texts : List String) : Json := .arr (texts.map .str)

/-- Absent text is null. -/
def textOrNull : Option String → Json
  | none => .null
  | some s => .str s

def isNull : Json → Bool
  | .null => true
  | _ => false

mutual
/-- A parsed document: every object in strictly ascending key order, every integer in the
64-bit range. -/
def Canonical : Json → Prop
  | .null | .bool _ | .float _ | .str _ => True
  | .int n => -2 ^ 63 ≤ n ∧ n < 2 ^ 64
  | .arr elements => CanonicalElements elements
  | .obj members => Entries.Sorted members ∧ CanonicalMembers members

def CanonicalElements : List Json → Prop
  | [] => True
  | x :: xs => Canonical x ∧ CanonicalElements xs

def CanonicalMembers : List (String × Json) → Prop
  | [] => True
  | (_, x) :: xs => Canonical x ∧ CanonicalMembers xs
end

end Json
end RequestAuth
