/-! The scope of a registration and its identifier. An absent layer or application context stands
for every one and is written as a star; in a present one, stars, angle brackets that open the
separator, and backslashes are escaped. -/
namespace RequestAuth

structure RegistrationKey where
  layer : Option String
  appContext : Option String
deriving DecidableEq

namespace RegistrationKey

def escape : List Char → List Char
  | [] => []
  | c :: cs => if c = '\\' ∨ c = '*' ∨ c = '<' then '\\' :: c :: escape cs else c :: escape cs

def component : Option String → List Char
  | none => ['*']
  | some s => escape s.toList

def id (key : RegistrationKey) : String :=
  String.ofList (component key.layer ++ '<' :: '>' :: component key.appContext)

/-- The scopes that cover a layer and application context, most specific first. -/
def candidates (layer appContext : String) : List RegistrationKey :=
  [⟨some layer, some appContext⟩, ⟨none, some appContext⟩, ⟨some layer, none⟩, ⟨none, none⟩]

end RegistrationKey
end RequestAuth
