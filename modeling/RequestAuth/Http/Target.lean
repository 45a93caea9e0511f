/-! Request targets and their paths. A target is a path with a query, an absolute address, the bare
authority of a tunnel, or the star that stands for the server as a whole. -/
namespace RequestAuth.Target

def isSchemeChar (c : Char) : Bool :=
  c.isAlphanum || c == '+' || c == '-' || c == '.' || c == '~'

/-- What follows the scheme of an absolute address. -/
def afterScheme? : List Char → Option (List Char)
  | ':' :: '/' :: '/' :: cs => some cs
  | c :: cs => if isSchemeChar c then afterScheme? cs else none
  | [] => none

/-- An authority ends where the path, the query or the fragment begins. -/
def afterAuthority (cs : List Char) : List Char :=
  cs.dropWhile fun c => c ≠ '/' && c ≠ '?' && c ≠ '#'

def beforeQuery (cs : List Char) : List Char := cs.takeWhile fun c => c ≠ '?' && c ≠ '#'

/-- The path of an absolute address is never empty, and a bare authority has none. -/
def path : List Char → List Char
  | ['*'] => ['*']
  | '/' :: cs => '/' :: beforeQuery cs
  | cs =>
    match (afterScheme? cs).map fun rest => beforeQuery (afterAuthority rest) with
    | none => []
    | some [] => ['/']
    | some found => found

end RequestAuth.Target
