import RequestAuth.Json.Decode
import RequestAuth.Number.Hex

/-! Universally unique identifiers and their spellings. The written form is lower-case with
hyphens; read are also the 32 digits alone, and the hyphened form in braces or after `urn:uuid:`,
all in either case. -/
namespace RequestAuth

structure Uuid where
  bits : BitVec 128
deriving DecidableEq, Inhabited

namespace Uuid

/-- Splits into groups of the given sizes with a hyphen between them. -/
def group : List Nat → List Char → List Char
  | [], _ => []
  | [_], cs => cs
  | size :: sizes, cs => cs.take size ++ '-' :: group sizes (cs.drop size)

def ungroup? : List Nat → List Char → Option (List Char)
  | [], cs => if cs = [] then some [] else none
  | [size], cs => if cs.length = size then some cs else none
  | size :: sizes, cs =>
    match cs.drop size with
    | '-' :: rest => (ungroup? sizes rest).map (cs.take size ++ ·)
    | _ => none

def groupSizes : List Nat := [8, 4, 4, 4, 12]

def text (u : Uuid) : String := String.ofList (group groupSizes (Hex.digits 32 u.bits.toNat))

def ofDigits? (cs : List Char) : Option Uuid :=
  if cs.length = 32 then (Hex.value? cs).map fun n => ⟨BitVec.ofNat 128 n⟩ else none

def ofHyphened? (cs : List Char) : Option Uuid := ungroup? groupSizes cs >>= ofDigits?

def ofBraced? : List Char → Option Uuid
  | '\x7b' :: rest => if rest.getLast? = some '\x7d' then ofHyphened? rest.dropLast else none
  | _ => none

def ofUrn? (cs : List Char) : Option Uuid :=
  if (cs.take 9).map Char.toLower = "urn:uuid:".toList then ofHyphened? (cs.drop 9) else none

def parse? (s : String) : Option Uuid :=
  let cs := s.toList
  ofDigits? cs <|> ofHyphened? cs <|> ofBraced? cs <|> ofUrn? cs

def decode : Json → Decode.Result Uuid
  | .str s =>
    match parse? s with
    | some u => .ok u
    | none => .error .malformedUuid
  | other => Decode.mismatch other .uuid

end Uuid

/-- Where fresh identifiers come from: a sequence fixed in advance, and how many of it have been
handed out. -/
structure IdSource where
  ids : Nat → Uuid
  drawn : Nat := 0

namespace IdSource

def draw : StateM IdSource Uuid := fun source =>
  (source.ids source.drawn, { source with drawn := source.drawn + 1 })

end IdSource
end RequestAuth
