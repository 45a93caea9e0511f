import RequestAuth.Json.Basic
import RequestAuth.Number.Shortest
import RequestAuth.Text.Quoted

/-! Why a document is not what a reader expects, and the text that says so. -/
namespace RequestAuth

/-- What a reader came across. -/
inductive Found
  | null
  | boolean (value : Bool)
  | integer (value : Int)
  | floating (value : Binary64)
  | text (value : String)
  | sequence
  | map
deriving DecidableEq

def Json.found : Json → Found
  | .null => .null
  | .bool b => .boolean b
  | .int n => .integer n
  | .float x => .floating x
  | .str s => .text s
  | .arr _ => .sequence
  | .obj _ => .map

inductive Expected
  | boolean
  | text
  | sequence
  | map
  | unsigned32
  | uuid
  | unit
  | variant
  | record (name : String)
deriving DecidableEq

inductive DecodeError
  | wrongType (found : Found) (expected : Expected)
  | outOfRange (value : Int) (expected : Expected)
  | notOneMember
  | missingField (name : String)
  | unknownField (name : String) (known : List String)
  | unknownVariant (name : String) (known : List String)
  | tooFewElements (count : Nat) (record : String) (fields : Nat)
  | tooManyElements (count : Nat)
  | blankAuthType
  | malformedUuid
deriving DecidableEq

namespace Found

def describe : Found → String
  | .null => "null"
  | .boolean b => "boolean `" ++ (if b then "true" else "false") ++ "`"
  | .integer n => "integer `" ++ toString n ++ "`"
  | .floating x => "floating point `" ++ x.text ++ "`"
  | .text s => "string " ++ Text.quoted s
  | .sequence => "sequence"
  | .map => "map"

end Found

namespace Expected

def describe : Expected → String
  | .boolean => "a boolean"
  | .text => "a string"
  | .sequence => "a sequence"
  | .map => "a map"
  | .unsigned32 => "u32"
  | .uuid => "a formatted UUID string"
  | .unit => "unit"
  | .variant => "string or map"
  | .record name => "struct " ++ name

end Expected

namespace DecodeError

def named (name : String) : String := "`" ++ name ++ "`"

/-- A choice of names: two are joined by `or`, more are listed. -/
def choice : List String → String
  | [] => "there are no fields"
  | [a] => named a
  | [a, b] => named a ++ " or " ++ named b
  | names => "one of " ++ ", ".intercalate (names.map named)

def message : DecodeError → String
  | .wrongType found expected =>
    "invalid type: " ++ found.describe ++ ", expected " ++ expected.describe
  | .outOfRange value expected =>
    "invalid value: " ++ (Found.integer value).describe ++ ", expected " ++ expected.describe
  | .notOneMember => "invalid value: map, expected map with a single key"
  | .missingField name => "missing field " ++ named name
  | .unknownField name known =>
    "unknown field " ++ named name ++ ", expected " ++ choice known
  | .unknownVariant name known =>
    "unknown variant " ++ named name ++ ", expected " ++ choice known
  | .tooFewElements count record fields =>
    "invalid length " ++ toString count ++ ", expected struct " ++ record ++ " with " ++
      toString fields ++ " elements"
  | .tooManyElements count =>
    "invalid length " ++ toString count ++ ", expected fewer elements in array"
  | .blankAuthType => "auth type must not be empty"
  | .malformedUuid => "UUID parsing failed"

end DecodeError
end RequestAuth
