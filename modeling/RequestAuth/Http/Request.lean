import RequestAuth.Http.Target
import RequestAuth.Text.Blank

/-! The part of an HTTP request that decides on authentication. Header values are bytes. -/
namespace RequestAuth

structure Header where
  name : String
  value : List UInt8
deriving DecidableEq

structure Request where
  target : String := "/"
  headers : List Header := []
deriving DecidableEq

namespace Header

/-- Bytes that are text in a header value: the printable ASCII characters and the tab. -/
def isTextByte (b : UInt8) : Bool := b = 0x09 || (0x20 ≤ b && b ≤ 0x7E)

def text? (value : List UInt8) : Option String :=
  if value.all isTextByte then some (String.ofList (value.map fun b => Char.ofNat b.toNat))
  else none

end Header

namespace Request

def path (r : Request) : String := String.ofList (Target.path r.target.toList)

/-- The first value of a header; names are compared without regard to case. -/
def header? (r : Request) (name : String) : Option (List UInt8) :=
  (r.headers.find? fun h => Text.sameLetters h.name name).map Header.value

def bearerScheme : List Char := "Bearer ".toList

/-- The token after the scheme, which is compared exactly; the token itself is trimmed. -/
def bearerToken? (r : Request) : Option String := do
  let text ← Header.text? (← r.header? "authorization")
  if bearerScheme.isPrefixOf text.toList then
    some (Text.trim (String.ofList (text.toList.drop bearerScheme.length)))
  else none

end Request
end RequestAuth
