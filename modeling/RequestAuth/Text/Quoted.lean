import RequestAuth.Text.Printable

/-! Text between quotation marks, as messages show it. -/
namespace RequestAuth.Text

def hexDigits (n : Nat) : List Char := Nat.toDigits 16 n

/-- A mark or backslash is escaped, the common controls have a letter, and any other character
that is not shown as itself is named by its code point. -/
def escapeChar (c : Char) : List Char :=
  if c = '"' then ['\\', '"']
  else if c = '\\' then ['\\', '\\']
  else if c = '\t' then ['\\', 't']
  else if c = '\n' then ['\\', 'n']
  else if c = '\r' then ['\\', 'r']
  else if c = '\x00' then ['\\', '0']
  else if isShown c then [c]
  else ['\\', 'u', '\x7b'] ++ hexDigits c.toNat ++ ['\x7d']

def quoted (s : String) : String :=
  String.ofList ('"' :: s.toList.flatMap escapeChar ++ ['"'])

end RequestAuth.Text
