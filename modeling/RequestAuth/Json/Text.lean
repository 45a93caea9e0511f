import RequestAuth.Json.Basic
import RequestAuth.Number.Hex
import RequestAuth.Number.Shortest

/-! Documents as text. The writer leaves out all space and escapes only what has to be; the reader
takes any layout. Fuel counts what is left to read, which bounds every nesting. -/
namespace RequestAuth.Json

def escapeChar (c : Char) : List Char :=
  if c = '"' ∨ c = '\\' then ['\\', c]
  else if c.toNat < 0x20 then '\\' :: 'u' :: Hex.digits 4 c.toNat
  else [c]

def quote (s : String) : List Char := '"' :: s.toList.flatMap escapeChar ++ ['"']

mutual
def write : Json → List Char
  | .null => "null".toList
  | .bool b => (toString b).toList
  | .int n => (toString n).toList
  | .float x => x.text.toList
  | .str s => quote s
  | .arr xs => '[' :: writeElements xs ++ [']']
  | .obj ms => '\x7b' :: writeMembers ms ++ ['\x7d']

def writeElements : List Json → List Char
  | [] => []
  | [x] => write x
  | x :: xs => write x ++ ',' :: writeElements xs

def writeMembers : List (String × Json) → List Char
  | [] => []
  | [(key, x)] => quote key ++ ':' :: write x
  | (key, x) :: xs => quote key ++ ':' :: write x ++ ',' :: writeMembers xs
end

def skip (cs : List Char) : List Char := cs.dropWhile Char.isWhitespace

def codeUnit? (a b c d : Char) : Option Nat := Hex.value? [a, b, c, d]

def unescape? : Char → Option Char
  | '"' => some '"'
  | '\\' => some '\\'
  | '/' => some '/'
  | 'b' => some '\x08'
  | 'f' => some '\x0c'
  | 'n' => some '\n'
  | 'r' => some '\r'
  | 't' => some '\t'
  | _ => none

/-- The rest of a text after its opening mark. Two surrogates are one character. -/
def readText (acc : List Char) : List Char → Option (String × List Char)
  | '"' :: cs => some (String.ofList acc.reverse, cs)
  | '\\' :: 'u' :: a :: b :: c :: d :: '\\' :: 'u' :: e :: f :: g :: h :: cs => do
    let hi ← codeUnit? a b c d
    let lo ← codeUnit? e f g h
    if 0xD800 ≤ hi ∧ hi < 0xDC00 then
      readText (Char.ofNat (0x10000 + (hi - 0xD800) * 0x400 + (lo - 0xDC00)) :: acc) cs
    else readText (Char.ofNat hi :: acc) ('\\' :: 'u' :: e :: f :: g :: h :: cs)
  | '\\' :: 'u' :: a :: b :: c :: d :: cs => do
    readText (Char.ofNat (← codeUnit? a b c d) :: acc) cs
  | '\\' :: c :: cs => do readText ((← unescape? c) :: acc) cs
  | c :: cs => readText (c :: acc) cs
  | [] => none

def digitsValue (cs : List Char) : Nat := cs.foldl (fun n c => 10 * n + (c.toNat - '0'.toNat)) 0

/-- Appends digits to a number as long as it fits 64 bits, and counts those left over. -/
def appendDigits (n : Nat) : List Char → Nat × Nat
  | [] => (n, 0)
  | c :: cs =>
    let next := 10 * n + (c.toNat - '0'.toNat)
    if next < 2 ^ 64 then appendDigits next cs else (n, cs.length + 1)

/-- A number from its characters. Digits beyond the first 64 bits only place the point. -/
def readNumber (cs : List Char) : Json :=
  let negative := cs.head? = some '-'
  let body := if negative then cs.drop 1 else cs
  let whole := body.takeWhile Char.isDigit
  let tail := body.drop whole.length
  let fraction := if tail.head? = some '.' then (tail.drop 1).takeWhile Char.isDigit else []
  let power : Int := match (tail.dropWhile fun c => c ≠ 'e' && c ≠ 'E').drop 1 with
    | '-' :: ds => -(digitsValue ds : Int)
    | '+' :: ds => digitsValue ds
    | ds => digitsValue ds
  let (digits, excess) := appendDigits 0 whole
  let (digits, dropped) := appendDigits digits fraction
  number negative digits (power + excess + dropped - fraction.length) (tail = [] ∧ excess = 0)

def word? (text : String) (value : Json) (cs : List Char) : Option (Json × List Char) :=
  if text.toList.isPrefixOf cs then some (value, cs.drop text.length) else none

mutual
def readValue : Nat → List Char → Option (Json × List Char)
  | 0, _ => none
  | fuel + 1, cs =>
    match skip cs with
    | '"' :: cs => (readText [] cs).map fun r => (.str r.1, r.2)
    | '[' :: cs =>
      match skip cs with
      | ']' :: cs => some (.arr [], cs)
      | cs => readElements fuel [] cs
    | '\x7b' :: cs =>
      match skip cs with
      | '\x7d' :: cs => some (.obj [], cs)
      | cs => readMembers fuel [] cs
    | 'n' :: cs => word? "null" .null ('n' :: cs)
    | 't' :: cs => word? "true" (.bool true) ('t' :: cs)
    | 'f' :: cs => word? "false" (.bool false) ('f' :: cs)
    | cs =>
      let digits := cs.takeWhile fun c => c.isDigit || "+-.eE".toList.contains c
      if digits = [] then none else some (readNumber digits, cs.drop digits.length)

def readElements : Nat → List Json → List Char → Option (Json × List Char)
  | 0, _, _ => none
  | fuel + 1, acc, cs => do
    let (x, cs) ← readValue fuel cs
    match skip cs with
    | ',' :: cs => readElements fuel (x :: acc) cs
    | ']' :: cs => some (.arr (x :: acc).reverse, cs)
    | _ => none

def readMembers : Nat → List (String × Json) → List Char → Option (Json × List Char)
  | 0, _, _ => none
  | fuel + 1, acc, cs =>
    match skip cs with
    | '"' :: cs => do
      let (key, cs) ← readText [] cs
      match skip cs with
      | ':' :: cs =>
        let (x, cs) ← readValue fuel cs
        match skip cs with
        | ',' :: cs => readMembers fuel ((key, x) :: acc) cs
        | '\x7d' :: cs => some (ofPairs ((key, x) :: acc).reverse, cs)
        | _ => none
      | _ => none
    | _ => none
end

def toText (j : Json) : String := String.ofList j.write

/-- A document with nothing but space around it. -/
def parse? (s : String) : Option Json := do
  let (j, rest) ← readValue (2 * s.length + 2) s.toList
  if skip rest = [] then some j else none

end RequestAuth.Json
