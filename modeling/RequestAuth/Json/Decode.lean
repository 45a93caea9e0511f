import RequestAuth.Json.Error

/-! Readers of documents. The members of an object are read in ascending key order and the
elements of an array in turn; the first problem is the answer. A record may be written as an
object or as the array of its fields. -/
namespace RequestAuth.Decode

abbrev Result := Except DecodeError

def mismatch (found : Json) (expected : Expected) : Result α :=
  .error (.wrongType found.found expected)

def boolean : Json → Result Bool
  | .bool b => .ok b
  | other => mismatch other .boolean

def text : Json → Result String
  | .str s => .ok s
  | other => mismatch other .text

def unsigned32 : Json → Result Nat
  | .int n =>
    if 0 ≤ n ∧ n.toNat < 1 <<< 32 then .ok n.toNat else .error (.outOfRange n .unsigned32)
  | other => mismatch other .unsigned32

/-- Null is the absent value. -/
def optional (read : Json → Result α) : Json → Result (Option α)
  | .null => .ok none
  | other => some <$> read other

def elements (read : Json → Result α) : List Json → Result (List α)
  | [] => .ok []
  | x :: xs => do
    let a ← read x
    let rest ← elements read xs
    return a :: rest

def sequence (read : Json → Result α) : Json → Result (List α)
  | .arr xs => elements read xs
  | other => mismatch other .sequence

def members (read : Json → Result α) : List (String × Json) → Result (List (String × α))
  | [] => .ok []
  | (key, x) :: xs => do
    let a ← read x
    let rest ← members read xs
    return (key, a) :: rest

def map (read : Json → Result α) : Json → Result (TextMap α)
  | .obj xs => TextMap.ofList <$> members read xs
  | other => mismatch other .map

/-- A variant without content: its name, or an object with the name as its only key and null
under it. -/
def variant (named : List (String × α)) : Json → Result α
  | .str name => pick name
  | .obj [(name, content)] => do
    let a ← pick name
    match content with
    | .null => .ok a
    | other => mismatch other .unit
  | .obj _ => .error .notOneMember
  | other => mismatch other .variant
where
  pick (name : String) : Result α :=
    match Entries.find? name named with
    | some a => .ok a
    | none => .error (.unknownVariant name (named.map Prod.fst))

/-- A field of a record under construction `α`. -/
structure Field (α : Type u) where
  name : String
  read : Json → α → Result α

/-- Fields in declaration order. `leading` is how many of them an array has to give; a `closed`
record refuses members it does not know. -/
structure RecordShape (α : Type u) where
  name : String
  fields : List (Field α)
  leading : Nat
  closed : Bool

namespace RecordShape

def fieldNames (shape : RecordShape α) : List String := shape.fields.map Field.name

def readMember (shape : RecordShape α) (key : String) (value : Json) (record : α) : Result α :=
  match shape.fields.find? (·.name = key) with
  | some field => field.read value record
  | none => if shape.closed then .error (.unknownField key shape.fieldNames) else .ok record

def readMembers (shape : RecordShape α) : List (String × Json) → α → Result α
  | [], record => .ok record
  | (key, value) :: rest, record => do readMembers shape rest (← shape.readMember key value record)

def readElements : List (Field α) → List Json → α → Result α
  | field :: fields, value :: values, record => do
    readElements fields values (← field.read value record)
  | _, _, record => .ok record

def read (shape : RecordShape α) (start : α) : Json → Result α
  | .obj members => shape.readMembers members start
  | .arr values => do
    let record ← readElements shape.fields values start
    if values.length < shape.leading then
      .error (.tooFewElements values.length shape.name shape.fields.length)
    else if shape.fields.length < values.length then .error (.tooManyElements values.length)
    else .ok record
  | other => mismatch other (.record shape.name)

end RecordShape

/-- A field that has to be there. -/
def required (name : String) : Option α → Result α
  | some a => .ok a
  | none => .error (.missingField name)

end RequestAuth.Decode
