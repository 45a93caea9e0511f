import RequestAuth.Number.Binary64

/-! Decimal text of a double: the fewest digits that read back as the same number, and of those
the nearest to it. All arithmetic is exact. -/
namespace RequestAuth

/-- `digits * 10 ^ scale`. -/
structure Decimal where
  digits : Nat
  scale : Int
deriving DecidableEq

namespace Decimal

def dropZeros : Nat → Decimal → Decimal
  | 0, d => d
  | fuel + 1, d =>
    if d.digits ≠ 0 ∧ d.digits % 10 = 0 then dropZeros fuel ⟨d.digits / 10, d.scale + 1⟩ else d

end Decimal

/-- A positive number with the interval of reals that round to it, all over `den`. -/
structure RoundingInterval where
  low : Nat
  value : Nat
  high : Nat
  den : Nat
  closed : Bool

namespace RoundingInterval

/-- Below a power of two the neighbour is half as far away as above it. -/
def of (x : Binary64) : RoundingInterval :=
  let m := x.significand
  let down := if x.fraction = 0 ∧ 1 < x.biasedExponent then 1 else 2
  let q := x.exponent - 2
  let up : Nat := if 0 ≤ q then 1 <<< q.toNat else 1
  { low := (4 * m - down) * up
    value := 4 * m * up
    high := (4 * m + 2) * up
    den := if 0 ≤ q then 1 else 1 <<< (-q).toNat
    closed := m % 2 = 0 }

def zerosAfterPoint : Nat → Nat → Nat → Nat
  | 0, _, _ => 0
  | fuel + 1, num, den => if num * 10 < den then zerosAfterPoint fuel (num * 10) den + 1 else 0

/-- The place of the first digit: 1 for a number in [1, 10), 0 for one in [0.1, 1). -/
def magnitude (r : RoundingInterval) : Int :=
  if r.den ≤ r.value then (Nat.toDigits 10 (r.value / r.den)).length
  else -(zerosAfterPoint 400 r.value r.den : Nat)

/-- `num / den` in units of `10 ^ scale`, as a fraction. -/
def inUnits (num den : Nat) (scale : Int) : Nat × Nat :=
  if 0 ≤ scale then (num, den * Nat.pow 10 scale.toNat)
  else (num * Nat.pow 10 (-scale).toNat, den)

def holds (r : RoundingInterval) (d : Nat) (scale : Int) : Bool :=
  let (low, den) := inUnits r.low r.den scale
  let (high, _) := inUnits r.high r.den scale
  if r.closed then low ≤ d * den && d * den ≤ high else low < d * den && d * den < high

/-- The better of the two neighbours on the grid of `10 ^ scale`; a tie goes to the even one. -/
def onGrid (r : RoundingInterval) (scale : Int) : Option Decimal :=
  let (num, den) := inUnits r.value r.den scale
  let below := num / den
  let rest := num % den
  let nearer :=
    if 2 * rest < den then below else if den < 2 * rest then below + 1
    else if below % 2 = 0 then below else below + 1
  let other := if nearer = below then below + 1 else below
  if r.holds nearer scale then some ⟨nearer, scale⟩
  else if r.holds other scale then some ⟨other, scale⟩
  else none

/-- The first grid of 1, 2, … 17 digits that meets the interval. -/
def shortest (r : RoundingInterval) : Decimal :=
  let grids := (List.range 17).map fun n => r.onGrid (r.magnitude - (n + 1 : Nat))
  ((grids.findSome? id).getD ⟨r.value / r.den, 0⟩).dropZeros 400

end RoundingInterval

namespace Binary64

/-- A decimal with its point. Numbers from `10 ^ -5` to below `10 ^ 16` are written out, with a
zero after the point when there is no fraction; others have one digit before the point, no
point after a single digit, and the signed exponent after an `e`. -/
def layout (d : Decimal) : List Char :=
  let cs := Nat.toDigits 10 d.digits
  let point : Int := cs.length + d.scale
  if 0 ≤ d.scale ∧ point ≤ 16 then cs ++ List.replicate d.scale.toNat '0' ++ ['.', '0']
  else if 0 < point ∧ point ≤ 16 then cs.take point.toNat ++ '.' :: cs.drop point.toNat
  else if -5 < point ∧ point ≤ 0 then '0' :: '.' :: List.replicate (-point).toNat '0' ++ cs
  else
    let tail := if cs.length = 1 then [] else '.' :: cs.drop 1
    let sign := if point < 1 then '-' else '+'
    cs.take 1 ++ tail ++ 'e' :: sign :: Nat.toDigits 10 (point - 1).natAbs

/-- Text of a finite number. -/
def text (x : Binary64) : String :=
  let body := if x.significand = 0 then ['0', '.', '0'] else layout (RoundingInterval.of x).shortest
  String.ofList (if x.isNegative then '-' :: body else body)

end Binary64
end RequestAuth
