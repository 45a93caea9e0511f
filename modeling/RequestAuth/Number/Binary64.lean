/-! Double-precision numbers as their 64 bits, so that equality is decidable and tells the two
zeros apart. -/
namespace RequestAuth

structure Binary64 where
  bits : UInt64
deriving DecidableEq, Inhabited

namespace Binary64

def isNegative (x : Binary64) : Bool := 1 <<< 63 ≤ x.bits.toNat

def biasedExponent (x : Binary64) : Nat := x.bits.toNat / (1 <<< 52) % (1 <<< 11)

def fraction (x : Binary64) : Nat := x.bits.toNat % (1 <<< 52)

/-- A finite number has the magnitude `significand * 2 ^ exponent`. -/
def significand (x : Binary64) : Nat :=
  if x.biasedExponent = 0 then x.fraction else x.fraction + (1 <<< 52)

def exponent (x : Binary64) : Int := max x.biasedExponent 1 - 1075

/-- A power of ten, up to the greatest that is finite. -/
def tenTo (power : Nat) : Float := Float.ofScientific 1 false (min power 308)

/-- `digits * 10 ^ exponent` or its negative. The digits are rounded first, then their product or
quotient with the power of ten; a power beyond the greatest is divided by in two steps. -/
def ofDecimal (negative : Bool) (digits : Nat) (exponent : Int) : Binary64 :=
  let start := Float.ofScientific digits false 0
  let power := exponent.natAbs
  let magnitude :=
    if 0 ≤ exponent then start * tenTo power else start / tenTo power / tenTo (power - 308)
  ⟨(if negative then -magnitude else magnitude).toBits⟩

end Binary64
end RequestAuth
