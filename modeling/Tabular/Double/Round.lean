import Tabular.Double

/-!
# Rounding to doubles

The double nearest to a fraction, an integer or a decimal, and the integer a double stands for.
A number halfway between two doubles goes to the one with the even code.
-/

namespace Tabular.Double

/-- The whole number nearest to a quotient. A half goes to the even neighbour. -/
def divNearest (num den : Nat) : Nat :=
  let whole := num / den
  let rest := num % den
  if 2 * rest < den then whole
  else if den < 2 * rest then whole + 1
  else whole + whole % 2

/-- The greatest power of two that is at most a positive fraction. -/
def log2Fraction (num den : Nat) : Int :=
  let guess : Int := num.log2 - den.log2
  if num <<< (-guess).toNat < den <<< guess.toNat then guess - 1 else guess

/-- The code of the double nearest to a fraction. Doubles from one power of two to the next are
`2 ^ ulp` apart, and never closer than `2 ^ (-1074)`; what exceeds the finite ones is infinite. -/
def nearestCode (num den : Nat) : Nat :=
  if num = 0 then 0
  else
    let ulp := max (log2Fraction num den - 52) (-1074)
    let steps := divNearest (num <<< (-ulp).toNat) (den <<< ulp.toNat)
    min (((ulp + 1074).toNat <<< 52) + steps) infinityCode

/-- The double nearest to an integer. -/
def ofInt (i : Int) : Double := ofCode (i < 0) (nearestCode i.natAbs 1)

/-- The number of decimal digits of a number; zero has one. -/
def digitCount (n : Nat) : Nat := (Nat.toDigits 10 n).length

/-- The double nearest to `digits * 10 ^ power`, with a sign. A value from `10 ^ 310` up is
infinite and one below `10 ^ (-330)` is zero, so powers beyond need no arithmetic. -/
def ofDecimal (negative : Bool) (digits : Nat) (power : Int) : Double :=
  ofCode negative <|
    if digits = 0 then 0
    else
      let top := power + digitCount digits
      if 310 < top then infinityCode
      else if top < -330 then 0
      else nearestCode (digits * Nat.pow 10 power.toNat) (Nat.pow 10 (-power).toNat)

/-- The integer that a double is, if it is one. -/
def toInt? (x : Double) : Option Int :=
  if x.isFinite then
    let scale := 1 <<< (-x.exponent).toNat
    if x.significand % scale = 0 then
      let size : Int := ((x.significand / scale) <<< x.exponent.toNat : Nat)
      some (if x.isNegative then -size else size)
    else none
  else none

end Tabular.Double
