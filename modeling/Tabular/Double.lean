/-!
# Binary floating-point numbers

A double is its 64 bits, so that zeros keep their signs and NaNs theirs. Arithmetic is that of
IEEE 754; the order on doubles is the total order of that standard.
-/

namespace Tabular

/-- A binary64 floating-point number, given by its bits. -/
structure Double where
  bits : UInt64
  deriving DecidableEq

namespace Double

/-! ## Parts of a number -/

/-- Whether the sign bit is set. -/
def isNegative (x : Double) : Bool := 1 <<< 63 ≤ x.bits.toNat

/-- The bits below the sign, as a number. Of two numbers of one sign, the one further from zero
has the greater code. -/
def code (x : Double) : Nat := x.bits.toNat % (1 <<< 63)

/-- The code of infinity. Finite numbers lie below it, NaNs above. -/
def infinityCode : Nat := 0x7ff <<< 52

/-- The double with a sign and a code. -/
def ofCode (negative : Bool) (code : Nat) : Double :=
  ⟨UInt64.ofNat (code + if negative then 1 <<< 63 else 0)⟩

def isNaN (x : Double) : Bool := infinityCode < x.code

def isInfinite (x : Double) : Bool := x.code == infinityCode

def isFinite (x : Double) : Bool := x.code < infinityCode

/-- The whole number whose multiple by a power of two is the absolute value of a finite double. -/
def significand (x : Double) : Nat :=
  if x.code < 1 <<< 52 then x.code else x.code % (1 <<< 52) + (1 <<< 52)

/-- The power of two that goes with `significand`. -/
def exponent (x : Double) : Int := (max (x.code >>> 52) 1 : Nat) - 1075

/-! ## Order -/

/-- The place of a double in the total order: negative NaNs, negative infinity, negative numbers,
`-0.0`, `0.0`, positive numbers, infinity, NaNs. -/
def orderKey (x : Double) : Int :=
  if x.isNegative then -(x.code : Int) - 1 else x.code

/-! ## Arithmetic -/

/-- The number with the other sign. -/
def neg (x : Double) : Double := ofCode (!x.isNegative) x.code

/-- A NaN as arithmetic passes it on. -/
def quiet (x : Double) : Double := ⟨x.bits ||| 0x0008000000000000⟩

/-- The result of an operation that has none, such as `0.0 / 0.0`. -/
def invalid : Double := ⟨0xfff8000000000000⟩

/-- An operation on two numbers, extended to NaNs: the first NaN among the operands is the
result. -/
def operate (f : Float → Float → Float) (x y : Double) : Double :=
  if x.isNaN then quiet x
  else if y.isNaN then quiet y
  else
    let z := f (Float.ofBits x.bits) (Float.ofBits y.bits)
    if z.isNaN then invalid else ⟨z.toBits⟩

def add : Double → Double → Double := operate (· + ·)

def sub : Double → Double → Double := operate (· - ·)

def mul : Double → Double → Double := operate (· * ·)

def div : Double → Double → Double := operate (· / ·)

end Double

end Tabular
