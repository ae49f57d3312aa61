import Tabular.Double.Round

/-!
# Shortest decimals

The shortest decimal that reads back as a given double and, among those, the one nearest to it.
Grids of multiples of a power of ten are tried from coarse to fine; on each, only the two
neighbours of the double can be the answer.
-/

namespace Tabular.Double

/-- A positive decimal `digits * 10 ^ power`. -/
structure Decimal where
  digits : Nat
  power : Int
  deriving DecidableEq

/-- Where a double halfway between two equally short decimals goes. -/
inductive Tie where
  | up
  | even

/-- What decides between decimals that all read back. -/
structure Choice where
  tie : Tie
  /-- The greatest exponent of a double whose decimal may be the lower end of its interval; `none`
  if there is no greatest. -/
  lowEndBound : Option Int

/-- The numbers that round to a double, scaled so that all three are whole multiples of one unit:
the double itself, the lower and the upper end. -/
structure Interval where
  centre : Nat
  low : Nat
  high : Nat
  /-- Whether the lower end belongs to it. -/
  lowClosed : Bool
  /-- Whether the upper end belongs to it. -/
  highClosed : Bool

/-- The interval of a positive double with significand `m`, in quarters of the distance to the
next double. Below a power of two, doubles are twice as dense. The ends round to an even `m`; the
lower one is left out unless `lowEnd`. -/
def interval (m : Nat) (lowest lowEnd : Bool) : Interval where
  centre := 4 * m
  low := if m = 1 <<< 52 && !lowest then 4 * m - 1 else 4 * m - 2
  high := 4 * m + 2
  lowClosed := m % 2 == 0 && lowEnd
  highClosed := m % 2 == 0

/-- Whether `n` steps of size `step` lie in the interval, whose unit has size `unit`. -/
def Interval.holds (i : Interval) (unit step n : Nat) : Bool :=
  (i.low * unit < n * step || (i.lowClosed && i.low * unit == n * step)) &&
    (n * step < i.high * unit || (i.highClosed && n * step == i.high * unit))

/-- The multiple of `step` in the interval that is nearest to its centre, if there is one. -/
def Interval.nearest? (i : Interval) (tie : Tie) (unit step : Nat) : Option Nat :=
  let below := i.centre * unit / step
  let above := below + 1
  match i.holds unit step below, i.holds unit step above with
  | false, false => none
  | true, false => some below
  | false, true => some above
  | true, true =>
    let toBelow := i.centre * unit - below * step
    let toAbove := above * step - i.centre * unit
    if toBelow < toAbove then some below
    else if toAbove < toBelow then some above
    else match tie with
      | .up => some above
      | .even => some (if below % 2 = 0 then below else above)

/-- The shortest decimal of a positive finite double. The coarsest grid is above the number, and
seventeen digits always suffice, so twenty grids are enough. -/
def shortest (choice : Choice) (x : Double) : Decimal :=
  let quarter := x.exponent - 2
  let num := 1 <<< quarter.toNat
  let den := 1 <<< (-quarter).toNat
  let lowEnd := choice.lowEndBound.all fun greatest => x.exponent ≤ greatest
  let around := interval x.significand (x.code >>> 52 ≤ 1) lowEnd
  let top : Int := digitCount (around.centre * num) - digitCount den + 1
  let onGrid (power : Int) : Option Decimal :=
    let nearest := around.nearest? choice.tie (num * Nat.pow 10 (-power).toNat) (den * Nat.pow 10 power.toNat)
    nearest.map (⟨·, power⟩)
  ((List.range 20).findSome? fun (i : Nat) => onGrid (top - i)).getD ⟨x.significand, 0⟩

end Tabular.Double
