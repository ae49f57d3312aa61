import Tabular.Double.Shortest

/-!
# Text of doubles

A double is written with its shortest digits, either positionally or with a power of ten. A layout
says which, and how the parts are spelled.
-/

namespace Tabular.Double

/-- How the digits of a double are laid out. -/
structure Layout where
  /-- The powers of ten of the first digit, least and greatest, that are written positionally;
  `none` if all are. -/
  positional : Option (Int × Int)
  /-- Whether a whole number written positionally ends in `.0`. -/
  wholeFraction : Bool
  /-- Whether a single digit before a power of ten is followed by `.0`. -/
  scaledFraction : Bool
  /-- Whether the zero with a minus sign shows it. -/
  signedZero : Bool
  choice : Choice

/-- The layout of literals and messages: always positional, whole numbers bare. -/
def Layout.plain : Layout := ⟨none, false, false, true, ⟨.up, none⟩⟩

/-- The layout of table cells and of casts to text: a fraction is always shown, and a power of ten
from `1e10` up and below `1e-5`. -/
def Layout.table : Layout := ⟨some (-5, 9), true, true, false, ⟨.even, some 9⟩⟩

/-- The layout of a value that a cast cannot represent: a power of ten from `1e16` up. -/
def Layout.precise : Layout := ⟨some (-5, 15), true, false, true, ⟨.up, none⟩⟩

/-- The digits of a positive decimal and the power of ten of the first of them, trailing zeros
removed. -/
def Decimal.parts (d : Decimal) : List Char × Int :=
  let all := Nat.toDigits 10 d.digits
  let trimmed := (all.reverse.dropWhile (· == '0')).reverse
  (trimmed, d.power + all.length - 1)

/-- Digits written positionally, the first of them standing at the power of ten `first`. -/
def positionalText (digits : List Char) (first : Int) (wholeFraction : Bool) : List Char :=
  if first < 0 then '0' :: '.' :: (List.replicate (-first - 1).toNat '0' ++ digits)
  else
    let wholes := first.toNat + 1
    let whole := digits.take wholes ++ List.replicate (wholes - digits.length) '0'
    match digits.drop wholes with
    | [] => if wholeFraction then whole ++ ['.', '0'] else whole
    | rest => whole ++ '.' :: rest

/-- Digits written with one of them before the point, and a power of ten. -/
def scaledText (digits : List Char) (first : Int) (scaledFraction : Bool) : List Char :=
  let power := 'e' :: (toString first).toList
  match digits with
  | [] => []
  | d :: [] => if scaledFraction then d :: '.' :: '0' :: power else d :: power
  | d :: rest => d :: '.' :: (rest ++ power)

/-- The text of a positive finite double. -/
def Layout.positiveText (layout : Layout) (x : Double) : List Char :=
  let (digits, first) := (x.shortest layout.choice).parts
  let inRange := match layout.positional with
    | none => true
    | some (least, greatest) => decide (least ≤ first ∧ first ≤ greatest)
  if inRange then positionalText digits first layout.wholeFraction
  else scaledText digits first layout.scaledFraction

/-- The text of a double. -/
def render (layout : Layout) (x : Double) : String :=
  if x.isNaN then "NaN"
  else
    let sign := if x.isNegative then ['-'] else []
    if x.isInfinite then String.ofList (sign ++ ['i', 'n', 'f'])
    else if x.code = 0 then
      let zero := if layout.wholeFraction then ['0', '.', '0'] else ['0']
      String.ofList (if layout.signedZero then sign ++ zero else zero)
    else String.ofList (sign ++ layout.positiveText x)

end Tabular.Double
