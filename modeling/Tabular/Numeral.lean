import Tabular.Double.Round

/-!
# Numerals

How integers, floats and truth values are read from text. Integers are read digit by digit, and
the first digit that is none, or that leaves the range, decides the fault.
-/

namespace Tabular.Numeral

/-- The value of a decimal digit. -/
def digit? (c : Char) : Option Nat :=
  if '0' ≤ c ∧ c ≤ '9' then some (c.toNat - '0'.toNat) else none

/-! ## Integers -/

/-- Why a text is not a 64-bit integer. -/
inductive IntFault where
  | empty
  | invalidDigit
  | tooLarge
  | tooSmall
  deriving DecidableEq

/-- The wording of an integer fault. -/
def IntFault.message : IntFault → String
  | .empty => "cannot parse integer from empty string"
  | .invalidDigit => "invalid digit found in string"
  | .tooLarge => "number too large to fit in target type"
  | .tooSmall => "number too small to fit in target type"

/-- The greatest absolute value of a 64-bit integer of one sign. -/
def greatestSize (negative : Bool) : Nat := if negative then 1 <<< 63 else (1 <<< 63) - 1

/-- Reads digits after those that gave `size`. -/
def sizeFrom (negative : Bool) (size : Nat) : List Char → Except IntFault Nat
  | [] => .ok size
  | c :: rest =>
    match digit? c with
    | none => .error .invalidDigit
    | some d =>
      let next := 10 * size + d
      if greatestSize negative < next then .error (if negative then .tooSmall else .tooLarge)
      else sizeFrom negative next rest

/-- A sign in front of a numeral and what follows it. -/
def splitSign : List Char → Bool × List Char
  | '-' :: rest => (true, rest)
  | '+' :: rest => (false, rest)
  | cs => (false, cs)

/-- Reads an integer: an optional sign and at least one digit. -/
def readInt (text : String) : Except IntFault Int64 :=
  match text.toList with
  | [] => .error .empty
  | cs =>
    match splitSign cs with
    | (_, []) => .error .invalidDigit
    | (negative, digits) =>
      (sizeFrom negative 0 digits).map fun size =>
        Int64.ofInt (if negative then -(size : Int) else size)

/-! ## Floats -/

/-- Why a text is not a float. -/
inductive FloatFault where
  | empty
  | invalid
  deriving DecidableEq

/-- The wording of a float fault. -/
def FloatFault.message : FloatFault → String
  | .empty => "cannot parse float from empty string"
  | .invalid => "invalid float literal"

/-- The number written by digits, after those that gave `value`. -/
def valueFrom (value : Nat) (digits : List Char) : Nat :=
  digits.foldl (fun v c => 10 * v + (c.toNat - '0'.toNat)) value

/-- The power of ten after the mantissa: none, or `e` and a signed numeral. -/
def readPower : List Char → Option Int
  | [] => some 0
  | e :: rest =>
    if e = 'e' ∨ e = 'E' then
      match splitSign rest with
      | (_, []) => none
      | (negative, digits) =>
        if digits.all Char.isDigit then
          let size : Int := valueFrom 0 digits
          some (if negative then -size else size)
        else none
    else none

/-- Reads an unsigned decimal: digits with at most one point, at least one digit, and maybe a
power of ten. -/
def readDecimal (negative : Bool) (cs : List Char) : Option Double :=
  let whole := cs.takeWhile Char.isDigit
  let (fraction, rest) := match cs.dropWhile Char.isDigit with
    | '.' :: rest => (rest.takeWhile Char.isDigit, rest.dropWhile Char.isDigit)
    | rest => ([], rest)
  if whole.isEmpty && fraction.isEmpty then none
  else (readPower rest).map fun power =>
    Double.ofDecimal negative (valueFrom 0 (whole ++ fraction)) (power - fraction.length)

/-- The numbers that are written as words, in lower case. -/
def readWord (negative : Bool) (cs : List Char) : Option Double :=
  let word := String.ofList (cs.map Char.toLower)
  if word = "inf" ∨ word = "infinity" then some (Double.ofCode negative Double.infinityCode)
  else if word = "nan" then some (Double.ofCode negative (Double.infinityCode + (1 <<< 51)))
  else none

/-- Reads a float: a decimal, or `inf`, `infinity` or `nan` in any case, after an optional
sign. -/
def readFloat (text : String) : Except FloatFault Double :=
  match text.toList with
  | [] => .error .empty
  | cs =>
    let (negative, body) := splitSign cs
    match (readWord negative body).or (readDecimal negative body) with
    | some x => .ok x
    | none => .error .invalid

end Tabular.Numeral
