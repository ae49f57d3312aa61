import Tabular.DataType
import Tabular.Double.Text

/-!
# Values

The values of each type, their text and their order.
-/

namespace Tabular

/-- The values of a data type that are not null. -/
@[reducible] def DataType.Carrier : DataType → Type
  | .int64 => Int64
  | .float64 => Double
  | .bool => Bool
  | .string => String

/-- The values of a column type that are not null. -/
@[reducible] def ColumnType.Carrier : ColumnType → Type
  | .sql type => type.Carrier
  | .int32 => Int32

instance (type : DataType) : DecidableEq type.Carrier :=
  match type with
  | .int64 => inferInstanceAs (DecidableEq Int64)
  | .float64 => inferInstanceAs (DecidableEq Double)
  | .bool => inferInstanceAs (DecidableEq Bool)
  | .string => inferInstanceAs (DecidableEq String)

instance (type : ColumnType) : DecidableEq type.Carrier :=
  match type with
  | .sql type => inferInstanceAs (DecidableEq type.Carrier)
  | .int32 => inferInstanceAs (DecidableEq Int32)

namespace Value

/-! ## Text -/

/-- The decimal digits of an integer, after a minus sign if it is negative. -/
def intText (i : Int) : String :=
  String.ofList ((if i < 0 then ['-'] else []) ++ Nat.toDigits 10 i.natAbs)

def boolText (b : Bool) : String := if b then "true" else "false"

/-- A value as a literal: strings stand in quotes. -/
def literalText : (type : DataType) → type.Carrier → String
  | .int64, i => intText i.toInt
  | .float64, x => x.render .plain
  | .bool, b => boolText b
  | .string, s => "'" ++ s ++ "'"

/-- A value as the text of a table cell, and as a cast to text gives it. -/
def cellText : (type : ColumnType) → type.Carrier → String
  | .sql .int64, i => intText i.toInt
  | .sql .float64, x => x.render .table
  | .sql .bool, b => boolText b
  | .sql .string, s => s
  | .int32, i => intText i.toInt

/-! ## Order -/

/-- Compares two values of a type: integers by size, floats by the total order, `false` before
`true`, strings by code points. -/
def order : (type : DataType) → type.Carrier → type.Carrier → Ordering
  | .int64, a, b => compare a.toInt b.toInt
  | .float64, a, b => compare a.orderKey b.orderKey
  | .bool, a, b => compare a.toNat b.toNat
  | .string, a, b => compare a b

end Value

end Tabular
