import Tabular.Text.Blank

/-!
# Data types

The four types a query can compute with, the types a column can have, and which type may stand
where another is wanted.
-/

namespace Tabular

/-- The types of values in a query. -/
inductive DataType where
  | int64
  | float64
  | bool
  | string
  deriving DecidableEq

namespace DataType

/-- All types, in the order in which they are listed. -/
def all : List DataType := [int64, float64, bool, string]

/-- The types that have arithmetic. -/
def isNumeric : DataType → Bool
  | int64 | float64 => true
  | bool | string => false

/-- Whether a value of the first type may stand for one of the second without being asked to:
the types agree, or an integer is wanted as a float. -/
def widensTo (source target : DataType) : Bool :=
  source == target || (source == int64 && target == float64)

/-- Whether an explicit cast between the types exists. A value may still fail to convert. -/
def castsTo (source target : DataType) : Bool :=
  source == target ||
    match source, target with
    | _, string => true
    | int64, float64 | float64, int64 | bool, int64 => true
    | string, int64 | string, float64 | string, bool => true
    | _, _ => false

/-- The name of a type in SQL text. -/
def text : DataType → String
  | int64 => "INT64"
  | float64 => "FLOAT64"
  | bool => "BOOL"
  | string => "STRING"

/-- The spellings of a type in a header cell or a cast, in lower case. -/
def spellings : DataType → List String
  | int64 => ["int", "int64", "bigint", "integer"]
  | float64 => ["float", "float64", "double", "real"]
  | bool => ["bool", "boolean"]
  | string => ["string", "text", "varchar"]

/-- Why a type name was not understood: the name, trimmed and in lower case. -/
structure UnknownName where
  name : String
  deriving DecidableEq

/-- The wording of an unknown type name. -/
def UnknownName.message (fault : UnknownName) : String :=
  "unknown data type: " ++ fault.name

/-- Reads a type name. Case and surrounding blanks do not matter. -/
def ofText (name : String) : Except UnknownName DataType :=
  let word := Text.lower (Text.trim name)
  match all.find? fun type => type.spellings.contains word with
  | some type => .ok type
  | none => .error ⟨word⟩

end DataType

/-- The types a stored column can have: those of queries, and 32-bit integers, which no query
computes with. -/
inductive ColumnType where
  | sql (type : DataType)
  | int32
  deriving DecidableEq

namespace ColumnType

/-- The type as a query sees it, if a query can use it. -/
def dataType? : ColumnType → Option DataType
  | sql type => some type
  | int32 => none

/-- The storage name of a column type. -/
def text : ColumnType → String
  | sql .int64 => "Int64"
  | sql .float64 => "Float64"
  | sql .bool => "Boolean"
  | sql .string => "Utf8"
  | int32 => "Int32"

end ColumnType

end Tabular
