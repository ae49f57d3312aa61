import Tabular.Scalar

/-!
# Data interchange

Values of the interchange format JSON, and how types and scalars are written in it. A scalar is an
object whose one key names its type.
-/

namespace Tabular

/-- A JSON value. Whole numbers and numbers with a fraction or a power are kept apart. -/
inductive Json where
  | null
  | bool (b : Bool)
  | int (i : Int)
  | float (x : Double)
  | string (s : String)
  | array (items : List Json)
  | object (members : List (String × Json))
  deriving Inhabited

namespace DataType

/-- The key that stands for a type. -/
def key : DataType → String
  | int64 => "Int64"
  | float64 => "Float64"
  | bool => "Bool"
  | string => "String"

/-- The type a key stands for. -/
def ofKey? (key : String) : Option DataType := all.find? (·.key == key)

def toJson (type : DataType) : Json := .string type.key

/-- Reads a type: its key, or the key as that of an empty member. -/
def ofJson? : Json → Option DataType
  | .string key => ofKey? key
  | .object [(key, .null)] => ofKey? key
  | _ => none

end DataType

namespace Scalar

/-- A float in JSON: numbers that are not finite have no form and become null. -/
def floatJson (x : Double) : Json := if x.isFinite then .float x else .null

def valueJson : (type : DataType) → type.Carrier → Json
  | .int64, i => .int i.toInt
  | .float64, x => floatJson x
  | .bool, b => .bool b
  | .string, s => .string s

def toJson (s : Scalar) : Json :=
  .object [(s.type.key, match s.value with
    | some v => valueJson s.type v
    | none => .null)]

/-- Reads a value that is not null. A whole number may stand for a float. -/
def readValue? : (type : DataType) → Json → Option type.Carrier
  | .int64, .int i => if Int64.minValue.toInt ≤ i ∧ i ≤ Int64.maxValue.toInt then some (Int64.ofInt i) else none
  | .float64, .int i => some (Double.ofInt i)
  | .float64, .float x => some x
  | .bool, .bool b => some b
  | .string, .string s => some s
  | _, _ => none

def ofJson? : Json → Option Scalar
  | .object [(key, value)] => do
    let type ← DataType.ofKey? key
    match value with
    | .null => return .null type
    | value => return ⟨type, some (← readValue? type value)⟩
  | _ => none

end Scalar

end Tabular
