import Tabular.Catalog
import Tabular.Numeral
import Tabular.Value

/-!
# Delimited cells

How the text of a cell becomes a value of the type of its column, and how a header cell names a
column. An empty cell is null.
-/

namespace Tabular.Delimited

/-- Why a cell holds no value of its column's type. -/
inductive CellFault where
  | int (text : String) (fault : Numeral.IntFault)
  | float (text : String) (fault : Numeral.FloatFault)
  | bool (text : String)
  deriving DecidableEq

/-- The wording of a cell fault. -/
def CellFault.message : CellFault → String
  | int text fault => "'" ++ text ++ "': " ++ fault.message
  | float text fault => "'" ++ text ++ "': " ++ fault.message
  | bool text => "'" ++ text ++ "' is not a boolean"

/-- The spellings of true in a cell, in lower case. -/
def trueCells : List String := ["true", "t", "1"]

/-- The spellings of false in a cell, in lower case. -/
def falseCells : List String := ["false", "f", "0"]

/-- Reads a truth value. Case and blanks around it do not matter. -/
def readBool? (text : String) : Option Bool :=
  let word := Text.lower (Text.trim text)
  if trueCells.contains word then some true
  else if falseCells.contains word then some false
  else none

/-- Reads a value from a cell that is not empty. Blanks around a number do not matter. -/
def readValue : (type : DataType) → String → Except CellFault type.Carrier
  | .int64, text => (Numeral.readInt (Text.trim text)).mapError (.int text)
  | .float64, text => (Numeral.readFloat (Text.trim text)).mapError (.float text)
  | .bool, text =>
    match readBool? text with
    | some b => .ok b
    | none => .error (.bool text)
  | .string, text => .ok text

/-- Reads a cell. -/
def readCell (type : DataType) (text : String) : Except CellFault (Option type.Carrier) :=
  if text = "" then .ok none else (readValue type text).map some

/-! ## Header cells -/

/-- What stands before and after the last colon of a text, if it has one. -/
def splitLastColon (text : String) : Option (String × String) :=
  let reversed := text.toList.reverse
  match reversed.dropWhile (· != ':') with
  | [] => none
  | _ :: before =>
    some (String.ofList before.reverse, String.ofList (reversed.takeWhile (· != ':')).reverse)

/-- The column that a header cell names: a name and a type with a colon between them, or just the
name of a column of strings. -/
def readColumn (text : String) : Except DataType.UnknownName ColumnDef :=
  match splitLastColon text with
  | none => .ok ⟨Text.trim text, .string⟩
  | some (name, type) => (DataType.ofText type).map (⟨Text.trim name, ·⟩)

end Tabular.Delimited
