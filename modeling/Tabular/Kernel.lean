import Tabular.Batch
import Tabular.Operator

/-!
# Kernel errors

What can go wrong when columns are computed, and its wording.
-/

namespace Tabular

/-- Why a value of one type has no counterpart in another. -/
inductive CastFault where
  /-- No value of the type can be converted. -/
  | unsupported
  /-- A float with a fraction, or none that is a number, is wanted as an integer. -/
  | inexact (x : Double)
  /-- A whole float lies outside the integers. -/
  | outOfRange (x : Double)
  /-- A text is not written as a value of the type. -/
  | unreadable (text : String)
  deriving DecidableEq

/-- The wording of a cast fault. -/
def CastFault.message (target : DataType) : CastFault → String
  | unsupported => "unsupported conversion"
  | inexact x => x.render .plain ++ " is not an exact integer"
  | outOfRange x =>
    "Cast error: Can't cast value " ++ x.render .precise ++ " to type " ++
      (ColumnType.sql target).text
  | unreadable text =>
    let noun := if target = .bool then "value" else "string"
    "Cast error: Cannot cast " ++ noun ++ " '" ++ text ++ "' to value of " ++
      (ColumnType.sql target).text ++ " type"

/-- What can go wrong when columns are computed. -/
inductive KernelError where
  | typeMismatch (op : Operator) (left right : ColumnType)
  | divisionByZero
  | overflow (op : Operator)
  | cast (source : ColumnType) (target : DataType) (fault : CastFault)
  | lengthMismatch (left right : Nat)
  | maskType (found : ColumnType)
  | maskLength (entries rows : Nat)
  | invalidBatch (fault : BatchFault)
  deriving DecidableEq

/-- The wording of a kernel error. -/
def KernelError.message : KernelError → String
  | typeMismatch op left right =>
    "type mismatch: " ++ left.text ++ " " ++ op.text ++ " " ++ right.text
  | divisionByZero => "division by zero"
  | overflow op => "integer overflow in '" ++ op.text ++ "'"
  | cast source target fault =>
    "cannot cast " ++ source.text ++ " to " ++ target.text ++ ": " ++ fault.message target
  | lengthMismatch left right => s!"operand length mismatch: {left} vs {right}"
  | maskType found => "invalid selection mask: expected BOOL mask, got " ++ found.text
  | maskLength entries rows =>
    s!"invalid selection mask: mask has {entries} entries but batch has {rows} rows"
  | invalidBatch fault => "invalid record batch: " ++ fault.message

end Tabular
