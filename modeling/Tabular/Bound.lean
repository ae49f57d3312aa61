import Tabular.Operator
import Tabular.Scalar

/-!
# Bound expressions

Expressions with types. A column is addressed by its name until it is resolved, then by its
position in the input.
-/

namespace Tabular

/-- A typed expression. Operations carry the type they give. -/
inductive Bound where
  | constant (value : Scalar)
  | column (table column : String) (type : DataType)
  | input (index : Nat) (type : DataType)
  | binary (op : Operator) (left right : Bound) (type : DataType)
  | cast (target : DataType) (inner : Bound)
  deriving DecidableEq

/-- The kinds of bound expressions. -/
inductive BoundKind where
  | constant
  | columnRef
  | inputRef
  | binaryOp
  | typeCast
  deriving DecidableEq

namespace BoundKind

/-- All kinds, in the order in which they are listed. -/
def all : List BoundKind := [constant, columnRef, inputRef, binaryOp, typeCast]

def text : BoundKind → String
  | constant => "Constant"
  | columnRef => "ColumnRef"
  | inputRef => "InputRef"
  | binaryOp => "BinaryOp"
  | typeCast => "TypeCast"

end BoundKind

namespace Bound

def kind : Bound → BoundKind
  | constant _ => .constant
  | column .. => .columnRef
  | input .. => .inputRef
  | binary .. => .binaryOp
  | cast .. => .typeCast

/-- The type of the values of an expression. -/
def type : Bound → DataType
  | constant value => value.type
  | column _ _ type => type
  | input _ type => type
  | binary _ _ _ type => type
  | cast target _ => target

/-- The direct parts of an expression, from left to right. -/
def children : Bound → List Bound
  | binary _ left right _ => [left, right]
  | cast _ inner => [inner]
  | constant _ | column .. | input .. => []

/-- Whether an expression has a part of a kind, itself included. -/
def contains (kind : BoundKind) : Bound → Bool
  | constant _ => kind == .constant
  | column .. => kind == .columnRef
  | input .. => kind == .inputRef
  | binary _ left right _ => kind == .binaryOp || left.contains kind || right.contains kind
  | cast _ inner => kind == .typeCast || inner.contains kind

/-- The name under which a scan gives a column of its table. -/
def qualifiedName (table column : String) : String := table ++ "." ++ column

/-- The text of an expression. -/
def text : Bound → String
  | constant value => value.text
  | column table name _ => qualifiedName table name
  | input index _ => s!"#{index}"
  | binary op left right _ => "(" ++ left.text ++ " " ++ op.text ++ " " ++ right.text ++ ")"
  | cast target inner => "CAST(" ++ inner.text ++ " AS " ++ target.text ++ ")"

/-- Whether an expression is a null constant. -/
def isNullConstant : Bound → Bool
  | constant value => value.isNull
  | _ => false

end Bound

/-- An expression with the name under which its values are given out. -/
structure Output where
  name : String
  expr : Bound
  deriving DecidableEq

end Tabular
