import Tabular.DataType

/-!
# Operators

The binary operators of expressions and the types they take and give.
-/

namespace Tabular

inductive ArithmeticOp where
  | add
  | sub
  | mul
  | div
  deriving DecidableEq

inductive ComparisonOp where
  | eq
  | ne
  | lt
  | le
  | gt
  | ge
  deriving DecidableEq

inductive LogicalOp where
  | and
  | or
  deriving DecidableEq

/-- The binary operators. -/
inductive Operator where
  | arithmetic (op : ArithmeticOp)
  | comparison (op : ComparisonOp)
  | logical (op : LogicalOp)
  deriving DecidableEq

namespace ArithmeticOp

def text : ArithmeticOp → String
  | add => "+"
  | sub => "-"
  | mul => "*"
  | div => "/"

end ArithmeticOp

namespace ComparisonOp

def text : ComparisonOp → String
  | eq => "="
  | ne => "<>"
  | lt => "<"
  | le => "<="
  | gt => ">"
  | ge => ">="

/-- Whether a comparison is true of two values that stand in the given order. -/
def holds : ComparisonOp → Ordering → Bool
  | eq, o => o == .eq
  | ne, o => o != .eq
  | lt, o => o == .lt
  | le, o => o != .gt
  | gt, o => o == .gt
  | ge, o => o != .lt

end ComparisonOp

namespace LogicalOp

def text : LogicalOp → String
  | and => "AND"
  | or => "OR"

def apply : LogicalOp → Bool → Bool → Bool
  | and => (· && ·)
  | or => (· || ·)

end LogicalOp

namespace Operator

def add : Operator := arithmetic .add
def sub : Operator := arithmetic .sub
def mul : Operator := arithmetic .mul
def div : Operator := arithmetic .div
def eq : Operator := comparison .eq
def ne : Operator := comparison .ne
def lt : Operator := comparison .lt
def le : Operator := comparison .le
def gt : Operator := comparison .gt
def ge : Operator := comparison .ge
def and : Operator := logical .and
def or : Operator := logical .or

/-- All operators, in the order in which they are listed. -/
def all : List Operator := [add, sub, mul, div, eq, ne, lt, le, gt, ge, and, or]

/-- The spelling of an operator in SQL text. -/
def text : Operator → String
  | arithmetic op => op.text
  | comparison op => op.text
  | logical op => op.text

/-- The operator of a spelling. -/
def ofText? (spelling : String) : Option Operator := all.find? (·.text == spelling)

def isArithmetic : Operator → Bool
  | arithmetic _ => true
  | _ => false

def isComparison : Operator → Bool
  | comparison _ => true
  | _ => false

def isLogical : Operator → Bool
  | logical _ => true
  | _ => false

/-- The type an operator gives for operands of two types, or `none` if it does not take them. The
types must agree; arithmetic wants numbers and `AND` and `OR` want truth values. -/
def resultType (op : Operator) (left right : DataType) : Option DataType :=
  if left ≠ right then none
  else match op with
    | arithmetic _ => if left.isNumeric then some left else none
    | comparison _ => some .bool
    | logical _ => if left = .bool then some .bool else none

end Operator

end Tabular
