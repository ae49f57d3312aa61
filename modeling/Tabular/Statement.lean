import Tabular.Operator
import Tabular.Value

/-!
# Statements

A `SELECT` as it is written: names and literals have no types yet.
-/

namespace Tabular

/-- A constant as it is written. -/
inductive Literal where
  | int (i : Int64)
  | float (x : Double)
  | string (s : String)
  | bool (b : Bool)
  | null
  deriving DecidableEq

/-- An expression whose names are not resolved. -/
inductive Expr where
  | name (column : String)
  | qualified (table column : String)
  | literal (l : Literal)
  | binary (op : Operator) (left right : Expr)
  | cast (inner : Expr) (target : DataType)
  deriving DecidableEq

/-- One item of a select list. -/
inductive SelectItem where
  | wildcard
  | expr (e : Expr) (alias? : Option String)
  deriving DecidableEq

/-- A `SELECT`: what to compute, from which table, for which rows. -/
structure Select where
  items : List SelectItem
  source : Option String
  condition : Option Expr
  deriving DecidableEq

/-- What a user can ask for. -/
inductive Command where
  | select (s : Select)
  | explain (s : Select)
  deriving DecidableEq

/-- The text of a literal. -/
def Literal.text : Literal → String
  | int i => Value.literalText .int64 i
  | float x => Value.literalText .float64 x
  | string s => Value.literalText .string s
  | bool b => Value.literalText .bool b
  | null => "NULL"

namespace Expr

/-- A name with its qualifier. -/
def qualifiedText (table column : String) : String := table ++ "." ++ column

/-- The text of an expression. Every operation stands in parentheses. -/
def text : Expr → String
  | name column => column
  | qualified table column => qualifiedText table column
  | literal l => l.text
  | binary op left right => "(" ++ left.text ++ " " ++ op.text ++ " " ++ right.text ++ ")"
  | cast inner target => "CAST(" ++ inner.text ++ " AS " ++ target.text ++ ")"

end Expr

end Tabular
