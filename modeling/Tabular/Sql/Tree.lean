import Tabular.Operator
import Tabular.Sql.Token

/-!
# SQL trees

What a SQL text says, as far as a command can be made of it. Every clause of a query is on record;
of forms that no command has, only their presence is.
-/

namespace Tabular.Sql

/-- A literal. A number may be marked as a long one. -/
inductive Value where
  | number (text : String) (long : Bool)
  | string (text : String)
  | bool (b : Bool)
  | null
  /-- A literal of another kind, or a placeholder. -/
  | other
  deriving DecidableEq

/-- The operator of a binary operation: one that commands have, or the text of another. -/
inductive BinaryOp where
  | known (op : Operator)
  | other (text : String)
  deriving DecidableEq

inductive Sign where
  | minus
  | plus
  deriving DecidableEq

/-- The name of a type as it is printed: keywords in upper case, arguments last. `base` is the part
before the arguments. -/
structure TypeName where
  base : String
  arguments : Bool
  deriving DecidableEq

inductive Expr where
  | ident (name : String)
  | compound (parts : List String)
  | value (v : Value)
  | nested (e : Expr)
  | binary (op : BinaryOp) (left right : Expr)
  | signed (sign : Sign) (e : Expr)
  | cast (e : Expr) (type : TypeName) (format : Bool)
  /-- Any other form; no command has one. -/
  | other
  deriving DecidableEq

/-- What changes the columns that a star stands for. -/
structure StarOptions where
  exclude : Bool
  except : Bool
  rename : Bool
  replace : Bool
  deriving DecidableEq

/-- The star without options. -/
def StarOptions.none : StarOptions := ⟨false, false, false, false⟩

inductive SelectItem where
  | expr (e : Expr) (alias? : Option String)
  | wildcard (options : StarOptions)
  | qualifiedWildcard
  deriving DecidableEq

/-- What may stand around the name of a table, its alias apart. -/
structure TableOptions where
  partitions : Bool
  arguments : Bool
  hints : Bool
  deriving DecidableEq

/-- The name of a table without anything around it. -/
def TableOptions.none : TableOptions := ⟨false, false, false⟩

/-- What stands between commas after `FROM`, without its joins. -/
inductive TableFactor where
  | table (name : List String) (options : TableOptions) (aliased : Bool)
  /-- A join in parentheses. -/
  | nested (aliased : Bool)
  /-- Any other form; no command has one. -/
  | other (aliased : Bool)
  deriving DecidableEq

/-- A table factor, and whether others are joined to it. -/
structure TableWithJoins where
  relation : TableFactor
  joined : Bool
  deriving DecidableEq

/-- A `SELECT` without what belongs to the query around it. -/
structure Select where
  distinct : Bool
  top : Bool
  projection : List SelectItem
  into : Bool
  tables : List TableWithJoins
  lateralViews : Bool
  selection : Option Expr
  groupBy : Bool
  clusterBy : Bool
  distributeBy : Bool
  sortBy : Bool
  having : Bool
  windows : Bool
  qualify : Bool
  deriving DecidableEq

inductive QueryBody where
  | select (s : Select)
  /-- Any other form: a query in parentheses, a set operation, rows of values, a table. -/
  | other
  deriving DecidableEq

/-- A query: its body, and which clauses stand around it. `named` says whether subqueries are named
in front. -/
structure Query where
  named : Bool
  body : QueryBody
  orderBy : Bool
  limit : Bool
  offset : Bool
  limitBy : Bool
  fetch : Bool
  locks : Bool
  deriving DecidableEq

/-- How something is to be explained. -/
structure ExplainOptions where
  analyze : Bool
  verbose : Bool
  format : Bool
  deriving DecidableEq

/-- The explanation without options. -/
def ExplainOptions.none : ExplainOptions := ⟨false, false, false⟩

inductive Statement where
  | query (q : Query)
  | explain (options : ExplainOptions) (inner : Statement)
  | explainTable
  /-- Any other statement. -/
  | other
  deriving DecidableEq

end Tabular.Sql
