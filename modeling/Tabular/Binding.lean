import Tabular.Plan
import Tabular.Statement

/-!
# Binding

Resolves the names of a statement against a catalog and gives every expression a type. A bare null
takes the type of the operand beside it, and integers are widened to floats where floats are.
-/

namespace Tabular

/-- What can go wrong in binding. -/
inductive BindError where
  | catalog (e : CatalogError)
  | unresolvedColumn (name : String)
  | ambiguousColumn (name : String)
  | cast (source target : DataType)
  | typeMismatch (op : Operator) (left right : DataType)
  | nonBooleanPredicate (found : DataType)
  | noTableForWildcard
  deriving DecidableEq

/-- The wording of a binding error. -/
def BindError.message : BindError → String
  | catalog e => e.message
  | unresolvedColumn name => "unresolved column: " ++ name
  | ambiguousColumn name => "ambiguous column: " ++ name
  | cast source target => "cannot cast " ++ source.text ++ " to " ++ target.text
  | typeMismatch op left right =>
    "type mismatch: " ++ left.text ++ " " ++ op.text ++ " " ++ right.text
  | nonBooleanPredicate found => "WHERE predicate must be BOOL, got " ++ found.text
  | noTableForWildcard => "SELECT * needs a FROM clause"

/-- A `SELECT` with names resolved and types known. -/
structure BoundSelect where
  outputs : List Output
  source : Option TableDef
  filter : Option Bound
  deriving DecidableEq

namespace Binding

/-! ## Names -/

/-- The column of a name in a table, which must be one and only one. The table's entry in the
catalog decides which columns there are; `display` is the name as it was written. -/
def bindColumn (catalog : Catalog) (table : Option TableDef) (name display : String) :
    Except BindError Bound :=
  match table with
  | none => .error (.unresolvedColumn display)
  | some t =>
    match catalog.descriptor t.id with
    | .error e => .error (.catalog e)
    | .ok entry =>
      match entry.findColumns name with
      | [] => .error (.unresolvedColumn display)
      | [(_, c)] => .ok (.column t.name c.name c.type)
      | _ => .error (.ambiguousColumn display)

/-! ## Literals and operations -/

/-- The constant of a literal. A bare null is a string until it meets an operand or a cast. -/
def literalConstant : Literal → Scalar
  | .int i => .ofInt i
  | .float x => .ofFloat x
  | .string s => .ofString s
  | .bool b => .ofBool b
  | .null => .null .string

/-- The type of two nulls that the operator does not take as they are. -/
def nullOperandType (op : Operator) : DataType := if op.isLogical then .bool else .int64

/-- Gives null operands their types: a null beside a value takes the type of the value, two nulls
take one that the operator accepts. -/
def adoptTypes (op : Operator) (left right : Bound) : Bound × Bound :=
  if left.isNullConstant && right.isNullConstant then
    if (op.resultType left.type right.type).isNone then
      let null := Bound.constant (.null (nullOperandType op))
      (null, null)
    else (left, right)
  else if left.isNullConstant then (.constant (.null right.type), right)
  else if right.isNullConstant then (left, .constant (.null left.type))
  else (left, right)

/-- Widens one of two operands to the type of the other, where their types differ and that is
possible. -/
def widen (left right : Bound) : Bound × Bound :=
  if left.type = right.type then (left, right)
  else if left.type.widensTo right.type then (.cast right.type left, right)
  else if right.type.widensTo left.type then (left, .cast left.type right)
  else (left, right)

/-- An operation on two bound operands. -/
def bindBinary (op : Operator) (left right : Bound) : Except BindError Bound :=
  let (left, right) := adoptTypes op left right
  let (wideLeft, wideRight) := widen left right
  match op.resultType wideLeft.type wideRight.type with
  | some type => .ok (.binary op wideLeft wideRight type)
  | none => .error (.typeMismatch op left.type right.type)

/-- A cast of a bound operand. A null just changes its type, and a cast to the same type is
nothing. -/
def bindCast (inner : Bound) (target : DataType) : Except BindError Bound :=
  if inner.isNullConstant then .ok (.constant (.null target))
  else if inner.type = target then .ok inner
  else if inner.type.castsTo target then .ok (.cast target inner)
  else .error (.cast inner.type target)

/-! ## Expressions and statements -/

/-- Binds an expression over a table, if there is one. -/
def bindExpr (catalog : Catalog) (table : Option TableDef) : Expr → Except BindError Bound
  | .name column => bindColumn catalog table column column
  | .qualified qualifier column =>
    let display := Expr.qualifiedText qualifier column
    match table with
    | some t =>
      if t.name = qualifier then bindColumn catalog table column display
      else .error (.unresolvedColumn display)
    | none => .error (.unresolvedColumn display)
  | .literal l => .ok (.constant (literalConstant l))
  | .binary op left right => do
    let left ← bindExpr catalog table left
    let right ← bindExpr catalog table right
    bindBinary op left right
  | .cast inner target => do
    let inner ← bindExpr catalog table inner
    bindCast inner target

/-- The name of an output: its alias, the column it names, or its text. -/
def outputName (e : Expr) : Option String → String
  | some name => name
  | none => match e with
    | .name column => column
    | .qualified _ column => column
    | e => e.text

/-- The outputs of a wildcard: all columns of the table, in declared order. -/
def wildcardOutputs (table : TableDef) : List Output :=
  table.columns.map fun c => ⟨c.name, .column table.name c.name c.type⟩

/-- The outputs of one item of the select list. -/
def bindItem (catalog : Catalog) (table : Option TableDef) :
    SelectItem → Except BindError (List Output)
  | .wildcard =>
    match table with
    | some t => .ok (wildcardOutputs t)
    | none => .error .noTableForWildcard
  | .expr e alias? => do
    let bound ← bindExpr catalog table e
    return [⟨outputName e alias?, bound⟩]

/-- The table a statement reads. -/
def bindTable (catalog : Catalog) (name : String) : Except BindError TableDef :=
  (catalog.tableByName name).mapError .catalog

/-- A condition, which must be a truth value. -/
def bindCondition (catalog : Catalog) (table : Option TableDef) (e : Expr) :
    Except BindError Bound := do
  let bound ← bindExpr catalog table e
  if bound.type = .bool then return bound else throw (.nonBooleanPredicate bound.type)

/-- Binds a statement: its table, its select list from left to right, then its condition. -/
def bindSelect (catalog : Catalog) (s : Select) : Except BindError BoundSelect := do
  let source ← s.source.mapM (bindTable catalog)
  let outputs ← s.items.mapM (bindItem catalog source)
  let filter ← s.condition.mapM (bindCondition catalog source)
  return ⟨outputs.flatten, source, filter⟩

end Binding

/-- The logical plan of a statement: a projection of the rows of a table, filtered if there is a
condition. -/
def BoundSelect.plan (s : BoundSelect) : Except PlanError Plan :=
  match s.source with
  | none => .error .noSourceTable
  | some table =>
    let rows := Plan.scan .logical table
    let kept := match s.filter with
      | some predicate => Plan.filter .logical predicate rows
      | none => rows
    .ok (.project .logical s.outputs kept)

end Tabular
