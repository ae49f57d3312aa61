import Tabular.Numeral
import Tabular.Sql.Script
import Tabular.Statement

/-!
# Commands

What is asked for in a SQL text. A text is one statement, a `SELECT` or the explanation of one, and
uses only the clauses and forms that commands have. Of several that commands do not have, the first
in a fixed order is reported.
-/

namespace Tabular

/-- What a SQL text may hold that no command has. -/
inductive Unsupported where
  | statement
  | explanation
  /-- An explanation where only a `SELECT` is wanted. -/
  | nestedExplanation
  | namedQueries
  | order
  | limit
  | queryBody
  | distinct
  | having
  | grouping
  | join
  | tableAlias
  | relation
  | tables (count : Nat)
  | selectItem
  | expression
  | literal
  | operator (text : String)
  | type (fault : DataType.UnknownName)
  deriving DecidableEq

/-- The wording for what no command has. Longer forms are not repeated. -/
def Unsupported.message : Unsupported → String
  | statement => "statement: ..."
  | explanation => "EXPLAIN ..."
  | nestedExplanation => "EXPLAIN in this position"
  | namedQueries => "WITH"
  | order => "ORDER BY"
  | limit => "LIMIT/OFFSET"
  | queryBody => "query body: ..."
  | distinct => "DISTINCT"
  | having => "HAVING"
  | grouping => "GROUP BY"
  | join => "JOIN"
  | tableAlias => "table alias"
  | relation => "FROM ..."
  | tables count => s!"{count} tables in FROM"
  | selectItem => "select item: ..."
  | expression => "expression: ..."
  | literal => "literal: ..."
  | operator text => "operator: " ++ text
  | type fault => fault.message

/-- Why a SQL text is no command. -/
inductive ParseError where
  | malformed
  | unsupported (what : Unsupported)
  | invalidNumber (text : String)
  | statementCount (count : Nat)
  deriving DecidableEq

/-- The wording of a fault in SQL text. -/
def ParseError.message : ParseError → String
  | malformed => "syntax error: ..."
  | unsupported what => "unsupported: " ++ what.message
  | invalidNumber text => "invalid number: " ++ text
  | statementCount count => s!"expected exactly one statement, got {count}"

namespace Sql

/-! ## Literals and expressions -/

/-- A number: a float if it has a point or a power of ten. -/
def numberLiteral (text : String) : Except ParseError Literal :=
  if text.toList.any fun c => c = '.' ∨ c = 'e' ∨ c = 'E' then
    match Numeral.readFloat text with
    | .ok x => .ok (.float x)
    | .error _ => .error (.invalidNumber text)
  else
    match Numeral.readInt text with
    | .ok i => .ok (.int i)
    | .error _ => .error (.invalidNumber text)

def Value.literal : Value → Except ParseError Literal
  | .number text _ => numberLiteral text
  | .string text => .ok (.string text)
  | .bool b => .ok (.bool b)
  | .null => .ok .null
  | .other => .error (.unsupported .literal)

def BinaryOp.operator : BinaryOp → Except ParseError Operator
  | .known op => .ok op
  | .other text => .error (.unsupported (.operator text))

/-- The type of a cast. What stands after a parenthesis does not matter. -/
def TypeName.dataType (t : TypeName) : Except ParseError DataType :=
  (DataType.ofText (String.ofList (t.base.toList.takeWhile (· != '(')))).mapError fun fault =>
    .unsupported (.type fault)

/-- The opposite of an expression: of a literal number the opposite number, else a difference. -/
def negated : Tabular.Expr → Except ParseError Tabular.Expr
  | .literal (.int i) =>
    if i = Int64.minValue then .error (.invalidNumber ("-(" ++ Tabular.Value.intText i.toInt ++ ")"))
    else .ok (.literal (.int (-i)))
  | .literal (.float x) => .ok (.literal (.float x.neg))
  | e => .ok (.binary (.arithmetic .sub) (.literal (.int 0)) e)

/-- The expression that a tree means. A minus right before a number belongs to it, so that the least
integer can be written. -/
def Expr.expression : Expr → Except ParseError Tabular.Expr
  | ident name => .ok (.name name)
  | compound [table, column] => .ok (.qualified table column)
  | compound _ => .error (.unsupported .expression)
  | value v => v.literal.map .literal
  | nested e => e.expression
  | binary op left right => do
    let op ← op.operator
    let left ← left.expression
    let right ← right.expression
    return .binary op left right
  | signed .minus (value (.number text _)) => (numberLiteral ("-" ++ text)).map .literal
  | signed .minus e => e.expression >>= negated
  | signed .plus e => e.expression
  | cast e type _ => do
    let inner ← e.expression
    let target ← type.dataType
    return .cast inner target
  | other => .error (.unsupported .expression)

/-! ## Queries -/

def SelectItem.item : SelectItem → Except ParseError Tabular.SelectItem
  | .expr e alias? => e.expression.map (.expr · alias?)
  | .wildcard _ => .ok .wildcard
  | .qualifiedWildcard => .error (.unsupported .selectItem)

/-- The name of the only table after `FROM`. Its parts are joined by points. -/
def sourceName : List TableWithJoins → Except ParseError (Option String)
  | [] => .ok none
  | [t] =>
    if t.joined then .error (.unsupported .join)
    else match t.relation with
      | .table name _ aliased =>
        if aliased then .error (.unsupported .tableAlias)
        else .ok (some (".".intercalate name))
      | _ => .error (.unsupported .relation)
  | ts => .error (.unsupported (.tables ts.length))

def Select.statement (s : Select) : Except ParseError Tabular.Select := do
  if s.distinct then throw (.unsupported .distinct)
  if s.having then throw (.unsupported .having)
  if s.groupBy then throw (.unsupported .grouping)
  let source ← sourceName s.tables
  let items ← s.projection.mapM SelectItem.item
  let condition ← s.selection.mapM Expr.expression
  return { items, source, condition }

def Query.statement (q : Query) : Except ParseError Tabular.Select := do
  if q.named then throw (.unsupported .namedQueries)
  if q.orderBy then throw (.unsupported .order)
  if q.limit || q.offset then throw (.unsupported .limit)
  match q.body with
  | .select s => s.statement
  | .other => throw (.unsupported .queryBody)

def Statement.command : Statement → Except ParseError Command
  | .query q => q.statement.map .select
  | .explain _ (.query q) => q.statement.map .explain
  | .explain .. => .error (.unsupported .explanation)
  | _ => .error (.unsupported .statement)

end Sql

/-- The command of a SQL text. -/
def Command.ofSql (text : String) : Except ParseError Command :=
  match Sql.statements text with
  | none => .error .malformed
  | some [s] => s.command
  | some ss => .error (.statementCount ss.length)

/-- The `SELECT` of a SQL text. -/
def Select.ofSql (text : String) : Except ParseError Select := do
  match ← Command.ofSql text with
  | .select s => return s
  | .explain _ => throw (.unsupported .nestedExplanation)

end Tabular
