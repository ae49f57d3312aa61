import Tabular.Sql.Relation

/-!
# Queries

`SELECT`, the operations that combine its results, and the clauses of the query around it.
-/

namespace Tabular.Sql.Grammar

open Parse

variable (g : Grammar)

/-! ## Select lists -/

/-- A column and its new name. -/
def renamedColumn : Parse Unit := do
  let _ ← identifier
  expectKeyword "AS"
  let _ ← identifier

/-- An expression that stands for a column. -/
def replacedColumn : Parse Unit := do
  let _ ← g.expr
  let _ ← keyword "AS"
  let _ ← identifier

/-- Several in parentheses, or one. -/
def oneOrMore (p : Parse Unit) : Parse Unit := do
  if ← atSymbol "(" then
    let _ ← parenthesized (commaSeparated p)
  else p

/-- What changes the columns that a star stands for. -/
def starOptions : Parse StarOptions := do
  let column : Parse Unit := do
    let _ ← identifier
  let exclude ← clause ["EXCLUDE"] (oneOrMore column)
  let except ← clause ["EXCEPT"] (oneOrMore column)
  let rename ← clause ["RENAME"] (oneOrMore renamedColumn)
  let replace ← clause ["REPLACE"] (parenthesized (commaSeparated g.replacedColumn))
  return { exclude, except, rename, replace }

/-- An item of a select list. -/
def selectItem : Parse SelectItem := do
  match ← g.starred with
  | .expr e => return .expr e ((← optionalAlias columnAliasReserved).map Word.text)
  | .star => return .wildcard (← g.starOptions)
  | .qualifiedStar =>
    let _ ← g.starOptions
    return .qualifiedWildcard

/-! ## Clauses of a select -/

/-- How many rows are wanted, after `TOP`. -/
def top : Parse Unit := do
  if ← symbol "(" then
    let _ ← g.expr
    expectSymbol ")"
  else numberValue
  let _ ← keyword "PERCENT"
  let _ ← phrase ["WITH", "TIES"]

/-- The table that takes the rows, after `INTO`. -/
def into : Parse Unit := do
  let _ ← oneOf ["TEMP", "TEMPORARY"]
  let _ ← keyword "UNLOGGED"
  let _ ← keyword "TABLE"
  let _ ← objectName

/-- The names that a view may give to its columns where a table would end. -/
def lateralReserved : List String := ["WHERE", "GROUP", "CLUSTER", "HAVING", "LATERAL"]

/-- A view on the tables before it, if there is one. -/
def lateralView : Parse (Option Unit) := do
  if ← phrase ["LATERAL", "VIEW"] then
    let _ ← keyword "OUTER"
    let _ ← g.expr
    let _ ← objectName
    let _ ← commaSeparated (optionalAlias lateralReserved)
    return some ()
  else return none

/-- Expressions in parentheses, maybe none. -/
def tuple : Parse Unit := do
  expectSymbol "("
  if ← symbol ")" then return ()
  else
    let _ ← g.exprs
    expectSymbol ")"

/-- Expressions in parentheses, maybe none, or a lone one without. -/
def liftedTuple : Parse Unit := do
  if ← atSymbol "(" then g.tuple
  else
    let _ ← g.expr

/-- What rows are grouped by. -/
def groupItem : Parse Unit := do
  if ← phrase ["GROUPING", "SETS"] then
    let _ ← parenthesized (commaSeparated g.tuple)
  else if (← oneOf ["CUBE", "ROLLUP"]).isSome then
    let _ ← parenthesized (commaSeparated g.liftedTuple)
  else
    let _ ← g.expr

/-- The groups of rows, after `GROUP BY`. -/
def groups : Parse Unit := do
  if ← keyword "ALL" then return ()
  else
    let _ ← commaSeparated g.groupItem

/-- A window with its name. -/
def namedWindow : Parse Unit := do
  let _ ← identifier
  expectKeyword "AS"
  expectSymbol "("
  g.window g.interval

/-- A condition after its keyword, if it is next. -/
def optionalCondition (k : String) : Parse (Option Expr) := do
  if ← keyword k then return some (← g.expr) else return none

/-- A select after its keyword. -/
def select : Parse Select := do
  let distinct ← g.optionalDistinct
  let top ← clause ["TOP"] g.top
  let projection ← commaSeparated g.selectItem
  let into ← clause ["INTO"] into
  let tables ← if ← keyword "FROM" then commaSeparated g.tableWithJoins else pure []
  let views ← many g.lateralView
  let selection ← g.optionalCondition "WHERE"
  let groupBy ← clause ["GROUP", "BY"] g.groups
  let clusterBy ← clause ["CLUSTER", "BY"] g.exprs
  let distributeBy ← clause ["DISTRIBUTE", "BY"] g.exprs
  let sortBy ← clause ["SORT", "BY"] g.exprs
  let having ← clause ["HAVING"] g.expr
  let windows ← clause ["WINDOW"] (commaSeparated g.namedWindow)
  let qualify ← clause ["QUALIFY"] g.expr
  return {
    distinct, top, projection, into, tables, lateralViews := !views.isEmpty, selection, groupBy,
    clusterBy, distributeBy, sortBy, having, windows, qualify }

/-! ## Bodies -/

/-- A row of values. -/
def row : Parse Unit := do
  let _ ← keyword "ROW"
  let _ ← parenthesized g.exprs

/-- A table after its keyword. Without a schema in front, the two tokens after its name are lost. -/
def wholeTable : Parse Unit := do
  let first ← next
  let second ← peek
  skip
  let third ← peek
  skip
  match first with
  | .word _ => pure ()
  | _ => failure
  if second == some (.symbol ".") then
    match third with
    | some (.word _) => pure ()
    | _ => failure

/-- A body without set operations. -/
def plainBody : Parse QueryBody := do
  if ← keyword "SELECT" then return .select (← g.select)
  else if ← symbol "(" then
    let _ ← g.query
    expectSymbol ")"
    return .other
  else if ← keyword "VALUES" then
    let _ ← commaSeparated g.row
    return .other
  else if ← keyword "TABLE" then
    wholeTable
    return .other
  else failure

/-- How tightly a set operation binds. -/
def setBinding (k : Option String) : Nat :=
  match k with
  | some "UNION" => 10
  | some "EXCEPT" => 10
  | some "INTERSECT" => 20
  | _ => 0

/-- Whether rows are kept that occur twice, after a set operation. -/
def setQuantifier (k : Option String) : Parse Unit := do
  let byName : Parse Unit := do
    if k = some "UNION" then
      let _ ← phrase ["BY", "NAME"]
  let _ ← oneOf ["ALL", "DISTINCT"]
  byName

/-- A body whose set operations all bind tighter than a bound. -/
def boundedBody (bound : Nat) : Parse QueryBody := do
  let first ← g.plainBody
  extend (fun _ => do
    let k ← peekKeyword
    let binding := setBinding k
    if binding ≤ bound then return none
    else
      skip
      setQuantifier k
      let _ ← g.queryBody binding
      return some .other) first

/-! ## Queries -/

/-- A query with a name. -/
def namedQuery : Parse Unit := do
  let _ ← identifier
  if ← keyword "AS" then pure ()
  else
    optionalColumnList
    expectKeyword "AS"
  let _ ← parenthesized g.query
  let _ ← clause ["FROM"] identifier

/-- How many rows are wanted, after `LIMIT`; `ALL` is no limit. -/
def limit : Parse Bool := do
  if ← keyword "ALL" then return false
  else
    let _ ← g.expr
    return true

/-- How many rows are left out, after `OFFSET`. -/
def offset : Parse Unit := do
  let _ ← g.expr
  let _ ← oneOf ["ROW", "ROWS"]

/-- A limit, if there was none so far. -/
def optionalLimit (limited : Bool) : Parse Bool := do
  if limited then return true
  else if ← keyword "LIMIT" then g.limit
  else return false

/-- An offset, if there was none so far. -/
def optionalOffset (skipped : Bool) : Parse Bool := do
  if skipped then return true else clause ["OFFSET"] g.offset

/-- A limit and an offset after those so far; two numbers after `LIMIT` are both. -/
def limits (limited skipped : Bool) : Parse (Bool × Bool) := do
  let limited ← g.optionalLimit limited
  let skipped ← g.optionalOffset skipped
  if limited && !skipped then
    if ← symbol "," then
      let _ ← g.expr
      return (true, true)
  return (limited, skipped)

/-- How many rows are wanted, after `FETCH`. -/
def fetch : Parse Unit := do
  let _ ← expectOneOf ["FIRST", "NEXT"]
  if (← oneOf ["ROW", "ROWS"]).isSome then pure ()
  else
    let _ ← value
    let _ ← keyword "PERCENT"
    let _ ← expectOneOf ["ROW", "ROWS"]
  if ← keyword "ONLY" then return ()
  else expectKeywords ["WITH", "TIES"]

/-- What the query locks, after `FOR`. -/
def lock : Parse Unit := do
  let _ ← expectOneOf ["UPDATE", "SHARE"]
  let _ ← clause ["OF"] objectName
  if ← keyword "NOWAIT" then return ()
  else
    let _ ← phrase ["SKIP", "LOCKED"]

/-- What stands after the body of a query. -/
def plainQuery (named : Bool) : Parse Query := do
  let body ← g.queryBody 0
  let orderBy ← g.optionalOrder
  let (limit, offset) ← g.limits false false
  let (limit, offset) ← g.limits limit offset
  let limitBy ← clause ["BY"] g.exprs
  let fetch ← clause ["FETCH"] fetch
  let locks ← many do
    if ← keyword "FOR" then
      lock
      return some ()
    else return none
  return { named, body, orderBy, limit, offset, limitBy, fetch, locks := !locks.isEmpty }

end Tabular.Sql.Grammar
