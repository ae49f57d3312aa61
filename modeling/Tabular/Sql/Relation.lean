import Tabular.Sql.Operand

/-!
# Relations

What stands after `FROM`: tables, calls, subqueries and joins.
-/

namespace Tabular.Sql

open Parse

namespace TableFactor

/-- Whether a table factor has an alias. -/
def aliased : TableFactor → Bool
  | table _ _ a => a
  | nested a => a
  | other a => a

/-- The table factor with an alias. -/
def withAlias : TableFactor → TableFactor
  | table name options _ => .table name options true
  | nested _ => .nested true
  | other _ => .other true

end TableFactor

namespace Grammar

variable (g : Grammar)

/-! ## Pivots -/

/-- What turns rows into columns, after its keyword; says whether it has an alias. -/
def pivot : Parse Bool := do
  parenthesized do
    match ← next with
    | .word _ => g.call g.interval
    | _ => failure
    expectKeyword "FOR"
    let _ ← objectName
    expectKeyword "IN"
    let _ ← parenthesized (commaSeparated value)
  optionalTableAlias

/-- What turns columns into rows, after its keyword; says whether it has an alias. -/
def unpivot : Parse Bool := do
  parenthesized do
    let _ ← identifier
    expectKeyword "FOR"
    let _ ← identifier
    expectKeyword "IN"
    columnList
  optionalTableAlias

/-- The pivots after a table. -/
def pivoted (factor : TableFactor) : Parse TableFactor :=
  extend (fun _ => do
    match ← oneOf ["PIVOT", "UNPIVOT"] with
    | some "PIVOT" => return some (.other (← g.pivot))
    | some _ => return some (.other (← unpivot))
    | none => return none) factor

/-! ## Table factors -/

/-- A subquery after its opening parenthesis. -/
def derived : Parse TableFactor := do
  let _ ← g.query
  expectSymbol ")"
  return .other (← optionalTableAlias)

/-- What stands between parentheses, after the opening one, if it is no subquery. Parentheses around
a factor without joins say nothing. -/
def grouped : Parse TableFactor := do
  let inner ← g.tableWithJoins
  expectSymbol ")"
  let aliased ← optionalTableAlias
  if inner.joined then return .nested aliased
  else match inner.relation with
    | .nested _ => return .nested aliased
    | factor =>
      if aliased then
        require !factor.aliased
        return factor.withAlias
      else return factor

/-- Maybe hints after a table. A `WITH` without parentheses is left to what follows. -/
def optionalHints : Parse Bool := do
  let begun ← attempt do
    expectKeyword "WITH"
    expectSymbol "("
  if begun.isSome then
    let _ ← g.exprs
    expectSymbol ")"
  return begun.isSome

/-- A table, or a call that gives one. -/
def namedTable : Parse TableFactor := do
  let name ← objectName
  let partitions ← clause ["PARTITION"] columnList
  let arguments ← symbol "("
  if arguments then g.arguments false
  let aliased ← optionalTableAlias
  let hints ← g.optionalHints
  g.pivoted (.table (name.map Word.text) { partitions, arguments, hints } aliased)

/-- What depends on the tables before it, after its keyword. -/
def lateral : Parse TableFactor := do
  if ← symbol "(" then g.derived
  else
    let _ ← objectName
    expectSymbol "("
    g.arguments false
    return .other (← optionalTableAlias)

/-- The elements of arrays as rows, after its keyword. -/
def unnested : Parse TableFactor := do
  let _ ← parenthesized g.exprs
  let aliased ← optionalTableAlias
  if ← keyword "WITH" then
    if ← keyword "OFFSET" then
      let _ ← optionalAlias columnAliasReserved
  return .other aliased

/-- A table factor. -/
def tableFactor : Parse TableFactor := do
  if ← keyword "LATERAL" then g.lateral
  else if ← keyword "TABLE" then
    let _ ← parenthesized g.expr
    return .other (← optionalTableAlias)
  else if ← symbol "(" then
    match ← attempt g.derived with
    | some factor => return factor
    | none => g.grouped
  else if ← keyword "UNNEST" then g.unnested
  else g.namedTable

/-! ## Joins -/

/-- The condition of a join, if there is one. -/
def joinCondition : Parse Unit := do
  if ← keyword "ON" then
    let _ ← g.expr
  else if ← keyword "USING" then columnList

/-- The keywords of a join that has a condition, if they are next. -/
def joinKeywords : Parse Bool := do
  match ← oneOf ["JOIN", "INNER", "LEFT", "RIGHT", "FULL"] with
  | none => return false
  | some "JOIN" => return true
  | some "INNER" =>
    expectKeyword "JOIN"
    return true
  | some "FULL" =>
    let _ ← keyword "OUTER"
    expectKeyword "JOIN"
    return true
  | some _ =>
    let _ ← oneOf ["OUTER", "SEMI", "ANTI"]
    expectKeyword "JOIN"
    return true

/-- A join after a table factor, if there is one. -/
def join : Parse (Option Unit) := do
  if ← keyword "CROSS" then
    let _ ← expectOneOf ["JOIN", "APPLY"]
    let _ ← g.tableFactor
    return some ()
  else if ← keyword "OUTER" then
    expectKeyword "APPLY"
    let _ ← g.tableFactor
    return some ()
  else if ← keyword "NATURAL" then
    require (← joinKeywords)
    let _ ← g.tableFactor
    return some ()
  else if ← joinKeywords then
    let _ ← g.tableFactor
    g.joinCondition
    return some ()
  else return none

/-- A table factor and its joins. -/
def joinedTables : Parse TableWithJoins := do
  let relation ← g.tableFactor
  let joins ← many g.join
  return ⟨relation, !joins.isEmpty⟩

end Grammar

end Tabular.Sql
