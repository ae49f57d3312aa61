import Tabular.Sql.Update

/-!
# Scripts

The statements of a text, with semicolons between them. A text whose forms nest too deeply has none.
-/

namespace Tabular.Sql

open Parse

/-- How deep expressions, queries and statements may nest. -/
def maxLevels : Nat := 50

namespace Grammar

variable (g : Grammar)

/-- A query; rows may also be inserted or updated where its body would stand. -/
def queryForm : Parse Query := do
  let named ← clause ["WITH"] do
    let _ ← keyword "RECURSIVE"
    let _ ← commaSeparated g.namedQuery
  let changed : Query := ⟨named, .other, false, false, false, false, false, false⟩
  if ← keyword "INSERT" then
    g.insert
    return changed
  else if ← keyword "UPDATE" then
    g.update
    return changed
  else g.plainQuery named

/-- What is to be explained, after the keyword: a statement that is no explanation, or a table. -/
def explanation : Parse Statement := do
  let analyze ← keyword "ANALYZE"
  let verbose ← keyword "VERBOSE"
  let format ← clause ["FORMAT"] (expectOneOf ["TEXT", "GRAPHVIZ", "JSON"])
  match ← attempt g.statement with
  | some (.explain ..) => failure
  | some .explainTable => failure
  | some inner => return .explain { analyze, verbose, format } inner
  | none =>
    name
    return .explainTable

/-- A statement. -/
def statementForm : Parse Statement := do
  if ← atSymbol "(" then return .query (← g.query)
  else match ← peekKeyword with
    | none => failure
    | some k =>
      if ["SELECT", "WITH", "VALUES"].contains k then return .query (← g.query)
      else if ["EXPLAIN", "DESCRIBE"].contains k then
        skip
        g.explanation
      else match g.otherStatement k with
        | none => failure
        | some p =>
          skip
          p
          return .other

/-- The grammar whose forms contain those of another. -/
def extended : Grammar where
  expr := deeper (g.tighter 0)
  tighter bound := g.boundedExpr bound
  operand := g.operandForm
  dataType := typeScan g.dataType
  query := deeper g.queryForm
  queryBody bound := g.boundedBody bound
  tableWithJoins := g.joinedTables
  statement := deeper g.statementForm

/-- The grammar of the texts whose forms nest no deeper than a bound. -/
def ofDepth : Nat → Grammar
  | 0 => empty
  | n + 1 => (ofDepth n).extended

end Grammar

/-- The steps from a form to one inside it that takes a token more are at most this many. -/
def stepsPerToken : Nat := 8

/-- The statements of a text, if it is well formed. -/
def statements (text : String) : Option (List Statement) := do
  let ts ← tokens text
  let g := Grammar.ofDepth (stepsPerToken * (ts.length + 4))
  let (found, _) ← g.statements maxLevels ts
  return found

end Tabular.Sql
