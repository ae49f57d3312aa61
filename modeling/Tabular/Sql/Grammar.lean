import Tabular.Sql.TypeNames

/-!
# The recursive forms

Expressions, types, queries and statements contain each other. A grammar is a parser for each of
them; every form is read with the grammar of the forms inside it. Here are also the lists that
several forms share.
-/

namespace Tabular.Sql

open Parse

/-- The parsers of the forms that contain each other. -/
structure Grammar where
  /-- An expression, one level deeper. -/
  expr : Parse Expr
  /-- An expression on the same level whose operators all bind tighter than a bound. -/
  tighter (bound : Nat) : Parse Expr
  /-- An expression without operators after it. -/
  operand : Parse Expr
  dataType : Parse TypeScan
  /-- A query, one level deeper. -/
  query : Parse Query
  /-- The body of a query whose set operations all bind tighter than a bound. -/
  queryBody (bound : Nat) : Parse QueryBody
  tableWithJoins : Parse TableWithJoins
  /-- A statement, one level deeper. -/
  statement : Parse Statement

namespace Grammar

/-- The grammar without any texts. -/
def empty : Grammar where
  expr := failure
  tighter _ := failure
  operand := failure
  dataType := failure
  query := failure
  queryBody _ := failure
  tableWithJoins := failure
  statement := failure

variable (g : Grammar)

/-- A type that stands alone. -/
def wholeType : Parse TypeScan := do
  let t ← g.dataType
  require !t.extraBracket
  return t

/-- Expressions with commas between them. -/
def exprs : Parse (List Expr) := commaSeparated g.expr

/-! ## Orders -/

/-- An expression to order by, and its direction. -/
def orderItem : Parse Unit := do
  let _ ← g.expr
  let _ ← oneOf ["ASC", "DESC"]
  if ← phrase ["NULLS", "FIRST"] then return ()
  else
    let _ ← phrase ["NULLS", "LAST"]

/-- Maybe the order of rows. -/
def optionalOrder : Parse Bool := clause ["ORDER", "BY"] (commaSeparated g.orderItem)

/-! ## Arguments -/

/-- What may stand where an expression or a star can. -/
inductive Starred where
  | expr (e : Expr)
  | star
  | qualifiedStar

/-- A name and a star, with a point before each part after the first. -/
def qualifiedStar : Parse Unit := do
  let _ ← identifier
  let _ ← many do
    expectSymbol "."
    if ← symbol "*" then return none else return some (← identifier)

/-- Whether the name ahead is followed by a point. -/
def atQualifiedName : Parse Bool := fun _ ts =>
  let qualified := match ts with
    | .word _ :: .symbol "." :: _ => true
    | .string _ :: .symbol "." :: _ => true
    | _ => false
  some (qualified, ts)

/-- A star, maybe after a name, or an expression. -/
def starred : Parse Starred := do
  if ← symbol "*" then return .star
  else if ← atQualifiedName then
    match ← attempt qualifiedStar with
    | some () => return .qualifiedStar
    | none => return .expr (← g.expr)
  else return .expr (← g.expr)

/-- An argument, which may be given by name. -/
def argument : Parse Unit := do
  let _ ← attempt do
    let _ ← identifier
    expectSymbol "=>"
  let _ ← g.starred

/-- The arguments of a call up to its closing parenthesis, maybe in an order. -/
def arguments (ordered : Bool) : Parse Unit := do
  if ← symbol ")" then return ()
  else
    let _ ← commaSeparated g.argument
    if ordered then
      let _ ← g.optionalOrder
    expectSymbol ")"

/-- Maybe `ALL` or `DISTINCT`, which may say on what; says whether it was the latter. -/
def optionalDistinct : Parse Bool := do
  let all ← keyword "ALL"
  if ← keyword "DISTINCT" then
    require !all
    if ← keyword "ON" then
      parenthesized do
        if ← atSymbol ")" then return () else
          let _ ← g.exprs
    return true
  else return false

/-! ## Windows -/

/-- One end of the frame of a window. -/
def frameBound (interval : Parse Expr) : Parse Unit := do
  if ← phrase ["CURRENT", "ROW"] then return ()
  if ← keyword "UNBOUNDED" then pure ()
  else
    match ← peek with
    | some (.string _) =>
      let _ ← interval
    | _ =>
      let _ ← g.expr
  let _ ← expectOneOf ["PRECEDING", "FOLLOWING"]

/-- A window up to its closing parenthesis. -/
def window (interval : Parse Expr) : Parse Unit := do
  let _ ← clause ["PARTITION", "BY"] g.exprs
  let _ ← g.optionalOrder
  if ← symbol ")" then return ()
  else
    let _ ← expectOneOf ["ROWS", "RANGE", "GROUPS"]
    if ← keyword "BETWEEN" then
      g.frameBound interval
      expectKeyword "AND"
      g.frameBound interval
    else g.frameBound interval
    expectSymbol ")"

/-- A call from its opening parenthesis on. -/
def call (interval : Parse Expr) : Parse Unit := do
  expectSymbol "("
  let _ ← g.optionalDistinct
  g.arguments true
  if (← oneOf ["RESPECT", "IGNORE"]).isSome then expectKeyword "NULLS"
  if ← keyword "OVER" then
    if ← symbol "(" then g.window interval
    else
      let _ ← identifier

/-! ## Statements -/

/-- Statements with semicolons between them, up to the end of the text or to `END`. Each takes a
token, so `fuel` tokens bound them; `delimited` says whether one may begin here. -/
def statementsUpTo : (fuel : Nat) → (delimited : Bool) → Parse (List Statement)
  | 0, _ => failure
  | fuel + 1, delimited => do
    if ← symbol ";" then statementsUpTo fuel true
    else if (← Parse.rest).isEmpty || (← peekKeyword) == some "END" then return []
    else
      require delimited
      let first ← g.statement
      let more ← statementsUpTo fuel false
      return first :: more

/-- The statements of a text, or of a part of one that `END` ends. -/
def statements : Parse (List Statement) := do
  g.statementsUpTo ((← Parse.rest).length + 1) true

end Grammar

end Tabular.Sql
