import Tabular.Sql.Operation

/-!
# Operands

The forms of expressions that begin with no operand: literals, names, calls, parentheses, signs, and
those that a keyword begins.
-/

namespace Tabular.Sql.Grammar

open Parse

variable (g : Grammar)

/-! ## Intervals -/

/-- The value of an interval: operators other than the logical ones belong to it. -/
def intervalValue : Parse Expr := do
  let first ← g.operand
  extend (fun e => do
    let ts ← Parse.rest
    match keywordOf ts.head? with
    | some "AND" => return none
    | some "OR" => return none
    | some "XOR" => return none
    | _ =>
      let binding := precedence ts
      if binding = 0 then return none
      else return some (← g.operation e binding)) first

/-- An interval after its keyword. -/
def interval : Parse Expr := do
  let _ ← g.intervalValue
  let field ← oneOf intervalFields
  if field = some "SECOND" then
    let _ ← optionalPrecisionScale
  else
    let _ ← optionalPrecision
    if ← keyword "TO" then
      if (← dateTimeField) = "SECOND" then
        let _ ← optionalPrecision
  return .other

/-! ## Forms that a keyword begins -/

/-- A form that no command has, read by a parser. -/
def otherForm {α : Type} (p : Parse α) : Parse Expr := do
  let _ ← p
  return .other

/-- A choice between cases, after its keyword. -/
def caseForm : Parse Unit := do
  if ← keyword "WHEN" then pure ()
  else
    let _ ← g.expr
    expectKeyword "WHEN"
  let branch : Parse Unit := do
    let _ ← g.expr
    expectKeyword "THEN"
    let _ ← g.expr
  branch
  let _ ← many do
    if ← keyword "WHEN" then
      branch
      return some ()
    else return none
  if ← keyword "ELSE" then
    let _ ← g.expr
  expectKeyword "END"

/-- A cast after its keyword, maybe with a format. -/
def castForm : Parse Expr :=
  parenthesized do
    let e ← g.expr
    expectKeyword "AS"
    let t ← g.wholeType
    let format ← clause ["FORMAT"] do
      let _ ← value
      clause ["AT", "TIME", "ZONE"] value
    return .cast e t.name format

/-- A subquery in parentheses. -/
def subquery : Parse Unit := do
  let _ ← parenthesized g.query

/-- A part of a date after its keyword. -/
def extractForm : Parse Unit :=
  parenthesized do
    let _ ← dateTimeField
    expectKeyword "FROM"
    let _ ← g.expr

/-- A rounding after its keyword, maybe to a part of a date. -/
def roundingForm : Parse Unit :=
  parenthesized do
    let _ ← g.expr
    if ← keyword "TO" then
      let _ ← dateTimeField

/-- The position of a text within another, after its keyword. -/
def positionForm : Parse Unit :=
  parenthesized do
    let _ ← g.tighter betweenBinding
    expectKeyword "IN"
    let _ ← g.expr

/-- An expression after a keyword or a comma, if one of them is next. -/
def optionalPart (k : String) : Parse Unit := do
  if ← keyword k then
    let _ ← g.expr
  else if ← symbol "," then
    let _ ← g.expr

/-- A part of a text, after its keyword. -/
def substringForm : Parse Unit :=
  parenthesized do
    let _ ← g.expr
    g.optionalPart "FROM"
    g.optionalPart "FOR"

/-- A text with a part replaced, after its keyword. -/
def overlayForm : Parse Unit :=
  parenthesized do
    let _ ← g.expr
    expectKeyword "PLACING"
    let _ ← g.expr
    expectKeyword "FROM"
    let _ ← g.expr
    let _ ← clause ["FOR"] g.expr

/-- A text without its ends, after its keyword. -/
def trimForm : Parse Unit :=
  parenthesized do
    let _ ← oneOf ["BOTH", "LEADING", "TRAILING"]
    let _ ← g.expr
    if ← keyword "FROM" then
      let _ ← g.expr
    else if ← symbol "," then
      let _ ← g.exprs

/-- The elements of an array up to its closing bracket. -/
def arrayForm : Parse Unit := do
  if ← symbol "]" then return ()
  else
    let _ ← g.exprs
    expectSymbol "]"

/-- An array of the values of a column, after its keyword. -/
def arrayAggregate : Parse Unit :=
  parenthesized do
    let _ ← keyword "DISTINCT"
    let _ ← g.expr
    let _ ← g.optionalOrder
    if ← keyword "LIMIT" then
      if ← keyword "ALL" then return ()
      else
        let _ ← g.expr

/-- What stands for the values that a list has no room for, before `WITH` or `WITHOUT`: a string, or
nothing. -/
def overflowFiller : Parse Unit := do
  match ← peek with
  | some (.word w) => require (w.keyword = some "WITH" ∨ w.keyword = some "WITHOUT")
  | some (.string _) =>
    let _ ← g.expr
  | some (.literal kind _) =>
    require ([.escaped, .national, .hexadecimal].contains kind)
    let _ ← g.expr
  | _ => failure

/-- A list of the values of a column, after its keyword. -/
def listAggregate : Parse Unit := do
  parenthesized do
    let _ ← g.optionalDistinct
    let _ ← g.expr
    if ← symbol "," then
      let _ ← g.expr
    if ← phrase ["ON", "OVERFLOW"] then
      if ← keyword "ERROR" then pure ()
      else
        expectKeyword "TRUNCATE"
        g.overflowFiller
        let _ ← expectOneOf ["WITH", "WITHOUT"]
        expectKeyword "COUNT"
  if ← phrase ["WITHIN", "GROUP"] then
    parenthesized do
      require (← g.optionalOrder)

/-- A search in columns, after its keyword. -/
def matchForm : Parse Unit := do
  columnList
  expectKeyword "AGAINST"
  parenthesized do
    let _ ← value
    if ← phrase ["IN", "NATURAL", "LANGUAGE", "MODE"] then
      let _ ← phrase ["WITH", "QUERY", "EXPANSION"]
    else if ← phrase ["IN", "BOOLEAN", "MODE"] then pure ()
    else
      let _ ← phrase ["WITH", "QUERY", "EXPANSION"]

/-- The type of a field, after the name of the field unless a keyword is next; says whether the type
closed a bracket more than it opened. -/
def structField : Parse Bool := do
  match ← peek with
  | some (.word w) =>
    if (keyword? w.text.toList).isNone then skip
  | _ =>
    let _ ← identifier
  return (← g.dataType).extraBracket

/-- The types of the fields of a structure, up to the bracket that closes them. Only the last may
have closed it already. -/
def structFields : Parse Unit := do
  let first ← g.structField
  let closed ← extend (fun closed => do
    if ← symbol "," then
      require !closed
      return some (← g.structField)
    else return none) first
  require !(← closingBracket closed)

/-- A structure after its keyword: its fields have names only if their types are not given. -/
def structForm : Parse Unit := do
  let typed ← symbol "<"
  if typed then g.structFields
  let _ ← parenthesized <| commaSeparated do
    let _ ← g.expr
    if ← keyword "AS" then
      require !typed
      let _ ← identifier

/-- A function of the current time, whose parentheses may be left out. -/
def timeForm : Parse Unit := do
  if ← symbol "(" then g.arguments true

/-- A negation after its keyword. -/
def negation : Parse Unit := do
  if ← keyword "EXISTS" then g.subquery
  else
    let _ ← g.tighter negationBinding

/-- The form that a keyword begins, if it begins one before the token to come. -/
def keywordForm (k : String) (ahead : Option Token) : Option (Parse Expr) :=
  if ["CURRENT_CATALOG", "CURRENT_USER", "SESSION_USER", "USER"].contains k then
    some (return .other)
  else if ["CURRENT_TIMESTAMP", "CURRENT_TIME", "CURRENT_DATE", "LOCALTIME",
      "LOCALTIMESTAMP"].contains k then
    some (otherForm g.timeForm)
  else
    let opens := ahead == some (.symbol "(")
    match k with
    | "TRUE" => some (return .value (.bool true))
    | "FALSE" => some (return .value (.bool false))
    | "NULL" => some (return .value .null)
    | "CASE" => some (otherForm g.caseForm)
    | "CAST" => some g.castForm
    | "TRY_CAST" => some (otherForm g.castForm)
    | "SAFE_CAST" => some (otherForm g.castForm)
    | "EXISTS" => some (otherForm g.subquery)
    | "EXTRACT" => some (otherForm g.extractForm)
    | "CEIL" => some (otherForm g.roundingForm)
    | "FLOOR" => some (otherForm g.roundingForm)
    | "POSITION" => if opens then some (otherForm g.positionForm) else none
    | "SUBSTRING" => some (otherForm g.substringForm)
    | "OVERLAY" => some (otherForm g.overlayForm)
    | "TRIM" => some (otherForm g.trimForm)
    | "INTERVAL" => some g.interval
    | "ARRAY" =>
      if ahead == some (.symbol "[") then some (skip *> otherForm g.arrayForm)
      else if opens then some (otherForm g.subquery)
      else none
    | "ARRAY_AGG" => some (otherForm g.arrayAggregate)
    | "LISTAGG" => some (otherForm g.listAggregate)
    | "NOT" => some (otherForm g.negation)
    | "MATCH" => some (otherForm matchForm)
    | "STRUCT" => some (otherForm g.structForm)
    | _ => none

/-! ## Names and parentheses -/

/-- What a word begins that is no keyword of a form: a name, a call, or a string with its character
set in front. -/
def nameForm (w : Word) : Parse Expr := do
  match ← peek with
  | some (.symbol "(") => otherForm (g.call g.interval)
  | some (.symbol ".") =>
    let names := w :: (← qualifiers)
    if ← atSymbol "(" then otherForm (g.call g.interval)
    else return .compound (names.map Word.text)
  | some (.string _) => if w.text.startsWith "_" then otherForm skip else return .ident w.text
  | some (.literal .hexadecimal _) =>
    if w.text.startsWith "_" then otherForm skip else return .ident w.text
  | _ => return .ident w.text

/-- What stands between parentheses: a subquery, one expression, or several. -/
def groupForm : Parse Expr := do
  let e ← match keywordOf (← peek) with
    | some "SELECT" => otherForm g.query
    | some "WITH" => otherForm g.query
    | _ => do
      match ← g.exprs with
      | [e] => pure (.nested e)
      | _ => pure .other
  expectSymbol ")"
  if ← symbol "." then
    match ← next with
    | .word _ => return .other
    | _ => failure
  else return e

/-- A literal string after the name of its type. -/
def typedString : Parse Expr := do
  let t ← g.wholeType
  if t.interval then g.interval
  else
    require !t.custom
    otherForm literalString

/-- An operand that does not begin with the name of a type and a string. -/
def plainOperand : Parse Expr := do
  let ts ← Parse.rest
  match ← next with
  | .word w =>
    match w.keyword.bind (g.keywordForm · (ts.drop 1).head?) with
    | some p => p
    | none => g.nameForm w
  | .symbol "[" => otherForm g.arrayForm
  | .symbol "-" => return .signed .minus (← g.tighter signBinding)
  | .symbol "+" => return .signed .plus (← g.tighter signBinding)
  | .symbol "(" => g.groupForm
  | _ => fun levels _ => (Expr.value <$> value) levels ts

/-- An operand, maybe with a collation after it. -/
def operandForm : Parse Expr := do
  match ← attempt g.typedString with
  | some e => return e
  | none =>
    let e ← g.plainOperand
    if ← keyword "COLLATE" then otherForm objectName else return e

end Tabular.Sql.Grammar
