import Tabular.Sql.Select

/-!
# Columns and constraints

The columns of a table, what is asked of their values, and the settings of tables and sequences. No
command has them, so they are only read.
-/

namespace Tabular.Sql.Grammar

open Parse

variable (g : Grammar)

/-! ## Shared forms -/

/-- Maybe `IF NOT EXISTS`. -/
def optionalIfMissing : Parse Unit := do
  let _ ← phrase ["IF", "NOT", "EXISTS"]

/-- Maybe `IF EXISTS`. -/
def optionalIfPresent : Parse Unit := do
  let _ ← phrase ["IF", "EXISTS"]

/-- A name. -/
def name : Parse Unit := do
  let _ ← objectName

/-- A word, or a string in its place. -/
def word : Parse Unit := do
  let _ ← identifier

/-- A name that need not be one: it takes tokens up to the first that no name would have there. -/
def looseName : Parse Unit := do
  let _ ← many do
    let t ← peek
    skip
    if (t.bind Token.identifier?).isSome then
      if ← symbol "." then return some () else return none
    else return none

/-- A word after a sign of equality. -/
def equalsWord : Parse Unit := do
  expectSymbol "="
  match ← next with
  | .word _ => return ()
  | _ => failure

/-- A string as it is. -/
def plainString : Parse Unit := do
  match ← next with
  | .string _ => return ()
  | _ => failure

/-- Expressions in parentheses. -/
def exprList : Parse Unit := do
  let _ ← parenthesized g.exprs

/-- Elements with commas between them up to a closing parenthesis. A comma may stand after the last
one. -/
def listToParenthesis (p : Parse Unit) : Parse Unit := do
  p
  let _ ← many do
    let comma ← symbol ","
    if ← symbol ")" then return none
    else
      require comma
      p
      return some ()

/-- Elements in parentheses, or nothing. -/
def optionalList (p : Parse Unit) : Parse Unit := do
  if ← symbol "(" then
    if ← symbol ")" then return () else listToParenthesis p

/-- Settings in parentheses after a keyword, if it is next. -/
def optionalSettings (k : String) : Parse Unit := do
  if ← keyword k then
    let _ ← parenthesized <| commaSeparated do
      word
      expectSymbol "="
      let _ ← value

/-! ## Sequences -/

/-- A bound of a sequence, or the word that there is none. -/
def sequenceBound (k : String) : Parse Unit := do
  if ← keyword k then numberValue
  else
    let _ ← phrase ["NO", k]

/-- The settings of a sequence, in their order. -/
def sequenceSettings : Parse Unit := do
  if ← keyword "INCREMENT" then
    let _ ← keyword "BY"
    numberValue
  sequenceBound "MINVALUE"
  sequenceBound "MAXVALUE"
  if ← keyword "START" then
    let _ ← keyword "WITH"
    numberValue
  let _ ← clause ["CACHE"] numberValue
  let _ ← keyword "NO"
  let _ ← keyword "CYCLE"

/-! ## Options of a column -/

/-- What becomes of rows whose partner goes away. -/
def referentialAction : Parse Unit := do
  if (← oneOf ["RESTRICT", "CASCADE"]).isSome then return ()
  else if ← phrase ["SET", "NULL"] then return ()
  else if ← phrase ["NO", "ACTION"] then return ()
  else expectKeywords ["SET", "DEFAULT"]

/-- What happens when rows of the other table change or go away, each at most once. -/
def referentialActions : Parse Unit := do
  let onDelete ← clause ["ON", "DELETE"] referentialAction
  let onUpdate ← clause ["ON", "UPDATE"] referentialAction
  if onUpdate && !onDelete then
    let _ ← clause ["ON", "DELETE"] referentialAction

/-- The settings of an identity, if they are given. -/
def identitySettings : Parse Unit := do
  if ← atSymbol "(" then parenthesized sequenceSettings

/-- How a column gets its values, after the keyword. Without a rule it is no option, but what was
read of one stays taken. -/
def generation : Parse (Option Unit) := do
  if ← phrase ["ALWAYS", "AS", "IDENTITY"] then some <$> identitySettings
  else if ← phrase ["BY", "DEFAULT", "AS", "IDENTITY"] then some <$> identitySettings
  else if ← phrase ["ALWAYS", "AS"] then
    if ← atSymbol "(" then
      let _ ← parenthesized g.expr
      let _ ← keyword "STORED"
      return some ()
    else return none
  else return none

/-- A property of a column, if it is next. -/
def columnOption : Parse (Option Unit) := do
  if ← phrase ["CHARACTER", "SET"] then some <$> name
  else if ← phrase ["NOT", "NULL"] then return some ()
  else if ← keyword "COMMENT" then some <$> plainString
  else if ← keyword "NULL" then return some ()
  else if ← keyword "DEFAULT" then
    let _ ← g.expr
    return some ()
  else if ← phrase ["PRIMARY", "KEY"] then return some ()
  else if ← keyword "UNIQUE" then return some ()
  else if ← keyword "REFERENCES" then
    name
    optionalColumnList
    some <$> referentialActions
  else if ← keyword "CHECK" then
    let _ ← parenthesized g.expr
    return some ()
  else if (← oneOf ["AUTO_INCREMENT", "AUTOINCREMENT"]).isSome then return some ()
  else if ← phrase ["ON", "UPDATE"] then
    let _ ← g.expr
    return some ()
  else if ← keyword "GENERATED" then g.generation
  else return none

/-- A column, its type and its properties. -/
def columnDefinition : Parse Unit := do
  word
  let _ ← g.wholeType
  let _ ← clause ["COLLATE"] name
  let _ ← many do
    if ← keyword "CONSTRAINT" then
      word
      require (← g.columnOption).isSome
      return some ()
    else if (← g.columnOption).isSome then return some ()
    else if ← keyword "COLLATE" then some <$> name
    else return none

/-! ## Constraints of a table -/

/-- Columns in parentheses, maybe after the name of their index. -/
def indexedColumns : Parse Unit := do
  let _ ← attempt identifier
  columnList

/-- An index within a table, after its keyword. -/
def tableIndex : Parse Unit := do
  if (← peekKeyword) == some "USING" then pure ()
  else
    let _ ← attempt identifier
  if ← keyword "USING" then
    let _ ← expectOneOf ["BTREE", "HASH"]
  columnList

/-- A constraint of a table, if it is next. -/
def tableConstraint : Parse (Option Unit) := do
  let named ← clause ["CONSTRAINT"] word
  match ← oneOf
    ["PRIMARY", "UNIQUE", "FOREIGN", "CHECK", "INDEX", "KEY", "FULLTEXT", "SPATIAL"] with
  | none =>
    require !named
    return none
  | some "FOREIGN" =>
    expectKeyword "KEY"
    columnList
    expectKeyword "REFERENCES"
    name
    columnList
    some <$> referentialActions
  | some "CHECK" =>
    let _ ← parenthesized g.expr
    return some ()
  | some k =>
    if ["PRIMARY", "UNIQUE"].contains k then
      let _ ← keyword "KEY"
      some <$> indexedColumns
    else if ["INDEX", "KEY"].contains k then some <$> tableIndex
    else
      require !named
      let _ ← oneOf ["KEY", "INDEX"]
      some <$> indexedColumns

/-- A column or a constraint of a table. The name of a column is a word here. -/
def tableElement : Parse Unit := do
  if (← g.tableConstraint).isSome then return ()
  else
    match ← peek with
    | some (.word _) => g.columnDefinition
    | _ => failure

/-- The columns of a table, if they are given. -/
def optionalTableElements : Parse Unit := optionalList g.tableElement

end Tabular.Sql.Grammar
