import Tabular.Sql.Administration

/-!
# Updates and sessions

Statements that change rows, or the session. No command has them, so they are only read.
-/

namespace Tabular.Sql.Grammar

open Parse

variable (g : Grammar)

/-! ## Rows -/

/-- Tokens up to the end of the text or to a sign of equality. -/
def tokensToEquals : Parse Unit := do
  let _ ← many do
    match ← peek with
    | some (.symbol "=") => return none
    | some _ =>
      skip
      return some ()
    | none => return none

/-- A column and its new value. Any tokens may stand for the column. -/
def assignment : Parse Unit := do
  tokensToEquals
  expectSymbol "="
  let _ ← g.expr

/-- The rows to give back, if they are wanted. -/
def optionalReturning : Parse Unit := do
  let _ ← clause ["RETURNING"] (commaSeparated g.selectItem)

/-- What happens to rows that are there already, after `ON`. -/
def onConflict : Parse Unit := do
  if ← keyword "CONFLICT" then
    if ← phrase ["ON", "CONSTRAINT"] then name else optionalColumnList
    expectKeyword "DO"
    if ← keyword "NOTHING" then return ()
    else
      expectKeywords ["UPDATE", "SET"]
      let _ ← commaSeparated g.assignment
      let _ ← g.optionalCondition "WHERE"
  else
    expectKeywords ["DUPLICATE", "KEY", "UPDATE"]
    let _ ← commaSeparated g.assignment

/-- An insertion, after its keyword. -/
def insert : Parse Unit := do
  let _ ← keyword "IGNORE"
  let _ ← oneOf ["INTO", "OVERWRITE"]
  let _ ← keyword "LOCAL"
  if ← keyword "DIRECTORY" then
    let _ ← literalString
    let _ ← clause ["STORED", "AS"] (expectOneOf fileFormats)
    let _ ← g.query
  else
    let _ ← keyword "TABLE"
    name
    optionalColumnList
    if ← keyword "PARTITION" then
      let _ ← parenthesized g.exprs
    optionalColumnList
    let _ ← g.query
    let _ ← clause ["ON"] g.onConflict
    g.optionalReturning

/-- An update, after its keyword. -/
def update : Parse Unit := do
  let _ ← g.tableWithJoins
  expectKeyword "SET"
  let _ ← commaSeparated g.assignment
  let _ ← clause ["FROM"] g.tableWithJoins
  let _ ← g.optionalCondition "WHERE"
  g.optionalReturning

/-- A deletion, after its keyword. -/
def delete : Parse Unit := do
  if ← keyword "FROM" then pure ()
  else
    let _ ← commaSeparated name
    expectKeyword "FROM"
  let _ ← commaSeparated g.tableWithJoins
  let _ ← clause ["USING"] (commaSeparated g.tableWithJoins)
  let _ ← g.optionalCondition "WHERE"
  g.optionalReturning
  let _ ← g.optionalOrder
  let _ ← clause ["LIMIT"] g.limit

/-- The removal of all rows, after its keyword. -/
def truncate : Parse Unit := do
  let _ ← keyword "TABLE"
  name
  if ← keyword "PARTITION" then
    let _ ← parenthesized g.exprs

/-! ## Merging -/

/-- What is done with rows that match, or with rows that do not. -/
def mergeClause : Parse Unit := do
  expectKeyword "WHEN"
  let unmatched ← keyword "NOT"
  expectKeyword "MATCHED"
  let _ ← clause ["AND"] g.expr
  expectKeyword "THEN"
  match ← expectOneOf ["UPDATE", "INSERT", "DELETE"] with
  | "INSERT" =>
    require unmatched
    optionalColumnList
    expectKeyword "VALUES"
    let _ ← commaSeparated g.row
  | "UPDATE" =>
    require !unmatched
    expectKeyword "SET"
    let _ ← commaSeparated g.assignment
  | _ => require !unmatched

/-- The merging of one table into another, after its keyword. -/
def merge : Parse Unit := do
  let _ ← keyword "INTO"
  let _ ← g.tableFactor
  expectKeyword "USING"
  let _ ← g.tableFactor
  expectKeyword "ON"
  let _ ← g.expr
  let _ ← many do
    match ← peek with
    | none => return none
    | some (.symbol ";") => return none
    | some _ => some <$> g.mergeClause

/-! ## Transactions -/

/-- A property of a transaction, if it is next. -/
def transactionMode : Parse (Option Unit) := do
  if ← phrase ["ISOLATION", "LEVEL"] then
    if ← phrase ["READ", "UNCOMMITTED"] then return some ()
    else if ← phrase ["READ", "COMMITTED"] then return some ()
    else if ← phrase ["REPEATABLE", "READ"] then return some ()
    else some <$> expectKeyword "SERIALIZABLE"
  else if ← phrase ["READ", "ONLY"] then return some ()
  else if ← phrase ["READ", "WRITE"] then return some ()
  else return none

/-- The properties of a transaction, if there are any. -/
def transactionModes : Parse Unit := do
  if (← transactionMode).isSome then
    let _ ← many do
      if ← symbol "," then
        require (← transactionMode).isSome
        return some ()
      else transactionMode

/-- The end of a transaction, after its keyword. -/
def transactionEnd : Parse Unit := do
  let _ ← oneOf ["TRANSACTION", "WORK"]
  if ← keyword "AND" then
    let _ ← keyword "NO"
    expectKeyword "CHAIN"

/-! ## Sessions -/

/-- Which of the things to show are wanted. -/
def showFilter : Parse Unit := do
  if (← oneOf ["LIKE", "ILIKE"]).isSome then
    let _ ← literalString
  else
    let _ ← g.optionalCondition "WHERE"

/-- Something to show, after its keyword. -/
def showForm : Parse Unit := do
  let extended ← keyword "EXTENDED"
  let full ← keyword "FULL"
  if (← oneOf ["COLUMNS", "FIELDS"]).isSome then
    let _ ← expectOneOf ["FROM", "IN"]
    name
    if (← oneOf ["FROM", "IN"]).isSome then word
    g.showFilter
  else if ← keyword "TABLES" then
    if (← oneOf ["FROM", "IN"]).isSome then word
    g.showFilter
  else if ← keyword "FUNCTIONS" then g.showFilter
  else
    require !(extended || full)
    if ← keyword "CREATE" then
      let _ ← expectOneOf ["TABLE", "TRIGGER", "FUNCTION", "PROCEDURE", "EVENT", "VIEW"]
      name
    else if (← oneOf ["COLLATION", "VARIABLES"]).isSome then g.showFilter
    else tokensToEquals

/-- The role that the session takes. -/
def roleChoice : Parse Unit := do
  expectKeyword "ROLE"
  if ← keyword "NONE" then return () else word

/-- The variable that is set, as it is printed. -/
def settingName : Parse String := do
  if ← phrase ["TIME", "ZONE"] then return "TIMEZONE" else return printedName (← objectName)

/-- The character set of the session and maybe its collation. -/
def namesChoice : Parse Unit := do
  if ← keyword "DEFAULT" then return ()
  else
    let _ ← literalString
    let _ ← clause ["COLLATE"] literalString

/-- What follows the name of a variable that is set. Some take a value without a sign; of those for
transactions, only the spelling in upper case does. -/
def variableSetting (setting : String) (modified : Bool) : Parse Unit := do
  if Text.upper setting = "NAMES" then namesChoice
  else if (← symbol "=") || (← keyword "TO") then
    let _ ← g.exprs
  else if Text.upper setting = "TIMEZONE" then
    let _ ← g.expr
  else if setting = "CHARACTERISTICS" then
    expectKeywords ["AS", "TRANSACTION"]
    transactionModes
  else
    require (setting = "TRANSACTION" && !modified)
    if ← keyword "SNAPSHOT" then
      let _ ← value
    else transactionModes

/-- A setting of the session, after its keyword. -/
def setForm : Parse Unit := do
  if ← keyword "HIVEVAR" then
    expectSymbol ":"
    g.variableSetting (← settingName) true
  else
    let modified := (← oneOf ["SESSION", "LOCAL"]).isSome
    match ← attempt roleChoice with
    | some () => return ()
    | none => g.variableSetting (← settingName) modified

/-- A statement about the statistics of a table, after its keyword. -/
def analysis : Parse Unit := do
  expectKeyword "TABLE"
  name
  let _ ← many do
    match ← oneOf ["PARTITION", "FOR", "CACHE", "NOSCAN", "COMPUTE"] with
    | none => return none
    | some "PARTITION" => some <$> g.exprList
    | some "FOR" =>
      expectKeyword "COLUMNS"
      let _ ← attempt (commaSeparated identifier)
      return some ()
    | some "CACHE" => some <$> expectKeyword "METADATA"
    | some "COMPUTE" => some <$> expectKeyword "STATISTICS"
    | some _ => return some ()

/-- A statement with a name, after its keyword. -/
def prepare : Parse Unit := do
  word
  if ← atSymbol "(" then
    let _ ← parenthesized (commaSeparated g.wholeType)
  expectKeyword "AS"
  let _ ← g.statement

/-- The statement that a keyword begins, if it begins one that no command has. -/
def otherStatement (k : String) : Option (Parse Unit) :=
  match k with
  | "INSERT" => some g.insert
  | "UPDATE" => some g.update
  | "DELETE" => some g.delete
  | "TRUNCATE" => some g.truncate
  | "MERGE" => some g.merge
  | "COPY" => some g.copy
  | "GRANT" => some grant
  | "REVOKE" => some revoke
  | "DECLARE" => some g.cursor
  | "FETCH" => some cursorFetch
  | "CACHE" => some g.cacheTable
  | "UNCACHE" => some uncacheTable
  | "MSCK" => some partitionCheck
  | "PRAGMA" => some pragma
  | "ATTACH" => some g.attach
  | "CREATE" => some g.create
  | "DROP" => some g.drop
  | "ALTER" => some g.alter
  | "SHOW" => some g.showForm
  | "SET" => some g.setForm
  | "USE" => some word
  | "START" => some (expectKeyword "TRANSACTION" *> transactionModes)
  | "BEGIN" => some (oneOf ["TRANSACTION", "WORK"] *> transactionModes)
  | "COMMIT" => some transactionEnd
  | "ROLLBACK" => some transactionEnd
  | "SAVEPOINT" => some word
  | "PREPARE" => some g.prepare
  | "EXECUTE" =>
    some do
      word
      if ← atSymbol "(" then
        let _ ← parenthesized g.exprs
  | "DEALLOCATE" =>
    some do
      let _ ← keyword "PREPARE"
      word
  | "ASSERT" =>
    some do
      let _ ← g.expr
      let _ ← clause ["AS"] g.expr
  | "ANALYZE" => some g.analysis
  | "CLOSE" => some word
  | "DISCARD" =>
    some do
      let _ ← expectOneOf ["ALL", "PLANS", "SEQUENCES", "TEMP", "TEMPORARY"]
  | "KILL" =>
    some do
      let _ ← oneOf ["CONNECTION", "QUERY", "MUTATION"]
      unsignedInteger
  | _ => none

end Tabular.Sql.Grammar
