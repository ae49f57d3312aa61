import Tabular.Sql.Change

/-!
# Administration

Statements on rights, cursors, caches and copies of tables. No command has them, so they are only
read.
-/

namespace Tabular.Sql.Grammar

open Parse

variable (g : Grammar)

/-! ## Rights -/

/-- A right to one kind of action. Some are for columns alone. -/
def privilege : Parse Unit := do
  let action ← expectOneOf
    ["CONNECT", "CREATE", "DELETE", "EXECUTE", "INSERT", "REFERENCES", "SELECT", "TEMPORARY",
      "TRIGGER", "TRUNCATE", "UPDATE", "USAGE"]
  if ["INSERT", "REFERENCES", "SELECT", "UPDATE"].contains action then optionalColumnList

/-- Rights, and what they are rights to. -/
def privileges : Parse Unit := do
  if ← keyword "ALL" then
    let _ ← keyword "PRIVILEGES"
  else
    let _ ← commaSeparated privilege
  expectKeyword "ON"
  if ← phrase ["ALL", "TABLES", "IN", "SCHEMA"] then pure ()
  else if ← phrase ["ALL", "SEQUENCES", "IN", "SCHEMA"] then pure ()
  else
    let _ ← oneOf ["SEQUENCE", "SCHEMA", "TABLE"]
  let _ ← commaSeparated name

/-- The giving of rights, after its keyword. -/
def grant : Parse Unit := do
  privileges
  expectKeyword "TO"
  let _ ← commaSeparated word
  let _ ← phrase ["WITH", "GRANT", "OPTION"]
  let _ ← clause ["GRANTED", "BY"] word

/-- The taking of rights, after its keyword. -/
def revoke : Parse Unit := do
  privileges
  expectKeyword "FROM"
  let _ ← commaSeparated word
  let _ ← clause ["GRANTED", "BY"] word
  let cascade ← keyword "CASCADE"
  let restrict ← keyword "RESTRICT"
  require !(cascade && restrict)

/-! ## Cursors -/

/-- A new cursor, after its keyword. -/
def cursor : Parse Unit := do
  word
  let _ ← keyword "BINARY"
  let _ ← oneOf ["INSENSITIVE", "ASENSITIVE"]
  if ← keyword "SCROLL" then pure ()
  else
    let _ ← phrase ["NO", "SCROLL"]
  expectKeyword "CURSOR"
  if (← oneOf ["WITH", "WITHOUT"]).isSome then expectKeyword "HOLD"
  expectKeyword "FOR"
  let _ ← g.query

/-- Rows taken from a cursor, after the keyword. -/
def cursorFetch : Parse Unit := do
  if (← oneOf ["NEXT", "PRIOR", "FIRST", "LAST", "ALL"]).isSome then pure ()
  else if (← oneOf ["FORWARD", "BACKWARD"]).isSome then
    if ← keyword "ALL" then pure () else numberValue
  else
    let _ ← oneOf ["ABSOLUTE", "RELATIVE"]
    numberValue
  let _ ← expectOneOf ["FROM", "IN"]
  word
  let _ ← clause ["INTO"] name

/-! ## Copies of tables -/

/-- A string of one byte. -/
def byteText : Parse Unit := do
  let text ← literalString
  require (text.utf8ByteSize == 1)

/-- An option of a copy, in its newer form. -/
def copyOption : Parse Unit := do
  match ← expectOneOf
    ["FORMAT", "FREEZE", "DELIMITER", "NULL", "HEADER", "QUOTE", "ESCAPE", "FORCE_QUOTE",
      "FORCE_NOT_NULL", "FORCE_NULL", "ENCODING"] with
  | "FORMAT" => word
  | "FREEZE" | "HEADER" =>
    let _ ← oneOf ["TRUE", "FALSE"]
  | "NULL" | "ENCODING" =>
    let _ ← literalString
  | "DELIMITER" | "QUOTE" | "ESCAPE" => byteText
  | _ => columnList

/-- An option of delimited text in a copy. -/
def delimitedOption : Parse Unit := do
  match ← expectOneOf ["HEADER", "QUOTE", "ESCAPE", "FORCE"] with
  | "HEADER" => return ()
  | "FORCE" =>
    if ← phrase ["NOT", "NULL"] then pure () else expectKeyword "QUOTE"
    let _ ← commaSeparated word
  | _ =>
    let _ ← keyword "AS"
    byteText

/-- An option of a copy, in its older form. -/
def formerCopyOption : Parse Unit := do
  match ← expectOneOf ["BINARY", "DELIMITER", "NULL", "CSV"] with
  | "BINARY" => return ()
  | "DELIMITER" =>
    let _ ← keyword "AS"
    byteText
  | "NULL" =>
    let _ ← keyword "AS"
    let _ ← literalString
  | _ =>
    let _ ← many (attempt delimitedOption)

/-- The rows of a copy, up to a backslash and a point or to the end of the text. A backslash takes
the token after it. -/
def copiedRows : Parse Unit := do
  let _ ← many do
    if ← symbol "\\" then
      if ← symbol "." then return none
      else some <$> skip
    else if (← peek).isSome then some <$> skip
    else return none

/-- A copy of rows to or from a file, after its keyword. Rows from the standard input follow it. -/
def copy : Parse Unit := do
  let ofQuery ← atSymbol "("
  if ofQuery then
    let _ ← parenthesized g.query
  else
    name
    optionalColumnList
  let direction ← expectOneOf ["FROM", "TO"]
  require !(ofQuery && direction = "FROM")
  let place ← oneOf ["STDIN", "STDOUT", "PROGRAM"]
  if place.all (· = "PROGRAM") then
    let _ ← literalString
  let _ ← keyword "WITH"
  if ← atSymbol "(" then
    let _ ← parenthesized (commaSeparated copyOption)
  let _ ← many (attempt formerCopyOption)
  if place = some "STDIN" then
    expectSymbol ";"
    copiedRows

/-! ## Caches and settings -/

/-- A table that is to be kept at hand, after the keyword. -/
def cacheTable : Parse Unit := do
  if ← keyword "TABLE" then pure ()
  else
    name
    expectKeyword "TABLE"
  name
  optionalSettings "OPTIONS"
  match ← peek with
  | none => return ()
  | some (.word _) =>
    let _ ← keyword "AS"
    let _ ← g.query
  | some _ => failure

/-- A table that is no longer to be kept at hand, after the keyword. It must end the text. -/
def uncacheTable : Parse Unit := do
  expectKeyword "TABLE"
  optionalIfPresent
  name
  require (← peek).isNone

/-- A check of the partitions of a table, after its keyword. -/
def partitionCheck : Parse Unit := do
  let _ ← keyword "REPAIR"
  expectKeyword "TABLE"
  name
  let _ ← attempt do
    let _ ← oneOf ["ADD", "DROP", "SYNC"]
    expectKeyword "PARTITIONS"

/-- A setting that is shown or changed, after its keyword. -/
def pragma : Parse Unit := do
  name
  if ← atSymbol "(" then parenthesized numberValue
  else if ← symbol "=" then numberValue

/-- A database that is to be used as well, after the keyword. -/
def attach : Parse Unit := do
  let _ ← keyword "DATABASE"
  let _ ← g.expr
  expectKeyword "AS"
  word

end Tabular.Sql.Grammar
