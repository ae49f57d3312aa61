import Tabular.Sql.Constraint

/-!
# Definitions

Statements that make tables, views, indexes and the like. No command has them, so they are only
read.
-/

namespace Tabular.Sql.Grammar

open Parse

variable (g : Grammar)

/-! ## Tables -/

/-- The formats of files that tables are stored in. -/
def fileFormats : List String :=
  ["AVRO", "JSONFILE", "ORC", "PARQUET", "RCFILE", "SEQUENCEFILE", "TEXTFILE"]

/-- Where and how the rows of a table are stored, if it is said next. -/
def storageFormat : Parse (Option Unit) := do
  match ← oneOf ["ROW", "STORED", "LOCATION"] with
  | none => return none
  | some "ROW" =>
    expectKeyword "FORMAT"
    if ← keyword "SERDE" then
      let _ ← literalString
    else
      let _ ← keyword "DELIMITED"
    return some ()
  | some "STORED" =>
    expectKeyword "AS"
    if ← keyword "INPUTFORMAT" then
      let _ ← g.expr
      expectKeyword "OUTPUTFORMAT"
      let _ ← g.expr
    else
      let _ ← expectOneOf fileFormats
    return some ()
  | some _ =>
    let _ ← literalString
    return some ()

/-- How the rows of a table are spread and stored. -/
def storage : Parse Unit := do
  if ← phrase ["PARTITIONED", "BY"] then
    let _ ← parenthesized (commaSeparated g.columnDefinition)
  let _ ← many g.storageFormat

/-- The settings of a table for one kind of engine. -/
def engineSettings : Parse Unit := do
  let _ ← clause ["ENGINE"] equalsWord
  if ← keyword "COMMENT" then
    let _ ← symbol "="
    plainString
  if ← keyword "AUTO_INCREMENT" then
    let _ ← symbol "="
    match ← next with
    | .number .. => pure ()
    | _ => failure
  if ← phrase ["ORDER", "BY"] then
    if ← symbol "(" then
      if ← atSymbol ")" then pure ()
      else
        let _ ← commaSeparated identifier
      expectSymbol ")"
    else word

/-- What becomes of the rows of a table at the end of a transaction, if it is said next. -/
def optionalOnCommit : Parse Unit := do
  if ← phrase ["ON", "COMMIT", "DELETE", "ROWS"] then return ()
  else if ← phrase ["ON", "COMMIT", "PRESERVE", "ROWS"] then return ()
  else
    let _ ← phrase ["ON", "COMMIT", "DROP"]

/-- A new table, after its keyword. -/
def createTable : Parse Unit := do
  optionalIfMissing
  name
  let _ ← clause ["ON", "CLUSTER"] word
  if (← oneOf ["LIKE", "ILIKE"]).isSome then looseName
  let _ ← clause ["CLONE"] looseName
  g.optionalTableElements
  let _ ← phrase ["WITHOUT", "ROWID"]
  g.storage
  optionalSettings "WITH"
  optionalSettings "TBLPROPERTIES"
  engineSettings
  let _ ← clause ["AS"] g.query
  let _ ← clause ["DEFAULT", "CHARSET"] equalsWord
  let _ ← clause ["COLLATE"] equalsWord
  optionalOnCommit
  let _ ← keyword "STRICT"

/-- A new table whose rows are kept elsewhere, after its keyword. -/
def createExternalTable : Parse Unit := do
  expectKeyword "TABLE"
  optionalIfMissing
  name
  g.optionalTableElements
  g.storage
  optionalSettings "TBLPROPERTIES"

/-- A new table that a module provides, after its keyword. -/
def createVirtualTable : Parse Unit := do
  expectKeyword "TABLE"
  optionalIfMissing
  name
  expectKeyword "USING"
  word
  optionalColumnList

/-! ## Views and indexes -/

/-- A new view, after its keyword. -/
def createView : Parse Unit := do
  optionalIfMissing
  name
  optionalColumnList
  optionalSettings "WITH"
  if ← keyword "CLUSTER" then
    expectKeyword "BY"
    optionalColumnList
  expectKeyword "AS"
  let _ ← g.query
  let _ ← phrase ["WITH", "NO", "SCHEMA", "BINDING"]

/-- A new index, after its keyword. It needs a name if it may be there already. -/
def createIndex : Parse Unit := do
  let _ ← keyword "CONCURRENTLY"
  let lenient ← phrase ["IF", "NOT", "EXISTS"]
  let unnamed ← if lenient then pure false else keyword "ON"
  if unnamed then pure ()
  else
    name
    expectKeyword "ON"
  name
  let _ ← clause ["USING"] word
  let _ ← parenthesized (commaSeparated g.orderItem)
  if ← keyword "INCLUDE" then columnList
  if ← keyword "NULLS" then
    let _ ← keyword "NOT"
    expectKeyword "DISTINCT"
  let _ ← g.optionalCondition "WHERE"

/-! ## Macros, types and procedures -/

/-- A parameter of a macro, maybe with the value that it has if none is given. -/
def macroParameter : Parse Unit := do
  word
  if (← symbol ":=") || (← symbol "=>") then
    let _ ← g.expr

/-- A new macro, after its keyword. -/
def createMacro : Parse Unit := do
  name
  expectSymbol "("
  if ← atSymbol ")" then pure ()
  else
    let _ ← commaSeparated g.macroParameter
  expectSymbol ")"
  expectKeyword "AS"
  if ← keyword "TABLE" then
    let _ ← g.query
  else
    let _ ← g.expr

/-- A new type, after its keyword: a row of attributes. -/
def createType : Parse Unit := do
  name
  expectKeyword "AS"
  optionalList do
    word
    let _ ← g.wholeType
    let _ ← clause ["COLLATE"] name

/-- A parameter of a procedure. It may be left out before a comma. -/
def procedureParameter : Parse Unit := do
  match ← peek with
  | some (.word _) =>
    word
    let _ ← g.wholeType
  | _ => return ()

/-- A new procedure, after its keyword. -/
def createProcedure : Parse Unit := do
  name
  optionalList g.procedureParameter
  expectKeywords ["AS", "BEGIN"]
  let _ ← g.statements
  expectKeyword "END"

/-! ## Other objects -/

/-- A new sequence, after its keyword. -/
def createSequence : Parse Unit := do
  optionalIfMissing
  name
  let _ ← clause ["AS"] g.wholeType
  sequenceSettings
  if ← phrase ["OWNED", "BY"] then
    if ← keyword "NONE" then return () else name

/-- A new schema, after its keyword. -/
def createSchema : Parse Unit := do
  optionalIfMissing
  if ← keyword "AUTHORIZATION" then word
  else
    name
    let _ ← clause ["AUTHORIZATION"] word

/-- A new database, after its keyword. -/
def createDatabase : Parse Unit := do
  optionalIfMissing
  name
  let _ ← many do
    if (← oneOf ["LOCATION", "MANAGEDLOCATION"]).isSome then
      let _ ← literalString
      return some ()
    else return none

/-- New roles, after their keyword. -/
def createRole : Parse Unit := do
  optionalIfMissing
  let _ ← commaSeparated name
  let _ ← keyword "WITH"

/-- A creation, after its keyword. Only some objects can be replaced. -/
def create : Parse Unit := do
  let replaces ← phrase ["OR", "REPLACE"]
  let _ ← phrase ["OR", "ALTER"]
  let _ ← keyword "LOCAL"
  let _ ← keyword "GLOBAL"
  let _ ← keyword "TRANSIENT"
  let _ ← oneOf ["TEMP", "TEMPORARY"]
  match ← expectOneOf
    ["TABLE", "MATERIALIZED", "VIEW", "EXTERNAL", "MACRO", "INDEX", "UNIQUE", "VIRTUAL", "SCHEMA",
      "DATABASE", "ROLE", "SEQUENCE", "TYPE", "PROCEDURE"] with
  | "TABLE" => g.createTable
  | "MATERIALIZED" =>
    expectKeyword "VIEW"
    g.createView
  | "VIEW" => g.createView
  | "EXTERNAL" => g.createExternalTable
  | "MACRO" => g.createMacro
  | kind =>
    require !replaces
    match kind with
    | "INDEX" => g.createIndex
    | "UNIQUE" =>
      expectKeyword "INDEX"
      g.createIndex
    | "VIRTUAL" => createVirtualTable
    | "SCHEMA" => createSchema
    | "DATABASE" => createDatabase
    | "ROLE" => createRole
    | "SEQUENCE" => g.createSequence
    | "TYPE" => g.createType
    | _ => g.createProcedure

end Tabular.Sql.Grammar
