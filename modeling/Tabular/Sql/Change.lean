import Tabular.Sql.Definition

/-!
# Changes of definitions

Statements that drop tables, views and the like, or change them. No command has them, so they are
only read.
-/

namespace Tabular.Sql.Grammar

open Parse

variable (g : Grammar)

/-! ## Dropping -/

/-- An argument of a function that is named for its removal: maybe a direction and a name, a type,
and maybe a value. A type that has no grammar of its own is the name. -/
def functionArgument : Parse Unit := do
  let _ ← oneOf ["IN", "OUT", "INOUT"]
  let first ← g.wholeType
  if first.custom then
    let _ ← g.wholeType
  if (← keyword "DEFAULT") || (← symbol "=") then
    let _ ← g.expr

/-- A function that goes away: its name, and maybe its arguments. -/
def droppedFunction : Parse Unit := do
  name
  if ← symbol "(" then
    if ← symbol ")" then return ()
    else
      let _ ← commaSeparated g.functionArgument
      expectSymbol ")"

/-- A removal, after its keyword. -/
def drop : Parse Unit := do
  let _ ← keyword "TEMPORARY"
  let kind ← expectOneOf
    ["TABLE", "VIEW", "INDEX", "ROLE", "SCHEMA", "SEQUENCE", "STAGE", "FUNCTION"]
  optionalIfPresent
  if kind = "FUNCTION" then
    let _ ← commaSeparated g.droppedFunction
    let _ ← oneOf ["CASCADE", "RESTRICT"]
  else
    let _ ← commaSeparated name
    let cascade ← keyword "CASCADE"
    let restrict ← keyword "RESTRICT"
    let purge ← keyword "PURGE"
    require !(cascade && restrict)
    require !(kind = "ROLE" && (cascade || restrict || purge))

/-! ## Changing -/

/-- An addition to a table, after its keyword. -/
def addition : Parse Unit := do
  if (← g.tableConstraint).isSome then return ()
  else
    optionalIfMissing
    let partitions ← many do
      if ← keyword "PARTITION" then some <$> g.exprList else return none
    if partitions.isEmpty then
      let _ ← keyword "COLUMN"
      optionalIfMissing
      g.columnDefinition

/-- Another name of a table or of a column, after the keyword. -/
def newName : Parse Unit := do
  if ← keyword "TO" then name
  else
    let _ ← keyword "COLUMN"
    word
    expectKeyword "TO"
    word

/-- A removal of a part of a table, after its keyword. -/
def partRemoval : Parse Unit := do
  if ← phrase ["IF", "EXISTS", "PARTITION"] then g.exprList
  else if ← keyword "PARTITION" then g.exprList
  else if ← phrase ["PRIMARY", "KEY"] then return ()
  else
    let _ ← oneOf ["CONSTRAINT", "COLUMN"]
    optionalIfPresent
    word
    let _ ← keyword "CASCADE"

/-- Another name of partitions, after their keyword. -/
def newPartitionName : Parse Unit := do
  g.exprList
  expectKeywords ["RENAME", "TO", "PARTITION"]
  g.exprList

/-- A column in place of another, after the keyword. -/
def columnReplacement : Parse Unit := do
  let _ ← keyword "COLUMN"
  word
  word
  let _ ← g.wholeType
  let _ ← many g.columnOption

/-- A change of a column, after its keyword. -/
def columnChange : Parse Unit := do
  let _ ← keyword "COLUMN"
  word
  if ← phrase ["SET", "NOT", "NULL"] then return ()
  else if ← phrase ["DROP", "NOT", "NULL"] then return ()
  else if ← phrase ["DROP", "DEFAULT"] then return ()
  else if ← phrase ["SET", "DEFAULT"] then
    let _ ← g.expr
  else
    expectKeywords ["SET", "DATA", "TYPE"]
    let _ ← g.wholeType

/-- A change of a table. -/
def tableChange : Parse Unit := do
  match ← expectOneOf ["ADD", "RENAME", "DROP", "PARTITION", "CHANGE", "ALTER", "SWAP"] with
  | "ADD" => g.addition
  | "RENAME" => newName
  | "DROP" => g.partRemoval
  | "PARTITION" => g.newPartitionName
  | "CHANGE" => g.columnReplacement
  | "ALTER" => g.columnChange
  | _ =>
    expectKeyword "WITH"
    name

/-- A change, after its keyword. -/
def alter : Parse Unit := do
  match ← expectOneOf ["TABLE", "VIEW", "INDEX"] with
  | "TABLE" =>
    optionalIfPresent
    let _ ← keyword "ONLY"
    name
    let _ ← commaSeparated g.tableChange
  | "VIEW" =>
    name
    optionalColumnList
    optionalSettings "WITH"
    expectKeyword "AS"
    let _ ← g.query
  | _ =>
    name
    expectKeywords ["RENAME", "TO"]
    name

end Tabular.Sql.Grammar
