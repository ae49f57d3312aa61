import Tabular.Sql.Names

/-!
# Type names

The names of types as they are written, and how they are printed back: keywords in upper case,
arguments in parentheses, qualifiers after them.
-/

namespace Tabular.Sql

open Parse

/-- A type that was read: whether it has a grammar of its own, its printed name, and whether a `>>`
at its end closed one bracket more than it opened. -/
structure TypeScan where
  custom : Bool := false
  interval : Bool := false
  name : TypeName
  extraBracket : Bool := false

namespace TypeName

/-- A name without arguments. -/
def plain (base : String) : TypeName := ⟨base, false⟩

/-- The name with more text after it; after arguments it does not change the base. -/
def followedBy (t : TypeName) (text : String) : TypeName :=
  if t.arguments then t else { t with base := t.base ++ text }

end TypeName

/-! ## Arguments -/

/-- Maybe one integer in parentheses. -/
def optionalPrecision : Parse Bool := do
  if ← atSymbol "(" then
    parenthesized unsignedInteger
    return true
  else return false

/-- Maybe an integer and another in parentheses. -/
def optionalPrecisionScale : Parse Bool := do
  if ← atSymbol "(" then
    parenthesized do
      unsignedInteger
      if ← symbol "," then unsignedInteger
    return true
  else return false

/-- Maybe a length in parentheses, with its unit. -/
def optionalLength : Parse Bool := do
  if ← atSymbol "(" then
    parenthesized do
      unsignedInteger
      let _ ← oneOf ["CHARACTERS", "OCTETS"]
    return true
  else return false

/-- Strings in parentheses. -/
def stringList : Parse Unit := do
  let _ ← parenthesized <| commaSeparated do
    match ← next with
    | .string _ => return ()
    | _ => failure

/-- Maybe the arguments of a type that has no grammar of its own; commas may stand anywhere between
them. Says whether there is one. -/
def optionalModifiers : Parse Bool := do
  if ← symbol "(" then
    let found ← many do
      match ← next with
      | .word _ => return some true
      | .number .. => return some true
      | .string _ => return some true
      | .symbol "," => return some false
      | .symbol ")" => return none
      | _ => failure
    return found.contains true
  else return false

/-! ## Names by their first keyword -/

/-- The types that take no arguments. -/
def bareTypes : List String :=
  ["BOOLEAN", "BOOL", "REAL", "FLOAT4", "FLOAT8", "FLOAT64", "INT64", "UUID", "DATE", "JSON",
    "REGCLASS", "TEXT", "BYTEA"]

/-- The integers, which take a width and may be unsigned. -/
def integerTypes : List String :=
  ["TINYINT", "INT2", "SMALLINT", "MEDIUMINT", "INT", "INT4", "INTEGER", "BIGINT", "INT8"]

/-- The types that take one integer. -/
def precisionTypes : List String :=
  ["FLOAT", "NVARCHAR", "CLOB", "BINARY", "VARBINARY", "BLOB", "BYTES", "DATETIME", "TIMESTAMPTZ",
    "TIMETZ", "STRING"]

/-- The types that take a precision and a scale. -/
def numericTypes : List String := ["NUMERIC", "DECIMAL", "DEC", "BIGNUMERIC", "BIGDECIMAL"]

/-- A text as it is printed between quotes: a quote inside is written twice. One right after such a
quote is left out, as `paired` says, and those after a backslash stay as they are. -/
def quotesDoubled (quote last : Char) (paired : Bool) : List Char → List Char
  | [] => []
  | c :: rest =>
    if c ≠ quote then c :: quotesDoubled quote c false rest
    else if paired then quotesDoubled quote c false rest
    else if last = '\\' then c :: quotesDoubled quote last false rest
    else c :: c :: quotesDoubled quote c true rest

/-- A word as it is printed, in its quotes. -/
def printedWord (w : Word) : String :=
  match w.quote with
  | none => w.text
  | some q => String.ofList (q :: quotesDoubled q ' ' false w.text.toList ++ [q])

/-- A name as it is printed. -/
def printedName (name : List Word) : String := ".".intercalate (name.map printedWord)

/-- The words that follow a time. -/
def optionalTimeZone (t : TypeName) : Parse TypeName := do
  if ← keyword "WITH" then
    expectKeywords ["TIME", "ZONE"]
    return t.followedBy " WITH TIME ZONE"
  else if ← keyword "WITHOUT" then
    expectKeywords ["TIME", "ZONE"]
    return t.followedBy " WITHOUT TIME ZONE"
  else return t

/-- The rest of a type of characters. -/
def characterType (k : String) : Parse TypeName := do
  if ← keyword "VARYING" then return ⟨k ++ " VARYING", ← optionalLength⟩
  else if ← phrase ["LARGE", "OBJECT"] then return ⟨k ++ " LARGE OBJECT", ← optionalPrecision⟩
  else return ⟨k, ← optionalLength⟩

/-- The bracket after the types within another: `>`, or a `>>` that closes two. -/
def closingBracket (closed : Bool) : Parse Bool := do
  if closed then return false
  else if ← symbol ">" then return false
  else if ← symbol ">>" then return true
  else failure

/-- The type that a keyword begins, if it has a grammar of its own. -/
def keywordType (dataType : Parse TypeScan) (k : String) : Option (Parse TypeScan) :=
  let named (t : Parse TypeName) : Option (Parse TypeScan) := some do return { name := ← t }
  if bareTypes.contains k then named (return .plain k)
  else if integerTypes.contains k then
    named do
      let t : TypeName := ⟨k, ← optionalPrecision⟩
      if ← keyword "UNSIGNED" then return t.followedBy " UNSIGNED" else return t
  else if precisionTypes.contains k then named do return ⟨k, ← optionalPrecision⟩
  else if numericTypes.contains k then named do return ⟨k, ← optionalPrecisionScale⟩
  else match k with
    | "DOUBLE" =>
      named do return .plain (if ← keyword "PRECISION" then "DOUBLE PRECISION" else "DOUBLE")
    | "VARCHAR" => named do return ⟨k, ← optionalLength⟩
    | "CHARACTER" => named (characterType k)
    | "CHAR" => named (characterType k)
    | "TIMESTAMP" => named do optionalTimeZone ⟨k, ← optionalPrecision⟩
    | "TIME" => named do optionalTimeZone ⟨k, ← optionalPrecision⟩
    | "INTERVAL" => some (return { name := .plain k, interval := true })
    | "ENUM" =>
      named do
        stringList
        return ⟨k, true⟩
    | "SET" =>
      named do
        stringList
        return ⟨k, true⟩
    | "ARRAY" =>
      some do
        expectSymbol "<"
        let inside ← dataType
        let extra ← closingBracket inside.extraBracket
        let name : TypeName := ⟨"ARRAY<" ++ inside.name.base, inside.name.arguments⟩
        return { name := name.followedBy ">", extraBracket := extra }
    | _ => none

/-- A type that has no grammar of its own. -/
def customType : Parse TypeScan := do
  let name ← objectName
  let arguments ← optionalModifiers
  return { custom := true, name := ⟨printedName name, arguments⟩ }

/-- A type, where `dataType` reads the types within it. -/
def typeScan (dataType : Parse TypeScan) : Parse TypeScan := do
  let scan ← match ← peek with
    | some (.word w) =>
      match w.keyword.bind (keywordType dataType) with
      | some p =>
        skip
        p
      | none => customType
    | _ => failure
  extend (fun t => do
    if ← symbol "[" then
      expectSymbol "]"
      return some { t with custom := false, interval := false, name := t.name.followedBy "[]" }
    else return none) scan

end Tabular.Sql
