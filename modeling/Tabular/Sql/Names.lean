import Tabular.Numeral
import Tabular.Sql.Parse
import Tabular.Sql.Tree

/-!
# Names and literals

The leaves of the grammar: identifiers, names of objects, aliases and literals.
-/

namespace Tabular.Sql

open Parse

/-! ## Identifiers -/

/-- The identifier that a token is: any word, or a string, which stands for a word in quotes. -/
def Token.identifier? : Token → Option Word
  | .word w => some w
  | .string text => some (.quoted (Char.ofNat 39) text.toList)
  | _ => none

/-- An identifier. -/
def identifier : Parse Word := do
  match (← next).identifier? with
  | some w => return w
  | none => failure

/-- Identifiers, each after a point. -/
def qualifiers : Parse (List Word) := many do
  if ← symbol "." then return some (← identifier) else return none

/-- The name of an object: identifiers with points between them. -/
def objectName : Parse (List Word) := do
  let first ← identifier
  let more ← qualifiers
  return first :: more

/-- Identifiers in parentheses. -/
def columnList : Parse Unit := do
  let _ ← parenthesized (commaSeparated identifier)

/-- Identifiers in parentheses, or nothing. -/
def optionalColumnList : Parse Unit := do
  if ← atSymbol "(" then columnList

/-- An alias. After `AS` any word is one, else only those that are not reserved; a string always
is. -/
def optionalAlias (reserved : List String) : Parse (Option Word) := do
  let explicit ← keyword "AS"
  match ← peek with
  | some (.word w) =>
    if explicit || w.keyword.all (!reserved.contains ·) then
      skip
      return some w
    else return none
  | some (.string text) =>
    skip
    return some (.quoted (Char.ofNat 39) text.toList)
  | _ =>
    require !explicit
    return none

/-- An alias of a table, which may name its columns; says whether there is one. -/
def optionalTableAlias : Parse Bool := do
  match ← optionalAlias tableAliasReserved with
  | some _ =>
    optionalColumnList
    return true
  | none => return false

/-! ## Literals -/

/-- An integer without a sign. -/
def unsignedInteger : Parse Unit := do
  match ← next with
  | .number text _ =>
    require (text.toList.all Char.isDigit && Numeral.valueFrom 0 text.toList < UInt64.size)
  | _ => failure

/-- The keywords that may stand for themselves as the key of a semi-structured value. -/
def keyKeywords : List String := ["LOCATION", "TYPE", "DATE"]

/-- A literal, or a word where a key may stand. -/
def value : Parse Value := do
  match ← next with
  | .word w =>
    match w.keyword with
    | some "TRUE" => return .bool true
    | some "FALSE" => return .bool false
    | some "NULL" => return .null
    | some k =>
      require (keyKeywords.contains k)
      return .other
    | none =>
      require (w.quote.all (· == '"'))
      return .other
  | .number text long => return .number text long
  | .string text => return .string text
  | .literal .. => return .other
  | .placeholder _ => return .other
  | .symbol s =>
    require (s == ":" || s == "@")
    match ← next with
    | .word _ => return .other
    | .number _ long =>
      require !long
      return .other
    | _ => failure

/-- A number, or a placeholder for one. -/
def numberValue : Parse Unit := do
  match ← peek with
  | some (.number ..) => skip
  | some (.placeholder _) => skip
  | some (.symbol _) =>
    let _ ← value
  | _ => failure

/-- A literal string after the name of its type: also a word that is no keyword. -/
def literalString : Parse String := do
  match ← next with
  | .word w =>
    require w.keyword.isNone
    return w.text
  | .string text => return text
  | .literal .escaped text => return text
  | _ => failure

/-- Maybe the character after `ESCAPE`. -/
def optionalEscape : Parse Unit := do
  if ← keyword "ESCAPE" then
    let text ← literalString
    require (text.utf8ByteSize == 1)

/-! ## Fields of dates -/

/-- The parts that may be the unit of an interval. -/
def intervalFields : List String :=
  ["YEAR", "MONTH", "WEEK", "DAY", "HOUR", "MINUTE", "SECOND", "CENTURY", "DECADE", "DOY", "DOW",
    "EPOCH", "ISODOW", "ISOYEAR", "JULIAN", "MICROSECOND", "MICROSECONDS", "MILLENIUM",
    "MILLENNIUM", "MILLISECOND", "MILLISECONDS", "NANOSECOND", "NANOSECONDS", "QUARTER", "TIMEZONE",
    "TIMEZONE_HOUR", "TIMEZONE_MINUTE"]

/-- The parts of dates and times. -/
def dateTimeFields : List String :=
  intervalFields ++ ["DATE", "TIME", "DAYOFWEEK", "DAYOFYEAR", "ISOWEEK"]

/-- One part of a date or time. -/
def dateTimeField : Parse String := expectOneOf dateTimeFields

end Tabular.Sql
