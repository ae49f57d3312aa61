import Tabular.Json

/-!
# Configuration

Where the tables are, how many rows a batch may have, and how the files are written.
-/

namespace Tabular

/-- The settings of an engine. -/
structure Config where
  /-- The directory with one delimited file for each table. -/
  dataDir : String := "./data"
  /-- The greatest number of rows of a batch that is read. Room for so many rows is taken to be there:
  that there is no memory for it is not told. -/
  batchSize : Nat := 1024
  /-- The byte between the cells of a record. -/
  delimiter : UInt8 := 44
  /-- Whether the first record names the columns. -/
  hasHeader : Bool := true
  deriving DecidableEq

/-- Why settings cannot be used. -/
inductive ConfigFault where
  | emptyBatches
  | delimiter (byte : UInt8)
  /-- Tables are to be found by their headers, but the files have none. -/
  | headerNeeded
  deriving DecidableEq

/-- A byte as two hexadecimal digits. -/
def hexByte (byte : UInt8) : String :=
  String.ofList ['0', 'x', Nat.digitChar (byte.toNat / 16), Nat.digitChar (byte.toNat % 16)]

/-- The wording of a fault in the settings. -/
def ConfigFault.message : ConfigFault → String
  | emptyBatches => "batch_size must be greater than 0"
  | delimiter byte => "csv_delimiter must be a plain ASCII character, got " ++ hexByte byte
  | headerNeeded => "table discovery needs CSV headers"

namespace Config

/-- Whether a byte may stand between cells: ASCII, but neither a quote nor a line feed. -/
def allowsDelimiter (byte : UInt8) : Bool := byte < 128 && byte != 34 && byte != 10

/-- Batches must hold a row, and the delimiter must be allowed. -/
def validate (c : Config) : Except ConfigFault Unit :=
  if c.batchSize = 0 then .error .emptyBatches
  else if allowsDelimiter c.delimiter then .ok ()
  else .error (.delimiter c.delimiter)

/-! ## Interchange -/

def toJson (c : Config) : Json :=
  .object [("data_dir", .string c.dataDir), ("batch_size", .int c.batchSize),
    ("csv_delimiter", .int c.delimiter.toNat), ("csv_has_header", .bool c.hasHeader)]

private def readText? : Json → Option String
  | .string s => some s
  | _ => none

private def readBool? : Json → Option Bool
  | .bool b => some b
  | _ => none

/-- A whole number from zero up to a bound. -/
private def readBelow? (bound : Nat) : Json → Option Nat
  | .int i => if 0 ≤ i ∧ i < bound then some i.toNat else none
  | _ => none

/-- Reads one setting, or leaves it as it is where it is missing. -/
private def readOr {α : Type} (read : Json → Option α) (default : α) : Option Json → Option α
  | none => some default
  | some value => read value

/-- Reads settings that are looked up one by one, missing ones having their defaults. -/
private def ofParts? (dataDir batchSize delimiter hasHeader : Option Json) : Option Config := do
  let start : Config := {}
  return {
    dataDir := ← readOr readText? start.dataDir dataDir
    batchSize := ← readOr (readBelow? UInt64.size) start.batchSize batchSize
    delimiter := UInt8.ofNat
      (← readOr (readBelow? UInt8.size) start.delimiter.toNat delimiter)
    hasHeader := ← readOr readBool? start.hasHeader hasHeader }

/-- Reads settings: members by name, others being ignored, or a list of them in order. -/
def ofJson? : Json → Option Config
  | .object members =>
    ofParts? (members.lookup "data_dir") (members.lookup "batch_size")
      (members.lookup "csv_delimiter") (members.lookup "csv_has_header")
  | .array items =>
    if items.length ≤ 4 then ofParts? items[0]? items[1]? items[2]? items[3]? else none
  | _ => none

end Config

end Tabular
