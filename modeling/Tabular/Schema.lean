import Tabular.DataType

/-!
# Schemas

The names and types of the columns of a batch, in order. Names need not differ.
-/

namespace Tabular

/-- The name and the type of one column. -/
structure Field where
  name : String
  type : ColumnType
  deriving DecidableEq

/-- The text of one column: its name and its type, the latter as SQL text where it has one. -/
def Field.describe (f : Field) : String :=
  f.name ++ ":" ++ match f.type with
    | .sql type => type.text
    | .int32 => ColumnType.int32.text

/-- The columns of a batch, in order. -/
structure Schema where
  fields : List Field
  deriving DecidableEq

namespace Schema

def empty : Schema := ⟨[]⟩

/-- The schema of columns that a query can use. -/
def ofColumns (columns : List (String × DataType)) : Schema :=
  ⟨columns.map fun c => ⟨c.1, .sql c.2⟩⟩

def names (s : Schema) : List String := s.fields.map (·.name)

/-- The position and the type of the first column of a name, if a query can use that column. -/
def lookup (s : Schema) (name : String) : Option (Nat × DataType) := do
  let index ← s.fields.findIdx? (·.name == name)
  let field ← s.fields[index]?
  let type ← field.type.dataType?
  return (index, type)

/-- The text of a schema. -/
def describe (s : Schema) : String :=
  "[" ++ ", ".intercalate (s.fields.map Field.describe) ++ "]"

end Schema

end Tabular
