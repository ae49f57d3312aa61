import Std.Data.TreeMap
import Tabular.Schema

/-!
# Catalogs

What is known about tables: their names, numbers and columns. A registry collects tables and hands
out numbers; a catalog answers questions about them. A catalog has a map from names to numbers and
one from numbers to descriptors, and a descriptor a list of the numbers of its columns and a map
from these to the columns. No answer depends on the order in which a map has its keys.
-/

namespace Tabular

/-- The number of a table. -/
structure TableId where
  number : UInt32
  deriving DecidableEq

def TableId.text (id : TableId) : String := s!"#{id.number.toNat}"

instance : Ord TableId := ⟨compareOn fun (id : TableId) => id.number⟩

instance : Std.TransOrd TableId := inferInstanceAs (Std.TransCmp (compareOn fun (id : TableId) => id.number))

instance : Std.LawfulEqOrd TableId where
  eq_of_compare {a b} same := by
    cases a
    cases b
    exact congrArg TableId.mk (Std.LawfulEqOrd.eq_of_compare same)

/-- The name and the type of a column of a table. -/
structure ColumnDef where
  name : String
  type : DataType
  deriving DecidableEq

/-- A table as it is declared and as statements refer to it. Columns may share names. -/
structure TableDef where
  id : TableId
  name : String
  columns : List ColumnDef
  deriving DecidableEq

/-- What can go wrong with tables and columns by name or number. -/
inductive CatalogError where
  | unknownTable (name : String)
  | unknownColumn (table column : String)
  | duplicateTable (name : String)
  deriving DecidableEq

/-- The wording of a catalog error. -/
def CatalogError.message : CatalogError → String
  | unknownTable name => "unknown table: " ++ name
  | unknownColumn table column => "column '" ++ column ++ "' not found in table '" ++ table ++ "'"
  | duplicateTable name => "table already exists: " ++ name

namespace TableDef

def columnNames (t : TableDef) : List String := t.columns.map (·.name)

/-- The columns as a schema, under their own names. -/
def schema (t : TableDef) : Schema := .ofColumns (t.columns.map fun c => (c.name, c.type))

end TableDef

/-! ## Descriptors -/

/-- The description of a table: the numbers of its columns, in declared order, and the columns by
their numbers. -/
structure TableDescriptor where
  id : TableId
  name : String
  columnIds : List Nat
  columnsById : Std.TreeMap Nat ColumnDef

/-- Describes a table. Its columns have the numbers from zero on, of which there are enough for all. -/
def TableDef.describe (t : TableDef) : TableDescriptor where
  id := t.id
  name := t.name
  columnIds := List.range t.columns.length
  columnsById := .ofList ((List.range t.columns.length).zip t.columns)

namespace TableDescriptor

/-- The text of the number of a column. -/
def columnIdText (id : Nat) : String := s!"#{id}"

def columnCount (d : TableDescriptor) : Nat := d.columnIds.length

/-- The column with a number. -/
def column (d : TableDescriptor) (id : Nat) : Except CatalogError ColumnDef :=
  match d.columnsById[id]? with
  | some c => .ok c
  | none => .error (.unknownColumn d.name (columnIdText id))

/-- The columns with their numbers, in declared order. -/
def columns (d : TableDescriptor) : List (Nat × ColumnDef) :=
  d.columnIds.filterMap fun id => d.columnsById[id]?.map fun c => (id, c)

/-- All columns of a name, with their numbers. More than one makes the name ambiguous. -/
def findColumns (d : TableDescriptor) (name : String) : List (Nat × ColumnDef) :=
  d.columns.filter (·.2.name == name)

def columnNames (d : TableDescriptor) : List String := d.columns.map (·.2.name)

/-- The columns as a schema, under their own names. -/
def schema (d : TableDescriptor) : Schema :=
  .ofColumns (d.columns.map fun c => (c.2.name, c.2.type))

/-- The table as statements refer to it. -/
def table (d : TableDescriptor) : TableDef := ⟨d.id, d.name, d.columns.map (·.2)⟩

end TableDescriptor

/-! ## Catalogs -/

/-- The registered tables: the numbers of names, and the descriptors of numbers, each of which has
the number under which it stands. -/
structure Catalog where
  byName : Std.TreeMap String TableId
  byId : Std.TreeMap TableId TableDescriptor
  keyed : ∀ (id : TableId) (d : TableDescriptor), byId[id]? = some d → d.id = id

namespace Catalog

def empty : Catalog := ⟨∅, ∅, by simp⟩

/-- The descriptor of a number. -/
def descriptor (c : Catalog) (id : TableId) : Except CatalogError TableDescriptor :=
  match c.byId[id]? with
  | some d => .ok d
  | none => .error (.unknownTable id.text)

/-- The descriptor of a name. -/
def descriptorByName (c : Catalog) (name : String) : Except CatalogError TableDescriptor :=
  match c.byName[name]?.bind fun id => c.byId[id]? with
  | some d => .ok d
  | none => .error (.unknownTable name)

/-- The table with a number. -/
def table (c : Catalog) (id : TableId) : Except CatalogError TableDef :=
  (c.descriptor id).map (·.table)

/-- The table with a name. -/
def tableByName (c : Catalog) (name : String) : Except CatalogError TableDef :=
  (c.descriptorByName name).map (·.table)

def hasName (c : Catalog) (name : String) : Bool := c.byName.contains name

def hasId (c : Catalog) (id : TableId) : Bool := c.byId.contains id

/-- The names of the tables, sorted by code points. -/
def tableNames (c : Catalog) : List String :=
  c.byName.keys.mergeSort fun a b => decide (a ≤ b)

/-- The descriptors of the tables, sorted by the names of the tables. -/
def sortedDescriptors (c : Catalog) : List TableDescriptor :=
  c.tableNames.filterMap fun name => (c.descriptorByName name).toOption

/-- The tables, sorted by their numbers. -/
def tables (c : Catalog) : List TableDef := c.byId.toList.map (·.2.table)

def tableCount (c : Catalog) : Nat := c.byId.size

/-- The catalog with a table under its name and its number. -/
def insert (c : Catalog) (d : TableDescriptor) : Catalog where
  byName := c.byName.insert d.name d.id
  byId := c.byId.insert d.id d
  keyed := by
    intro id e there
    rw [Std.TreeMap.getElem?_insert] at there
    split at there
    · rename_i same
      cases there
      exact Std.LawfulEqOrd.eq_of_compare same
    · exact c.keyed id e there

end Catalog

/-! ## Registries -/

/-- Why a registry does not do what it is asked for. -/
inductive RegistryError where
  | refused (e : CatalogError)
  /-- The sum of a number and one has more than 32 bits, which stops the program. -/
  | overflow
  deriving DecidableEq

/-- The number after a number, if it has 32 bits. -/
def successor (n : UInt32) : Except RegistryError UInt32 :=
  if n.toNat + 1 < UInt32.size then .ok (n + 1) else .error .overflow

/-- A catalog under construction, and the number for the next table. -/
structure Registry where
  catalog : Catalog
  next : UInt32

namespace Registry

def empty : Registry := ⟨.empty, 0⟩

/-- Hands out a fresh number. -/
def freshId (r : Registry) : Except RegistryError (TableId × Registry) :=
  (successor r.next).map fun next => (⟨r.next⟩, { r with next })

/-- Describes a table under a fresh number. -/
def newTable (r : Registry) (name : String) (columns : List ColumnDef) :
    Except RegistryError (TableDescriptor × Registry) :=
  r.freshId.map fun given => (TableDef.describe ⟨given.1, name, columns⟩, given.2)

/-- Registers a table, unless its name or its number is taken. Numbers handed out later lie above its
own. -/
def register (r : Registry) (d : TableDescriptor) : Except RegistryError Registry :=
  if r.catalog.hasName d.name || r.catalog.hasId d.id then
    .error (.refused (.duplicateTable d.name))
  else (successor d.id.number).map fun above =>
    { catalog := r.catalog.insert d, next := max r.next above }

end Registry

/-- The catalog of some tables, which are registered in their order. -/
def Catalog.ofTables (tables : List TableDef) : Except RegistryError Catalog :=
  (tables.foldlM (fun r t => Registry.register r t.describe) Registry.empty).map (·.catalog)

end Tabular
