import Tabular.Storage

/-!
# Tables in memory

Tables that are lists of batches. Creating a table under a number that is taken puts a new table
there; who holds a handle of the old one still reaches it. A read sees the batches that were there
when it began.
-/

namespace Tabular

/-- A table in memory: the columns every batch must have, and the batches so far. -/
structure MemoryTable where
  schema : Schema
  batches : List Batch

/-- The table with one more batch, whose columns take the names of the table. Without columns a
batch does not say how many rows it has. -/
def MemoryTable.append (t : MemoryTable) (b : Batch) : Except BatchFault MemoryTable :=
  if t.schema.fields.length = 0 ∧ b.columns.length = 0 then .error .noRowCount
  else (b.relabel t.schema).map fun b => { t with batches := t.batches ++ [b] }

/-- A table of a store, whatever number it has now. -/
structure Handle where
  index : Nat
  deriving DecidableEq

/-- Tables in memory: all that were ever created, and for each number the latest of them, the latest
first. -/
structure Memory where
  tables : List MemoryTable := []
  current : List (TableId × Handle) := []

namespace Memory

/-- Creates an empty table under a number. -/
def create (m : Memory) (id : TableId) (schema : Schema) : Handle × Memory :=
  let handle : Handle := ⟨m.tables.length⟩
  (handle, ⟨m.tables ++ [⟨schema, []⟩], (id, handle) :: m.current⟩)

def table? (m : Memory) (h : Handle) : Option MemoryTable := m.tables[h.index]?

/-- The table that a number stands for now. -/
def handle (m : Memory) (id : TableId) : Except StorageError Handle :=
  match m.current.lookup id with
  | some h => .ok h
  | none => .error (.tableNotFound id)

/-- Appends a batch to the table of a handle. A handle of another store changes nothing. -/
def appendAt (m : Memory) (h : Handle) (b : Batch) : Except StorageError Memory :=
  match m.table? h with
  | none => .ok m
  | some t =>
    match t.append b with
    | .error fault => .error (.schema (.batch fault))
    | .ok t => .ok { m with tables := m.tables.set h.index t }

/-- Appends a batch to the table of a number. -/
def append (m : Memory) (id : TableId) (b : Batch) : Except StorageError Memory := do
  m.appendAt (← m.handle id) b

/-- A read of the table of a handle: the batches it has now. -/
def readAt (m : Memory) (h : Handle) : List Batch := ((m.table? h).map (·.batches)).getD []

/-- A read of the table of a number. -/
def read (m : Memory) (id : TableId) : Except StorageError (List Batch) :=
  (m.handle id).map m.readAt

/-- The store of some tables, each with its batches. -/
def ofTables (tables : List (TableDef × List Batch)) : Except StorageError Memory :=
  tables.foldlM (fun m t => t.2.foldlM (·.append t.1.id ·) (m.create t.1.id t.1.schema).2) {}

end Memory

instance : Storage Memory (List Batch) where
  openRead := Memory.read
  feed _ := Feed.ofBatches

end Tabular
