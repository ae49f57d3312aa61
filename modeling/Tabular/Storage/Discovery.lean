import Tabular.Storage.Directory

/-!
# Discovery

Finds the tables of a directory: one for each entry with the extension of tables, named after it,
with the columns that its header names. Tables are numbered in the order of the names of their files.
An entry whose header cannot be read is not passed over.
-/

namespace Tabular

/-- Why a directory cannot be listed. -/
inductive DirectoryFault where
  | missing
  | notDirectory
  | reported (fault : SystemFault)
  deriving DecidableEq

/-- What the system says of a directory fault. -/
def DirectoryFault.text : DirectoryFault → String
  | missing => SystemFault.missing.text
  | notDirectory => "Not a directory (os error 20)"
  | reported fault => fault.text

/-- Why tables cannot be opened. -/
inductive OpenError where
  | directory (fault : DirectoryFault)
  | config (fault : ConfigFault)
  | catalog (e : CatalogError)
  | storage (e : StorageError)
  /-- There are more tables than numbers, which stops the program. -/
  | overflow
  deriving DecidableEq

/-- The wording of an error in opening tables. -/
def OpenError.message : OpenError → String
  | directory fault => "I/O error: " ++ fault.text
  | config fault => "Invalid configuration: " ++ fault.message
  | catalog e => e.message
  | storage e => e.message
  | overflow => "attempt to add with overflow"

def OpenError.ofRegistry : RegistryError → OpenError
  | .refused e => .catalog e
  | .overflow => .overflow

namespace FileStore

/-- The extension of the files that are tables. -/
def tableExtension : String := "csv"

/-- The name of the table in a file, if the file is one. -/
def tableName? (file : String) : Option String :=
  match splitExtension file with
  | some (stem, extension) => if extension = tableExtension then some stem else none
  | none => none

/-- The files that are tables, sorted by code points. -/
def tableFiles (d : Directory) : List String :=
  ((d.names.map (·.1)).filter fun file => (tableName? file).isSome).mergeSort fun a b =>
    decide (a ≤ b)

/-- The columns that the cells of a header name. -/
def headerColumns (path : String) (cells : List String) : Except StorageError (List ColumnDef) :=
  cells.mapM fun cell =>
    (Delimited.readColumn cell).mapError fun fault => .schema (.columnType path fault)

/-- The columns that the header of a file names. -/
def readHeader (config : Config) (path : String) (entry : Entry) :
    Except StorageError (List ColumnDef) := do
  let reader ← entry.reader.mapError (.io path)
  let cells ← (reader.header config.delimiter).mapError .record
  headerColumns path cells

/-- The store without tables. -/
def create (config : Config) (directory : Option Directory) : Except OpenError FileStore :=
  match config.validate with
  | .error fault => .error (.config fault)
  | .ok () => .ok { config, directory }

/-- Tables found so far: those registered, and those of the store. -/
structure Found where
  registry : Registry
  store : FileStore

/-- Adds the table of a file. -/
def Found.add (d : Directory) (found : Found) (file : String) : Except OpenError Found := do
  let path := joinPath found.store.config.dataDir file
  let (id, registry) ← found.registry.freshId.mapError .ofRegistry
  let columns ← (readHeader found.store.config path (d.contents file)).mapError .storage
  let descriptor := TableDef.describe ⟨id, (tableName? file).getD file, columns⟩
  let store := found.store.register
    { id := descriptor.id, path, name := file, columns := descriptor.table.columns }
  let registry ← (registry.register descriptor).mapError .ofRegistry
  return { registry, store }

/-- Finds the tables of the directory of the settings. -/
def discover (config : Config) (directory : Except DirectoryFault Directory) :
    Except OpenError (Catalog × FileStore) := do
  if !config.hasHeader then throw (.config .headerNeeded)
  let store ← create config directory.toOption
  let d ← directory.mapError .directory
  let found ← (tableFiles d).foldlM (Found.add d) ⟨.empty, store⟩
  return (found.registry.catalog, found.store)

end FileStore

end Tabular
