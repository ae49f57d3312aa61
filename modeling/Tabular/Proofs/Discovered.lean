import Tabular.Engine
import Tabular.Proofs.Outcome
import Tabular.Proofs.Registrations

/-!
# Discovered tables

What is found in a directory: the tables of the files, in the order of the names of the files, each with the
columns of its header, under one number in the catalog and in the store (`FileStore.found_of_discover`). It
does not depend on the size of batches (`Engine.openDirectory_batched`).
-/

namespace Tabular

/-! ## Tables of files -/

namespace FileStore

variable {d : Directory}

/-- A table that a store has from a file of a directory, under the name of the file and with the columns
of its header. -/
structure Has (s : FileStore) (d : Directory) (file : String) (t : TableDef) : Prop where
  named : t.name = (tableName? file).getD file
  header : readHeader s.config (joinPath s.config.dataDir file) (d.contents file) = .ok t.columns
  listed : s.tables.find? (·.id == t.id) = some ⟨t.id, joinPath s.config.dataDir file, file, t.columns⟩

/-- Another table under another number changes nothing. -/
theorem Has.register {s : FileStore} {file : String} {t : TableDef} (has : s.Has d file t) {entry : FileTable}
    (fresh : entry.id ≠ t.id) : (s.register entry).Has d file t where
  named := has.named
  header := has.header
  listed := by
    rw [FileStore.register, List.find?_cons_of_neg (by simpa using fresh)]
    exact has.listed

/-- A table is read from its file, if this can be opened. -/
theorem Has.openRead_eq {s : FileStore} {file : String} {t : TableDef} (has : s.Has d file t) :
    Storage.openRead s t.id = match s.openFile file with
      | .error fault => .error (.io (joinPath s.config.dataDir file) fault)
      | .ok number => .ok { columns := t.columns, file := number } := by
  show FileStore.read s t.id = _
  cases opened : s.openFile file with
  | error fault => simp only [FileStore.read, has.listed, opened]
  | ok number => simp only [FileStore.read, has.listed, opened]

theorem Has.openRead {s : FileStore} {file : String} {t : TableDef} (has : s.Has d file t) {number : Nat}
    (opened : s.openFile file = .ok number) : Storage.openRead s t.id = .ok { columns := t.columns, file := number } := by
  rw [has.openRead_eq, opened]

theorem Has.openRead_refused {s : FileStore} {file : String} {t : TableDef} (has : s.Has d file t)
    {fault : SystemFault} (refused : s.openFile file = .error fault) : ∃ e, Storage.openRead s t.id = .error e :=
  ⟨_, by rw [has.openRead_eq, refused]⟩

/-- An entry that is opened is held by a read of its name. -/
theorem openFile_of_opened {s : FileStore} (directory : s.directory = some d) {name : String} {file : Nat}
    (there : d.file? name = some file) {reader : Delimited.Reader} (opened : (d.entry file).reader = .ok reader) :
    s.openFile name = .ok file := by
  rw [openFile, directory]
  dsimp only
  rw [there]
  dsimp only
  rw [opened]
  rfl

/-- A read that begins has the whole of its file before it. -/
theorem ahead_of_opened {s : FileStore} (directory : s.directory = some d) {file : Nat} {reader : Delimited.Reader}
    (opened : (d.entry file).reader = .ok reader) (columns : List ColumnDef) :
    s.ahead { columns, file } = reader := by
  rw [ahead, fileBytes, fileFault?, directory]
  dsimp only [Option.map_some, Option.bind_some, Directory.bytes]
  cases entry : d.entry file with
  | refused fault =>
    rw [entry] at opened
    cases opened
  | opened bytes fault =>
    rw [entry] at opened
    cases opened
    rfl

theorem forall₂_register {s : FileStore} {files : List String} {tables : List TableDef}
    (has : List.Forall₂ (s.Has d) files tables) {entry : FileTable} (fresh : ∀ t ∈ tables, entry.id ≠ t.id) :
    List.Forall₂ ((s.register entry).Has d) files tables := by
  induction has with
  | nil => exact .nil
  | cons first _ ih =>
    have others := ih fun t listed => fresh t (List.mem_cons_of_mem _ listed)
    exact .cons (first.register (fresh _ List.mem_cons_self)) others

namespace Found

/-- The table that a file would add. -/
def table (found : Found) (file : String) (columns : List ColumnDef) : TableDef :=
  ⟨⟨found.registry.next⟩, (tableName? file).getD file, columns⟩

/-- What is found with the table of a file, and with another next number. -/
def put (found : Found) (file : String) (columns : List ColumnDef) (next : UInt32) : Found where
  registry := ⟨found.registry.catalog.insert (found.table file columns).describe, next⟩
  store := found.store.register
    ⟨⟨found.registry.next⟩, joinPath found.store.config.dataDir file, file, columns⟩

/-- What comes of adding a file. -/
inductive Adds (d : Directory) (found : Found) (file : String) : Except OpenError Found → Prop
  | overflow (last : found.registry.next = 4294967295) : Adds d found file (.error .overflow)
  | fault {next : UInt32} {fault : StorageError} (sum : next.toNat = found.registry.next.toNat + 1)
      (unread : readHeader found.store.config (joinPath found.store.config.dataDir file) (d.contents file) =
        .error fault) : Adds d found file (.error (.storage fault))
  | duplicate {next : UInt32} {columns : List ColumnDef} (sum : next.toNat = found.registry.next.toNat + 1)
      (header : readHeader found.store.config (joinPath found.store.config.dataDir file) (d.contents file) =
        .ok columns) (taken : (found.table file columns).TakenIn found.registry.catalog.tables) :
      Adds d found file (.error (.catalog (.duplicateTable (found.table file columns).name)))
  | table {next : UInt32} {columns : List ColumnDef} (sum : next.toNat = found.registry.next.toNat + 1)
      (header : readHeader found.store.config (joinPath found.store.config.dataDir file) (d.contents file) =
        .ok columns) (free : ¬ (found.table file columns).TakenIn found.registry.catalog.tables) :
      Adds d found file (.ok (found.put file columns next))

theorem add_overflow {found : Found} {e : RegistryError} (sum : successor found.registry.next = .error e)
    (d : Directory) (file : String) : Found.add d found file = .error .overflow := by
  obtain ⟨_, rfl⟩ := successor_eq_error_iff.mp sum
  have fresh : found.registry.freshId = .error .overflow := by
    rw [Registry.freshId, sum]
    rfl
  rw [Found.add, fresh]
  rfl

/-- With a number at hand, a file is added if its header is read and its table is registered. -/
theorem add_eq {found : Found} {next : UInt32} (sum : successor found.registry.next = .ok next) (d : Directory)
    (file : String) : Found.add d found file =
      ((readHeader found.store.config (joinPath found.store.config.dataDir file) (d.contents file)).mapError
        OpenError.storage).bind fun columns =>
          ((Registry.register { found.registry with next } (found.table file columns).describe).mapError
            OpenError.ofRegistry).map fun registry => { found.put file columns next with registry } := by
  have fresh : found.registry.freshId = .ok (⟨found.registry.next⟩, { found.registry with next }) := by
    rw [Registry.freshId, sum]
    rfl
  rw [Found.add, fresh]
  simp only [TableDef.table_describe]
  rfl

theorem adds {found : Found} (holds : found.registry.catalog.Holds found.registry.catalog.tables) (d : Directory)
    (file : String) : Adds d found file (Found.add d found file) := by
  cases sum : successor found.registry.next with
  | error e =>
    rw [add_overflow sum]
    exact .overflow (successor_eq_error_iff.mp sum).1
  | ok next =>
    have above := successor_eq_ok_iff.mp sum
    rw [add_eq sum]
    cases header : readHeader found.store.config (joinPath found.store.config.dataDir file) (d.contents file) with
    | error fault => exact .fault above header
    | ok columns =>
      have registered := Registry.register_describe { found.registry with next } (found.table file columns)
      rw [show successor (found.table file columns).id.number = .ok next from sum] at registered
      show Adds d found file ((Except.mapError _ _).map _)
      rw [registered]
      by_cases taken : (found.table file columns).TakenIn found.registry.catalog.tables
      · rw [if_pos (holds.taken_iff.mpr taken)]
        exact .duplicate above header taken
      · rw [if_neg (mt holds.taken_iff.mp taken)]
        have kept : max next next = next := ite_self _
        show Adds d found file (.ok { found.put file columns next with registry := ⟨_, max next next⟩ })
        rw [kept]
        exact .table above header taken

end Found

/-- What was found in files: their tables, in the order of the files and under the numbers from zero on. -/
structure Found.Of (d : Directory) (start : FileStore) (files : List String) (found : Found) : Prop where
  config : found.store.config = start.config
  directory : found.store.directory = start.directory
  holds : found.registry.catalog.Holds found.registry.catalog.tables
  tables : List.Forall₂ (found.store.Has d) files found.registry.catalog.tables
  numbers : found.registry.catalog.tables.map (·.id.number.toNat) = List.range files.length
  next : found.registry.next.toNat = files.length

namespace Found.Of

theorem start (d : Directory) (store : FileStore) : Found.Of d store [] ⟨.empty, store⟩ :=
  ⟨rfl, rfl, .empty, .nil, rfl, rfl⟩

variable {start : FileStore} {files : List String} {found after : Found} {file : String} {columns : List ColumnDef}

/-- The table of one more file has the next number. -/
theorem numbers_append (of : found.Of d start files) (file : String) (columns : List ColumnDef) :
    (found.registry.catalog.tables ++ [found.table file columns]).map (·.id.number.toNat) =
      List.range (files.length + 1) := by
  rw [List.map_append, of.numbers, List.map_singleton, List.range_succ, ← of.next]
  rfl

/-- The table of one more file comes behind the others. -/
theorem tables_put (of : found.Of d start files) (free : ¬ (found.table file columns).TakenIn found.registry.catalog.tables)
    (next : UInt32) : (found.put file columns next).registry.catalog.tables =
      found.registry.catalog.tables ++ [found.table file columns] := by
  have rise := of.numbers_append file columns ▸ List.pairwise_lt_range
  rw [List.pairwise_map] at rise
  exact (of.holds.insert free).tables_eq (List.pairwise_map.mpr (rise.imp UInt32.lt_iff_toNat_lt.mpr))

/-- One more file adds its table under a number that is new. -/
theorem add (of : found.Of d start files) (added : Found.add d found file = .ok after) :
    after.Of d start (files ++ [file]) := by
  have adds := Found.adds of.holds d file
  rw [added] at adds
  cases adds with
  | @table next columns sum header free =>
    have fresh : ∀ u ∈ found.registry.catalog.tables, (found.table file columns).id ≠ u.id :=
      fun u listed same => free ⟨u, listed, Or.inr same.symm⟩
    have tables := of.tables_put free next
    refine ⟨of.config, of.directory, tables ▸ of.holds.insert free, ?_, ?_, ?_⟩
    · rw [tables]
      refine List.rel_append (forall₂_register of.tables fresh) (.cons ⟨rfl, header, ?_⟩ .nil)
      exact List.find?_cons_of_pos (by simp [Found.table])
    · rw [tables, of.numbers_append, List.length_append, List.length_singleton]
    · rw [List.length_append, List.length_singleton, ← of.next]
      exact sum

theorem foldlM {done : List String} (of : found.Of d start done)
    (added : files.foldlM (Found.add d) found = .ok after) : after.Of d start (done ++ files) :=
  foldlM_keeps (motive := fun done found => found.Of d start done) (fun _ _ _ _ _ of added => of.add added) of added

end Found.Of

/-- With settings that are valid, discovery adds the files of a directory. -/
theorem discover_eq {config : Config} (valid : config.validate = .ok ()) (headed : config.hasHeader = true)
    (d : Directory) :
    discover config (.ok d) = ((tableFiles d).foldlM (Found.add d) ⟨.empty, { config, directory := some d }⟩).map
      fun found => (found.registry.catalog, found.store) := by
  have created : create config (some d) = .ok { config, directory := some d } := by
    rw [create, valid]
  rw [discover, headed]
  show (create config (some d) >>= _) = _
  rw [created]
  show ((tableFiles d).foldlM (Found.add d) _ >>= _) = _
  cases (tableFiles d).foldlM (Found.add d) ⟨.empty, { config, directory := some d }⟩ <;> rfl

/-- The tables that are discovered are those of the files that are tables. -/
theorem found_of_discover {config : Config} {directory : Except DirectoryFault Directory} {catalog : Catalog}
    {store : FileStore} (discovered : discover config directory = .ok (catalog, store)) :
    ∃ d, directory = .ok d ∧ store.config = config ∧ store.directory = some d ∧
      List.Forall₂ (store.Has d) (tableFiles d) catalog.tables := by
  rw [discover] at discovered
  split at discovered
  · cases discovered
  · obtain ⟨start, created, rest⟩ := bind_eq_ok.mp discovered
    obtain ⟨d, opened, rest⟩ := bind_eq_ok.mp rest
    obtain ⟨found, added, same⟩ := bind_eq_ok.mp rest
    cases same
    have opened : directory = .ok d := mapError_eq_ok.mp opened
    rw [create, opened] at created
    split at created
    · cases created
    · cases created
      have of := (Found.Of.start d _).foldlM added
      exact ⟨d, opened, of.config, of.directory, of.tables⟩

end FileStore

/-! ## The size of batches -/

def Config.batched (c : Config) (size : Nat) : Config := { c with batchSize := size }

theorem Config.validate_batched {c : Config} {size : Nat} (filled : c.batchSize ≠ 0) (positive : size ≠ 0) :
    (c.batched size).validate = c.validate := by
  rw [validate, validate, if_neg filled, if_neg (show ¬ (c.batched size).batchSize = 0 from positive)]
  rfl

namespace FileStore

def batched (s : FileStore) (size : Nat) : FileStore := { s with config := s.config.batched size }

theorem Has.batched {s : FileStore} {d : Directory} {file : String} {t : TableDef} (has : s.Has d file t)
    (size : Nat) : (s.batched size).Has d file t :=
  ⟨has.named, has.header, has.listed⟩

def Found.batched (f : Found) (size : Nat) : Found := { f with store := f.store.batched size }

/-- No file is read in another way. -/
theorem Found.add_batched (d : Directory) (found : Found) (file : String) (size : Nat) :
    Found.add d (found.batched size) file = (Found.add d found file).map (Found.batched · size) := by
  cases sum : successor found.registry.next with
  | error e =>
    have same : successor (found.batched size).registry.next = .error e := sum
    rw [add_overflow sum, add_overflow same]
    rfl
  | ok next =>
    have same : successor (found.batched size).registry.next = .ok next := sum
    have header : readHeader (found.batched size).store.config
        (joinPath (found.batched size).store.config.dataDir file) (d.contents file) =
          readHeader found.store.config (joinPath found.store.config.dataDir file) (d.contents file) := rfl
    rw [add_eq sum, add_eq same, header]
    cases readHeader found.store.config (joinPath found.store.config.dataDir file) (d.contents file) with
    | error fault => rfl
    | ok columns =>
      have registers : Registry.register { (found.batched size).registry with next }
          ((found.batched size).table file columns).describe =
            Registry.register { found.registry with next } (found.table file columns).describe := rfl
      dsimp only [mapError_ok, Except.bind]
      rw [registers]
      cases Registry.register { found.registry with next } (found.table file columns).describe with
      | error e => rfl
      | ok registry => rfl

theorem foldlM_batched (d : Directory) (found : Found) (files : List String) (size : Nat) :
    files.foldlM (Found.add d) (found.batched size) =
      (files.foldlM (Found.add d) found).map (Found.batched · size) := by
  induction files generalizing found with
  | nil => rfl
  | cons file files ih =>
    rw [List.foldlM_cons, List.foldlM_cons, Found.add_batched]
    cases Found.add d found file with
    | error e => rfl
    | ok next => exact ih next

/-- The same tables are found with batches of another size. -/
theorem discover_batched {config : Config} {size : Nat} (filled : config.batchSize ≠ 0) (positive : size ≠ 0)
    (directory : Except DirectoryFault Directory) :
    discover (config.batched size) directory =
      (discover config directory).map fun found => (found.1, found.2.batched size) := by
  have valid := Config.validate_batched filled positive
  have start : create (config.batched size) directory.toOption =
      (create config directory.toOption).map (FileStore.batched · size) := by
    rw [create, create, valid]
    cases config.validate <;> rfl
  rw [discover, discover, start]
  show (if !config.hasHeader then _ else _) = _
  split
  · rfl
  · cases create config directory.toOption with
    | error e => rfl
    | ok store =>
      cases directory.mapError OpenError.directory with
      | error e => rfl
      | ok d =>
        show ((tableFiles d).foldlM (Found.add d) (Found.batched ⟨.empty, store⟩ size) >>= _) =
          Except.map _ ((tableFiles d).foldlM (Found.add d) ⟨.empty, store⟩ >>= _)
        rw [foldlM_batched]
        cases (tableFiles d).foldlM (Found.add d) ⟨.empty, store⟩ <;> rfl

end FileStore

namespace Engine

/-- The engine with batches of another size. -/
def batched (e : Engine FileStore) (size : Nat) : Engine FileStore :=
  { e with store := e.store.batched size, config := e.config.batched size }

/-- What is opened over a directory is the same with batches of another size. -/
theorem openDirectory_batched {config : Config} {size : Nat} (filled : config.batchSize ≠ 0)
    (positive : size ≠ 0) (directory : Except DirectoryFault Directory) :
    openDirectory (config.batched size) directory = (openDirectory config directory).map (batched · size) := by
  rw [openDirectory, openDirectory, FileStore.discover_batched filled positive]
  cases FileStore.discover config directory with
  | error e => rfl
  | ok found =>
    show create found.1 (found.2.batched size) (config.batched size) = (create found.1 found.2 config).map _
    rw [create, create, Config.validate_batched filled positive]
    cases config.validate <;> rfl

/-- The tables of an engine over a directory are those of its files. -/
theorem found_of_openDirectory {config : Config} {directory : Except DirectoryFault Directory}
    {e : Engine FileStore} (opened : openDirectory config directory = .ok e) :
    ∃ d, directory = .ok d ∧ e.store.config = config ∧ e.store.directory = some d ∧
      List.Forall₂ (e.store.Has d) (FileStore.tableFiles d) e.catalog.tables := by
  obtain ⟨⟨catalog, store⟩, discovered, created⟩ := bind_eq_ok.mp opened
  have created : create catalog store config = .ok e := created
  rw [create] at created
  split at created
  · cases created
  · cases created
    exact FileStore.found_of_discover discovered

end Engine

end Tabular
