import Tabular.Proofs.Headers
import Tabular.Proofs.Registrations

/-!
# Listings

What discovery makes of the listing of a directory (`FileStore.discover_listing`): a table for each file with the
extension of tables, under the number of its place among the sorted names, in the catalog and in the store alike,
or the fault of the first header that names no columns.
-/

namespace Tabular

/-! ## Files -/

namespace Directory

/-- A directory in which every name has one entry. -/
def Distinct (d : Directory) : Prop := (d.names.map (·.1)).Nodup

variable {d : Directory} {name : String}

theorem isSome_file?_iff : (d.file? name).isSome = true ↔ name ∈ d.names.map (·.1) := by
  rw [file?, List.lookup_isSome_iff, List.mem_map]
  exact exists_congr fun entry => and_congr_right fun _ => beq_iff_eq.trans eq_comm

theorem Distinct.put (distinct : d.Distinct) (name : String) (entry : Entry) : (d.put name entry).Distinct := by
  rw [Directory.put]
  cases there : d.file? name with
  | some file => exact distinct
  | none =>
    refine List.nodup_cons.mpr ⟨fun listed => ?_, distinct⟩
    have found := isSome_file?_iff.mpr listed
    rw [there] at found
    cases found

theorem Distinct.remove (distinct : d.Distinct) (name : String) : (d.remove name).Distinct :=
  distinct.sublist (List.filter_sublist.map _)

end Directory

theorem splitExtension_append {stem extension : String} (filled : stem ≠ "") (last : '.' ∉ extension.toList) :
    splitExtension (stem ++ "." ++ extension) = some (stem, extension) := by
  have noPoint : ∀ x ∈ extension.toList.reverse, (x != '.') = true := by
    intro x inside
    simpa using ne_of_mem_of_not_mem (List.mem_reverse.mp inside) last
  have letters : (stem ++ "." ++ extension).toList.reverse = extension.toList.reverse ++ '.' :: stem.toList.reverse := by
    simp
  rw [splitExtension, letters, List.dropWhile_append_of_pos noPoint, List.takeWhile_append_of_pos noPoint]
  simp [filled]

/-- Between a name and its extension stands a point. -/
theorem eq_of_splitExtension {file stem extension : String} (parted : splitExtension file = some (stem, extension)) :
    stem ≠ "" ∧ file = stem ++ "." ++ extension := by
  simp only [splitExtension] at parted
  split at parted
  · cases parted
  · rename_i c before dropped
    split_ifs at parted with empty
    cases parted
    have point : c = '.' := by
      have head := List.head?_dropWhile_not (· != '.') file.toList.reverse
      rw [dropped] at head
      simpa using head
    have whole := List.takeWhile_append_dropWhile (p := (· != '.')) (l := file.toList.reverse)
    rw [dropped, point] at whole
    refine ⟨by simpa using empty, String.toList_inj.mp ?_⟩
    generalize file.toList.reverse.takeWhile (· != '.') = after at whole ⊢
    rw [← List.reverse_reverse file.toList, ← whole]
    simp

namespace FileStore

open Delimited

/-- The files that are tables have a name and the extension of tables. -/
theorem tableName?_eq_some_iff {file stem : String} :
    tableName? file = some stem ↔ stem ≠ "" ∧ file = stem ++ ".csv" := by
  have extended : stem ++ "." ++ tableExtension = stem ++ ".csv" := String.append_assoc
  constructor
  · intro named
    rw [tableName?] at named
    split at named
    · split_ifs at named with same
      cases named
      rename_i parted
      obtain ⟨filled, whole⟩ := eq_of_splitExtension parted
      rw [same, extended] at whole
      exact ⟨filled, whole⟩
    · cases named
  · rintro ⟨filled, rfl⟩
    rw [← extended, tableName?, splitExtension_append filled (by decide)]
    rfl

theorem getD_tableName? {file : String} (table : (tableName? file).isSome = true) :
    (tableName? file).getD file ++ ".csv" = file := by
  obtain ⟨stem, named⟩ := Option.isSome_iff_exists.mp table
  rw [named]
  exact (tableName?_eq_some_iff.mp named).2.symm

theorem mem_tableFiles_iff {d : Directory} {file : String} :
    file ∈ tableFiles d ↔ (d.file? file).isSome = true ∧ ∃ stem, stem ≠ "" ∧ file = stem ++ ".csv" := by
  rw [tableFiles, List.mem_mergeSort, List.mem_filter, Directory.isSome_file?_iff, Option.isSome_iff_exists]
  simp only [tableName?_eq_some_iff]

variable {config : Config} {d : Directory} {file : String}

/-! ## Files that are added -/

/-- What was found in files that are tables: the tables have the names of the files, and are those of the store. -/
structure Found.Numbered (d : Directory) (start : FileStore) (done : List String) (found : Found) : Prop
    extends found.Of d start done where
  files : found.registry.catalog.tables.map (·.name ++ ".csv") = done
  listed : found.store.tables.map (·.id) = (found.registry.catalog.tables.map (·.id)).reverse

theorem Found.Numbered.nil (d : Directory) {store : FileStore} (none : store.tables = []) :
    Found.Numbered d store [] ⟨.empty, store⟩ :=
  ⟨Found.Of.start d store, rfl, by rw [none]; rfl⟩

/-- Why a file is not added after a number of others: its own number is the last one, or else its header names no
columns. -/
inductive Fails (config : Config) (d : Directory) (count : Nat) (file : String) : OpenError → Prop
  | number (last : count + 1 = UInt32.size) : Fails config d count file .overflow
  | header {fault : StorageError} (enough : count + 1 < UInt32.size) (misheads : Misheads config d file fault) :
      Fails config d count file (.storage fault)

theorem Fails.lt {count : Nat} {e : OpenError} (fails : Fails config d count file e) : count < UInt32.size := by
  cases fails with
  | number last => exact last ▸ Nat.lt_succ_self count
  | header enough => exact Nat.lt_of_succ_lt enough

variable {start : FileStore} {done : List String} {found after : Found}

namespace Found.Numbered

theorem number_lt (numbered : found.Numbered d start done) {t : TableDef}
    (listed : t ∈ found.registry.catalog.tables) : t.id.number.toNat < done.length := by
  have taken := List.mem_map_of_mem (f := fun t : TableDef => t.id.number.toNat) listed
  rw [numbered.numbers] at taken
  exact List.mem_range.mp taken

/-- One more file adds its table. -/
theorem add (numbered : found.Numbered d start done) (table : (tableName? file).isSome = true)
    (added : Found.add d found file = .ok after) : after.Numbered d start (done ++ [file]) := by
  have of := numbered.toOf.add added
  have adds := Found.adds numbered.holds d file
  rw [added] at adds
  cases adds with
  | @table next columns _ _ free =>
    have tables := numbered.tables_put free next
    have whole : (found.table file columns).name ++ ".csv" = file := getD_tableName? table
    refine ⟨of, ?_, ?_⟩
    · rw [tables, List.map_append, numbered.files, List.map_singleton, whole]
    · rw [tables, List.map_append, List.reverse_append, ← numbered.listed]
      rfl

/-- The table of a file that is not there yet is new. -/
theorem free (numbered : found.Numbered d start done) (table : (tableName? file).isSome = true)
    (fresh : file ∉ done) (columns : List ColumnDef) :
    ¬ (found.table file columns).TakenIn found.registry.catalog.tables := by
  rintro ⟨u, listed, sameName | sameNumber⟩
  · apply fresh
    rw [← numbered.files]
    refine List.mem_map.mpr ⟨u, listed, ?_⟩
    rw [sameName]
    exact getD_tableName? table
  · have below := numbered.number_lt listed
    rw [sameNumber, Found.table, numbered.next] at below
    exact Nat.lt_irrefl _ below

theorem foldlM {files : List String} (numbered : found.Numbered d start done)
    (tables : ∀ file ∈ files, (tableName? file).isSome = true)
    (added : files.foldlM (Found.add d) found = .ok after) : after.Numbered d start (done ++ files) :=
  foldlM_keeps (motive := fun done found => found.Numbered d start done)
    (fun _ _ file _ listed numbered added => numbered.add (tables file listed) added) numbered added

end Found.Numbered

/-- Files that can be added one after the other: all are tables, and none comes twice. -/
structure Addable (files : List String) : Prop where
  tables : ∀ file ∈ files, (tableName? file).isSome = true
  distinct : files.Nodup

variable {files : List String} {e : OpenError}

theorem Addable.before {rest : List String} (addable : Addable (files ++ rest)) : Addable files where
  tables file listed := addable.tables file (List.mem_append_left _ listed)
  distinct := (List.nodup_append.mp addable.distinct).1

end FileStore

/-! ## Reads -/

/-- What a read becomes as it is polled, whatever becomes of the files meanwhile. -/
inductive FileCursor.Polled (c : FileCursor) : FileCursor → Prop
  | nil : Polled c c
  | poll {later : FileCursor} (sofar : Polled c later) (s : FileStore) :
      Polled c ((Storage.feed s).poll later).2

theorem FileCursor.Polled.columns {c later : FileCursor} (polled : c.Polled later) : later.columns = c.columns := by
  induction polled with
  | nil => rfl
  | @poll later _ s ih =>
    show (s.poll later).2.columns = c.columns
    rw [FileStore.poll]
    split
    · exact ih
    · exact ih

namespace FileStore

open Delimited

theorem schema_poll {s : FileStore} {c : FileCursor} {b : Batch}
    (given : ((Storage.feed s).poll c).1 = .ok (some b)) :
    b.schema = .ofColumns (c.columns.map fun column => (column.name, column.type)) := by
  have given : (s.poll c).1 = .ok (some b) := given
  rw [poll] at given
  split at given
  · cases given
  · dsimp only at given
    rw [Stretch.answer] at given
    split at given
    · cases given
    · split_ifs at given
      · cases given
      · cases given
        exact schema_rowsBatch _ _

/-- A read that gives the records before a reader. Its batches have the columns of a table, also after faults, and go
into a scan of it as they are. -/
structure Delivers (s : FileStore) (t : TableDef) (reader : Reader) (c : FileCursor) : Prop where
  records : ∃ records fault, Reads s.format t.columns reader records fault ∧
    ((Storage.feed s).script c).Holds t.columns records fault
  batches : ∀ later, c.Polled later → ∀ (now : FileStore) (b : Batch),
    ((Storage.feed now).poll later).1 = .ok (some b) → b.schema = t.schema ∧
      ∃ out, Stage.apply b (.relabel (Plan.scanSchema t)) = .ok (some out) ∧ out.rows = b.rows

theorem delivers_start {s : FileStore} (filled : s.config.batchSize ≠ 0) (t : TableDef) {number : Nat}
    {reader : Reader} (whole : s.ahead { columns := t.columns, file := number } = reader) :
    s.Delivers t reader { columns := t.columns, file := number } where
  records := by
    obtain ⟨records, fault, reads⟩ := exists_reads s.format t.columns reader
    refine ⟨records, fault, reads, ?_⟩
    rw [← whole] at reads
    exact script_of_reads filled (c := { columns := t.columns, file := number }) rfl reads
  batches later polled now b given := by
    have same : b.schema = t.schema := by
      rw [schema_poll given, polled.columns]
      rfl
    obtain ⟨out, scanned, rows, _⟩ := Stage.apply_relabel (Batch.fits_of_schema same)
    exact ⟨same, out, scanned, rows⟩

/-! ## Listings -/

/-- A table of a file: named like the file, numbered by its place, with the columns of its header, known to the catalog,
and read from the file. -/
structure InStep (config : Config) (d : Directory) (catalog : Catalog) (s : FileStore) (file : String) (place : Nat)
    (t : TableDef) : Prop where
  named : file = t.name ++ ".csv"
  numbered : t.id.number.toNat = place
  headed : Heads config d file t.columns
  known : catalog.descriptor t.id = .ok t.describe
  read : ∃ c reader, Storage.openRead s t.id = .ok c ∧ d.file? file = some c.file ∧
    (d.entry c.file).reader = .ok reader ∧ c.columns = t.columns ∧ s.Delivers t reader c

variable {config : Config} {d : Directory}

/-- The tables that were found in the files of a directory are in step with them. -/
theorem Found.Numbered.inStep {start : FileStore} (filled : start.config.batchSize ≠ 0)
    (directory : start.directory = some d) {found : Found} (numbered : found.Numbered d start (tableFiles d)) :
    List.Forall₂ (fun file => InStep start.config d found.registry.catalog found.store file.1 file.2)
      (tableFiles d).zipIdx found.registry.catalog.tables := by
  have count : (tableFiles d).length = found.registry.catalog.tables.length := numbered.tables.length_eq
  refine List.forall₂_iff_get.mpr ⟨by rw [List.length_zipIdx, count], fun i inFiles inTables => ?_⟩
  have at_i : i < (tableFiles d).length := by rwa [count]
  have has := numbered.tables.get at_i inTables
  simp only [List.get_eq_getElem, List.getElem_zipIdx, Nat.zero_add] at has ⊢
  generalize place : found.registry.catalog.tables[i] = t at has ⊢
  have listed : t ∈ found.registry.catalog.tables := by
    rw [← place]
    exact List.getElem_mem inTables
  have header := has.header
  rw [numbered.config] at header
  have heads := readHeader_eq_ok_iff.mp header
  obtain ⟨reader, _, opened, _⟩ := heads
  obtain ⟨there, _⟩ := mem_tableFiles_iff.mp (List.getElem_mem at_i)
  obtain ⟨number, there⟩ := Option.isSome_iff_exists.mp there
  have opened : (d.entry number).reader = .ok reader := by
    rwa [Directory.contents, there] at opened
  have inside : found.store.directory = some d := numbered.directory.trans directory
  have delivers : found.store.Delivers t reader { columns := t.columns, file := number } :=
    delivers_start (by rwa [numbered.config]) t (ahead_of_opened inside opened t.columns)
  refine ⟨?_, ?_, readHeader_eq_ok_iff.mp header, (numbered.holds.knows.byNumber _ _).mpr ⟨t, listed, rfl, rfl⟩,
    _, reader, has.openRead (openFile_of_opened inside there opened), there, opened, rfl, delivers⟩
  · have name := congrArg (fun names => names[i]?) numbered.files
    simpa [place, at_i, inTables] using name.symm
  · have id := congrArg (fun numbers => numbers[i]?) numbered.numbers
    simpa [place, at_i, inTables] using id

end FileStore

namespace Sample

open Delimited

end Sample

namespace FileStore

open Sample

end FileStore

end Tabular
