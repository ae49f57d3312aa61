import Tabular.Proofs.Discovered
import Tabular.Proofs.Lines
import Tabular.Proofs.Numerals
import Tabular.Proofs.Reading

/-!
# Written tables

A file with the names and types of columns in its first line and the texts of a row in each further one. Its
table is discovered with these columns and read with these rows (`FileStore.discover_written`), but a row
whose line is empty is lost.
-/

namespace Tabular

namespace Delimited

/-! ## Texts -/

/-- The header cell of a column: its name and its type. -/
def headerCell (c : ColumnDef) : String := c.name ++ ":" ++ c.type.text

/-- The text of a cell of a row. A null cell is empty. -/
def cellText : Option Datum → String
  | some d => Value.cellText d.type d.value
  | none => ""

/-- The line of a row. -/
def rowLine (delimiter : UInt8) (row : Row) : List UInt8 := line delimiter (row.map cellText)

/-- The file of a table. -/
def fileOf (delimiter : UInt8) (columns : List ColumnDef) (rows : List Row) : List UInt8 :=
  line delimiter (columns.map headerCell) ++ rows.flatMap (rowLine delimiter)

/-- A cell of a column that its text gives back: null, or a value of the type of the column that is neither a
float nor an empty string, whose text is that of null. -/
def Exact (c : ColumnDef) (cell : Option Datum) : Prop :=
  ∀ d ∈ cell, d.type = .sql c.type ∧ c.type ≠ .float64 ∧ d ≠ ⟨.sql .string, ""⟩

/-- A table whose texts give back its columns and its cells, and mean themselves between delimiters. -/
structure Writable (delimiter : UInt8) (columns : List ColumnDef) (rows : List Row) : Prop where
  nonempty : columns ≠ []
  trimmed : ∀ c ∈ columns, Text.trim c.name = c.name
  exact : ∀ row ∈ rows, List.Forall₂ Exact columns row
  header : ∀ c ∈ columns, Plain delimiter (headerCell c)
  texts : ∀ row ∈ rows, ∀ cell ∈ row, Plain delimiter (cellText cell)

/-! ## Header cells -/

theorem splitLastColon_append {name type : String} (last : ':' ∉ type.toList) :
    splitLastColon (name ++ ":" ++ type) = some (name, type) := by
  have noColon : ∀ x ∈ type.toList.reverse, (x != ':') = true := by
    intro x inside
    simpa using ne_of_mem_of_not_mem (List.mem_reverse.mp inside) last
  have letters : (name ++ ":" ++ type).toList.reverse = type.toList.reverse ++ ':' :: name.toList.reverse := by
    simp
  rw [splitLastColon, letters, List.dropWhile_append_of_pos noColon, List.takeWhile_append_of_pos noColon]
  simp

theorem splitLastColon_headerCell (c : ColumnDef) : splitLastColon (headerCell c) = some (c.name, c.type.text) :=
  splitLastColon_append (by cases c.type <;> decide)

@[simp] theorem ofText_text (type : DataType) : DataType.ofText type.text = .ok type := by
  cases type <;> rfl

/-- The column of its header cell is read. -/
theorem readColumn_headerCell {c : ColumnDef} (trimmed : Text.trim c.name = c.name) :
    readColumn (headerCell c) = .ok c := by
  rw [readColumn, splitLastColon_headerCell]
  dsimp only
  rw [ofText_text, trimmed]
  rfl

theorem headerCell_ne_empty (c : ColumnDef) : headerCell c ≠ "" := by
  intro empty
  have split := splitLastColon_headerCell c
  rw [empty] at split
  cases split

/-! ## Cells -/

@[simp] theorem readBool?_boolText (b : Bool) : readBool? (Value.boolText b) = some b := by
  cases b <;> decide +kernel

/-- The text of a value is read as the value. -/
theorem readValue_cellText {type : DataType} (exact : type ≠ .float64) (value : type.Carrier) :
    readValue type (Value.cellText (.sql type) value) = .ok value := by
  cases type with
  | int64 =>
    rw [readValue, Value.cellText, Text.trim_intText, Numeral.readInt_intText]
    rfl
  | float64 => exact absurd rfl exact
  | bool =>
    rw [readValue, Value.cellText, readBool?_boolText]
  | string => rfl

theorem cellText_ne_empty {type : DataType} (exact : type ≠ .float64) {value : type.Carrier}
    (filled : Datum.mk (.sql type) value ≠ ⟨.sql .string, ""⟩) : Value.cellText (.sql type) value ≠ "" := by
  cases type with
  | int64 => exact Value.intText_ne_empty _
  | float64 => exact absurd rfl exact
  | bool => cases value <;> decide
  | string =>
    intro empty
    exact filled (congrArg (Datum.mk (.sql .string)) empty)

/-- A cell that its text is read as. -/
def Stored (c : ColumnDef) (cell : Option Datum) : Prop := ReadAs c (cellText cell) cell

theorem Exact.stored {c : ColumnDef} {cell : Option Datum} (exact : Exact c cell) : Stored c cell := by
  cases cell with
  | none => exact ⟨none, rfl, rfl⟩
  | some d =>
    obtain ⟨kind, value⟩ := d
    obtain ⟨rfl, noFloat, filled⟩ := exact _ rfl
    refine ⟨some value, ?_, rfl⟩
    show readCell c.type (Value.cellText (.sql c.type) value) = _
    rw [readCell, if_neg (cellText_ne_empty noFloat filled), readValue_cellText noFloat]
    rfl

/-- Only the text of a null cell is empty. -/
theorem Stored.eq_none {c : ColumnDef} {cell : Option Datum} (stored : Stored c cell) (empty : cellText cell = "") :
    cell = none := by
  obtain ⟨value, read, same⟩ := stored
  rw [empty] at read
  cases read
  exact same.symm

/-! ## Rows -/

variable {delimiter : UInt8} {columns : List ColumnDef} {rows : List Row}

theorem cellFault?_stored {row : Row} (stored : List.Forall₂ Stored columns row) (line : Nat) :
    cellFault? line columns (row.map cellText) = none := by
  induction stored with
  | nil => rfl
  | cons first _ ih =>
    obtain ⟨value, read, _⟩ := first
    rw [List.map_cons, cellFault?, read]
    exact ih

theorem recordRow_stored {row : Row} (stored : List.Forall₂ Stored columns row) (line : Nat) :
    recordRow columns ⟨line, row.map cellText⟩ = row := by
  have readAs : List.Forall₂ (fun p cell => ReadAs p.1 p.2 cell) (columns.zip (row.map cellText)) row := by
    induction stored with
    | nil => exact .nil
    | cons first _ ih => exact .cons first ih
  exact recordRow_of_readAs (by simp [stored.length_eq]) readAs

end Delimited

/-- Whether the line of a row is empty: its only cell is null. -/
def Row.emptyLine : Row → Bool
  | [none] => true
  | _ => false

theorem Row.eq_of_emptyLine {row : Row} (empty : row.emptyLine = true) : row = [none] := by
  revert empty
  fun_cases Row.emptyLine row with
  | case1 => exact fun _ => rfl
  | case2 => nofun

namespace Delimited

variable {columns : List ColumnDef}

/-- A row that its line gives back, if it is not empty: its texts mean themselves, and where a line end is the
delimiter no empty cell stands before it. -/
structure Legible (delimiter : UInt8) (columns : List ColumnDef) (row : Row) : Prop where
  stored : List.Forall₂ Stored columns row
  plain : ∀ cell ∈ row, Plain delimiter (cellText cell)
  leads : delimiter = 13 → row.length ≠ 1 → row.head? ≠ some none

theorem Shown.of_text {delimiter : UInt8} {text : String} (filled : text ≠ "") (texts : List String) :
    Shown delimiter (text :: texts) where
  nonempty := List.cons_ne_nil _ _
  notEmptyLine same := filled (List.cons.inj same).1
  leads _ same := filled (Option.some.inj same)

theorem Legible.shown {delimiter : UInt8} {row : Row} (legible : Legible delimiter columns row)
    (nonempty : columns ≠ []) (line : row.emptyLine = false) : Shown delimiter (row.map cellText) := by
  obtain ⟨stored, _, leads⟩ := legible
  cases stored with
  | nil => exact absurd rfl nonempty
  | @cons c cell columns cells first _ =>
    by_cases empty : cellText cell = ""
    · obtain rfl := first.eq_none empty
      cases cells with
      | nil => cases line
      | cons next cells =>
        have noReturn : delimiter ≠ 13 := fun same => leads same (by simp) rfl
        exact ⟨List.cons_ne_nil _ _, by simp, fun same => absurd same noReturn⟩
    · exact .of_text empty _

variable {format : Format}

/-- A row whose line is not empty is the next one. -/
theorem Legible.nextRow (allowed : Config.allowsDelimiter format.delimiter = true) {row : Row}
    (legible : Legible format.delimiter columns row) (shown : Shown format.delimiter (row.map cellText))
    {r : Reader} {n : Nat} {more : List UInt8}
    (before : (r.afterHeader format.delimiter format.hasHeader).bytes =
      List.replicate n 10 ++ (rowLine format.delimiter row ++ more))
    (width : (r.afterHeader format.delimiter format.hasHeader).width = some columns.length) :
    ∃ record next, nextRow format columns r = some (.ok record, next) ∧ recordRow columns record = row ∧
      next.width = some columns.length ∧ next.bytes = more ∧ next.fault = r.fault := by
  obtain ⟨stored, plain, _⟩ := legible
  have length : (row.map cellText).length = columns.length := by
    rw [List.length_map, stored.length_eq]
  obtain ⟨next, read, nextWidth, left, fault⟩ := Reader.nextRaw_line allowed shown
    (List.forall_mem_map.mpr plain) before (by rw [width, length]; rfl)
  refine ⟨⟨(r.afterHeader format.delimiter format.hasHeader).position.line, row.map cellText⟩, next, ?_,
    recordRow_stored stored _, length ▸ nextWidth, left, fault.trans Reader.fault_afterHeader⟩
  rw [Delimited.nextRow, Reader.next, read]
  dsimp only
  rw [decodeCells_bytes]
  dsimp only [Except.map]
  rw [recordFault?, if_pos length, cellFault?_stored stored]

/-- Rows that are written are read to the end, but for those with empty lines. -/
theorem reads_rows (allowed : Config.allowsDelimiter format.delimiter = true) (nonempty : columns ≠ [])
    {rows : List Row} (legible : ∀ row ∈ rows, Legible format.delimiter columns row) {r : Reader} {n : Nat}
    (before : (r.afterHeader format.delimiter format.hasHeader).bytes =
      List.replicate n 10 ++ rows.flatMap (rowLine format.delimiter))
    (width : (r.afterHeader format.delimiter format.hasHeader).width = some columns.length)
    (sound : r.fault = none) : ∃ records, Reads format columns r records none ∧
      records.map (recordRow columns) = rows.filter fun row => !row.emptyLine := by
  -- The line feeds of empty lines, `n` of them, wait until the reader comes to a row.
  induction rows generalizing r n with
  | nil =>
    have ended : nextRow format columns r = none := by
      rw [nextRow, Reader.next,
        Reader.nextRaw_blank (before.trans (List.append_nil _)) (Reader.fault_afterHeader.trans sound)]
    exact ⟨[], .stop ended, rfl⟩
  | cons row rows ih =>
    have first := legible row List.mem_cons_self
    have others : ∀ row ∈ rows, Legible format.delimiter columns row :=
      fun row listed => legible row (List.mem_cons_of_mem _ listed)
    rw [List.flatMap_cons] at before
    cases empty : row.emptyLine with
    | true =>
      obtain rfl := Row.eq_of_emptyLine empty
      have feed : rowLine format.delimiter [none] = [10] := rfl
      rw [feed, ← List.append_assoc, ← List.replicate_succ'] at before
      rw [List.filter_cons_of_neg (by simp [empty])]
      exact ih others before width sound
    | false =>
      obtain ⟨record, next, read, same, nextWidth, left, fault⟩ :=
        first.nextRow allowed (first.shown nonempty empty) before width
      have started : next.afterHeader format.delimiter format.hasHeader = next := by
        rw [Reader.afterHeader, nextWidth]
        simp
      have noFeeds : (next.afterHeader format.delimiter format.hasHeader).bytes =
          List.replicate 0 10 ++ rows.flatMap (rowLine format.delimiter) := by
        rw [started, left, List.replicate_zero, List.nil_append]
      obtain ⟨records, further, rest⟩ := ih others noFeeds (by rw [started, nextWidth]) (fault.trans sound)
      refine ⟨record :: records, .record read further, ?_⟩
      rw [List.map_cons, same, rest, List.filter_cons_of_pos (by simp [empty])]

/-! ## Files -/

variable {delimiter : UInt8} {rows : List Row}

theorem Writable.legible (writable : Writable delimiter columns rows)
    (leads : delimiter = 13 → ∀ row ∈ rows, row.length ≠ 1 → row.head? ≠ some none) :
    ∀ row ∈ rows, Legible delimiter columns row := fun row listed =>
  ⟨(writable.exact row listed).imp fun _ _ => Exact.stored, writable.texts row listed,
    fun same => leads same row listed⟩

/-- The first record of the file of a table is the header, and the lines of the rows follow. -/
theorem Writable.nextRaw (writable : Writable delimiter columns rows)
    (allowed : Config.allowsDelimiter delimiter = true) :
    ∃ next, Reader.nextRaw delimiter { bytes := fileOf delimiter columns rows } =
        some (.ok ((columns.map headerCell).map Text.bytes), next) ∧
      next.width = some columns.length ∧ next.bytes = rows.flatMap (rowLine delimiter) := by
  have shown : Shown delimiter (columns.map headerCell) := by
    obtain ⟨c, others, same⟩ := List.exists_cons_of_ne_nil writable.nonempty
    rw [same]
    exact .of_text (headerCell_ne_empty c) _
  obtain ⟨next, read, width, left, _⟩ := Reader.nextRaw_line (n := 0) allowed shown
    (List.forall_mem_map.mpr writable.header) (r := { bytes := fileOf delimiter columns rows }) rfl rfl
  exact ⟨next, read, by rw [width, List.length_map], left⟩

/-- The file of a table holds its rows, but for those with empty lines. -/
theorem Writable.reads (writable : Writable delimiter columns rows)
    (allowed : Config.allowsDelimiter delimiter = true)
    (leads : delimiter = 13 → ∀ row ∈ rows, row.length ≠ 1 → row.head? ≠ some none) :
    ∃ records, Reads ⟨delimiter, true⟩ columns { bytes := fileOf delimiter columns rows } records none ∧
      records.map (recordRow columns) = rows.filter fun row => !row.emptyLine := by
  obtain ⟨next, header, width, left⟩ := writable.nextRaw allowed
  have body : Reader.afterHeader delimiter true { bytes := fileOf delimiter columns rows } = next := by
    rw [Reader.afterHeader, header]
    rfl
  have before : (Reader.afterHeader delimiter true { bytes := fileOf delimiter columns rows }).bytes =
      List.replicate 0 10 ++ rows.flatMap (rowLine delimiter) := by
    rw [body, left, List.replicate_zero, List.nil_append]
  exact reads_rows allowed writable.nonempty (writable.legible leads) before
    (by rw [body, width]) rfl

end Delimited

namespace FileStore

open Delimited

/-- A read of a table gives rows under the schema of the table and then ends. -/
def Gives (s : FileStore) (t : TableDef) (rows : List Row) : Prop :=
  ∃ c, Storage.openRead s t.id = .ok c ∧ ((Storage.feed s).script c).failure = none ∧
    ((Storage.feed s).script c).batches.flatMap Batch.rows = rows ∧
    ∀ b ∈ ((Storage.feed s).script c).batches, b.schema = t.schema

variable {config : Config} {columns : List ColumnDef} {rows : List Row}

theorem validate_eq_ok (valid : config.validate = .ok ()) :
    config.batchSize ≠ 0 ∧ Config.allowsDelimiter config.delimiter = true := by
  rw [Config.validate] at valid
  split at valid
  · cases valid
  · split at valid
    · exact ⟨‹_›, ‹_›⟩
    · cases valid

/-- The header of a table that is written names its columns. -/
theorem readHeader_fileOf (valid : config.validate = .ok ()) (writable : Writable config.delimiter columns rows)
    (path : String) : readHeader config path (.file (fileOf config.delimiter columns rows)) = .ok columns := by
  obtain ⟨next, read, _⟩ := writable.nextRaw (validate_eq_ok valid).2
  have cells : Reader.header config.delimiter { bytes := fileOf config.delimiter columns rows } =
      .ok (columns.map headerCell) := by
    rw [Reader.header, read]
    exact decodeCells_bytes _ _ _
  have named : headerColumns path (columns.map headerCell) = .ok columns := by
    rw [headerColumns, mapM_eq_ok, List.map_map]
    refine List.map_congr_left fun c listed => ?_
    rw [Function.comp_apply, readColumn_headerCell (writable.trimmed c listed)]
    rfl
  show ((Reader.header config.delimiter { bytes := fileOf config.delimiter columns rows }).mapError _ >>= _) = _
  rw [cells]
  exact named

/-- A read of the table of a file gives the rows that the file holds, if the file is read to its end. -/
theorem Has.gives_iff {s : FileStore} (filled : s.config.batchSize ≠ 0) {d : Directory}
    (directory : s.directory = some d) {file : String} {number : Nat} (there : d.file? file = some number)
    {reader : Reader} (whole : (d.entry number).reader = .ok reader) {t : TableDef} (has : s.Has d file t)
    {records : List Record} {fault : Option StorageError} (reads : Reads s.format t.columns reader records fault) :
    s.Gives t rows ↔ fault = none ∧ records.map (recordRow t.columns) = rows := by
  have opened := has.openRead (openFile_of_opened directory there whole)
  rw [← ahead_of_opened directory whole t.columns] at reads
  have holds := script_of_reads filled (c := { columns := t.columns, file := number }) rfl reads
  constructor
  · rintro ⟨c, same, clean, whole, _⟩
    obtain rfl := Except.ok.inj (opened.symm.trans same)
    have ended : fault = none := holds.failure.symm.trans clean
    exact ⟨ended, (holds.rows ended).symm.trans whole⟩
  · rintro ⟨ended, whole⟩
    exact ⟨_, opened, holds.failure.trans ended, (holds.rows ended).trans whole, holds.schema⟩

/-- The table of a file that was written has its columns, and is read with the rows of its records. -/
theorem Has.of_written {s : FileStore} (valid : s.config.validate = .ok ()) (headed : s.config.hasHeader = true)
    (writable : Writable s.config.delimiter columns rows) {d : Directory} (directory : s.directory = some d)
    {file : String} (written : (d.file? file).map d.entry = some (.file (fileOf s.config.delimiter columns rows)))
    {t : TableDef} (has : s.Has d file t) {records : List Record} {fault : Option StorageError}
    (reads : Reads ⟨s.config.delimiter, true⟩ columns { bytes := fileOf s.config.delimiter columns rows } records
      fault) :
    t.columns = columns ∧ ∀ given, s.Gives t given ↔ fault = none ∧ records.map (recordRow columns) = given := by
  obtain ⟨number, there, whole⟩ := Option.map_eq_some_iff.mp written
  obtain rfl : t.columns = columns := by
    have header := has.header
    rw [Directory.contents, written, Option.getD_some, readHeader_fileOf valid writable] at header
    exact (Except.ok.inj header).symm
  have format : s.format = ⟨s.config.delimiter, true⟩ := by
    rw [FileStore.format, headed]
  rw [← format] at reads
  have opened : (d.entry number).reader = .ok { bytes := fileOf s.config.delimiter t.columns rows } := by
    rw [whole]
    rfl
  exact ⟨rfl, fun given => has.gives_iff (validate_eq_ok valid).1 directory there opened reads⟩

theorem mem_tableFiles {d : Directory} {file stem : String} {number : Nat} (there : d.file? file = some number)
    (table : tableName? file = some stem) : file ∈ tableFiles d := by
  obtain ⟨before, after, names, _⟩ := List.lookup_eq_some_iff.mp there
  rw [tableFiles, List.mem_mergeSort, List.mem_filter, names]
  exact ⟨by simp, by simp [table]⟩

/-- The only file of a directory that is a table is discovered if its header is read. -/
theorem exists_discover_alone (valid : config.validate = .ok ()) (headed : config.hasHeader = true) {d : Directory}
    {file : String} (alone : tableFiles d = [file])
    (header : readHeader config (joinPath config.dataDir file) (d.contents file) = .ok columns) :
    ∃ catalog store, discover config (.ok d) = .ok (catalog, store) ∧
      catalog.tables = [⟨⟨0⟩, (tableName? file).getD file, columns⟩] := by
  let start : Found := ⟨.empty, { config, directory := some d }⟩
  have adds : Found.Adds d start file (Found.add d start file) := Found.adds .empty d file
  rw [discover_eq valid headed, alone]
  show ∃ catalog store, ((Found.add d start file >>= _).map _) = _ ∧ _
  generalize Found.add d start file = added at adds
  cases adds with
  | overflow last => cases last
  | fault _ unread => cases header.symm.trans unread
  | duplicate _ _ taken =>
    obtain ⟨_, listed, _⟩ := taken
    cases listed
  | table _ read free =>
    obtain rfl := Except.ok.inj (header.symm.trans read)
    exact ⟨_, _, rfl, (Catalog.Holds.empty.insert free).tables_eq (List.pairwise_singleton _ _)⟩

end FileStore

namespace Sample

open Delimited

def number : ColumnDef := ⟨"a", .int64⟩

def flag : ColumnDef := ⟨"b", .bool⟩

/-- A row that begins with null. -/
def late : Row := [none, some ⟨.sql .bool, true⟩]

/-- The directory with the file of one table. -/
def written (delimiter : UInt8) (columns : List ColumnDef) (rows : List Row) : Directory :=
  Directory.write {} "t.csv" (fileOf delimiter columns rows)

theorem tableFiles_written (delimiter : UInt8) (columns : List ColumnDef) (rows : List Row) :
    FileStore.tableFiles (written delimiter columns rows) = ["t.csv"] := by
  have listed : (["t.csv"].filter fun file => (FileStore.tableName? file).isSome) = ["t.csv"] := by
    decide
  exact (congrArg (List.mergeSort · _) listed).trans (List.mergeSort_singleton _)

theorem writable_null : Writable 44 [number] [[none]] where
  nonempty := by decide
  trimmed := by decide
  exact := by simp [Exact]
  header := by decide
  texts := by decide

theorem writable_late {delimiter : UInt8} (either : delimiter = 44 ∨ delimiter = 13) :
    Writable delimiter [number, flag] [late] where
  nonempty := by decide
  trimmed := by decide
  exact := by simp [Exact, late, flag]
  header := by rcases either with rfl | rfl <;> decide
  texts := by rcases either with rfl | rfl <;> decide

end Sample

namespace FileStore

open Delimited

variable {columns : List ColumnDef} {rows : List Row}

/-- A table that is not read back from its file. -/
theorem exists_not_gives {config : Config} (valid : config.validate = .ok ()) (headed : config.hasHeader = true)
    (writable : Writable config.delimiter columns rows) {records : List Record} {fault : Option StorageError}
    (reads : Reads ⟨config.delimiter, true⟩ columns { bytes := fileOf config.delimiter columns rows } records fault)
    (differs : fault = none → records.map (recordRow columns) ≠ rows) : ∃ catalog store,
      discover config (.ok (Sample.written config.delimiter columns rows)) = .ok (catalog, store) ∧
        ∀ t ∈ catalog.tables, ¬ store.Gives t rows := by
  have files := Sample.tableFiles_written config.delimiter columns rows
  have header := readHeader_fileOf valid writable (joinPath config.dataDir "t.csv")
  obtain ⟨catalog, store, discovered, _⟩ := exists_discover_alone valid headed files header
  refine ⟨catalog, store, discovered, fun t listed gives => ?_⟩
  obtain ⟨_, same, rfl, directory, tables⟩ := found_of_discover discovered
  obtain rfl := Except.ok.inj same
  rw [files] at tables
  obtain ⟨file, inside, has⟩ := exists_of_forall₂ tables.flip listed
  obtain rfl := List.mem_singleton.mp inside
  obtain ⟨ended, whole⟩ := ((has.of_written valid headed writable directory rfl reads).2 rows).mp gives
  exact differs ended whole

/-- A file that holds a table of columns and rows is discovered as a table with these columns, alone or among
others, and a read of it gives these rows. A row of one column that is null has an empty line, and is lost. -/
theorem discover_written {config : Config} (valid : config.validate = .ok ()) (headed : config.hasHeader = true)
    {columns : List ColumnDef} {rows : List Row} (writable : Writable config.delimiter columns rows)
    (leads : config.delimiter = 13 → ∀ row ∈ rows, row.length ≠ 1 → row.head? ≠ some none) {d : Directory}
    {file stem : String} (table : tableName? file = some stem)
    (written : (d.file? file).map d.entry = some (.file (fileOf config.delimiter columns rows))) :
    (tableFiles d = [file] → ∃ catalog store,
      discover config (.ok d) = .ok (catalog, store) ∧ catalog.tables = [⟨⟨0⟩, stem, columns⟩]) ∧
    ∀ catalog store, discover config (.ok d) = .ok (catalog, store) → ∃ t ∈ catalog.tables,
      t.name = stem ∧ t.columns = columns ∧ store.Gives t (rows.filter fun row => !row.emptyLine) := by
  constructor
  · intro alone
    have header : readHeader config (joinPath config.dataDir file) (d.contents file) = .ok columns := by
      rw [Directory.contents, written, Option.getD_some, readHeader_fileOf valid writable]
    obtain ⟨catalog, store, discovered, tables⟩ := exists_discover_alone valid headed alone header
    rw [table, Option.getD_some] at tables
    exact ⟨catalog, store, discovered, tables⟩
  · intro catalog store discovered
    obtain ⟨_, same, rfl, directory, tables⟩ := found_of_discover discovered
    obtain rfl := Except.ok.inj same
    obtain ⟨number, there, _⟩ := Option.map_eq_some_iff.mp written
    obtain ⟨t, listed, has⟩ := exists_of_forall₂ tables (mem_tableFiles there table)
    have named : t.name = stem := by
      rw [has.named, table, Option.getD_some]
    obtain ⟨records, reads, whole⟩ := writable.reads (validate_eq_ok valid).2 leads
    obtain ⟨sameColumns, gives⟩ := has.of_written valid headed writable directory written reads
    exact ⟨t, listed, named, sameColumns, (gives _).mpr ⟨rfl, whole⟩⟩

/-- A row that begins with null is read back. -/
theorem discover_written_late : Writable 44 [Sample.number, Sample.flag] [Sample.late] ∧ ∃ catalog store,
    discover {} (.ok (Sample.written 44 [Sample.number, Sample.flag] [Sample.late])) = .ok (catalog, store) ∧
      ∃ t ∈ catalog.tables, t.name = "t" ∧ t.columns = [Sample.number, Sample.flag] ∧
        store.Gives t [Sample.late] := by
  let d : Directory := Sample.written 44 [Sample.number, Sample.flag] [Sample.late]
  have writable := Sample.writable_late (Or.inl rfl)
  have both := @discover_written {} rfl rfl _ _ writable (fun same => absurd same (by decide)) d "t.csv" "t"
    (by decide) rfl
  obtain ⟨catalog, store, discovered, _⟩ := both.1 (Sample.tableFiles_written _ _ _)
  exact ⟨writable, catalog, store, discovered, both.2 catalog store discovered⟩

/-- A row of one column that is null is lost. A row that begins with null fails if the delimiter is a carriage
return. -/
theorem rows_not_given :
    (({} : Config).validate = .ok () ∧ Writable 44 [Sample.number] [[none]] ∧ ∃ catalog store,
      discover {} (.ok (Sample.written 44 [Sample.number] [[none]])) = .ok (catalog, store) ∧
        ∀ t ∈ catalog.tables, ¬ store.Gives t [[none]]) ∧
    (({ delimiter := 13 } : Config).validate = .ok () ∧ Writable 13 [Sample.number, Sample.flag] [Sample.late] ∧
      ∃ catalog store,
        discover { delimiter := 13 } (.ok (Sample.written 13 [Sample.number, Sample.flag] [Sample.late])) =
          .ok (catalog, store) ∧
        ∀ t ∈ catalog.tables, ¬ store.Gives t [Sample.late]) := by
  refine ⟨⟨rfl, Sample.writable_null, ?_⟩, ⟨rfl, Sample.writable_late (Or.inr rfl), ?_⟩⟩
  · exact exists_not_gives rfl rfl Sample.writable_null (.stop rfl) nofun
  · exact exists_not_gives rfl rfl (Sample.writable_late (Or.inr rfl)) (.fault rfl) nofun

end FileStore

end Tabular
