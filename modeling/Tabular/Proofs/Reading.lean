import Tabular.Proofs.Script
import Tabular.Proofs.Stages
import Tabular.Storage.Directory

/-!
# Reading

What a file of records holds, read to its end or to its first fault (`Reads`), and that a read of the file
gives it whatever the size of its batches (`FileStore.script_of_reads`).
-/

namespace Tabular

namespace Delimited

/-! ## The fault after the bytes -/

namespace Reader

variable {delimiter : UInt8} {hasHeader : Bool} {r next : Reader}

/-- The fault after the bytes is still to come, unless it was met. -/
theorem fault_nextRaw {found : Except RecordFault (List (List UInt8))} (read : r.nextRaw delimiter = some (found, next)) :
    next.fault = r.fault ∨ ∃ fault, found = .error (.system fault) := by
  obtain ⟨fault, _, met, _⟩ | ⟨_, _, _, rfl⟩ := nextRaw_cases read
  · exact Or.inr ⟨fault, met⟩
  · exact Or.inl rfl

theorem fault_afterHeader : (r.afterHeader delimiter hasHeader).fault = r.fault := by
  rcases afterHeader_cases delimiter hasHeader r with same | ⟨_, read⟩
  · exact congrArg fault same
  · exact (fault_nextRaw read).resolve_right nofun

theorem fault_next {found : Except RecordFault Record} (read : r.next delimiter hasHeader = some (found, next)) :
    next.fault = r.fault ∨ ∃ fault, found = .error (.system fault) := by
  rcases next_cases read with ⟨fault, failed, rfl⟩ | ⟨_, raw, _⟩
  · rcases fault_nextRaw failed with kept | ⟨fault, met⟩
    · exact Or.inl (kept.trans fault_afterHeader)
    · cases met
      exact Or.inr ⟨fault, rfl⟩
  · have kept := (fault_nextRaw raw).resolve_right nofun
    exact Or.inl (kept.trans fault_afterHeader)

end Reader

variable {format : Format} {columns : List ColumnDef} {r next : Reader}

theorem fault_nextRow {found : Except StorageError Record} (read : nextRow format columns r = some (found, next)) :
    next.fault = r.fault ∨ ∃ fault, found = .error (.record (.system fault)) := by
  rcases nextRow_cases read with ⟨fault, failed, rfl⟩ | ⟨_, got, _⟩
  · rcases Reader.fault_next failed with kept | ⟨fault, met⟩
    · exact Or.inl kept
    · cases met
      exact Or.inr ⟨fault, rfl⟩
  · exact Or.inl ((Reader.fault_next got).resolve_right nofun)

/-- As long as a text has not come to its end, the fault after it is still to come. -/
theorem fault_takeRows {count : Nat} (further : (takeRows format columns count r).ended = false) :
    (takeRows format columns count r).reader.fault = r.fault := by
  fun_induction takeRows format columns count r with
  | case1 => rfl
  | case2 => cases further
  | case3 _ _ _ _ read =>
    rcases fault_nextRow read with kept | ⟨_, met⟩
    · exact kept
    · cases met
      cases further
  | case4 _ _ _ _ read ih =>
    rcases fault_nextRow read with kept | ⟨_, met⟩
    · exact (ih further).trans kept
    · cases met

/-! ## Reading to the end -/

/-- The records that a reader meets to the end, or to the fault that is met first. -/
inductive Reads (format : Format) (columns : List ColumnDef) :
    Reader → List Record → Option StorageError → Prop
  | stop {r : Reader} (ended : nextRow format columns r = none) : Reads format columns r [] none
  | fault {r next : Reader} {e : StorageError} (failed : nextRow format columns r = some (.error e, next)) :
      Reads format columns r [] (some e)
  | record {r next : Reader} {record : Record} {records : List Record} {fault : Option StorageError}
      (read : nextRow format columns r = some (.ok record, next))
      (further : Reads format columns next records fault) :
      Reads format columns r (record :: records) fault

/-- Every reader comes to an end. -/
theorem exists_reads (format : Format) (columns : List ColumnDef) (r : Reader) :
    ∃ records fault, Reads format columns r records fault := by
  induction measure : r.bytes.length using Nat.strongRecOn generalizing r with
  | _ count ih =>
    cases row : nextRow format columns r with
    | none => exact ⟨[], none, .stop row⟩
    | some found =>
      obtain ⟨e | record, next⟩ := found
      · exact ⟨[], some e, .fault row⟩
      · obtain ⟨records, fault, further⟩ := ih _ (measure ▸ length_nextRow_lt row) next rfl
        exact ⟨record :: records, fault, .record row further⟩

/-- A stretch meets the fault, or the end, or else leaves the records after its own. -/
theorem Reads.takeRows {records : List Record} {fault : Option StorageError}
    (reads : Reads format columns r records fault) (count : Nat) {s : Stretch}
    (taken : takeRows format columns count r = s) :
    (∃ e, s.fault = some e ∧ fault = some e) ∨
    s.fault = none ∧ s.ended = true ∧ s.records = records ∧ fault = none ∨
    s.fault = none ∧ s.ended = false ∧ s.records.length = count ∧
      ∃ rest, records = s.records ++ rest ∧ Reads format columns s.reader rest fault := by
  subst taken
  induction count generalizing r records with
  | zero => exact Or.inr (Or.inr ⟨rfl, rfl, rfl, records, rfl, reads⟩)
  | succ count ih =>
    rw [Delimited.takeRows]
    cases reads with
    | stop ended =>
      rw [ended]
      exact Or.inr (Or.inl ⟨rfl, rfl, rfl, rfl⟩)
    | fault failed =>
      rw [failed]
      exact Or.inl ⟨_, rfl, rfl⟩
    | record read after =>
      rw [read]
      rcases ih after with failed | ⟨clean, ended, same, ok⟩ | ⟨clean, further, length, rest, same, reads⟩
      · exact Or.inl failed
      · exact Or.inr (Or.inl ⟨clean, ended, congrArg _ same, ok⟩)
      · exact Or.inr (Or.inr ⟨clean, further, congrArg _ length, rest, congrArg _ same, reads⟩)

/-! ## Rows of records -/

/-- The row of a record that has no bad cell. -/
def recordRow (columns : List ColumnDef) (r : Record) : Row :=
  columns.zipIdx.map fun c =>
    (readCell c.1.type (r.cells[c.2]?.getD "")).toOption.join.map (Datum.mk (.sql c.1.type))

/-- A text that a column reads as a cell. -/
def ReadAs (c : ColumnDef) (text : String) (cell : Option Datum) : Prop :=
  ∃ value, readCell c.type text = .ok value ∧ value.map (Datum.mk (.sql c.type)) = cell

/-- The row that a record decodes to. -/
theorem recordRow_of_readAs {r : Record} {row : Row} (width : r.cells.length = columns.length)
    (cells : List.Forall₂ (fun p cell => ReadAs p.1 p.2 cell) (columns.zip r.cells) row) :
    recordRow columns r = row := by
  have length : row.length = columns.length := by
    rw [← cells.length_eq, List.length_zip, width, Nat.min_self]
  apply List.ext_getElem
  · simp [recordRow, length]
  · intro i _ inside
    have column : i < columns.length := length ▸ inside
    have text : i < r.cells.length := width ▸ column
    have paired : i < (columns.zip r.cells).length := by
      rw [List.length_zip]
      exact Nat.lt_min.mpr ⟨column, text⟩
    have readAs : ReadAs columns[i] r.cells[i] row[i] := by simpa using cells.get paired inside
    obtain ⟨value, read, same⟩ := readAs
    have given (c : ColumnDef × Nat) (place : c = (columns[i], i)) :
        (readCell c.1.type (r.cells[c.2]?.getD "")).toOption.join.map (Datum.mk (.sql c.1.type)) = row[i] := by
      subst place
      simp [text, read, Except.toOption, same]
    exact (List.getElem_map _).trans (given _ (by simp))

theorem rows_rowsBatch (columns : List ColumnDef) (records : List Record) :
    (rowsBatch columns records).rows = records.map (recordRow columns) := by
  apply List.ext_getElem
  · simp [rowsBatch]
  · intro i _ inside
    have at_i : i < records.length := by simpa using inside
    simp [Batch.rows, Batch.row, rowsBatch, columnAt, recordRow, Row.cell, List.getElem?_eq_getElem at_i]

theorem schema_rowsBatch (columns : List ColumnDef) (records : List Record) :
    (rowsBatch columns records).schema = .ofColumns (columns.map fun c => (c.name, c.type)) := by
  have fields : (rowsBatch columns records).schema.fields =
      (columns.zipIdx.map Prod.fst).map fun c => Field.mk c.name (.sql c.type) := by
    rw [List.map_map]
    exact List.map_map
  rw [List.zipIdx_map_fst] at fields
  rw [Schema.ofColumns, List.map_map]
  exact congrArg Schema.mk fields

end Delimited

/-- A script that gives records under the names and types of columns: it fails as they end, and if they end
well its batches have their rows. -/
structure Script.Holds (columns : List ColumnDef) (records : List Delimited.Record)
    (fault : Option StorageError) (s : Script StorageError) : Prop where
  failure : s.failure = fault
  rows : fault = none → s.batches.flatMap Batch.rows = records.map (Delimited.recordRow columns)
  schema : ∀ b ∈ s.batches, b.schema = .ofColumns (columns.map fun c => (c.name, c.type))

theorem Script.Holds.stopped {columns : List ColumnDef} {records : List Delimited.Record}
    {fault : Option StorageError} (read : fault = none → records = []) :
    Holds columns records fault ⟨[], fault⟩ where
  failure := rfl
  rows ok := by rw [read ok]; rfl
  schema := nofun

theorem Script.Holds.cons {columns : List ColumnDef} {rest : List Delimited.Record}
    {fault : Option StorageError} {s : Script StorageError} (holds : s.Holds columns rest fault)
    (records : List Delimited.Record) :
    (s.cons (Delimited.rowsBatch columns records)).Holds columns (records ++ rest) fault where
  failure := holds.failure
  rows ok := by
    show (_ :: s.batches).flatMap Batch.rows = _
    rw [List.flatMap_cons, holds.rows ok, Delimited.rows_rowsBatch, List.map_append]
  schema b listed := by
    rcases List.mem_cons.mp listed with rfl | listed
    · exact Delimited.schema_rowsBatch _ _
    · exact holds.schema b listed

theorem Batch.fits_of_schema {t : TableDef} {b : Batch} (same : b.schema = t.schema) : b.Fits t := by
  have types := congrArg (fun schema => schema.fields.map (·.type)) same
  simpa [Batch.schema, TableDef.schema, Schema.ofColumns, Batch.Fits, Function.comp_def] using types

theorem Script.Holds.fits {t : TableDef} {records : List Delimited.Record} {fault : Option StorageError}
    {s : Script StorageError} (holds : s.Holds t.columns records fault) : ∀ b ∈ s.batches, b.Fits t :=
  fun b listed => Batch.fits_of_schema (holds.schema b listed)

/-! ## Reads of a file -/

namespace FileStore

open Delimited (Reads Stretch takeRows recordRow)

/-- Of two stretches of bytes, a suffix is kept by its part up to a place in the second one and by what
follows there. -/
theorem take_append_drop_of_suffix {front more left : List UInt8} (suffix : left <:+ front ++ more) {place : Nat}
    (reached : front.length + more.length - left.length ≤ front.length + place) :
    left.take (front.length + place - (front.length + more.length - left.length)) ++ more.drop place = left := by
  obtain ⟨used, whole⟩ := suffix
  have count : used.length + left.length = front.length + more.length := by
    rw [← List.length_append, whole, List.length_append]
  have used_eq : front.length + more.length - left.length = used.length := by omega
  rw [used_eq] at reached ⊢
  have rest : more.drop place = left.drop (front.length + place - used.length) :=
    calc more.drop place = (front ++ more).drop (front.length + place) := (List.drop_length_add_append _).symm
      _ = (used ++ left).drop (used.length + (front.length + place - used.length)) := by
        rw [whole, Nat.add_sub_cancel' reached]
      _ = left.drop (front.length + place - used.length) := List.drop_length_add_append _
  rw [rest, List.take_append_drop]

/-- Blocks that stay in the file are not lost, and nor is the fault after them. -/
theorem ahead_settle (s : FileStore) (c : FileCursor) {stretch : Stretch}
    (left : stretch.reader.bytes <:+ (s.ahead c).bytes) (fault : stretch.reader.fault = s.fileFault? c.file) :
    s.ahead (settle c ((s.fileBytes c.file).length - c.fetched) stretch) = stretch.reader := by
  have reached (held total used : Nat) (inside : used ≤ held + total) :
      used ≤ held + fetchCount total (used - held) := by
    rw [fetchCount, blockSize]
    omega
  have kept := take_append_drop_of_suffix left (reached _ _ _ (Nat.sub_le _ _))
  rw [List.drop_drop, List.length_drop] at kept
  have same : s.ahead (settle c ((s.fileBytes c.file).length - c.fetched) stretch) =
      { stretch.reader with bytes := stretch.reader.bytes, fault := s.fileFault? c.file } :=
    congrArg (fun bytes => { stretch.reader with bytes, fault := s.fileFault? c.file }) kept
  rw [same, ← fault]

/-- A read of a file gives the records that the file holds, in batches of any size but zero. -/
theorem script_of_reads {s : FileStore} (filled : s.config.batchSize ≠ 0) {c : FileCursor}
    (atWork : c.ended = false) {records : List Delimited.Record} {fault : Option StorageError}
    (reads : Reads s.format c.columns (s.ahead c) records fault) :
    ((Storage.feed s).script c).Holds c.columns records fault := by
  induction measure : records.length using Nat.strongRecOn generalizing c records with
  | _ count ih =>
    generalize taken : takeRows s.format c.columns s.config.batchSize (s.ahead c) = stretch
    have polled : (Storage.feed s).poll c =
        (stretch.answer c.columns, settle c ((s.fileBytes c.file).length - c.fetched) stretch) := by
      show s.poll c = _
      rw [poll, if_neg (by simp [atWork]), ← taken]
    have settled (further : stretch.ended = false) :
        s.ahead (settle c ((s.fileBytes c.file).length - c.fetched) stretch) = stretch.reader := by
      subst taken
      exact ahead_settle s c (Delimited.suffix_takeRows _ _) (Delimited.fault_takeRows further)
    have sameColumns : (settle c ((s.fileBytes c.file).length - c.fetched) stretch).columns = c.columns := rfl
    have sameEnd : (settle c ((s.fileBytes c.file).length - c.fetched) stretch).ended = stretch.ended := rfl
    generalize settle c ((s.fileBytes c.file).length - c.fetched) stretch = next at *
    rcases reads.takeRows _ taken with ⟨e, failed, rfl⟩ | ⟨clean, ended, same, rfl⟩ |
      ⟨clean, further, length, rest, same, left⟩
    · rw [Stretch.answer, failed] at polled
      rw [Feed.script_error polled]
      exact .stopped nofun
    · have last : (Storage.feed s).poll next = (.ok none, next) := by
        show s.poll next = _
        rw [poll, if_pos (sameEnd.trans ended)]
      rw [Stretch.answer, clean, same] at polled
      cases records with
      | nil =>
        rw [Feed.script_end polled]
        exact .stopped fun _ => rfl
      | cons record records =>
        rw [Feed.script_batch polled, Feed.script_end last]
        have atEnd : (Script.mk [] none).Holds c.columns [] none := .stopped fun _ => rfl
        have holds := atEnd.cons (record :: records)
        rwa [List.append_nil] at holds
    · have given : stretch.records ≠ [] := by
        intro empty
        rw [empty] at length
        exact filled length.symm
      have shorter : rest.length < count := by
        rw [← measure, same, List.length_append, length]
        omega
      rw [← settled further, ← sameColumns] at left
      have holds := ih _ shorter (sameEnd.trans further) left rfl
      have answer : stretch.answer c.columns = .ok (some (Delimited.rowsBatch c.columns stretch.records)) := by
        rw [Stretch.answer, clean]
        simp [given]
      rw [answer] at polled
      rw [Feed.script_batch polled, same]
      exact Script.Holds.cons (sameColumns ▸ holds) _

end FileStore

end Tabular
