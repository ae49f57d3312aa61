import Tabular.Storage

/-!
# Rows of delimited text

Reads stretches of records and turns them into batches. A stretch ends when it has enough records,
at the first bad record, which is lost, or at the end of the text.
-/

namespace Tabular.Delimited

/-- How records are written. -/
structure Format where
  delimiter : UInt8
  hasHeader : Bool
  deriving DecidableEq

/-- The first cell of a record that holds no value of its column. -/
def cellFault? (line : Nat) : List ColumnDef → List String → Option StorageError
  | c :: columns, text :: cells =>
    match readCell c.type text with
    | .error fault => some (.cell line c.name fault)
    | .ok _ => cellFault? line columns cells
  | _, _ => none

/-- What is wrong with a record of a table: its length, or else its first bad cell. -/
def recordFault? (columns : List ColumnDef) (r : Record) : Option StorageError :=
  if r.cells.length = columns.length then cellFault? r.line columns r.cells
  else some (.schema (.recordWidth r.cells.length columns.length))

/-- Reads the next record of a table, if there is one. -/
def nextRow (format : Format) (columns : List ColumnDef) (r : Reader) :
    Option (Except StorageError Record × Reader) :=
  match r.next format.delimiter format.hasHeader with
  | none => none
  | some (.error fault, next) => some (.error (.record fault), next)
  | some (.ok record, next) =>
    match recordFault? columns record with
    | some fault => some (.error fault, next)
    | none => some (.ok record, next)

/-- Whether nothing is read after a fault, which is so for a fault of the system. -/
def endsText : StorageError → Bool
  | .record (.system _) => true
  | _ => false

/-- Records that were read in one go: the fault that ended it, the reader after it, and whether the
text has come to its end. -/
structure Stretch where
  records : List Record
  fault : Option StorageError
  reader : Reader
  ended : Bool

/-- The stretch with one more record in front. -/
def Stretch.prepend (r : Record) (s : Stretch) : Stretch := { s with records := r :: s.records }

/-- Reads at most `count` records. -/
def takeRows (format : Format) (columns : List ColumnDef) : (count : Nat) → Reader → Stretch
  | 0, r => ⟨[], none, r, false⟩
  | count + 1, r =>
    match nextRow format columns r with
    | none => ⟨[], none, r, true⟩
    | some (.error fault, next) => ⟨[], some fault, next, endsText fault⟩
    | some (.ok record, next) => (takeRows format columns count next).prepend record

/-- The column at a position of records that have no bad cell. -/
def columnAt (records : List Record) (position : Nat) (c : ColumnDef) : NamedColumn where
  name := c.name
  column := ⟨.sql c.type, records.map fun r =>
    (readCell c.type (r.cells[position]?.getD "")).toOption.join⟩

/-- The batch of records that have no bad cell. -/
def rowsBatch (columns : List ColumnDef) (records : List Record) : Batch where
  columns := columns.zipIdx.map fun c => columnAt records c.2 c.1
  rowCount := records.length
  aligned := by
    intro c hc
    obtain ⟨d, -, rfl⟩ := List.mem_map.1 hc
    simp [columnAt, Column.length]

/-- What a stretch answers: its fault, a batch of its records, or the end if it has none. -/
def Stretch.answer (columns : List ColumnDef) (s : Stretch) :
    Except StorageError (Option Batch) :=
  match s.fault with
  | some fault => .error fault
  | none => .ok (if s.records.isEmpty then none else some (rowsBatch columns s.records))

section Readers

variable {format : Format} {columns : List ColumnDef} {r next : Reader}

/-- What is read is a fault of the text, or a record with what is wrong with it, if anything is. -/
theorem nextRow_cases {found : Except StorageError Record}
    (h : nextRow format columns r = some (found, next)) :
    (∃ fault, r.next format.delimiter format.hasHeader = some (.error fault, next) ∧
      found = .error (.record fault)) ∨
    ∃ record, r.next format.delimiter format.hasHeader = some (.ok record, next) ∧
      ((∃ fault, recordFault? columns record = some fault ∧ found = .error fault) ∨
        recordFault? columns record = none ∧ found = .ok record) := by
  rw [nextRow] at h
  split at h
  · cases h
  · rename_i fault _ failed
    cases h
    exact .inl ⟨fault, failed, rfl⟩
  · rename_i record _ read
    split at h
    · rename_i fault bad
      cases h
      exact .inr ⟨record, read, .inl ⟨fault, bad, rfl⟩⟩
    · rename_i good
      cases h
      exact .inr ⟨record, read, .inr ⟨good, rfl⟩⟩

theorem suffix_nextRow {found : Except StorageError Record}
    (read : nextRow format columns r = some (found, next)) : next.bytes <:+ r.bytes := by
  rcases nextRow_cases read with ⟨_, failed, _⟩ | ⟨_, got, _⟩
  · exact Reader.suffix_next failed
  · exact Reader.suffix_next got

/-- Reading a row takes at least one byte. -/
theorem length_nextRow_lt {record : Record} (read : nextRow format columns r = some (.ok record, next)) :
    next.bytes.length < r.bytes.length := by
  rcases nextRow_cases read with ⟨_, _, failed⟩ | ⟨_, got, _⟩
  · cases failed
  · exact Reader.length_next_lt got

theorem suffix_takeRows (count : Nat) (r : Reader) :
    (takeRows format columns count r).reader.bytes <:+ r.bytes := by
  fun_induction takeRows format columns count r with
  | case1 => exact List.suffix_rfl
  | case2 => exact List.suffix_rfl
  | case3 _ _ _ _ read => exact suffix_nextRow read
  | case4 _ _ _ _ read ih => exact ih.trans (suffix_nextRow read)

/-- A stretch with a record took at least one byte. -/
theorem length_takeRows_lt {count : Nat} (nonempty : (takeRows format columns count r).records ≠ []) :
    (takeRows format columns count r).reader.bytes.length < r.bytes.length := by
  revert nonempty
  fun_cases takeRows format columns count r with
  | case1 => intro nonempty; exact absurd rfl nonempty
  | case2 => intro nonempty; exact absurd rfl nonempty
  | case3 => intro nonempty; exact absurd rfl nonempty
  | case4 _ _ _ _ read =>
    intro _
    exact Nat.lt_of_le_of_lt (suffix_takeRows _ _).length_le (length_nextRow_lt read)

end Readers

end Tabular.Delimited
