import Tabular.Text.Utf8

/-!
# Delimited records

Splits bytes into records and records into cells. A record ends at a carriage return or a line feed,
and empty lines are no records. A quote opens a quoted cell only where a cell begins; inside, two
quotes stand for one. All records must have as many cells as the first. The bytes may be followed by
a fault of the system, which is met when more of them are asked for.
-/

namespace Tabular

/-- A fault that the system reports, in its own words. -/
structure SystemFault where
  text : String
  deriving DecidableEq

/-- There is no such file or directory. -/
def SystemFault.missing : SystemFault := ⟨"No such file or directory (os error 2)"⟩

end Tabular

namespace Tabular.Delimited

def quote : UInt8 := 34

/-- The bytes that end a record. -/
def isTerminator (b : UInt8) : Bool := b == 13 || b == 10

/-! ## Positions -/

/-- A place in the bytes: the bytes, lines and records before it. Lines are counted from one and end
at line feeds. -/
structure Position where
  byte : Nat := 0
  line : Nat := 1
  record : Nat := 0
  deriving DecidableEq

/-- The place after a byte. -/
def Position.step (p : Position) (b : UInt8) : Position :=
  { p with byte := p.byte + 1, line := if b = 10 then p.line + 1 else p.line }

/-! ## Cells -/

/-- Where in a cell a byte stands. -/
inductive CellState where
  /-- Before the first byte. -/
  | start
  /-- Outside quotes. -/
  | plain
  /-- Inside quotes. -/
  | quoted
  /-- After a quote inside quotes, which closes them or is the first of two. -/
  | closing
  deriving DecidableEq

/-- What was found up to the end of a record: its cells, the place after it and what follows. -/
structure Scan where
  cells : List (List UInt8)
  position : Position
  rest : List UInt8
  /-- Whether the record ends at a line end, and not where the bytes do. -/
  closed : Bool

/-- What was found, with one more cell in front. -/
def Scan.prepend (cell : List UInt8) (s : Scan) : Scan := { s with cells := cell :: s.cells }

/-- The rest of the record that `bytes` begin within. `cell` holds the bytes of the current cell so
far, the last one first. -/
def scanCells (delimiter : UInt8) :
    CellState → (cell : List UInt8) → Position → (bytes : List UInt8) → Scan
  | _, cell, p, [] => ⟨[cell.reverse], p, [], false⟩
  | .quoted, cell, p, b :: rest =>
    if b = quote then scanCells delimiter .closing cell (p.step b) rest
    else scanCells delimiter .quoted (b :: cell) (p.step b) rest
  | state, cell, p, b :: rest =>
    if state = .start ∧ b = quote then scanCells delimiter .quoted cell (p.step b) rest
    else if state = .closing ∧ b = quote then
      scanCells delimiter .quoted (b :: cell) (p.step b) rest
    else if b = delimiter then
      (scanCells delimiter .start [] (p.step b) rest).prepend cell.reverse
    else if isTerminator b then ⟨[cell.reverse], p.step b, rest, true⟩
    else scanCells delimiter .plain (b :: cell) (p.step b) rest

/-- The place and the bytes after line ends. -/
def skipTerminators : Position → List UInt8 → Position × List UInt8
  | p, [] => (p, [])
  | p, b :: rest => if isTerminator b then skipTerminators (p.step b) rest else (p, b :: rest)

/-- The next record, or `none` if only line ends are left. -/
def scanRecord (delimiter : UInt8) (p : Position) (bytes : List UInt8) : Option Scan :=
  match skipTerminators p bytes with
  | (_, []) => none
  | (p, bytes) => some (scanCells delimiter .start [] p bytes)

/-- The first byte belongs to the record. -/
theorem suffix_scanCells (delimiter : UInt8) (state : CellState) (cell : List UInt8)
    (p : Position) (bytes : List UInt8) :
    (scanCells delimiter state cell p bytes).rest <:+ bytes.tail := by
  fun_induction scanCells delimiter state cell p bytes with
  | case1 => exact List.suffix_rfl
  | case7 => exact List.suffix_rfl
  | _ =>
    rename_i ih
    exact ih.trans (List.tail_suffix _)

theorem suffix_skipTerminators (p : Position) (bytes : List UInt8) :
    (skipTerminators p bytes).2 <:+ bytes := by
  fun_induction skipTerminators p bytes with
  | case1 => exact List.suffix_rfl
  | case2 _ _ _ _ ih => exact ih.trans (List.suffix_cons _ _)
  | case3 => exact List.suffix_rfl

/-- A record takes at least one byte. -/
theorem scanRecord_cases {delimiter : UInt8} {p : Position} {bytes : List UInt8} {scan : Scan}
    (scanned : scanRecord delimiter p bytes = some scan) :
    ∃ b rest, b :: rest <:+ bytes ∧ scan.rest <:+ rest := by
  have skipped := suffix_skipTerminators p bytes
  rw [scanRecord] at scanned
  split at scanned
  · cases scanned
  · rename_i q left nonempty found
    cases scanned
    rw [found] at skipped
    obtain ⟨b, rest, rfl⟩ := List.exists_cons_of_ne_nil nonempty
    exact ⟨b, rest, skipped, suffix_scanCells _ _ _ _ _⟩

/-! ## Faults -/

/-- Why the bytes hold no proper record. -/
inductive RecordFault where
  /-- A record has another number of cells than the first. -/
  | unequalLengths (start : Position) (expected found : Nat)
  /-- A cell is no text: the cell's index and the bytes before the fault in it. -/
  | invalidText (start : Position) (cell validBytes : Nat)
  /-- A fault of the system in fetching bytes. -/
  | system (fault : SystemFault)
  /-- A fault that the source of the records describes itself. -/
  | reported (text : String)
  deriving DecidableEq

/-- The wording of a record fault. -/
def RecordFault.message : RecordFault → String
  | unequalLengths start expected found =>
    s!"CSV error: record {start.record} (line: {start.line}, byte: {start.byte}): " ++
      s!"found record with {found} fields, but the previous record has {expected} fields"
  | invalidText start cell validBytes =>
    s!"CSV parse error: record {start.record} (line {start.line}, field: {cell}, " ++
      s!"byte: {start.byte}): invalid utf-8: invalid UTF-8 in field {cell} near byte index " ++
      s!"{validBytes}"
  | system fault => fault.text
  | reported text => text

/-! ## Records -/

/-- A record: its cells, and the line on which the text before it ends. -/
structure Record where
  line : Nat
  cells : List String
  deriving DecidableEq

/-- The cells as texts, or the first cell that is none. -/
def decodeCells (start : Position) (index : Nat) :
    List (List UInt8) → Except RecordFault (List String)
  | [] => .ok []
  | cell :: cells =>
    match Text.decode cell with
    | .error valid => .error (.invalidText start index valid)
    | .ok text => (decodeCells start (index + 1) cells).map (text :: ·)

/-- A reader of records: where it stands, the number of cells of the first record once there was
one, the bytes to come and the fault that comes after them, if one does. -/
structure Reader where
  position : Position := {}
  width : Option Nat := none
  bytes : List UInt8
  fault : Option SystemFault := none

/-- The mark that some files of UTF-8 text begin with. -/
def byteOrderMark : List UInt8 := [0xEF, 0xBB, 0xBF]

/-- Whether the reader stands before a byte order mark, which only the start of a file can be. -/
def Reader.atMark (r : Reader) : Bool := r.position.byte == 0 && byteOrderMark.isPrefixOf r.bytes

/-- Finds the next record. A byte order mark is passed over. -/
def Reader.scan (delimiter : UInt8) (r : Reader) : Option Scan :=
  if r.atMark then scanRecord delimiter { r.position with byte := 3 } (r.bytes.drop 3)
  else scanRecord delimiter r.position r.bytes

/-- The reader after a fault of the system: nothing is to come. -/
def Reader.lost (r : Reader) : Reader := { r with bytes := [], fault := none }

/-- What is read where the bytes end: the fault after them, or nothing. -/
def Reader.atEnd (r : Reader) : Option (Except RecordFault (List (List UInt8)) × Reader) :=
  r.fault.map fun fault => (.error (.system fault), r.lost)

/-- The reader after a record. -/
def Reader.after (r : Reader) (s : Scan) : Reader where
  position := { s.position with record := s.position.record + 1 }
  width := some (r.width.getD s.cells.length)
  bytes := s.rest
  fault := r.fault

/-- The bytes of a record that was found, if it has as many cells as the first. -/
def Reader.check (r : Reader) (s : Scan) : Except RecordFault (List (List UInt8)) :=
  let width := r.width.getD s.cells.length
  if width = s.cells.length then .ok s.cells
  else .error (.unequalLengths r.position width s.cells.length)

/-- Reads the bytes of the next record, or gives `none` at the end. The reader passes over a record
of the wrong length. A record that is still open at a fault of the system is lost. -/
def Reader.nextRaw (delimiter : UInt8) (r : Reader) :
    Option (Except RecordFault (List (List UInt8)) × Reader) :=
  match r.scan delimiter with
  | none => r.atEnd
  | some s => if s.closed || r.fault.isNone then some (r.check s, r.after s) else r.atEnd

/-- Passes over the header, if there is one and nothing has been read yet. -/
def Reader.afterHeader (delimiter : UInt8) (hasHeader : Bool) (r : Reader) : Reader :=
  if hasHeader && r.width.isNone then
    match r.nextRaw delimiter with
    | some (.ok _, next) => next
    | _ => r
  else r

/-- Reads the next record. A cell that is no text is reported at the place where reading began,
which is before the header for the first record. -/
def Reader.next (delimiter : UInt8) (hasHeader : Bool) (r : Reader) :
    Option (Except RecordFault Record × Reader) :=
  let body := r.afterHeader delimiter hasHeader
  match body.nextRaw delimiter with
  | none => none
  | some (.error fault, next) => some (.error fault, next)
  | some (.ok cells, next) =>
    some ((decodeCells r.position 0 cells).map (⟨body.position.line, ·⟩), next)

/-- The texts of the header. -/
def Reader.header (delimiter : UInt8) (r : Reader) : Except RecordFault (List String) :=
  match r.nextRaw delimiter with
  | none => .ok []
  | some (.error fault, _) => .error fault
  | some (.ok cells, _) => decodeCells r.position 0 cells

namespace Reader

variable {delimiter : UInt8} {hasHeader : Bool} {r next : Reader}

theorem scan_cases {scan : Scan} (scanned : r.scan delimiter = some scan) :
    ∃ b rest, b :: rest <:+ r.bytes ∧ scan.rest <:+ rest := by
  rw [Reader.scan] at scanned
  split at scanned
  · obtain ⟨b, rest, before, after⟩ := scanRecord_cases scanned
    exact ⟨b, rest, before.trans (List.drop_suffix _ _), after⟩
  · exact scanRecord_cases scanned

theorem suffix_scan {scan : Scan} (scanned : r.scan delimiter = some scan) :
    scan.rest <:+ r.bytes := by
  obtain ⟨b, rest, before, after⟩ := scan_cases scanned
  exact after.trans ((List.suffix_cons b rest).trans before)

theorem length_scan_lt {scan : Scan} (scanned : r.scan delimiter = some scan) :
    scan.rest.length < r.bytes.length := by
  obtain ⟨b, rest, before, after⟩ := scan_cases scanned
  exact Nat.lt_of_le_of_lt after.length_le before.length_le

/-- What is read is the fault after the bytes, or a record that takes at least one byte. -/
theorem nextRaw_cases {found : Except RecordFault (List (List UInt8))}
    (h : r.nextRaw delimiter = some (found, next)) :
    (∃ fault, r.fault = some fault ∧ found = .error (.system fault) ∧ next = r.lost) ∨
    ∃ s, r.scan delimiter = some s ∧ found = r.check s ∧ next = r.after s := by
  have ending (h : r.atEnd = some (found, next)) :
      ∃ fault, r.fault = some fault ∧ found = .error (.system fault) ∧ next = r.lost := by
    obtain ⟨fault, there, same⟩ := Option.map_eq_some_iff.mp h
    cases same
    exact ⟨fault, there, rfl, rfl⟩
  unfold nextRaw at h
  split at h
  · exact .inl (ending h)
  · rename_i s hs
    split at h
    · cases h
      exact .inr ⟨s, hs, rfl, rfl⟩
    · exact .inl (ending h)

/-- The header is a record that was read, if one was passed over. -/
theorem afterHeader_cases (delimiter : UInt8) (hasHeader : Bool) (r : Reader) :
    r.afterHeader delimiter hasHeader = r ∨
    ∃ cells, r.nextRaw delimiter = some (.ok cells, r.afterHeader delimiter hasHeader) := by
  rw [afterHeader]
  split
  · split
    · rename_i cells next read
      exact .inr ⟨cells, read⟩
    · exact .inl rfl
  · exact .inl rfl

/-- What is read after the header is a fault, or the cells of a record, of which some may be no
text. -/
theorem next_cases {found : Except RecordFault Record}
    (h : r.next delimiter hasHeader = some (found, next)) :
    (∃ fault, (r.afterHeader delimiter hasHeader).nextRaw delimiter = some (.error fault, next) ∧
      found = .error fault) ∨
    ∃ cells, (r.afterHeader delimiter hasHeader).nextRaw delimiter = some (.ok cells, next) ∧
      found = (decodeCells r.position 0 cells).map
        (⟨(r.afterHeader delimiter hasHeader).position.line, ·⟩) := by
  rw [Reader.next] at h
  split at h
  · cases h
  · rename_i fault _ failed
    cases h
    exact .inl ⟨fault, failed, rfl⟩
  · rename_i cells _ read
    cases h
    exact .inr ⟨cells, read, rfl⟩

theorem suffix_nextRaw {found : Except RecordFault (List (List UInt8))}
    (read : r.nextRaw delimiter = some (found, next)) : next.bytes <:+ r.bytes := by
  obtain ⟨_, _, _, rfl⟩ | ⟨s, scanned, _, rfl⟩ := nextRaw_cases read
  · exact List.nil_suffix
  · exact suffix_scan scanned

theorem length_nextRaw_lt {cells : List (List UInt8)}
    (read : r.nextRaw delimiter = some (.ok cells, next)) :
    next.bytes.length < r.bytes.length := by
  obtain ⟨_, _, failed, _⟩ | ⟨s, scanned, _, rfl⟩ := nextRaw_cases read
  · cases failed
  · exact length_scan_lt scanned

theorem suffix_afterHeader : (r.afterHeader delimiter hasHeader).bytes <:+ r.bytes := by
  rcases afterHeader_cases delimiter hasHeader r with same | ⟨_, read⟩
  · rewrite [same]
    exact List.suffix_rfl
  · exact suffix_nextRaw read

theorem suffix_next {found : Except RecordFault Record}
    (read : r.next delimiter hasHeader = some (found, next)) : next.bytes <:+ r.bytes := by
  rcases next_cases read with ⟨_, failed, _⟩ | ⟨_, raw, _⟩
  · exact (suffix_nextRaw failed).trans suffix_afterHeader
  · exact (suffix_nextRaw raw).trans suffix_afterHeader

/-- Reading a record takes at least one byte, whatever is done with the header. -/
theorem length_next_lt {record : Record}
    (read : r.next delimiter hasHeader = some (.ok record, next)) :
    next.bytes.length < r.bytes.length := by
  rcases next_cases read with ⟨_, _, failed⟩ | ⟨_, raw, _⟩
  · cases failed
  · exact Nat.lt_of_lt_of_le (length_nextRaw_lt raw) suffix_afterHeader.length_le

end Reader

end Tabular.Delimited
