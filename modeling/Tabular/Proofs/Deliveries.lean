import Tabular.Proofs.Reading
import Tabular.Storage.Replay

/-!
# Deliveries

A read of records, call by call, whatever its reader delivers. Each call takes the next few deliveries, up to the
first bad one among them, and answers with the rows that they decode to or with what is wrong with the bad one
(`Delimited.Served`); the next call goes on where it stopped. So do the polls of a file (`FileStore.polls_answers`).
-/

namespace Tabular

namespace Delimited

/-! ## Good and bad deliveries -/

/-- What a reader delivers: a record, or a fault in its place. -/
abbrev Delivery : Type := Except RecordFault Record

/-- A record with a text for each column that is read as the cell of a row. -/
inductive Decodes (columns : List ColumnDef) : Delivery → Row → Prop
  | record {r : Record} {row : Row} (width : r.cells.length = columns.length)
      (cells : List.Forall₂ (fun p cell => ReadAs p.1 p.2 cell) (columns.zip r.cells) row) :
      Decodes columns (.ok r) row

/-- What is wrong with a bad delivery. Of the columns that cannot read their texts the first counts. -/
inductive Wrong (columns : List ColumnDef) : Delivery → StorageError → Prop
  | record (fault : RecordFault) : Wrong columns (.error fault) (.record fault)
  | width {r : Record} (differs : r.cells.length ≠ columns.length) :
      Wrong columns (.ok r) (.schema (.recordWidth r.cells.length columns.length))
  | cell {r : Record} {before after : List (ColumnDef × String)} {c : ColumnDef} {text : String} {fault : CellFault}
      (width : r.cells.length = columns.length) (here : columns.zip r.cells = before ++ (c, text) :: after)
      (good : ∀ p ∈ before, ∃ cell, ReadAs p.1 p.2 cell) (bad : readCell c.type text = .error fault) :
      Wrong columns (.ok r) (.cell r.line c.name fault)

variable {columns : List ColumnDef} {r : Record} {row : Row} {e : StorageError}

theorem cellFault?_eq_none_iff {line : Nat} {cells : List String} : cellFault? line columns cells = none ↔
    ∀ p ∈ columns.zip cells, ∃ value, readCell p.1.type p.2 = .ok value := by
  induction columns generalizing cells with
  | nil => simp [cellFault?]
  | cons c columns ih =>
    cases cells with
    | nil => simp [cellFault?]
    | cons text cells =>
      rw [cellFault?, List.zip_cons_cons, List.forall_mem_cons]
      cases read : readCell c.type text with
      | error fault => simp
      | ok value => simp [ih]

theorem cellFault?_eq_none {line : Nat} {cells : List String} (clean : cellFault? line columns cells = none) :
    ∃ row, List.Forall₂ (fun p cell => ReadAs p.1 p.2 cell) (columns.zip cells) row := by
  refine ⟨(columns.zip cells).map fun p => (readCell p.1.type p.2).toOption.join.map (Datum.mk (.sql p.1.type)), ?_⟩
  rw [List.forall₂_map_right_iff, List.forall₂_same]
  intro p listed
  obtain ⟨value, read⟩ := cellFault?_eq_none_iff.mp clean p listed
  exact ⟨value, read, by rw [read]; rfl⟩

theorem cellFault?_eq_some {line : Nat} {cells : List String} (found : cellFault? line columns cells = some e) :
    ∃ before c text after fault, columns.zip cells = before ++ (c, text) :: after ∧
      (∀ p ∈ before, ∃ cell, ReadAs p.1 p.2 cell) ∧ readCell c.type text = .error fault ∧
      e = .cell line c.name fault := by
  induction columns generalizing cells with
  | nil => cases found
  | cons c columns ih =>
    cases cells with
    | nil => cases found
    | cons text cells =>
      rw [cellFault?] at found
      cases read : readCell c.type text with
      | error fault =>
        rw [read] at found
        exact ⟨[], c, text, _, fault, rfl, nofun, read, (Option.some.inj found).symm⟩
      | ok value =>
        rw [read] at found
        obtain ⟨before, d, other, after, fault, here, good, bad, same⟩ := ih found
        refine ⟨(c, text) :: before, d, other, after, fault, congrArg _ here, ?_, bad, same⟩
        exact List.forall_mem_cons.mpr ⟨⟨_, value, read, rfl⟩, good⟩

/-- A delivery decodes to one row only. -/
theorem rightUnique_decodes : Relator.RightUnique (Decodes columns) := by
  rintro _ _ _ ⟨width, cells⟩ ⟨_, others⟩
  rw [← recordRow_of_readAs width cells, ← recordRow_of_readAs width others]

theorem Decodes.not_wrong {d : Delivery} (decodes : Decodes columns d row) : ¬ Wrong columns d e := by
  obtain ⟨width, cells⟩ := decodes
  intro wrong
  cases wrong with
  | width differs => exact differs width
  | cell _ here _ bad =>
    rw [here] at cells
    obtain ⟨cell, _, value, read, _⟩ := exists_of_forall₂ cells (List.mem_append_right _ List.mem_cons_self)
    cases read.symm.trans bad

theorem wrong_of_recordFault? (found : recordFault? columns r = some e) : Wrong columns (.ok r) e := by
  rw [recordFault?] at found
  by_cases width : r.cells.length = columns.length
  · rw [if_pos width] at found
    obtain ⟨before, c, text, after, fault, here, good, bad, rfl⟩ := cellFault?_eq_some found
    exact .cell width here good bad
  · rw [if_neg width] at found
    cases found
    exact .width width

theorem decodes_of_recordFault? (clean : recordFault? columns r = none) :
    Decodes columns (.ok r) (recordRow columns r) := by
  rw [recordFault?] at clean
  by_cases width : r.cells.length = columns.length
  · rw [if_pos width] at clean
    obtain ⟨row, cells⟩ := cellFault?_eq_none clean
    rw [recordRow_of_readAs width cells]
    exact .record width cells
  · rw [if_neg width] at clean
    cases clean

/-! ## Calls -/

/-- Takes deliveries until it has `count` records, or there are none left, or one is bad. -/
def gather (columns : List ColumnDef) :
    (count : Nat) → List Delivery → Except StorageError (List Record) × List Delivery
  | 0, left => (.ok [], left)
  | _ + 1, [] => (.ok [], [])
  | _ + 1, .error fault :: left => (.error (.record fault), left)
  | count + 1, .ok r :: left =>
    match recordFault? columns r with
    | some fault => (.error fault, left)
    | none => ((gather columns count left).1.map (r :: ·), (gather columns count left).2)

/-- A call: its answer and what it leaves. -/
def serve (columns : List ColumnDef) (size : Nat) (left : List Delivery) : Answer × List Delivery :=
  ((gather columns size left).1.map fun records =>
    if records.isEmpty then none else some (rowsBatch columns records), (gather columns size left).2)

/-- The answers to a number of calls. -/
def answers (columns : List ColumnDef) (size : Nat) : (calls : Nat) → List Delivery → List Answer
  | 0, _ => []
  | calls + 1, left => (serve columns size left).1 :: answers columns size calls (serve columns size left).2

/-- What a call does to what is left: it takes some deliveries and answers with them. -/
structure Served (columns : List ColumnDef) (size : Nat) (left taken after : List Delivery) (answer : Answer) :
    Prop where
  stretch : left = taken ++ after
  atMost : taken.length ≤ size
  fails : (∃ e, answer = .error e) ↔ ∃ d ∈ left.take size, ∃ e, Wrong columns d e
  fault : ∀ e, answer = .error e → ∃ good bad, taken = good ++ [bad] ∧
    (∀ d ∈ good, ∃ row, Decodes columns d row) ∧ Wrong columns bad e
  batch : ∀ b, answer = .ok (some b) → b.schema = .ofColumns (columns.map fun c => (c.name, c.type)) ∧
    List.Forall₂ (Decodes columns) taken b.rows ∧ (b.rowCount = size ∨ after = [])
  ended : answer = .ok none ↔ left = []

/-- Calls one after the other, each going on where the one before it stopped. -/
inductive Serves (columns : List ColumnDef) (size : Nat) : List Delivery → List Answer → Prop
  | done (left : List Delivery) : Serves columns size left []
  | call {left taken after : List Delivery} {answer : Answer} {answers : List Answer}
      (served : Served columns size left taken after answer) (further : Serves columns size after answers) :
      Serves columns size left (answer :: answers)

/-- The rows of an answer. -/
def answerRows : Answer → List Row
  | .ok (some b) => b.rows
  | _ => []

variable {size count : Nat} {left : List Delivery}

theorem clean_of_gather {records : List Record} (done : (gather columns count left).1 = .ok records) :
    left.take count = records.map .ok ∧ ∀ r ∈ records, recordFault? columns r = none := by
  induction count generalizing left records with
  | zero =>
    cases done
    exact ⟨rfl, nofun⟩
  | succ count ih =>
    cases left with
    | nil =>
      cases done
      exact ⟨rfl, nofun⟩
    | cons d left =>
      cases d with
      | error fault => cases done
      | ok r =>
        rw [gather] at done
        cases found : recordFault? columns r with
        | some fault =>
          rw [found] at done
          cases done
        | none =>
          rw [found] at done
          obtain ⟨others, further, rfl⟩ := map_eq_ok.mp done
          obtain ⟨taken, clean⟩ := ih further
          exact ⟨congrArg _ taken, List.forall_mem_cons.mpr ⟨found, clean⟩⟩

theorem gather_of_clean {records : List Record} (taken : left.take count = records.map .ok)
    (clean : ∀ r ∈ records, recordFault? columns r = none) :
    gather columns count left = (.ok records, left.drop count) := by
  induction records generalizing count left with
  | nil =>
    rcases List.take_eq_nil_iff.mp taken with rfl | rfl
    · rfl
    · cases count <;> rfl
  | cons r records ih =>
    cases count with
    | zero => cases taken
    | succ count =>
      cases left with
      | nil => cases taken
      | cons d left =>
        obtain ⟨rfl, further⟩ := List.cons.inj taken
        obtain ⟨here, others⟩ := List.forall_mem_cons.mp clean
        rw [gather, here, ih further others]
        rfl

/-- Only good records are taken, and all of them up to the count. -/
theorem gather_eq_ok_iff {records : List Record} : (gather columns count left).1 = .ok records ↔
    left.take count = records.map .ok ∧ ∀ r ∈ records, recordFault? columns r = none := by
  constructor
  · exact clean_of_gather
  · rintro ⟨taken, clean⟩
    rw [gather_of_clean taken clean]

theorem gather_ok {records : List Record} (done : (gather columns count left).1 = .ok records) :
    List.Forall₂ (Decodes columns) (left.take count) (records.map (recordRow columns)) ∧
      (gather columns count left).2 = left.drop count := by
  obtain ⟨taken, clean⟩ := clean_of_gather done
  refine ⟨?_, congrArg Prod.snd (gather_of_clean taken clean)⟩
  rw [taken, List.forall₂_map_left_iff, List.forall₂_map_right_iff, List.forall₂_same]
  intro r listed
  exact decodes_of_recordFault? (clean r listed)

theorem gather_error (failed : (gather columns count left).1 = .error e) :
    ∃ good bad, left = good ++ bad :: (gather columns count left).2 ∧ good.length < count ∧
      (∀ d ∈ good, ∃ row, Decodes columns d row) ∧ Wrong columns bad e := by
  induction count generalizing left with
  | zero => cases failed
  | succ count ih =>
    cases left with
    | nil => cases failed
    | cons d left =>
      cases d with
      | error fault =>
        cases failed
        exact ⟨[], _, rfl, Nat.succ_pos count, nofun, .record fault⟩
      | ok r =>
        rw [gather] at failed ⊢
        cases found : recordFault? columns r with
        | some fault =>
          rw [found] at failed
          cases failed
          exact ⟨[], _, rfl, Nat.succ_pos count, nofun, wrong_of_recordFault? found⟩
        | none =>
          rw [found] at failed
          obtain ⟨good, bad, split, few, decoded, wrong⟩ := ih (map_eq_error.mp failed)
          refine ⟨.ok r :: good, bad, congrArg _ split, Nat.succ_lt_succ few, ?_, wrong⟩
          exact List.forall_mem_cons.mpr ⟨⟨_, decodes_of_recordFault? found⟩, decoded⟩

theorem served_of_error {good after : List Delivery} {bad : Delivery} (few : good.length < size)
    (decoded : ∀ d ∈ good, ∃ row, Decodes columns d row) (wrong : Wrong columns bad e) :
    Served columns size (good ++ bad :: after) (good ++ [bad]) after (.error e) where
  stretch := by simp
  atMost := by simpa using Nat.succ_le_of_lt few
  fails := by
    have met : bad ∈ (good ++ bad :: after).take size := by
      rw [List.take_append, List.take_cons (Nat.sub_pos_of_lt few)]
      exact List.mem_append_right _ List.mem_cons_self
    exact ⟨fun _ => ⟨bad, met, e, wrong⟩, fun _ => ⟨e, rfl⟩⟩
  fault := by
    rintro _ ⟨⟩
    exact ⟨good, bad, rfl, decoded, wrong⟩
  batch := nofun
  ended := by simp

theorem served_of_ok (positive : 0 < size) {records : List Record}
    (decoded : List.Forall₂ (Decodes columns) (left.take size) (records.map (recordRow columns))) :
    Served columns size left (left.take size) (left.drop size)
      (.ok (if records.isEmpty then none else some (rowsBatch columns records))) where
  stretch := (List.take_append_drop size left).symm
  atMost := List.length_take_le size left
  fails := by
    constructor
    · nofun
    · rintro ⟨d, met, e, wrong⟩
      obtain ⟨row, _, decodes⟩ := exists_of_forall₂ decoded met
      exact absurd wrong decodes.not_wrong
  fault := nofun
  batch := by
    intro b given
    have counted : min size left.length = records.length := by simpa using decoded.length_eq
    cases records with
    | nil => cases given
    | cons r records =>
      cases given
      refine ⟨schema_rowsBatch _ _, by rwa [rows_rowsBatch], ?_⟩
      rw [List.drop_eq_nil_iff, show (rowsBatch columns (r :: records)).rowCount = (r :: records).length from rfl]
      omega
  ended := by
    have counted : min size left.length = records.length := by simpa using decoded.length_eq
    cases records with
    | nil =>
      rw [List.length_nil] at counted
      exact ⟨fun _ => List.length_eq_zero_iff.mp (by omega), fun _ => rfl⟩
    | cons r records =>
      constructor
      · nofun
      · rintro rfl
        simp at counted

theorem serve_served (positive : 0 < size) (left : List Delivery) :
    ∃ taken, Served columns size left taken (serve columns size left).2 (serve columns size left).1 := by
  cases outcome : (gather columns size left).1 with
  | error e =>
    obtain ⟨good, bad, split, few, decoded, wrong⟩ := gather_error outcome
    have served : Served columns size (good ++ bad :: (gather columns size left).2) (good ++ [bad])
      (gather columns size left).2 (.error e) := served_of_error few decoded wrong
    rw [← split] at served
    rw [serve, outcome]
    exact ⟨_, served⟩
  | ok records =>
    obtain ⟨decoded, after⟩ := gather_ok outcome
    rw [serve, outcome, after]
    exact ⟨_, served_of_ok positive decoded⟩

theorem length_answers (calls : Nat) (left : List Delivery) : (answers columns size calls left).length = calls := by
  induction calls generalizing left with
  | zero => rfl
  | succ calls ih => exact congrArg Nat.succ (ih _)

theorem serves_answers (positive : 0 < size) (calls : Nat) (left : List Delivery) :
    Serves columns size left (answers columns size calls left) := by
  induction calls generalizing left with
  | zero => exact .done left
  | succ calls ih =>
    obtain ⟨taken, served⟩ := serve_served positive left
    exact .call served (ih _)

/-! ## What follows for all calls -/

theorem Served.after_nil {taken after : List Delivery} {answer : Answer}
    (served : Served columns size [] taken after answer) : answer = .ok none ∧ after = [] :=
  ⟨served.ended.mpr rfl, (List.append_eq_nil_iff.mp served.stretch.symm).2⟩

theorem Serves.of_nil {answers : List Answer} (serves : Serves columns size [] answers) :
    ∀ answer ∈ answers, answer = .ok none := by
  generalize none : ([] : List Delivery) = left at serves
  induction serves with
  | done => nofun
  | call served _ ih =>
    subst none
    obtain ⟨first, after⟩ := served.after_nil
    exact List.forall_mem_cons.mpr ⟨first, ih after.symm⟩

/-- The end stays the end. -/
theorem Serves.ended {before later : List Answer} (serves : Serves columns size left (before ++ .ok none :: later)) :
    ∀ answer ∈ later, answer = .ok none := by
  induction before generalizing left with
  | nil =>
    cases serves with
    | call served further =>
      obtain rfl := served.ended.mp rfl
      rw [served.after_nil.2] at further
      exact further.of_nil
  | cons first before ih =>
    cases serves with
    | call _ further => exact ih further

theorem take_succ_mul {rows : List Row} {part : Nat} (few : part ≤ size) (full : part = size ∨ rows.drop part = [])
    (calls : Nat) : rows.take ((calls + 1) * size) = rows.take part ++ (rows.drop part).take (calls * size) := by
  rw [Nat.succ_mul, Nat.add_comm]
  rcases full with rfl | last
  · exact List.take_add
  · have short : rows.length ≤ part := List.drop_eq_nil_iff.mp last
    rw [last, List.take_nil, List.append_nil, List.take_of_length_le short, List.take_of_length_le (by omega)]

/-- Without a bad delivery a call gives the rows of what it takes, in order. -/
theorem Served.decoded {taken after : List Delivery} {answer : Answer}
    (served : Served columns size left taken after answer) {rows : List Row}
    (decoded : List.Forall₂ (Decodes columns) left rows) :
    (∃ b, answer = .ok b) ∧ answerRows answer = rows.take taken.length ∧ (taken.length = size ∨ after = []) := by
  rw [served.stretch] at decoded
  have first := List.forall₂_take taken.length decoded
  rw [List.take_left] at first
  -- A fault would have to be met among deliveries that all decode.
  match answer, served with
  | .error e, served =>
    obtain ⟨d, met, e, wrong⟩ := served.fails.mp ⟨e, rfl⟩
    rw [← served.stretch] at decoded
    obtain ⟨row, _, decodes⟩ := exists_of_forall₂ decoded (List.mem_of_mem_take met)
    exact absurd wrong decodes.not_wrong
  | .ok none, served =>
    have nothing := served.ended.mp rfl
    rw [served.stretch, List.append_eq_nil_iff] at nothing
    refine ⟨⟨none, rfl⟩, ?_, Or.inr nothing.2⟩
    rw [nothing.1]
    rfl
  | .ok (some b), served =>
    obtain ⟨_, rows_b, full⟩ := served.batch b rfl
    refine ⟨⟨some b, rfl⟩, rightUnique_decodes.forall₂ rows_b first, ?_⟩
    rwa [rows_b.length_eq, Batch.length_rows]

/-- Without bad deliveries the answers have, one after the other, the rows of all that is taken. -/
theorem Serves.decoded {answers : List Answer} (serves : Serves columns size left answers) {rows : List Row}
    (decoded : List.Forall₂ (Decodes columns) left rows) :
    (∀ answer ∈ answers, ∃ b, answer = .ok b) ∧ answers.flatMap answerRows = rows.take (answers.length * size) := by
  induction serves generalizing rows with
  | done => simp
  | @call left taken after answer answers served further ih =>
    obtain ⟨good, here, full⟩ := served.decoded decoded
    have rest := List.forall₂_drop taken.length (served.stretch ▸ decoded)
    rw [List.drop_left] at rest
    obtain ⟨allGood, others⟩ := ih rest
    refine ⟨List.forall_mem_cons.mpr ⟨good, allGood⟩, ?_⟩
    -- A call that takes less than a batch leaves nothing, so the rows go on where its rows end.
    have last : taken.length = size ∨ rows.drop taken.length = [] :=
      full.imp_right fun none => List.forall₂_nil_left_iff.mp (none ▸ rest)
    rw [List.flatMap_cons, here, others, List.length_cons, take_succ_mul served.atMost last]

/-! ## Readers of bytes -/

/-- What a reader delivers from where it stands to the end of its bytes. -/
inductive Yields (format : Format) : Reader → List Delivery → Prop
  | stop {reader : Reader} (ended : reader.next format.delimiter format.hasHeader = none) : Yields format reader []
  | more {reader next : Reader} {d : Delivery} {left : List Delivery}
      (delivered : reader.next format.delimiter format.hasHeader = some (d, next)) (further : Yields format next left) :
      Yields format reader (d :: left)

/-- The records of a stretch, or what ended it. -/
def Stretch.outcome (s : Stretch) : Except StorageError (List Record) :=
  match s.fault with
  | some e => .error e
  | none => .ok s.records

variable {format : Format} {reader : Reader}

namespace Reader

variable {delimiter : UInt8} {hasHeader : Bool} {r next : Reader}

/-- What is still to be met: the bytes, and the fault after them. -/
def toMeet (r : Reader) : Nat := r.bytes.length + if r.fault.isSome then 1 else 0

theorem toMeet_nextRaw_lt {found : Except RecordFault (List (List UInt8))}
    (read : r.nextRaw delimiter = some (found, next)) : next.toMeet < r.toMeet := by
  obtain ⟨fault, there, _, rfl⟩ | ⟨s, scanned, _, rfl⟩ := nextRaw_cases read
  · simp [toMeet, lost, there]
  · exact Nat.add_lt_add_right (length_scan_lt scanned) _

theorem toMeet_afterHeader_le : (r.afterHeader delimiter hasHeader).toMeet ≤ r.toMeet := by
  rcases afterHeader_cases delimiter hasHeader r with same | ⟨_, read⟩
  · exact Nat.le_of_eq (congrArg toMeet same)
  · exact Nat.le_of_lt (toMeet_nextRaw_lt read)

theorem toMeet_next_lt {found : Delivery} (read : r.next delimiter hasHeader = some (found, next)) :
    next.toMeet < r.toMeet := by
  rcases next_cases read with ⟨_, failed, _⟩ | ⟨_, raw, _⟩
  · exact Nat.lt_of_lt_of_le (toMeet_nextRaw_lt failed) toMeet_afterHeader_le
  · exact Nat.lt_of_lt_of_le (toMeet_nextRaw_lt raw) toMeet_afterHeader_le

/-- Nothing is read after a fault of the system. -/
theorem nextRaw_lost (r : Reader) : r.lost.nextRaw delimiter = none := by
  have unmarked : r.lost.atMark = false := by simp [atMark, lost, byteOrderMark]
  rw [nextRaw, scan, unmarked]
  rfl

theorem next_lost (r : Reader) : r.lost.next delimiter hasHeader = none := by
  have nothing : r.lost.nextRaw delimiter = none := nextRaw_lost r
  have stays : r.lost.afterHeader delimiter hasHeader = r.lost := by
    rw [afterHeader, nothing]
    split <;> rfl
  rw [Reader.next, stays, nothing]

/-- Texts of cells are not what a fault of the system is met in. -/
theorem decodeCells_ne_system {start : Position} {index : Nat} {cells : List (List UInt8)} {fault : SystemFault} :
    decodeCells start index cells ≠ .error (.system fault) := by
  induction cells generalizing index with
  | nil => nofun
  | cons cell cells ih =>
    rw [decodeCells]
    cases Text.decode cell with
    | error valid => nofun
    | ok text =>
      intro met
      exact ih (map_eq_error.mp met)

/-- With a fault of the system the text has come to its end. -/
theorem next_of_system {fault : SystemFault} (read : r.next delimiter hasHeader = some (.error (.system fault), next)) :
    next.next delimiter hasHeader = none := by
  rcases next_cases read with ⟨_, failed, met⟩ | ⟨_, _, met⟩
  · cases met
    obtain ⟨_, _, _, rfl⟩ | ⟨s, _, checked, _⟩ := nextRaw_cases failed
    · exact next_lost _
    · rw [check] at checked
      split at checked <;> cases checked
  · exact absurd (map_eq_error.mp met.symm) decodeCells_ne_system

end Reader

theorem exists_yields (format : Format) (reader : Reader) : ∃ left, Yields format reader left := by
  induction measure : reader.toMeet using Nat.strongRecOn generalizing reader with
  | _ count ih =>
    cases delivered : reader.next format.delimiter format.hasHeader with
    | none => exact ⟨[], .stop delivered⟩
    | some found =>
      obtain ⟨d, next⟩ := found
      obtain ⟨left, further⟩ := ih _ (measure ▸ Reader.toMeet_next_lt delivered) next rfl
      exact ⟨d :: left, .more delivered further⟩

theorem Stretch.outcome_prepend (r : Record) (s : Stretch) : (s.prepend r).outcome = s.outcome.map (r :: ·) := by
  obtain ⟨records, fault, reader, ended⟩ := s
  cases fault <;> rfl

theorem Stretch.answer_eq (columns : List ColumnDef) (s : Stretch) : s.answer columns =
    s.outcome.map fun records => if records.isEmpty then none else some (rowsBatch columns records) := by
  obtain ⟨records, fault, reader, ended⟩ := s
  cases fault <;> rfl

theorem takeRows_gather (yields : Yields format reader left) (count : Nat) :
    (takeRows format columns count reader).outcome = (gather columns count left).1 ∧
    Yields format (takeRows format columns count reader).reader (gather columns count left).2 ∧
    ((takeRows format columns count reader).ended = true → (gather columns count left).2 = []) := by
  -- Both look at the next delivery first, so the induction on the count follows the stretch.
  induction count generalizing reader left with
  | zero => exact ⟨rfl, yields, fun met => absurd met Bool.false_ne_true⟩
  | succ count ih =>
    cases yields with
    | stop ended =>
      have row : nextRow format columns reader = none := by rw [nextRow, ended]
      rw [takeRows, row]
      exact ⟨rfl, .stop ended, fun _ => rfl⟩
    | @more _ next d left delivered further =>
      cases d with
      | error fault =>
        have row : nextRow format columns reader = some (.error (.record fault), next) := by rw [nextRow, delivered]
        rw [takeRows, row]
        refine ⟨rfl, further, fun met => ?_⟩
        cases fault with
        | system fault =>
          cases further with
          | stop => rfl
          | more again => cases (Reader.next_of_system delivered).symm.trans again
        | _ => cases met
      | ok r =>
        cases found : recordFault? columns r with
        | some fault =>
          have row : nextRow format columns reader = some (.error fault, next) := by
            rw [nextRow, delivered]
            simp only [found]
          have goesOn : endsText fault = false := by cases wrong_of_recordFault? found <;> rfl
          rw [takeRows, row, gather, found]
          exact ⟨rfl, further, fun met => absurd (goesOn.symm.trans met) Bool.false_ne_true⟩
        | none =>
          have row : nextRow format columns reader = some (.ok r, next) := by
            rw [nextRow, delivered]
            simp only [found]
          obtain ⟨same, after, ended⟩ := ih further
          rw [takeRows, row, gather, found]
          exact ⟨by rw [Stretch.outcome_prepend, same], after, ended⟩

end Delimited

/-! ## Reads of a file -/

namespace FileStore

open Delimited

/-- The answers to a number of polls. -/
def polls (s : FileStore) : (calls : Nat) → FileCursor → List Answer
  | 0, _ => []
  | calls + 1, c => (s.poll c).1 :: s.polls calls (s.poll c).2

/-- What a read has before it: nothing if it met the end, else what its reader delivers. -/
structure Faces (s : FileStore) (c : FileCursor) (left : List Delivery) : Prop where
  ended : c.ended = true → left = []
  atWork : c.ended = false → Yields s.format (s.ahead c) left

variable {s : FileStore} {c : FileCursor} {left : List Delivery}

theorem Faces.poll (faces : s.Faces c left) :
    (s.poll c).1 = (serve c.columns s.config.batchSize left).1 ∧ (s.poll c).2.columns = c.columns ∧
      s.Faces (s.poll c).2 (serve c.columns s.config.batchSize left).2 := by
  cases state : c.ended with
  | true =>
    obtain rfl := faces.ended state
    have nothing : gather c.columns s.config.batchSize [] = (.ok [], []) := by
      cases s.config.batchSize <;> rfl
    rw [FileStore.poll, if_pos state, serve, nothing]
    exact ⟨rfl, rfl, fun _ => rfl, fun atWork => absurd (state.symm.trans atWork) (by decide)⟩
  | false =>
    obtain ⟨same, after, ended⟩ := @takeRows_gather c.columns left s.format _ (faces.atWork state) s.config.batchSize
    rw [FileStore.poll, if_neg (by simp [state])]
    refine ⟨?_, rfl, ended, fun further => ?_⟩
    · exact (Stretch.answer_eq _ _).trans (congrArg _ same)
    · rw [s.ahead_settle c (suffix_takeRows s.config.batchSize (s.ahead c)) (fault_takeRows further)]
      exact after

theorem Faces.polls (faces : s.Faces c left) (calls : Nat) :
    s.polls calls c = answers c.columns s.config.batchSize calls left := by
  induction calls generalizing c left with
  | zero => rfl
  | succ calls ih =>
    obtain ⟨first, columns, after⟩ := faces.poll
    rw [FileStore.polls, answers, first, ih after, columns]

/-- Any number of calls, whatever is delivered: each takes the next deliveries, at most as many as a batch has rows,
and answers with the rows that they decode to or with what is wrong with the first bad one, which it takes as the
last. The end stays the end, and without bad deliveries the batches are, one after the other, all that is decoded. The
polls of a file are such calls on what its reader delivers. -/
theorem polls_answers :
    (∀ (columns : List ColumnDef) (size : Nat), 0 < size → ∀ (left : List Delivery) (calls : Nat),
      Serves columns size left (answers columns size calls left) ∧
      (∀ before later, answers columns size calls left = before ++ .ok none :: later →
        ∀ answer ∈ later, answer = .ok none) ∧
      ∀ rows, List.Forall₂ (Decodes columns) left rows →
        (∀ answer ∈ answers columns size calls left, ∃ b, answer = .ok b) ∧
        (answers columns size calls left).flatMap answerRows = rows.take (calls * size)) ∧
    ∀ (s : FileStore) (c : FileCursor), c.ended = false → ∃ left, Yields s.format (s.ahead c) left ∧
      ∀ calls, s.polls calls c = answers c.columns s.config.batchSize calls left := by
  constructor
  · intro columns size positive left calls
    have serves : Serves columns size left (answers columns size calls left) := serves_answers positive calls left
    refine ⟨serves, fun before later same => ?_, fun rows decoded => ?_⟩
    · rw [same] at serves
      exact serves.ended
    · have all := serves.decoded decoded
      rwa [length_answers] at all
  · intro s c atWork
    obtain ⟨left, yields⟩ := exists_yields s.format (s.ahead c)
    have faces : s.Faces c left := ⟨fun ended => absurd (ended.symm.trans atWork) (by decide), fun _ => yields⟩
    exact ⟨left, yields, faces.polls⟩

/-- Two of four records are bad: the first of them is what the first call takes last and answers with. -/
theorem polls_answers_bad :
    (∃ taken after, Served [⟨"a", .int64⟩] 3
      [.ok ⟨2, ["1"]⟩, .ok ⟨3, ["x"]⟩, .error (.reported "lost"), .ok ⟨5, ["5"]⟩] taken after
      (.error (.cell 3 "a" (.int "x" .invalidDigit)))) ∧
    ∃ left, polls ⟨{ batchSize := 1 }, some ⟨[("t.csv", 0)], [.file "a:INT64\nx\n5\n".toUTF8.toList]⟩, []⟩ 3
      { columns := [⟨"a", .int64⟩], file := 0 } = answers [⟨"a", .int64⟩] 1 3 left := by
  obtain ⟨calls, polled⟩ := polls_answers
  constructor
  · obtain ⟨serves, _⟩ := calls [⟨"a", .int64⟩] 3 (by decide)
      [.ok ⟨2, ["1"]⟩, .ok ⟨3, ["x"]⟩, .error (.reported "lost"), .ok ⟨5, ["5"]⟩] 1
    rw [answers] at serves
    cases serves with
    | call served _ => exact ⟨_, _, served⟩
  · obtain ⟨left, _, same⟩ := polled
      ⟨{ batchSize := 1 }, some ⟨[("t.csv", 0)], [.file "a:INT64\nx\n5\n".toUTF8.toList]⟩, []⟩
      { columns := [⟨"a", .int64⟩], file := 0 } rfl
    exact ⟨left, same 3⟩

end FileStore

end Tabular
