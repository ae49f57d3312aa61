import Tabular.Batch
import Tabular.Delimited.Cell
import Tabular.Delimited.Record

/-!
# Storage

Where batches come from. A feed answers polls from a cursor, with a batch, the end or an error, and
every batch brings it closer to having none left. A store opens a cursor on each of its tables.
-/

namespace Tabular

/-- Why rows do not fit a table. -/
inductive SchemaFault where
  | batch (fault : BatchFault)
  | recordWidth (cells columns : Nat)
  | columnType (path : String) (fault : DataType.UnknownName)
  /-- A fault that the store describes itself. -/
  | reported (text : String)
  deriving DecidableEq

/-- The wording of a schema fault. -/
def SchemaFault.message : SchemaFault → String
  | batch fault => "Invalid argument error: " ++ fault.message
  | recordWidth cells columns => s!"record has {cells} fields, table has {columns} columns"
  | columnType path fault => path ++ ": " ++ fault.message
  | reported text => text

/-- What can go wrong in a store. -/
inductive StorageError where
  | tableNotFound (id : TableId)
  | io (path : String) (fault : SystemFault)
  | record (fault : Delimited.RecordFault)
  | cell (line : Nat) (column : String) (fault : Delimited.CellFault)
  | schema (fault : SchemaFault)
  deriving DecidableEq

/-- The wording of a storage error. -/
def StorageError.message : StorageError → String
  | tableNotFound id => "table not found: " ++ id.text
  | io path fault => "I/O error on " ++ path ++ ": " ++ fault.text
  | record fault => "CSV error: " ++ fault.message
  | cell line column fault =>
    s!"parse error at line {line}, column '" ++ column ++ "': " ++ fault.message
  | schema fault => "schema error: " ++ fault.message

/-- A way to draw batches from cursors. Polling a cursor gives a batch, the end or an error, and a
new cursor. A batch leaves less to come. -/
structure Feed (ε κ : Type) where
  poll : κ → Except ε (Option Batch) × κ
  remaining : κ → Nat
  remaining_lt : ∀ {c : κ} {b : Batch} {next : κ},
    poll c = (.ok (some b), next) → remaining next < remaining c

namespace Feed

variable {ε φ κ : Type}

/-- The same batches with other errors. -/
def mapError (f : ε → φ) (feed : Feed ε κ) : Feed φ κ where
  poll c := ((feed.poll c).1.mapError f, (feed.poll c).2)
  remaining := feed.remaining
  remaining_lt := by
    intro c b next h
    refine feed.remaining_lt (b := b) ?_
    revert h
    rcases feed.poll c with ⟨_ | _, _⟩
    · rintro ⟨⟩
    · rintro ⟨⟩
      rfl

/-- The feed of a list of answers, followed by ends. -/
def ofAnswers : Feed ε (List (Except ε (Option Batch))) where
  poll
    | [] => (.ok none, [])
    | answer :: rest => (answer, rest)
  remaining := List.length
  remaining_lt := by
    intro c b next h
    cases c with
    | nil => simp at h
    | cons answer rest =>
      simp only [Prod.mk.injEq] at h
      simp [h.2]

/-- The feed of a list of batches. -/
def ofBatches : Feed ε (List Batch) where
  poll
    | [] => (.ok none, [])
    | b :: rest => (.ok (some b), rest)
  remaining := List.length
  remaining_lt := by
    intro c b next h
    cases c with
    | nil => simp at h
    | cons answer rest =>
      simp only [Prod.mk.injEq] at h
      simp [h.2]

/-- The feed that counts its polls. -/
def counted (feed : Feed ε κ) : Feed ε (κ × Nat) where
  poll c := ((feed.poll c.1).1, ((feed.poll c.1).2, c.2 + 1))
  remaining c := feed.remaining c.1
  remaining_lt := by
    intro c b next h
    simp only [Prod.mk.injEq] at h
    refine feed.remaining_lt (b := b) ?_
    rw [← h.2]
    exact Prod.ext h.1 rfl

end Feed

/-- A store of tables: opens cursors on tables and feeds from them. What a cursor gives may depend
on the store at the time of the poll. -/
class Storage (S : Type) (κ : outParam Type) where
  openRead : S → TableId → Except StorageError κ
  feed : S → Feed StorageError κ

end Tabular
