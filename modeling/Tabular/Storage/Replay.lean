import Tabular.Storage

/-!
# Replayed tables

A store that gives out answers written down before: it shows how a query behaves over a store that
fails or misbehaves in a given way.
-/

namespace Tabular

/-- An answer to a poll. -/
abbrev Answer : Type := Except StorageError (Option Batch)

/-- A table of answers: it may refuse to be read. -/
structure ReplayTable where
  id : TableId
  answers : Except StorageError (List Answer)

/-- A store that gives out written answers. -/
structure Replay where
  tables : List ReplayTable

/-- Every read of a table gives its answers from the first. -/
def Replay.read (r : Replay) (id : TableId) : Except StorageError (List Answer) :=
  match r.tables.find? (·.id == id) with
  | some t => t.answers
  | none => .error (.tableNotFound id)

instance : Storage Replay (List Answer) where
  openRead := Replay.read
  feed _ := Feed.ofAnswers

end Tabular
