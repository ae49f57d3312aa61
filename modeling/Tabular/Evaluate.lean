import Tabular.Bound
import Tabular.Kernel.Cast
import Tabular.Storage

/-!
# Evaluation

The values of a resolved expression over the rows of a batch, computed a column at a time.
-/

namespace Tabular

/-- A state that a checked plan over a well-behaved store does not reach. -/
inductive InternalFault where
  | inputOutOfRange (index columns : Nat)
  | unresolvedColumn (name : String)
  /-- A fault that the source of the batches describes itself. -/
  | reported (text : String)
  deriving DecidableEq

/-- The wording of an internal fault. -/
def InternalFault.message : InternalFault → String
  | inputOutOfRange index columns =>
    s!"input #{index} out of range for a batch of {columns} columns"
  | unresolvedColumn name => "unresolved column " ++ name ++ " reached evaluation"
  | reported text => text

/-- What can go wrong while a query runs. -/
inductive ExecError where
  | storage (e : StorageError)
  | kernel (e : KernelError)
  | internal (fault : InternalFault)
  deriving DecidableEq

/-- The wording of an error of a running query. -/
def ExecError.message : ExecError → String
  | storage e => e.message
  | kernel e => e.message
  | internal fault => "internal error: " ++ fault.message

namespace Bound

/-- The column of an expression's values over a batch. The left operand is computed before the
right. -/
def eval (b : Batch) : Bound → Except ExecError Column
  | constant value => .ok (.replicate b.rowCount value)
  | input index _ =>
    match b.column? index with
    | some c => .ok c
    | none => .error (.internal (.inputOutOfRange index b.columns.length))
  | column table name _ => .error (.internal (.unresolvedColumn (qualifiedName table name)))
  | binary op left right _ => do
    let left ← left.eval b
    let right ← right.eval b
    (Kernel.binary op left right).mapError .kernel
  | cast target inner => do
    let inner ← inner.eval b
    (Kernel.cast inner target).mapError .kernel

/-- The name that the values of an expression have by themselves: the name of the column it reads,
or its text. -/
def ownName (b : Batch) : Bound → String
  | e@(input index _) => ((b.columns[index]?).map (·.name)).getD e.text
  | e => e.text

/-- The values of an expression under the name they have by themselves. -/
def evalNamed (b : Batch) (e : Bound) : Except ExecError NamedColumn :=
  (e.eval b).map (⟨e.ownName b, ·⟩)

end Bound

end Tabular
