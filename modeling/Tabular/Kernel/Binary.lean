import Tabular.Kernel

/-!
# Binary operators on columns

What each operator does to two values, and how it is carried to columns: row by row, a null on
either side giving null, the first failing row deciding the error.
-/

namespace Tabular.Kernel

/-! ## Values -/

/-- The exact result of an integer operation; division drops the fraction. -/
def exactResult : ArithmeticOp → Int → Int → Int
  | .add, a, b => a + b
  | .sub, a, b => a - b
  | .mul, a, b => a * b
  | .div, a, b => a.tdiv b

/-- Whether an integer fits in 64 bits. -/
def fits (i : Int) : Bool := Int64.minValue.toInt ≤ i && i ≤ Int64.maxValue.toInt

/-- Integer arithmetic is exact or fails. -/
def intArithmetic (op : ArithmeticOp) (a b : Int64) : Except KernelError Int64 :=
  if op = .div ∧ b = 0 then .error .divisionByZero
  else
    let result := exactResult op a.toInt b.toInt
    if fits result then .ok (Int64.ofInt result) else .error (.overflow (.arithmetic op))

def floatArithmetic : ArithmeticOp → Double → Double → Double
  | .add => Double.add
  | .sub => Double.sub
  | .mul => Double.mul
  | .div => Double.div

/-- A function on two values of one type that gives values of a type or fails. -/
structure BinaryFunction (operand : DataType) where
  result : DataType
  apply : operand.Carrier → operand.Carrier → Except KernelError result.Carrier

/-- What an operator does to two values of a type, if it takes that type. -/
def meaning : Operator → (operand : DataType) → Option (BinaryFunction operand)
  | .arithmetic op, .int64 => some ⟨.int64, intArithmetic op⟩
  | .arithmetic op, .float64 => some ⟨.float64, fun a b => .ok (floatArithmetic op a b)⟩
  | .arithmetic _, .bool => none
  | .arithmetic _, .string => none
  | .comparison op, operand =>
    some ⟨.bool, fun a b => .ok (op.holds (Value.order operand a b))⟩
  | .logical op, .bool => some ⟨.bool, fun a b => .ok (op.apply a b)⟩
  | .logical _, .int64 => none
  | .logical _, .float64 => none
  | .logical _, .string => none

/-- An operator has a meaning exactly for the types it takes, and gives the type it should. -/
theorem resultType_eq_meaning (op : Operator) (operand : DataType) :
    op.resultType operand operand = (meaning op operand).map (·.result) := by
  cases op <;> cases operand <;> rfl

/-! ## Cells and columns -/

/-- A function carried to cells: a null on either side gives null. -/
def liftCell {α β ε : Type} (f : α → α → Except ε β) : Option α → Option α → Except ε (Option β)
  | some a, some b => (f a b).map some
  | _, _ => .ok none

/-- A function carried to two lists of cells, row by row. -/
def liftCells {α β ε : Type} (f : α → α → Except ε β) :
    List (Option α) → List (Option α) → Except ε (List (Option β))
  | a :: as, b :: bs => do
    let cell ← liftCell f a b
    let cells ← liftCells f as bs
    return cell :: cells
  | _, _ => .ok []

/-- An operator on two columns of one length and one type. -/
def binary (op : Operator) (left right : Column) : Except KernelError Column :=
  if left.length ≠ right.length then .error (.lengthMismatch left.length right.length)
  else match left, right with
    | ⟨.sql l, as⟩, ⟨.sql r, bs⟩ =>
      if h : r = l then
        match meaning op l with
        | some f => (liftCells f.apply as (h ▸ bs)).map (⟨.sql f.result, ·⟩)
        | none => .error (.typeMismatch op (.sql l) (.sql r))
      else .error (.typeMismatch op (.sql l) (.sql r))
    | ⟨l, _⟩, ⟨r, _⟩ => .error (.typeMismatch op l r)

end Tabular.Kernel
