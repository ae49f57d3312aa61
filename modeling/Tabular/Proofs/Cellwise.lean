import Tabular.Kernel.Binary
import Tabular.Proofs.Outcome

/-!
# Cell by cell

What an operator does to two columns, read position by position. Where a null stands on either side there is a null,
elsewhere the value of what stands there (`Lifted`); and the first position at which there is no value decides the
error (`liftCells_eq_error_iff`).
-/

namespace Tabular.Kernel

variable {α β ε : Type} {f : α → α → Except ε β} {left right : List (Option α)}

/-- Two values that stand at one position of two columns. -/
def Beside (left right : List (Option α)) (i : Nat) (a b : α) : Prop :=
  left[i]? = some (some a) ∧ right[i]? = some (some b)

/-- Cells that a function gives for two columns: null where there is a null, and its value where there are two. -/
structure Lifted (f : α → α → Except ε β) (left right : List (Option α)) (cells : List (Option β)) : Prop where
  length : cells.length = left.length
  null : ∀ i : Nat, cells[i]? = some none ↔ left[i]? = some none ∨ right[i]? = some none
  value : ∀ (i : Nat) a b, Beside left right i a b → ∃ c, cells[i]? = some (some c) ∧ f a b = .ok c

theorem beside_zero {a b : Option α} {x y : α} :
    Beside (a :: left) (b :: right) 0 x y ↔ a = some x ∧ b = some y := by
  simp [Beside]

theorem beside_succ {a b : Option α} {i : Nat} {x y : α} :
    Beside (a :: left) (b :: right) (i + 1) x y ↔ Beside left right i x y := by
  simp [Beside]

theorem liftCell_eq_ok {a b : Option α} {c : Option β} (done : liftCell f a b = .ok c) :
    (c = none ↔ a = none ∨ b = none) ∧ ∀ x y, a = some x → b = some y → ∃ z, c = some z ∧ f x y = .ok z := by
  cases a with
  | none =>
    cases done
    simp
  | some x =>
    cases b with
    | none =>
      cases done
      simp
    | some y =>
      obtain ⟨z, value, rfl⟩ := map_eq_ok.mp done
      simp [value]

theorem liftCell_eq_error {a b : Option α} {e : ε} :
    liftCell f a b = .error e ↔ ∃ x y, a = some x ∧ b = some y ∧ f x y = .error e := by
  cases a with
  | none => simp [liftCell]
  | some x =>
    cases b with
    | none => simp [liftCell]
    | some y => simp [liftCell, map_eq_error]

theorem liftCells_cons (a b : Option α) (left right : List (Option α)) :
    liftCells f (a :: left) (b :: right) = liftCell f a b >>= fun c => (liftCells f left right).map (c :: ·) := by
  rw [liftCells]
  cases liftCells f left right <;> rfl

theorem lifted_of_liftCells (same : left.length = right.length) {cells : List (Option β)}
    (done : liftCells f left right = .ok cells) : Lifted f left right cells := by
  induction left generalizing right cells with
  | nil =>
    cases done
    obtain rfl := List.length_eq_zero_iff.mp same.symm
    exact ⟨rfl, by simp, by simp [Beside]⟩
  | cons a left ih =>
    cases right with
    | nil => cases same
    | cons b right =>
      rw [liftCells_cons] at done
      obtain ⟨c, first, rest⟩ := bind_eq_ok.mp done
      obtain ⟨cells, others, rfl⟩ := map_eq_ok.mp rest
      have further := ih (Nat.succ.inj same) others
      obtain ⟨null, value⟩ := liftCell_eq_ok first
      refine ⟨congrArg Nat.succ further.length, fun i => ?_, fun i x y both => ?_⟩
      · cases i with
        | zero => simpa using null
        | succ i => simpa using further.null i
      · cases i with
        | zero =>
          obtain ⟨onLeft, onRight⟩ := beside_zero.mp both
          simpa using value x y onLeft onRight
        | succ i => simpa using further.value i x y (beside_succ.mp both)

/-- The first two values for which there is none decide the error. -/
theorem liftCells_eq_error_iff (same : left.length = right.length) {e : ε} :
    liftCells f left right = .error e ↔ ∃ i a b, Beside left right i a b ∧ f a b = .error e ∧
      ∀ j < i, ∀ x y, Beside left right j x y → ∃ c, f x y = .ok c := by
  induction left generalizing right with
  | nil => simp [liftCells, Beside]
  | cons a left ih =>
    cases right with
    | nil => cases same
    | cons b right =>
      have tail := ih (Nat.succ.inj same)
      rw [liftCells_cons, bind_eq_error]
      constructor
      · rintro (first | ⟨c, first, rest⟩)
        · obtain ⟨x, y, onLeft, onRight, fails⟩ := liftCell_eq_error.mp first
          exact ⟨0, x, y, beside_zero.mpr ⟨onLeft, onRight⟩, fails, by simp⟩
        · obtain ⟨i, x, y, both, fails, before⟩ := tail.mp (map_eq_error.mp rest)
          refine ⟨i + 1, x, y, beside_succ.mpr both, fails, fun j earlier x y here => ?_⟩
          cases j with
          | zero =>
            obtain ⟨onLeft, onRight⟩ := beside_zero.mp here
            obtain ⟨z, _, value⟩ := (liftCell_eq_ok first).2 x y onLeft onRight
            exact ⟨z, value⟩
          | succ j => exact before j (by omega) x y (beside_succ.mp here)
      · rintro ⟨i, x, y, both, fails, before⟩
        cases i with
        | zero =>
          obtain ⟨onLeft, onRight⟩ := beside_zero.mp both
          exact Or.inl (liftCell_eq_error.mpr ⟨x, y, onLeft, onRight, fails⟩)
        | succ i =>
          cases first : liftCell f a b with
          | error e =>
            obtain ⟨x, y, onLeft, onRight, impossible⟩ := liftCell_eq_error.mp first
            obtain ⟨c, value⟩ := before 0 (Nat.zero_lt_succ i) x y (beside_zero.mpr ⟨onLeft, onRight⟩)
            rw [value] at impossible
            cases impossible
          | ok c =>
            refine Or.inr ⟨c, rfl, map_eq_error.mpr (tail.mpr ⟨i, x, y, beside_succ.mp both, fails, ?_⟩)⟩
            exact fun j earlier x y here => before (j + 1) (by omega) x y (beside_succ.mpr here)

/-- An operator on two columns of one length and of a type that it takes. -/
theorem binary_of_meaning {op : Operator} {type : DataType} {f : BinaryFunction type} (takes : meaning op type = some f)
    {left right : List (Option type.Carrier)} (same : left.length = right.length) :
    binary op ⟨.sql type, left⟩ ⟨.sql type, right⟩ =
      (liftCells f.apply left right).map (Column.mk (.sql f.result)) := by
  simp [binary, Column.length, same, takes]

end Tabular.Kernel
