import Tabular.Scalar

/-!
# Columns

The values of one column of a batch: all of one type, each a value or null.
-/

namespace Tabular

/-- A column: its type and its cells from the first row to the last. A null cell is `none`. -/
structure Column where
  type : ColumnType
  cells : List (Option type.Carrier)

namespace Column

instance : DecidableEq Column := fun a b =>
  match a, b with
  | ⟨t, v⟩, ⟨u, w⟩ =>
    if h : t = u then by
      subst h
      exact if k : v = w then .isTrue (k ▸ rfl)
        else .isFalse fun e => k (eq_of_heq (Column.mk.inj e).2)
    else .isFalse fun e => h (Column.mk.inj e).1

def length (c : Column) : Nat := c.cells.length

/-- A column that holds one scalar in each row. -/
def replicate (rows : Nat) (s : Scalar) : Column :=
  ⟨.sql s.type, List.replicate rows s.value⟩

/-- The column without cells. -/
def empty (type : ColumnType) : Column := ⟨type, []⟩

/-- The elements of a list whose mark is true. Both lists are read in step. -/
def selected {α : Type} : List Bool → List α → List α
  | true :: marks, x :: xs => x :: selected marks xs
  | false :: marks, _ :: xs => selected marks xs
  | _, _ => []

/-- The cells of the rows that are marked. -/
def select (marks : List Bool) (c : Column) : Column := ⟨c.type, selected marks c.cells⟩

/-- The text of each cell, with `NULL` for nulls. -/
def cellTexts (c : Column) : List String :=
  c.cells.map fun cell =>
    match cell with
    | some v => Value.cellText c.type v
    | none => "NULL"

@[simp] theorem length_replicate (rows : Nat) (s : Scalar) : (replicate rows s).length = rows := by
  simp [replicate, length]

/-- Marks select as many elements of a list as long as them as there are true ones. -/
theorem length_selected {α : Type} (marks : List Bool) (xs : List α)
    (h : marks.length = xs.length) : (selected marks xs).length = marks.count true := by
  induction marks generalizing xs with
  | nil => simp [selected]
  | cons m marks ih =>
    cases xs with
    | nil => simp at h
    | cons x xs => cases m <;> simp_all [selected]

theorem selected_sublist {α : Type} (marks : List Bool) (xs : List α) : (selected marks xs).Sublist xs := by
  induction marks generalizing xs with
  | nil => simp [selected]
  | cons m marks ih =>
    cases xs with
    | nil => simp [selected]
    | cons x xs =>
      cases m with
      | true => exact (ih xs).cons_cons x
      | false => exact (ih xs).cons x

/-- Marks that are all true select every element. -/
theorem selected_of_count {α : Type} {marks : List Bool} {xs : List α} (h : marks.length = xs.length)
    (all : marks.count true = xs.length) : selected marks xs = xs :=
  (selected_sublist marks xs).eq_of_length ((length_selected marks xs h).trans all)

end Column

end Tabular
