import Tabular.Proofs.Columnwise

/-!
# Nulls on their way through an expression

The column of an expression is null on a row exactly if a constant or a column that the expression is computed
from is null there (`Bound.nullAt_iff`). So no operator takes a null back, not even `AND` beside false or `OR`
beside true, and nothing that is done to values makes one.
-/

namespace Tabular

/-- Rows on which a column is null. -/
def Column.NullAt (c : Column) (i : Nat) : Prop := c.cells[i]? = some none

theorem Column.nullAt_replicate {rows : Nat} {s : Scalar} {i : Nat} (inside : i < rows) :
    (replicate rows s).NullAt i ↔ s.value = none := by
  show (List.replicate rows s.value)[i]? = some none ↔ _
  simp [inside]

namespace Bound

/-- The constants and columns that an expression is computed from, from left to right. -/
def leaves : Bound → List Bound
  | constant value => [constant value]
  | column table name type => [column table name type]
  | input index type => [input index type]
  | binary _ left right _ => left.leaves ++ right.leaves
  | cast _ inner => inner.leaves

/-- Rows of a batch on which a leaf is null: all of them for a null constant, and those on which its column is
null for an input. -/
def LeafNullAt (b : Batch) (i : Nat) : Bound → Prop
  | constant s => s.value = none
  | input index _ => ∃ c, b.column? index = some c ∧ c.NullAt i
  | _ => False

end Bound

/-! ## Kernels -/

namespace Kernel

/-- Only two columns of one length and of one type that the operator takes come to a column. -/
theorem exists_of_binary {op : Operator} {left right c : Column} (done : binary op left right = .ok c) :
    ∃ (type : DataType) (f : BinaryFunction type) (as bs : List (Option type.Carrier))
        (cells : List (Option f.result.Carrier)),
      left = ⟨.sql type, as⟩ ∧ right = ⟨.sql type, bs⟩ ∧ as.length = bs.length ∧
      liftCells f.apply as bs = .ok cells ∧ c = ⟨.sql f.result, cells⟩ := by
  have same : left.length = right.length := by
    by_contra different
    simp [binary, different] at done
  obtain ⟨l | _, as⟩ := left
  · obtain ⟨r | _, bs⟩ := right
    · by_cases alike : r = l
      · subst alike
        cases takes : meaning op r with
        | none => simp [binary, same, takes] at done
        | some f =>
          rw [binary_of_meaning takes same] at done
          obtain ⟨cells, lifted, rfl⟩ := map_eq_ok.mp done
          exact ⟨r, f, as, bs, cells, rfl, rfl, same, lifted, rfl⟩
      · simp [binary, same, alike] at done
    · simp [binary, same] at done
  · simp [binary, same] at done

theorem nullAt_of_binary {op : Operator} {left right c : Column} (done : binary op left right = .ok c) :
    c.length = left.length ∧ ∀ i, c.NullAt i ↔ left.NullAt i ∨ right.NullAt i := by
  obtain ⟨type, f, as, bs, cells, rfl, rfl, same, lifted, rfl⟩ := exists_of_binary done
  have cellwise := lifted_of_liftCells same lifted
  exact ⟨cellwise.length, cellwise.null⟩

theorem convertCell_eq_none {α β ε : Type} {f : α → Except ε β} {cell : Option α} {out : Option β}
    (done : convertCell f cell = .ok out) : out = none ↔ cell = none := by
  cases cell with
  | none => simpa [convertCell] using done.symm
  | some a =>
    obtain ⟨b, _, rfl⟩ := map_eq_ok.mp done
    simp

theorem null_of_convertCells {α β ε : Type} {f : α → Except ε β} {cells : List (Option α)}
    {converted : List (Option β)} (done : convertCells f cells = .ok converted) :
    converted.length = cells.length ∧ ∀ i : Nat, converted[i]? = some none ↔ cells[i]? = some none := by
  rw [convertCells_eq_mapM, mapM_eq_ok_iff_forall₂] at done
  refine ⟨done.length_eq.symm, ?_⟩
  intro i
  by_cases inside : i < cells.length
  · have here := convertCell_eq_none (done.get inside (done.length_eq ▸ inside))
    simpa [inside, done.length_eq ▸ inside] using here
  · simp [inside, done.length_eq ▸ inside]

theorem nullAt_of_cast {column c : Column} {target : DataType} (done : cast column target = .ok c) :
    c.length = column.length ∧ ∀ i, c.NullAt i ↔ column.NullAt i := by
  obtain ⟨source | _, cells⟩ := column
  · by_cases same : source = target
    · rw [cast, if_pos same] at done
      cases done
      exact ⟨rfl, fun i => Iff.rfl⟩
    · rw [cast, if_neg same] at done
      split at done
      · cases done
      · split at done
        · cases done
        · split at done
          · rename_i converted convertible
            cases done
            exact null_of_convertCells convertible
          · cases done
  · cases done

end Kernel

/-! ## Expressions -/

namespace Bound

variable {b : Batch} {e : Bound} {c : Column}

/-- A column of an expression has an entry for each row, and it is null exactly on the rows on which a leaf of
the expression is null. -/
theorem nullAt_iff (done : e.eval b = .ok c) :
    c.length = b.rowCount ∧ ∀ i < b.rowCount, c.NullAt i ↔ ∃ leaf ∈ e.leaves, leaf.LeafNullAt b i := by
  induction e generalizing c with
  | constant s =>
    cases done
    refine ⟨Column.length_replicate _ _, fun i inside => ?_⟩
    simp [Column.nullAt_replicate inside, leaves, LeafNullAt]
  | column table name type => cases done
  | input index type =>
    cases there : b.column? index with
    | none => simp [eval, there] at done
    | some stored =>
      simp only [eval, there, Except.ok.injEq] at done
      subst done
      obtain ⟨named, found, rfl⟩ := Option.map_eq_some_iff.mp there
      refine ⟨b.aligned named (List.mem_of_getElem? found), fun i _ => ?_⟩
      simp [leaves, LeafNullAt, there]
  | binary op left right type ihl ihr =>
    obtain ⟨l, onLeft, rest⟩ := bind_eq_ok.mp done
    obtain ⟨r, onRight, computed⟩ := bind_eq_ok.mp rest
    obtain ⟨count, null⟩ := Kernel.nullAt_of_binary (mapError_eq_ok.mp computed)
    obtain ⟨leftCount, leftNull⟩ := ihl onLeft
    obtain ⟨_, rightNull⟩ := ihr onRight
    refine ⟨count.trans leftCount, fun i inside => ?_⟩
    rw [null, leftNull i inside, rightNull i inside, leaves]
    simp only [List.mem_append, or_and_right, exists_or]
  | cast target inner ih =>
    obtain ⟨stored, onInner, computed⟩ := bind_eq_ok.mp done
    obtain ⟨count, null⟩ := Kernel.nullAt_of_cast (mapError_eq_ok.mp computed)
    obtain ⟨innerCount, innerNull⟩ := ih onInner
    refine ⟨count.trans innerCount, fun i inside => ?_⟩
    rw [null, innerNull i inside, leaves]

end Bound

namespace Sample

/-- True, or else whether the first column is below the second. -/
def decided : Bound := .binary .or (.constant (.ofBool true)) (.binary .lt (.input 0 .int64) (.input 1 .int64) .bool) .bool

end Sample

namespace Bound

theorem nullAt_iff_decided : ∃ c, Sample.decided.eval Sample.pairs = .ok c ∧
    c = ⟨.sql .bool, [some true, some true, none]⟩ ∧
    ∀ i < 3, c.NullAt i ↔ ∃ leaf ∈ Sample.decided.leaves, leaf.LeafNullAt Sample.pairs i := by
  have done : Sample.decided.eval Sample.pairs = .ok ⟨.sql .bool, [some true, some true, none]⟩ := by rfl
  exact ⟨_, done, rfl, (nullAt_iff done).2⟩

end Bound

end Tabular
