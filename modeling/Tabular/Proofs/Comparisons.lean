import Tabular.Proofs.Cellwise

/-!
# Comparisons

The six comparisons on the columns of a type are those of one total order on its values, also on floats, where NaNs
and both zeros have their places in it (`Kernel.comparisons_total`).
-/

namespace Tabular

namespace ComparisonOp

variable {o : Ordering}

theorem holds_lt : lt.holds o = true ↔ o = .lt := beq_iff_eq

theorem holds_eq : eq.holds o = true ↔ o = .eq := beq_iff_eq

theorem holds_gt : gt.holds o = true ↔ o = .gt := beq_iff_eq

theorem holds_ne : ne.holds o = true ↔ ¬ o = .eq := bne_iff_ne

theorem holds_le : le.holds o = true ↔ o = .lt ∨ o = .eq := by
  cases o <;> decide

theorem holds_ge : ge.holds o = true ↔ o = .gt ∨ o = .eq := by
  cases o <;> decide

end ComparisonOp

namespace Kernel

open ComparisonOp

/-! ## One order -/

/-- What six comparisons of values must be to come from one total order. -/
structure TotalOrder {α : Type} (holds : ComparisonOp → α → α → Prop) : Prop where
  one : ∀ a b, holds .lt a b ∧ ¬ holds .eq a b ∧ ¬ holds .gt a b ∨
    ¬ holds .lt a b ∧ holds .eq a b ∧ ¬ holds .gt a b ∨
    ¬ holds .lt a b ∧ ¬ holds .eq a b ∧ holds .gt a b
  le : ∀ a b, holds .le a b ↔ holds .lt a b ∨ holds .eq a b
  ge : ∀ a b, holds .ge a b ↔ holds .gt a b ∨ holds .eq a b
  ne : ∀ a b, holds .ne a b ↔ ¬ holds .eq a b
  swap : ∀ a b, holds .lt a b ↔ holds .gt b a
  lt_trans : ∀ a b c, holds .lt a b → holds .lt b c → holds .lt a c
  same : ∀ a b, holds .eq a b ↔ a = b
  equivalence : Equivalence (holds .eq)

/-- Comparisons that are read off a lawful order are those of a total order. -/
theorem totalOrder_of_lawful {α : Type} (order : α → α → Ordering) [Std.TransCmp order] [Std.LawfulEqCmp order] :
    TotalOrder fun op a b => op.holds (order a b) = true where
  one a b := by
    simp only [holds_lt, holds_eq, holds_gt]
    cases order a b <;> simp
  le _ _ := by simp only [holds_le, holds_lt, holds_eq]
  ge _ _ := by simp only [holds_ge, holds_gt, holds_eq]
  ne _ _ := by simp only [holds_ne, holds_eq]
  swap _ _ := by
    simp only [holds_lt, holds_gt]
    exact Std.OrientedCmp.gt_iff_lt.symm
  lt_trans _ _ _ := by
    simp only [holds_lt]
    exact Std.TransCmp.lt_trans
  same _ _ := by
    rw [holds_eq]
    exact Std.LawfulEqCmp.compare_eq_iff_eq
  equivalence := by
    simp only [holds_eq, Std.LawfulEqCmp.compare_eq_iff_eq]
    exact eq_equivalence

/-! ## The order of a type -/

theorem orderKey_injective : Function.Injective Double.orderKey := by
  intro x y same
  have power : (1 <<< 63 : Nat) = 2 ^ 63 := by decide
  have left := x.bits.toNat_lt
  have right := y.bits.toNat_lt
  have bits : x.bits.toNat = y.bits.toNat := by
    simp only [Double.orderKey, Double.isNegative, Double.code, power, decide_eq_true_iff] at same
    split at same <;> split at same <;> omega
  cases x
  cases y
  exact congrArg Double.mk (UInt64.toNat_inj.mp bits)

theorem lawfulEqCmp_compareOn {α β : Type} [Ord β] [Std.LawfulEqOrd β] {key : α → β}
    (injective : Function.Injective key) : Std.LawfulEqCmp (compareOn key) where
  compare_self {a} := @Std.ReflCmp.compare_self β compare _ (key a)
  eq_of_compare same := injective (Std.LawfulEqCmp.eq_of_compare same)

instance (type : DataType) : Std.TransCmp (Value.order type) :=
  match type with
  | .int64 => inferInstanceAs (Std.TransCmp (compareOn Int64.toInt))
  | .float64 => inferInstanceAs (Std.TransCmp (compareOn Double.orderKey))
  | .bool => inferInstanceAs (Std.TransCmp (compareOn Bool.toNat))
  | .string => inferInstanceAs (Std.TransCmp (compare : String → String → Ordering))

instance (type : DataType) : Std.LawfulEqCmp (Value.order type) :=
  match type with
  | .int64 => lawfulEqCmp_compareOn fun _ _ => Int64.toInt_inj.mp
  | .float64 => lawfulEqCmp_compareOn orderKey_injective
  | .bool => lawfulEqCmp_compareOn fun a b => by cases a <;> cases b <;> decide
  | .string => inferInstanceAs (Std.LawfulEqCmp (compare : String → String → Ordering))

/-! ## Columns -/

/-- A comparison is true of two values if it gives true for the columns of one row that hold them. -/
def Compares (type : DataType) (op : ComparisonOp) (a b : type.Carrier) : Prop :=
  binary (.comparison op) ⟨.sql type, [some a]⟩ ⟨.sql type, [some b]⟩ = .ok ⟨.sql .bool, [some true]⟩

theorem binary_comparison (type : DataType) (op : ComparisonOp) {left right : List (Option type.Carrier)}
    (same : left.length = right.length) :
    binary (.comparison op) ⟨.sql type, left⟩ ⟨.sql type, right⟩ =
      (liftCells (fun a b => .ok (op.holds (Value.order type a b))) left right).map (Column.mk (.sql .bool)) := by
  have takes : meaning (.comparison op) type = some ⟨.bool, fun a b => .ok (op.holds (Value.order type a b))⟩ := by
    cases type <;> rfl
  exact binary_of_meaning takes same

theorem compares_iff {type : DataType} {op : ComparisonOp} {a b : type.Carrier} :
    Compares type op a b ↔ op.holds (Value.order type a b) = true := by
  have same : [some a].length = [some b].length := rfl
  have row : liftCells (fun a b => .ok (op.holds (Value.order type a b))) [some a] [some b] =
    (.ok [some (op.holds (Value.order type a b))] : Except KernelError (List (Option Bool))) := rfl
  rw [Compares, binary_comparison type op same, row]
  simp [Except.map]

theorem totalOrder_compares (type : DataType) : TotalOrder (Compares type) := by
  have law := totalOrder_of_lawful (Value.order type)
  have read : Compares type = fun op a b => op.holds (Value.order type a b) = true := by
    funext op a b
    exact propext compares_iff
  rwa [read]

-- A negative NaN, negative infinity, both zeros, infinity, a NaN.
example : List.Pairwise (fun a b => Value.order .float64 a b = .lt)
    [⟨0xfff8000000000000⟩, ⟨0xfff0000000000000⟩, ⟨0x8000000000000000⟩, ⟨0⟩, ⟨0x7ff0000000000000⟩,
      ⟨0x7ff8000000000000⟩] := by
  decide

/-- Two columns of one type and one length are compared by every comparison without an error. The result is null where
either side is and elsewhere tells whether the comparison is true of the two values; and what the six comparisons are
true of is one total order on the values of the type. -/
theorem comparisons_total (type : DataType) {left right : List (Option type.Carrier)}
    (same : left.length = right.length) :
    (∀ op, ∃ cells : List (Option Bool),
      binary (.comparison op) ⟨.sql type, left⟩ ⟨.sql type, right⟩ = .ok ⟨.sql .bool, cells⟩ ∧
      cells.length = left.length ∧
      (∀ i : Nat, cells[i]? = some none ↔ left[i]? = some none ∨ right[i]? = some none) ∧
      ∀ i a b, Beside left right i a b → ∃ v, cells[i]? = some (some v) ∧ (v = true ↔ Compares type op a b)) ∧
    TotalOrder (Compares type) := by
  refine ⟨fun op => ?_, totalOrder_compares type⟩
  rw [binary_comparison type op same]
  cases done : liftCells (fun a b => .ok (op.holds (Value.order type a b))) left right with
  | error e =>
    obtain ⟨_, _, _, _, impossible, _⟩ := (liftCells_eq_error_iff same).mp done
    cases impossible
  | ok cells =>
    have lifted := lifted_of_liftCells same done
    refine ⟨cells, rfl, lifted.length, lifted.null, fun i a b both => ?_⟩
    obtain ⟨v, stored, value⟩ := lifted.value i a b both
    cases value
    exact ⟨_, stored, compares_iff.symm⟩

/-- A NaN stands above infinity, and `-0.0` below `0.0`. -/
theorem comparisons_total_float :
    ¬ Compares .float64 .lt ⟨0x7ff8000000000000⟩ ⟨0x7ff0000000000000⟩ ∧
    Compares .float64 .lt ⟨0x8000000000000000⟩ ⟨0⟩ := by
  obtain ⟨compared, _⟩ := @comparisons_total .float64 [some ⟨0x7ff8000000000000⟩, none, some ⟨0x8000000000000000⟩]
    [some ⟨0x7ff0000000000000⟩, some ⟨0x7ff8000000000000⟩, some ⟨0⟩] rfl
  obtain ⟨cells, done, _, _, value⟩ := compared .lt
  cases done
  constructor
  · obtain ⟨v, stored, tells⟩ := value 0 _ _ ⟨rfl, rfl⟩
    cases stored
    rw [← tells]
    decide
  · obtain ⟨v, stored, tells⟩ := value 2 _ _ ⟨rfl, rfl⟩
    cases stored
    rw [← tells]
    decide

end Kernel

end Tabular
