import Mathlib.Data.Rat.Floor
import Tabular.Proofs.Cellwise

/-!
# Exact integers

Arithmetic on columns of integers of 64 bits is that of whole numbers, or it fails: an operator gives the results
where all of them exist and fit, and else the error of the first that does not (`Kernel.binary_arithmetic`).
-/

namespace Tabular.Kernel

/-! ## Whole numbers -/

/-- A fraction without what stands behind its point. -/
def towardZero (x : ℚ) : ℤ := if 0 ≤ x then ⌊x⌋ else ⌈x⌉

/-- What an operation on whole numbers comes to. A division keeps no fraction, and there is none by zero. -/
def result? : ArithmeticOp → ℤ → ℤ → Option ℤ
  | .add, a, b => some (a + b)
  | .sub, a, b => some (a - b)
  | .mul, a, b => some (a * b)
  | .div, a, b => if b = 0 then none else some (towardZero (a / b))

/-- Two integers on which an operation has a result of 64 bits. -/
def Exact (op : ArithmeticOp) (a b : Int64) : Prop :=
  ∃ n, result? op a.toInt b.toInt = some n ∧ -2 ^ 63 ≤ n ∧ n < 2 ^ 63

/-- What is wrong with an operation on two integers. -/
inductive Offends : ArithmeticOp → Int64 → Int64 → KernelError → Prop
  | zero {a b : Int64} (none : b = 0) : Offends .div a b .divisionByZero
  | overflow {op : ArithmeticOp} {a b : Int64} {n : ℤ} (result : result? op a.toInt b.toInt = some n)
      (outside : n < -2 ^ 63 ∨ 2 ^ 63 ≤ n) : Offends op a b (.overflow (.arithmetic op))

theorem towardZero_div_natCast (a : ℤ) (d : ℕ) : towardZero (a / d) = a.tdiv d := by
  by_cases sign : 0 ≤ a
  · have nonneg : (0 : ℚ) ≤ a / d := div_nonneg (by exact_mod_cast sign) (Nat.cast_nonneg d)
    rw [towardZero, if_pos nonneg, Rat.floor_intCast_div_natCast, Int.tdiv_eq_ediv_of_nonneg sign]
  · have negative : a < 0 := not_le.mp sign
    have opposite : a.tdiv d = -(-a / d) := by
      rw [← Int.tdiv_eq_ediv_of_nonneg (by omega), Int.neg_tdiv, neg_neg]
    by_cases zero : d = 0
    · simp [zero, towardZero]
    · have below : ¬ (0 : ℚ) ≤ a / d := by
        rw [not_le]
        exact div_neg_of_neg_of_pos (by exact_mod_cast negative) (by positivity)
      rw [towardZero, if_neg below, Rat.ceil_intCast_div_natCast, opposite]

theorem towardZero_div (a b : ℤ) : towardZero (a / b) = a.tdiv b := by
  obtain ⟨d, rfl | rfl⟩ := b.eq_nat_or_neg
  · exact_mod_cast towardZero_div_natCast a d
  · have other := towardZero_div_natCast (-a) d
    rw [Int.neg_tdiv, ← Int.tdiv_neg] at other
    rw [← other]
    push_cast
    rw [div_neg, neg_div]

/-- An operation has its result unless it is a division by zero. -/
theorem result?_cases (op : ArithmeticOp) (a b : ℤ) :
    op = .div ∧ b = 0 ∧ result? op a b = none ∨
    ¬ (op = .div ∧ b = 0) ∧ result? op a b = some (exactResult op a b) := by
  cases op with
  | add => exact Or.inr ⟨by simp, rfl⟩
  | sub => exact Or.inr ⟨by simp, rfl⟩
  | mul => exact Or.inr ⟨by simp, rfl⟩
  | div =>
    by_cases zero : b = 0
    · exact Or.inl ⟨rfl, zero, if_pos zero⟩
    · exact Or.inr ⟨by simp [zero], by rw [result?, if_neg zero, towardZero_div, exactResult]⟩

/-! ## Integers of 64 bits -/

theorem fits_iff {n : ℤ} : fits n = true ↔ -2 ^ 63 ≤ n ∧ n < 2 ^ 63 := by
  have low : Int64.minValue.toInt = -2 ^ 63 := rfl
  have high : Int64.maxValue.toInt = 2 ^ 63 - 1 := rfl
  rw [fits, Bool.and_eq_true, decide_eq_true_iff, decide_eq_true_iff, low, high]
  omega

theorem fits_toInt (i : Int64) : fits i.toInt = true :=
  fits_iff.mpr ⟨i.le_toInt, i.toInt_lt⟩

theorem toInt_ofInt_of_fits {i : Int} (inside : fits i = true) : (Int64.ofInt i).toInt = i := by
  obtain ⟨low, high⟩ := fits_iff.mp inside
  exact Int64.toInt_ofInt_of_le low high

variable {op : ArithmeticOp} {a b c : Int64}

theorem toInt_eq_zero_iff : b.toInt = 0 ↔ b = 0 := by
  rw [← Int64.toInt_zero, Int64.toInt_inj]

theorem intArithmetic_of_none (none : result? op a.toInt b.toInt = none) :
    op = .div ∧ b = 0 ∧ intArithmetic op a b = .error .divisionByZero := by
  rcases result?_cases op a.toInt b.toInt with ⟨rfl, zero, _⟩ | ⟨_, given⟩
  · rw [toInt_eq_zero_iff] at zero
    exact ⟨rfl, zero, if_pos ⟨rfl, zero⟩⟩
  · cases given.symm.trans none

theorem intArithmetic_of_some {n : ℤ} (result : result? op a.toInt b.toInt = some n) :
    intArithmetic op a b = if fits n then .ok (Int64.ofInt n) else .error (.overflow (.arithmetic op)) := by
  rcases result?_cases op a.toInt b.toInt with ⟨_, _, none⟩ | ⟨nonzero, given⟩
  · cases none.symm.trans result
  · rw [toInt_eq_zero_iff] at nonzero
    obtain rfl := Option.some.inj (given.symm.trans result)
    exact if_neg nonzero

theorem intArithmetic_eq_ok_iff : intArithmetic op a b = .ok c ↔ result? op a.toInt b.toInt = some c.toInt := by
  cases result : result? op a.toInt b.toInt with
  | none => simp [(intArithmetic_of_none result).2.2]
  | some n =>
    rw [intArithmetic_of_some result, Option.some_inj]
    by_cases inside : fits n = true
    · rw [if_pos inside, Except.ok.injEq, ← Int64.toInt_inj, toInt_ofInt_of_fits inside]
    · rw [if_neg inside]
      constructor
      · nofun
      · rintro rfl
        exact absurd (fits_toInt c) inside

theorem exists_intArithmetic_iff : (∃ c, intArithmetic op a b = .ok c) ↔ Exact op a b := by
  constructor
  · rintro ⟨c, done⟩
    exact ⟨c.toInt, intArithmetic_eq_ok_iff.mp done, c.le_toInt, c.toInt_lt⟩
  · rintro ⟨n, result, inside⟩
    refine ⟨Int64.ofInt n, intArithmetic_eq_ok_iff.mpr ?_⟩
    rw [result, toInt_ofInt_of_fits (fits_iff.mpr inside)]

theorem intArithmetic_eq_error_iff {e : KernelError} : intArithmetic op a b = .error e ↔ Offends op a b e := by
  constructor
  · intro failed
    cases result : result? op a.toInt b.toInt with
    | none =>
      obtain ⟨rfl, zero, byZero⟩ := intArithmetic_of_none result
      cases byZero.symm.trans failed
      exact .zero zero
    | some n =>
      rw [intArithmetic_of_some result] at failed
      by_cases inside : fits n = true
      · rw [if_pos inside] at failed
        cases failed
      · rw [if_neg inside] at failed
        cases failed
        rw [fits_iff] at inside
        exact .overflow result (by omega)
  · intro offends
    cases offends with
    | zero none => exact if_pos ⟨rfl, none⟩
    | overflow result outside =>
      rw [intArithmetic_of_some result]
      refine if_neg fun inside => ?_
      rw [fits_iff] at inside
      omega

/-! ## Columns -/

/-- Arithmetic on two columns of integers is exact or fails. It gives a column if there is a result of 64 bits at every
position where both sides have a value; the column is null where either side is and has the results elsewhere. If it
fails, then as the first two values without such a result: as a division by zero or as an overflow. A null is never
the cause. -/
theorem binary_arithmetic (op : ArithmeticOp) {left right : List (Option Int64)} (same : left.length = right.length) :
    ((∃ c, binary (.arithmetic op) ⟨.sql .int64, left⟩ ⟨.sql .int64, right⟩ = .ok c) ↔
      ∀ i a b, Beside left right i a b → Exact op a b) ∧
    (∀ c, binary (.arithmetic op) ⟨.sql .int64, left⟩ ⟨.sql .int64, right⟩ = .ok c →
      ∃ cells : List (Option Int64), c = ⟨.sql .int64, cells⟩ ∧ cells.length = left.length ∧
        (∀ i : Nat, cells[i]? = some none ↔ left[i]? = some none ∨ right[i]? = some none) ∧
        ∀ i a b, Beside left right i a b →
          ∃ v, cells[i]? = some (some v) ∧ result? op a.toInt b.toInt = some v.toInt) ∧
    ∀ e, binary (.arithmetic op) ⟨.sql .int64, left⟩ ⟨.sql .int64, right⟩ = .error e ↔
      ∃ i a b, Beside left right i a b ∧ Offends op a b e ∧ ∀ j < i, ∀ x y, Beside left right j x y → Exact op x y := by
  have takes : meaning (.arithmetic op) .int64 = some ⟨.int64, intArithmetic op⟩ := rfl
  have computed : binary (.arithmetic op) ⟨.sql .int64, left⟩ ⟨.sql .int64, right⟩ =
      (liftCells (intArithmetic op) left right).map (Column.mk (.sql .int64)) := binary_of_meaning takes same
  rw [computed]
  have fails (e : KernelError) : liftCells (intArithmetic op) left right = .error e ↔ ∃ i a b,
      Beside left right i a b ∧ Offends op a b e ∧ ∀ j < i, ∀ x y, Beside left right j x y → Exact op x y := by
    simp only [liftCells_eq_error_iff same, intArithmetic_eq_error_iff, exists_intArithmetic_iff]
  refine ⟨?_, ?_, fun e => map_eq_error.trans (fails e)⟩
  · constructor
    · rintro ⟨c, done⟩ i a b both
      obtain ⟨cells, given, _⟩ := map_eq_ok.mp done
      obtain ⟨v, _, value⟩ := (lifted_of_liftCells same given).value i a b both
      exact exists_intArithmetic_iff.mp ⟨v, value⟩
    · intro exact
      cases outcome : liftCells (intArithmetic op) left right with
      | ok cells => exact ⟨_, rfl⟩
      | error e =>
        obtain ⟨i, a, b, both, offends, _⟩ := (fails e).mp outcome
        obtain ⟨c, value⟩ := exists_intArithmetic_iff.mpr (exact i a b both)
        rw [intArithmetic_eq_error_iff.mpr offends] at value
        cases value
  · intro c done
    obtain ⟨cells, given, rfl⟩ := map_eq_ok.mp done
    have lifted := lifted_of_liftCells same given
    refine ⟨cells, rfl, lifted.length, lifted.null, fun i a b both => ?_⟩
    obtain ⟨v, stored, value⟩ := lifted.value i a b both
    exact ⟨v, stored, intArithmetic_eq_ok_iff.mp value⟩

/-- The least integer has no opposite, and a zero beside a null divides nothing. -/
theorem binary_arithmetic_least :
    (∃ i a b, Beside [some 7, none, some Int64.minValue, some 1] [some 2, some 0, some (-1), some 0] i a b ∧
      Offends .div a b (.overflow (.arithmetic .div))) ∧
    ∀ i a b, Beside [some (-7), none] [some 2, some 0] i a b → Exact .div a b := by
  constructor
  · obtain ⟨_, _, fails⟩ := @binary_arithmetic .div [some 7, none, some Int64.minValue, some 1]
      [some 2, some 0, some (-1), some 0] rfl
    obtain ⟨i, a, b, both, offends, _⟩ := (fails (.overflow (.arithmetic .div))).mp rfl
    exact ⟨i, a, b, both, offends⟩
  · obtain ⟨succeeds, _⟩ := @binary_arithmetic .div [some (-7), none] [some 2, some 0] rfl
    exact succeeds.mp ⟨⟨.sql .int64, [some (-3), none]⟩, rfl⟩

end Tabular.Kernel
