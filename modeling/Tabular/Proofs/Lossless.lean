import Mathlib.Algebra.Group.Nat.Defs
import Tabular.Proofs.Evaluation
import Tabular.Proofs.Integers

/-!
# Integers as floats

An integer becomes the float nearest to it. It comes back from there if it is the value of a float at all, that
is, if its digits fit in 53 binary places (`Double.exists_toInt?_iff`); a column comes back if each of its
integers does (`Kernel.comesBack_iff`).
-/

namespace Tabular

namespace Double

/-! ## The value of a float -/

theorem toNat_bits_ofCode {code : Nat} (small : code < 2 ^ 63) (negative : Bool) :
    (ofCode negative code).bits.toNat = code + if negative then 2 ^ 63 else 0 := by
  have power : (1 <<< 63 : Nat) = 2 ^ 63 := by decide
  rw [ofCode, UInt64.toNat_ofNat', power]
  apply Nat.mod_eq_of_lt
  split <;> omega

theorem code_ofCode {code : Nat} (small : code < 2 ^ 63) (negative : Bool) :
    (ofCode negative code).code = code := by
  have power : (1 <<< 63 : Nat) = 2 ^ 63 := by decide
  rw [Double.code, toNat_bits_ofCode small, power]
  split <;> omega

theorem isNegative_ofCode {code : Nat} (small : code < 2 ^ 63) (negative : Bool) :
    (ofCode negative code).isNegative = negative := by
  have power : (1 <<< 63 : Nat) = 2 ^ 63 := by decide
  rw [Double.isNegative, toNat_bits_ofCode small, power]
  cases negative with
  | false => simpa using small
  | true => simp

/-- A float that is a whole number has its size and its sign. -/
theorem toInt?_of_whole {x : Double} (finite : x.isFinite = true) (size : Nat)
    (whole : x.significand <<< x.exponent.toNat = size <<< (-x.exponent).toNat) :
    x.toInt? = some (if x.isNegative then -(size : Int) else size) := by
  simp only [toInt?, finite, if_true]
  by_cases negative : x.exponent < 0
  · have up : x.exponent.toNat = 0 := by omega
    rw [up, Nat.shiftLeft_zero, Nat.shiftLeft_eq] at whole
    have positive : 0 < 2 ^ (-x.exponent).toNat := Nat.two_pow_pos _
    rw [whole, up, Nat.one_shiftLeft, Nat.mul_mod_left, if_pos rfl, Nat.mul_div_cancel _ positive, Nat.shiftLeft_zero]
  · have down : (-x.exponent).toNat = 0 := by omega
    rw [down, Nat.shiftLeft_zero] at whole
    rw [down, Nat.shiftLeft_zero, Nat.mod_one, if_pos rfl, Nat.div_one, whole]

theorem significand_lt (x : Double) : x.significand < 2 ^ 53 := by
  have power : (1 <<< 52 : Nat) = 2 ^ 52 := by decide
  rw [significand, power]
  split <;> omega

/-- The whole number that a float is has at most 53 binary digits before its zeros. -/
theorem digits_of_toInt? {x : Double} {i : Int} (known : x.toInt? = some i) :
    ∃ m k : Nat, m < 2 ^ 53 ∧ i.natAbs = m * 2 ^ k := by
  simp only [toInt?] at known
  split at known
  · split at known
    · have size (n : Nat) : (if x.isNegative then -(n : Int) else n).natAbs = n := by
        split <;> simp
      refine ⟨x.significand / 1 <<< (-x.exponent).toNat, x.exponent.toNat, ?_, ?_⟩
      · exact Nat.lt_of_le_of_lt (Nat.div_le_self _ _) x.significand_lt
      · rw [← Option.some.inj known, size, Nat.shiftLeft_eq]
    · cases known
  · cases known

/-- The float of a code whose digits begin at the first place has these digits at their power of two. -/
theorem toInt?_ofCode_normal {power digits size : Nat} (small : power ≤ 2045) (low : 2 ^ 52 ≤ digits)
    (high : digits < 2 ^ 53) (negative : Bool)
    (whole : digits * 2 ^ (power - 1074) = size * 2 ^ (1074 - power)) :
    (ofCode negative ((power <<< 52) + digits)).toInt? = some (if negative then -(size : Int) else size) := by
  have one : (1 <<< 52 : Nat) = 2 ^ 52 := by decide
  have infinity : infinityCode = 2047 * 2 ^ 52 := by decide
  rw [Nat.shiftLeft_eq]
  have inside : power * 2 ^ 52 + digits < 2 ^ 63 := by omega
  have code := code_ofCode inside negative
  have finite : (ofCode negative (power * 2 ^ 52 + digits)).isFinite = true := by
    rw [isFinite, code, infinity, decide_eq_true_iff]
    omega
  have significand : (ofCode negative (power * 2 ^ 52 + digits)).significand = digits := by
    rw [Double.significand, code, one, if_neg (by omega)]
    omega
  have exponent : (ofCode negative (power * 2 ^ 52 + digits)).exponent = (power : Int) - 1074 := by
    rw [Double.exponent, code, Nat.shiftRight_eq_div_pow]
    omega
  have up : ((power : Int) - 1074).toNat = power - 1074 := by omega
  have down : (-((power : Int) - 1074)).toNat = 1074 - power := by omega
  rw [toInt?_of_whole finite size, isNegative_ofCode inside]
  rw [significand, exponent, up, down, Nat.shiftLeft_eq, Nat.shiftLeft_eq, whole]

/-- So does the one whose digits were rounded up to the next power of two. -/
theorem toInt?_ofCode {power digits size : Nat} (small : power ≤ 2044) (low : 2 ^ 52 ≤ digits)
    (high : digits ≤ 2 ^ 53) (negative : Bool)
    (whole : digits * 2 ^ (power - 1074) = size * 2 ^ (1074 - power)) :
    (ofCode negative ((power <<< 52) + digits)).toInt? = some (if negative then -(size : Int) else size) := by
  by_cases full : digits < 2 ^ 53
  · exact toInt?_ofCode_normal (by omega) low full negative whole
  · have top : digits = 2 ^ 53 := by omega
    have carried : (power <<< 52) + digits = ((power + 1) <<< 52) + 2 ^ 52 := by
      rw [Nat.shiftLeft_eq, Nat.shiftLeft_eq]
      omega
    rw [carried]
    apply toInt?_ofCode_normal (by omega) (Nat.le_refl _) (by omega)
    rw [top] at whole
    by_cases up : 1074 ≤ power
    · have next : power + 1 - 1074 = (power - 1074) + 1 := by omega
      have same : 1074 - (power + 1) = 1074 - power := by omega
      have twice : 2 ^ ((power - 1074) + 1) = 2 ^ (power - 1074) * 2 := Nat.pow_succ _ _
      rw [next, same, ← whole, twice]
      omega
    · have next : 1074 - power = (1074 - (power + 1)) + 1 := by omega
      have none : power + 1 - 1074 = 0 := Nat.sub_eq_zero_of_le (Nat.lt_of_not_le up)
      have same : power - 1074 = 0 := Nat.sub_eq_zero_of_le (Nat.le_of_not_le up)
      have twice : 2 ^ ((1074 - (power + 1)) + 1) = 2 ^ (1074 - (power + 1)) * 2 := Nat.pow_succ _ _
      rw [same, next, twice, ← Nat.mul_assoc] at whole
      rw [none]
      omega

/-! ## The float nearest to an integer -/

theorem divNearest_bounds (num den : Nat) :
    num / den ≤ divNearest num den ∧ divNearest num den ≤ num / den + 1 := by
  simp only [divNearest]
  split
  · omega
  · split <;> omega

/-- Nothing is lost by rounding exactly where there is nothing to round. -/
theorem divNearest_mul_eq_iff {num den : Nat} (positive : 0 < den) :
    divNearest num den * den = num ↔ den ∣ num := by
  constructor
  · intro whole
    exact ⟨divNearest num den, by rw [Nat.mul_comm, whole]⟩
  · intro divides
    have rest : num % den = 0 := Nat.mod_eq_zero_of_dvd divides
    rw [divNearest]
    simp only [rest, Nat.mul_zero, positive, if_true]
    exact Nat.div_mul_cancel divides

/-- The whole number nearest to a number among those of the float's spacing about it. -/
def nearest (n : Nat) : Nat := divNearest n (2 ^ (n.log2 - 52)) * 2 ^ (n.log2 - 52)

theorem log2Fraction_one {n : Nat} (positive : n ≠ 0) : log2Fraction n 1 = n.log2 := by
  have one : (1 : Nat).log2 = 0 := by decide
  have low : 2 ^ n.log2 ≤ n := Nat.log2_self_le positive
  have up : ((n.log2 : Int) - (0 : Nat)).toNat = n.log2 := by omega
  have down : (-((n.log2 : Int) - (0 : Nat))).toNat = 0 := by omega
  simp only [log2Fraction, one, up, down, Nat.shiftLeft_zero, Nat.one_shiftLeft]
  rw [if_neg (by omega)]
  omega

theorem divNearest_one (n : Nat) : divNearest n 1 = n := by
  have whole := (divNearest_mul_eq_iff Nat.one_pos).mpr (Nat.one_dvd n)
  rwa [Nat.mul_one] at whole

/-- The first 53 digits of a number, the last one rounded. -/
def digits (n : Nat) : Nat := divNearest (n * 2 ^ (52 - n.log2)) (2 ^ (n.log2 - 52))

theorem digits_bounds {n : Nat} (positive : n ≠ 0) : 2 ^ 52 ≤ digits n ∧ digits n ≤ 2 ^ 53 := by
  have low : 2 ^ n.log2 ≤ n := Nat.log2_self_le positive
  have high : n < 2 ^ (n.log2 + 1) := Nat.lt_log2_self
  have spacing : 0 < 2 ^ (n.log2 - 52) := Nat.two_pow_pos _
  have shift : 0 < 2 ^ (52 - n.log2) := Nat.two_pow_pos _
  have places : n.log2 + (52 - n.log2) = 52 + (n.log2 - 52) := by omega
  obtain ⟨below, above⟩ := divNearest_bounds (n * 2 ^ (52 - n.log2)) (2 ^ (n.log2 - 52))
  have first : 2 ^ 52 ≤ n * 2 ^ (52 - n.log2) / 2 ^ (n.log2 - 52) := by
    rw [Nat.le_div_iff_mul_le spacing, ← Nat.pow_add, ← places, Nat.pow_add]
    exact Nat.mul_le_mul_right _ low
  have last : n * 2 ^ (52 - n.log2) / 2 ^ (n.log2 - 52) < 2 ^ 53 := by
    rw [Nat.div_lt_iff_lt_mul spacing, Nat.pow_succ 2 52, Nat.mul_right_comm, ← Nat.pow_add, ← places, Nat.pow_add,
      Nat.mul_right_comm, ← Nat.pow_succ]
    exact Nat.mul_lt_mul_of_pos_right high shift
  exact ⟨Nat.le_trans first below, by rw [digits]; omega⟩

theorem digits_mul (n : Nat) : digits n * 2 ^ (n.log2 - 52) = nearest n * 2 ^ (52 - n.log2) := by
  rw [digits, nearest]
  by_cases few : n.log2 ≤ 52
  · have none : n.log2 - 52 = 0 := by omega
    rw [none, Nat.pow_zero, divNearest_one, divNearest_one, Nat.mul_one, Nat.mul_one]
  · have none : 52 - n.log2 = 0 := by omega
    rw [none, Nat.pow_zero, Nat.mul_one, Nat.mul_one]

/-- The code of a number: the power of two of its first digit, then its digits. -/
theorem nearestCode_one {n : Nat} (positive : n ≠ 0) (small : n.log2 < 64) :
    nearestCode n 1 = ((n.log2 + 1022) <<< 52) + digits n := by
  have infinity : infinityCode = 2047 * 2 ^ 52 := by decide
  have ulp : max ((n.log2 : Int) - 52) (-1074) = (n.log2 : Int) - 52 := by omega
  have down : (-((n.log2 : Int) - 52)).toNat = 52 - n.log2 := by omega
  have up : ((n.log2 : Int) - 52).toNat = n.log2 - 52 := by omega
  have place : ((n.log2 : Int) - 52 + 1074).toNat = n.log2 + 1022 := by omega
  have bounds := digits_bounds positive
  simp only [nearestCode, positive, if_false, log2Fraction_one positive, ulp, down, up, place]
  rw [Nat.shiftLeft_eq n, Nat.one_shiftLeft, ← digits, infinity, Nat.shiftLeft_eq]
  omega

/-- The float of an integer has the value of the nearest number. -/
theorem toInt?_ofInt {i : Int} (small : i.natAbs < 2 ^ 64) :
    (ofInt i).toInt? = some (if i < 0 then -(nearest i.natAbs : Int) else nearest i.natAbs) := by
  generalize size : i.natAbs = n at small
  by_cases zero : n = 0
  · have isZero : i = 0 := by omega
    rw [isZero, zero]
    decide +kernel
  · have few : n.log2 < 64 := (Nat.log2_lt zero).mpr small
    obtain ⟨low, high⟩ := digits_bounds zero
    have up : n.log2 + 1022 - 1074 = n.log2 - 52 := Nat.add_sub_add_right n.log2 1022 52
    have down : 1074 - (n.log2 + 1022) = 52 - n.log2 := Nat.add_sub_add_right 52 1022 n.log2
    have exponent : n.log2 + 1022 ≤ 2044 := by omega
    have whole : digits n * 2 ^ (n.log2 + 1022 - 1074) = nearest n * 2 ^ (1074 - (n.log2 + 1022)) := by
      rw [up, down, digits_mul]
    have value := toInt?_ofCode exponent low high (decide (i < 0)) whole
    rw [ofInt, size, nearestCode_one zero (by omega), value]
    simp

/-! ## Integers that are values of floats -/

/-- A number is its own nearest one if its digits fit in 53 places. -/
theorem nearest_eq_self {n m k : Nat} (few : m < 2 ^ 53) (whole : n = m * 2 ^ k) : nearest n = n := by
  rw [nearest, divNearest_mul_eq_iff (Nat.two_pow_pos _)]
  by_cases zero : n = 0
  · rw [zero]
    exact Nat.dvd_zero _
  · have low : 2 ^ n.log2 ≤ n := Nat.log2_self_le zero
    have high : n < 2 ^ (53 + k) := by
      rw [whole, Nat.pow_add]
      exact Nat.mul_lt_mul_of_pos_right few (Nat.two_pow_pos k)
    have places : n.log2 < 53 + k := (Nat.pow_lt_pow_iff_right Nat.one_lt_two).mp (Nat.lt_of_le_of_lt low high)
    have spacing : 2 ^ (n.log2 - 52) ∣ 2 ^ k := Nat.pow_dvd_pow 2 (by omega)
    exact whole ▸ Nat.dvd_mul_left_of_dvd spacing m

theorem toInt?_ofInt_of_digits {i : Int} (small : i.natAbs < 2 ^ 64) {m k : Nat} (few : m < 2 ^ 53)
    (whole : i.natAbs = m * 2 ^ k) : (ofInt i).toInt? = some i := by
  rw [toInt?_ofInt small, nearest_eq_self few whole]
  congr 1
  split <;> omega

/-- The integers that are values of floats are those of at most 53 binary digits before their zeros. -/
theorem exists_toInt?_iff {i : Int} (small : i.natAbs < 2 ^ 64) :
    (∃ x : Double, x.toInt? = some i) ↔ ∃ m k : Nat, m < 2 ^ 53 ∧ i.natAbs = m * 2 ^ k := by
  constructor
  · rintro ⟨x, known⟩
    exact digits_of_toInt? known
  · rintro ⟨m, k, few, whole⟩
    exact ⟨ofInt i, toInt?_ofInt_of_digits small few whole⟩

/-- The float of an integer has its value if any float has. -/
theorem toInt?_ofInt_eq_some_iff {i : Int} (small : i.natAbs < 2 ^ 64) :
    (ofInt i).toInt? = some i ↔ ∃ x : Double, x.toInt? = some i := by
  constructor
  · intro known
    exact ⟨_, known⟩
  · rintro ⟨x, known⟩
    obtain ⟨m, k, few, whole⟩ := digits_of_toInt? known
    exact toInt?_ofInt_of_digits small few whole

end Double

namespace Kernel

open Double

/-! ## Columns of integers -/

/-- A float gives an integer back exactly if it has its value. -/
theorem intOfDouble_eq_ok_iff {x : Double} {i : Int64} : intOfDouble x = .ok i ↔ x.toInt? = some i.toInt := by
  rw [intOfDouble]
  cases x.toInt? with
  | none => simp
  | some j =>
    dsimp only
    by_cases inside : fits j = true
    · rw [if_pos inside]
      constructor
      · rintro ⟨⟩
        rw [toInt_ofInt_of_fits inside]
      · intro same
        rw [Option.some.inj same, Int64.ofInt_toInt]
    · rw [if_neg inside]
      constructor
      · intro impossible
        cases impossible
      · intro same
        rw [Option.some.inj same, fits_toInt] at inside
        exact absurd rfl inside

theorem intOfDouble_ofInt_iff (i : Int64) :
    intOfDouble (ofInt i.toInt) = .ok i ↔ ∃ x : Double, x.toInt? = some i.toInt := by
  have low := i.le_toInt
  have high := i.toInt_lt
  rw [intOfDouble_eq_ok_iff, toInt?_ofInt_eq_some_iff (by omega)]

theorem convertCells_total {α β ε : Type} (f : α → β) (cells : List (Option α)) :
    convertCells (fun a => Except.ok (ε := ε) (f a)) cells = .ok (cells.map (Option.map f)) := by
  induction cells with
  | nil => rfl
  | cons cell cells ih =>
    cases cell with
    | none => rw [convertCells, ih]; rfl
    | some a => rw [convertCells, ih]; rfl

/-- Cells that were converted come back if each value does. -/
theorem convertCells_back_iff {α β ε : Type} (f : α → β) (g : β → Except ε α) (cells : List (Option α)) :
    convertCells g (cells.map (Option.map f)) = .ok cells ↔ ∀ a, some a ∈ cells → g (f a) = .ok a := by
  induction cells with
  | nil => simp [convertCells]
  | cons cell cells ih =>
    cases cell with
    | none =>
      rw [List.map_cons, Option.map_none, convertCells, map_eq_ok]
      simpa using ih
    | some a =>
      rw [List.map_cons, Option.map_some, convertCells, bind_eq_ok]
      constructor
      · rintro ⟨b, first, rest⟩
        obtain ⟨others, done, same⟩ := bind_eq_ok.mp rest
        cases same
        intro c listed
        rcases List.mem_cons.mp listed with same | listed
        · rw [Option.some.inj same]
          exact first
        · exact ih.mp done c listed
      · intro each
        have others := ih.mpr fun c listed => each c (List.mem_cons_of_mem _ listed)
        exact ⟨a, each a List.mem_cons_self, bind_eq_ok.mpr ⟨cells, others, rfl⟩⟩

/-- Cells whose conversion cannot fail are all cast. -/
theorem cast_of_total {source target : DataType} (differ : source ≠ target) {f : source.Carrier → target.Carrier}
    (converts : conversion? source target = some fun a => .ok (f a)) {cells : List (Option source.Carrier)}
    (clean : firstLossy? source target cells = none) :
    cast ⟨.sql source, cells⟩ target = .ok ⟨.sql target, cells.map (Option.map f)⟩ :=
  (cast_eq_ok_iff differ converts clean).mpr ⟨_, convertCells_total f cells, rfl⟩

/-- A column that was cast to a type is cast back to itself if each of its values comes back. -/
theorem cast_back_iff {source target : DataType} (differ : target ≠ source) (f : source.Carrier → target.Carrier)
    {g : target.Carrier → Except CastFault source.Carrier} (converts : conversion? target source = some g)
    {cells : List (Option source.Carrier)} (clean : firstLossy? target source (cells.map (Option.map f)) = none) :
    cast ⟨.sql target, cells.map (Option.map f)⟩ source = .ok ⟨.sql source, cells⟩ ↔
      ∀ a, some a ∈ cells → g (f a) = .ok a := by
  rw [cast_eq_ok_iff differ converts clean, ← convertCells_back_iff]
  simp

/-- Integers are always cast to floats, each to the one nearest to it. -/
theorem cast_int_float (cells : List (Option Int64)) :
    cast ⟨.sql .int64, cells⟩ .float64 =
      .ok ⟨.sql .float64, cells.map (Option.map fun i : Int64 => ofInt i.toInt)⟩ :=
  cast_of_total (show DataType.int64 ≠ .float64 by decide) rfl rfl

/-- The floats of integers are whole numbers. -/
theorem firstLossy?_ofInt (cells : List (Option Int64)) :
    firstLossy? .float64 .int64 (cells.map (Option.map fun i : Int64 => ofInt i.toInt)) = none := by
  rw [firstLossy?, List.findSome?_eq_none_iff]
  intro x listed
  obtain ⟨cell, inside, known⟩ := List.mem_filterMap.mp listed
  obtain ⟨a, _, same⟩ := List.mem_map.mp inside
  rw [id, ← same] at known
  obtain ⟨i, _, rfl⟩ := Option.map_eq_some_iff.mp known
  have low := i.le_toInt
  have high := i.toInt_lt
  rw [toInt?_ofInt (by omega)]
  rfl

theorem cast_float_int_eq_ok_iff (cells : List (Option Int64)) :
    cast ⟨.sql .float64, cells.map (Option.map fun i : Int64 => ofInt i.toInt)⟩ .int64 = .ok ⟨.sql .int64, cells⟩ ↔
      ∀ i, some i ∈ cells → ∃ x : Double, x.toInt? = some i.toInt := by
  have differ : DataType.float64 ≠ .int64 := by decide
  simp only [← intOfDouble_ofInt_iff]
  exact cast_back_iff differ (fun i : Int64 => ofInt i.toInt) rfl (firstLossy?_ofInt cells)

/-- A column of integers that is cast to floats is cast back to itself. -/
def ComesBack (cells : List (Option Int64)) : Prop :=
  ∀ floats, cast ⟨.sql .int64, cells⟩ .float64 = .ok floats → cast floats .int64 = .ok ⟨.sql .int64, cells⟩

/-- A column of integers is always cast to floats, and comes back exactly if each of its integers is the value of a
float: an integer of at most 53 binary digits before its zeros. -/
theorem comesBack_iff (cells : List (Option Int64)) :
    (∃ floats, cast ⟨.sql .int64, cells⟩ .float64 = .ok floats) ∧
    (ComesBack cells ↔ ∀ i, some i ∈ cells → ∃ x : Double, x.toInt? = some i.toInt) ∧
    ∀ i : Int64, (∃ x : Double, x.toInt? = some i.toInt) ↔
      ∃ m k : Nat, m < 2 ^ 53 ∧ i.toInt.natAbs = m * 2 ^ k := by
  refine ⟨⟨_, cast_int_float cells⟩, ?_, ?_⟩
  · rw [← cast_float_int_eq_ok_iff]
    constructor
    · intro comes
      exact comes _ (cast_int_float cells)
    · intro back floats there
      rw [cast_int_float] at there
      cases there
      exact back
  · intro i
    have low := i.le_toInt
    have high := i.toInt_lt
    exact exists_toInt?_iff (by omega)

/-- The first integer after 2 ^ 53 is made even, and the greatest one does not come back at all. -/
theorem not_comesBack :
    (cast ⟨.sql .int64, [some 9007199254740993]⟩ .float64 = .ok ⟨.sql .float64, [some ⟨0x4340000000000000⟩]⟩ ∧
      cast ⟨.sql .float64, [some ⟨0x4340000000000000⟩]⟩ .int64 = .ok ⟨.sql .int64, [some 9007199254740992]⟩ ∧
      ¬ ComesBack [some 9007199254740993]) ∧
    (cast ⟨.sql .int64, [some Int64.maxValue]⟩ .float64 = .ok ⟨.sql .float64, [some ⟨0x43e0000000000000⟩]⟩ ∧
      cast ⟨.sql .float64, [some ⟨0x43e0000000000000⟩]⟩ .int64 =
        .error (.cast (.sql .float64) .int64 (.outOfRange ⟨0x43e0000000000000⟩)) ∧
      ¬ ComesBack [some Int64.maxValue]) := by
  refine ⟨⟨rfl, rfl, fun comes => ?_⟩, ⟨rfl, rfl, fun comes => ?_⟩⟩
  · have same := comes ⟨.sql .float64, [some ⟨0x4340000000000000⟩]⟩ rfl
    have other : cast ⟨.sql .float64, [some ⟨0x4340000000000000⟩]⟩ .int64 =
        .ok ⟨.sql .int64, [some 9007199254740992]⟩ := rfl
    rw [other] at same
    injection same with same
    injection same with _ same
    exact absurd (List.cons.inj same).1 (by decide)
  · have same := comes ⟨.sql .float64, [some ⟨0x43e0000000000000⟩]⟩ rfl
    have fails : cast ⟨.sql .float64, [some ⟨0x43e0000000000000⟩]⟩ .int64 =
        .error (.cast (.sql .float64) .int64 (.outOfRange ⟨0x43e0000000000000⟩)) := rfl
    rw [fails] at same
    cases same

end Kernel

end Tabular
