import Mathlib.Tactic.SplitIfs
import Tabular.Numeral
import Tabular.Proofs.Outcome
import Tabular.Value

/-!
# Numerals and words

The text of an integer is read as the integer (`Numeral.readInt_intText`), and what is read as an integer is a
numeral that writes it (`Numeral.readInt_eq_ok_iff`).
-/

namespace Tabular

namespace Numeral

/-! ## Digits -/

theorem digit?_of_isDigit {c : Char} (digit : c.isDigit = true) : digit? c = some (c.toNat - '0'.toNat) := by
  have inside : '0' ≤ c ∧ c ≤ '9' := by
    simpa [Char.isDigit, Char.le_def] using digit
  rw [digit?, if_pos inside]

theorem isDigit_of_digit? {c : Char} {d : Nat} (read : digit? c = some d) : c.isDigit = true := by
  rw [digit?] at read
  by_cases inside : '0' ≤ c ∧ c ≤ '9'
  · simpa [Char.isDigit, Char.le_def] using inside
  · rw [if_neg inside] at read
    cases read

theorem le_ofDigitChars (digits : List Char) (size : Nat) : size ≤ Nat.ofDigitChars 10 digits size := by
  induction digits generalizing size with
  | nil => exact Nat.le_refl _
  | cons c digits ih => exact Nat.le_trans (by omega) (ih (10 * size + (c.toNat - '0'.toNat)))

/-- Digits are read as the number that they write, if it does not leave the range. -/
theorem sizeFrom_eq_ok {negative : Bool} {digits : List Char} {size : Nat}
    (each : ∀ c ∈ digits, c.isDigit = true) (inRange : Nat.ofDigitChars 10 digits size ≤ greatestSize negative) :
    sizeFrom negative size digits = .ok (Nat.ofDigitChars 10 digits size) := by
  induction digits generalizing size with
  | nil => rfl
  | cons c digits ih =>
    have small : 10 * size + (c.toNat - '0'.toNat) ≤ greatestSize negative :=
      Nat.le_trans (le_ofDigitChars digits _) inRange
    rw [sizeFrom, digit?_of_isDigit (each c List.mem_cons_self)]
    dsimp only
    rw [if_neg (Nat.not_lt.mpr small)]
    exact ih (fun d listed => each d (List.mem_cons_of_mem _ listed)) inRange

theorem digits_of_sizeFrom {negative : Bool} {digits : List Char} {size n : Nat}
    (inRange : size ≤ greatestSize negative) (read : sizeFrom negative size digits = .ok n) :
    (∀ c ∈ digits, c.isDigit = true) ∧ Nat.ofDigitChars 10 digits size = n ∧ n ≤ greatestSize negative := by
  induction digits generalizing size with
  | nil =>
    cases read
    exact ⟨nofun, rfl, inRange⟩
  | cons c digits ih =>
    rw [sizeFrom] at read
    cases first : digit? c with
    | none =>
      rw [first] at read
      cases read
    | some d =>
      have digit := isDigit_of_digit? first
      obtain rfl : c.toNat - '0'.toNat = d := Option.some.inj ((digit?_of_isDigit digit).symm.trans first)
      rw [first] at read
      dsimp only at read
      by_cases large : greatestSize negative < 10 * size + (c.toNat - '0'.toNat)
      · rw [if_pos large] at read
        cases read
      · rw [if_neg large] at read
        obtain ⟨each, value, small⟩ := ih (Nat.not_lt.mp large) read
        exact ⟨List.forall_mem_cons.mpr ⟨digit, each⟩, value, small⟩

/-! ## Integers -/

/-- A numeral and the integer that it writes: digits, at least one, after a sign or none. -/
inductive Writes : List Char → Int → Prop
  | plain {digits : List Char} (some : digits ≠ []) (each : ∀ c ∈ digits, c.isDigit = true) :
      Writes digits (Nat.ofDigitChars 10 digits 0)
  | plus {digits : List Char} (some : digits ≠ []) (each : ∀ c ∈ digits, c.isDigit = true) :
      Writes ('+' :: digits) (Nat.ofDigitChars 10 digits 0)
  | minus {digits : List Char} (some : digits ≠ []) (each : ∀ c ∈ digits, c.isDigit = true) :
      Writes ('-' :: digits) (-((Nat.ofDigitChars 10 digits 0 : Nat) : Int))

/-- The integer of a sign and a size. -/
def signed (negative : Bool) (size : Nat) : Int := if negative then -(size : Int) else size

theorem splitSign_digits {digits : List Char} (each : ∀ c ∈ digits, c.isDigit = true) :
    splitSign digits = (false, digits) := by
  cases digits with
  | nil => rfl
  | cons c digits =>
    have digit := each c List.mem_cons_self
    rw [splitSign]
    · rintro _ ⟨rfl, _⟩
      cases digit
    · rintro _ ⟨rfl, _⟩
      cases digit

theorem writes_iff {cs : List Char} {i : Int} : Writes cs i ↔
    ∃ negative digits, splitSign cs = (negative, digits) ∧ digits ≠ [] ∧ (∀ c ∈ digits, c.isDigit = true) ∧
      i = signed negative (Nat.ofDigitChars 10 digits 0) := by
  constructor
  · intro writes
    cases writes with
    | plain some each => exact ⟨false, cs, splitSign_digits each, some, each, rfl⟩
    | plus some each => exact ⟨false, _, rfl, some, each, rfl⟩
    | minus some each => exact ⟨true, _, rfl, some, each, rfl⟩
  · rintro ⟨negative, digits, split, some, each, rfl⟩
    rw [splitSign.eq_def] at split
    split at split
    · cases split
      exact .minus some each
    · cases split
      exact .plus some each
    · cases split
      exact .plain some each

/-- A numeral writes one integer. -/
theorem Writes.unique {cs : List Char} {i j : Int} (writes : Writes cs i) (other : Writes cs j) : i = j := by
  obtain ⟨negative, digits, split, _, _, rfl⟩ := writes_iff.mp writes
  obtain ⟨_, _, again, _, _, rfl⟩ := writes_iff.mp other
  cases split.symm.trans again
  rfl

theorem toInt_signed {negative : Bool} {size : Nat} (inRange : size ≤ greatestSize negative) :
    (Int64.ofInt (signed negative size)).toInt = signed negative size := by
  cases negative with
  | true =>
    have small : size ≤ 9223372036854775808 := inRange
    apply Int64.toInt_ofInt_of_le <;> simp only [signed, if_true] <;> omega
  | false =>
    have small : size ≤ 9223372036854775807 := inRange
    apply Int64.toInt_ofInt_of_le <;> simp only [signed, Bool.false_eq_true, if_false] <;> omega

theorem le_greatestSize {negative : Bool} {size : Nat} {i : Int64} (same : i.toInt = signed negative size) :
    size ≤ greatestSize negative := by
  have least := i.le_toInt
  have greatest := i.toInt_lt
  cases negative with
  | true =>
    show size ≤ 9223372036854775808
    simp only [signed, if_true] at same
    omega
  | false =>
    show size ≤ 9223372036854775807
    simp only [signed, Bool.false_eq_true, if_false] at same
    omega

theorem readInt_of_splitSign {text : String} {negative : Bool} {digits : List Char}
    (split : splitSign text.toList = (negative, digits)) (some : digits ≠ []) :
    readInt text = (sizeFrom negative 0 digits).map fun size => Int64.ofInt (signed negative size) := by
  rw [readInt]
  split
  · rename_i empty
    rw [empty] at split
    exact absurd (Prod.mk.inj split).2.symm some
  · rw [split]
    split
    · rename_i same
      exact absurd (Prod.mk.inj same).2 some
    · rename_i same
      cases same
      cases sizeFrom negative 0 digits <;> rfl

theorem readInt_of_no_digits {text : String} {negative : Bool} (split : splitSign text.toList = (negative, [])) :
    ∃ fault, readInt text = .error fault := by
  rw [readInt]
  split
  · exact ⟨_, rfl⟩
  · rw [split]
    exact ⟨_, rfl⟩

/-- What is read as an integer is a numeral that writes it, with any number of zeros in front. -/
theorem readInt_eq_ok_iff {text : String} {i : Int64} : readInt text = .ok i ↔ Writes text.toList i.toInt := by
  rw [writes_iff]
  constructor
  · intro read
    obtain ⟨⟨negative, digits⟩, split⟩ : ∃ parts, splitSign text.toList = parts := ⟨_, rfl⟩
    by_cases some : digits = []
    · subst some
      obtain ⟨fault, failed⟩ := readInt_of_no_digits split
      cases failed.symm.trans read
    · rw [readInt_of_splitSign split some] at read
      obtain ⟨size, sized, rfl⟩ := map_eq_ok.mp read
      obtain ⟨each, rfl, small⟩ := digits_of_sizeFrom (Nat.zero_le _) sized
      exact ⟨negative, digits, split, some, each, toInt_signed small⟩
  · rintro ⟨negative, digits, split, some, each, same⟩
    rw [readInt_of_splitSign split some, sizeFrom_eq_ok each (le_greatestSize same), Except.map, ← same,
      Int64.ofInt_toInt]

theorem signed_natAbs (i : Int) : signed (decide (i < 0)) i.natAbs = i := by
  by_cases negative : i < 0
  · simp only [signed, negative, decide_true, if_true]
    omega
  · simp only [signed, negative, decide_false, Bool.false_eq_true, if_false]
    omega

/-- The text of an integer is a numeral for it. -/
theorem writes_intText (i : Int) : Writes (Value.intText i).toList i := by
  have each : ∀ c ∈ Nat.toDigits 10 i.natAbs, c.isDigit = true :=
    fun _ listed => Nat.isDigit_of_mem_toDigits (b := 10) (by decide) (by decide) listed
  rw [Value.intText, String.toList_ofList, writes_iff]
  refine ⟨decide (i < 0), Nat.toDigits 10 i.natAbs, ?_, Nat.toDigits_ne_nil, each, ?_⟩
  · by_cases negative : i < 0
    · rw [if_pos negative, decide_eq_true negative]
      rfl
    · rw [if_neg negative, decide_eq_false negative]
      exact splitSign_digits each
  · rw [Nat.ofDigitChars_ten_toDigits, signed_natAbs]

/-- The text of an integer is read as the integer. -/
@[simp] theorem readInt_intText (i : Int64) : readInt (Value.intText i.toInt) = .ok i :=
  readInt_eq_ok_iff.mpr (writes_intText i.toInt)

end Numeral

/-! ## Texts without blanks at their ends -/

namespace Text

/-- Neither the first nor the last character of a text is a blank. -/
def Tight (text : String) : Prop :=
  ∀ c, text.toList.head? = some c ∨ text.toList.getLast? = some c → isBlank c = false

theorem dropWhile_of_head? {α : Type} {p : α → Bool} {xs : List α} (first : ∀ x, xs.head? = some x → p x = false) :
    xs.dropWhile p = xs := by
  cases xs with
  | nil => rfl
  | cons x xs => rw [List.dropWhile_cons_of_neg (by simp [first x rfl])]

theorem trim_of_tight {text : String} (tight : Tight text) : trim text = text := by
  have back : ∀ c, text.toList.reverse.head? = some c → isBlank c = false := by
    intro c last
    rw [List.head?_reverse] at last
    exact tight c (Or.inr last)
  rw [trim, dropEndWhile, dropWhile_of_head? fun c first => tight c (Or.inl first), dropWhile_of_head? back,
    List.reverse_reverse, String.ofList_toList]

theorem tight_of_no_blank {text : String} (solid : ∀ c ∈ text.toList, isBlank c = false) : Tight text := by
  rintro c (first | last)
  · exact solid c (List.mem_of_mem_head? first)
  · exact solid c (List.mem_of_mem_getLast? last)

theorem isBlank_of_isDigit {c : Char} (digit : c.isDigit = true) : isBlank c = false := by
  have low : 48 ≤ c.toNat ∧ c.toNat ≤ 57 := by
    simpa [Char.isDigit, UInt32.le_iff_toNat_le] using digit
  rw [isBlank]
  simp only [Bool.or_eq_false_iff, Bool.and_eq_false_imp, decide_eq_true_eq, decide_eq_false_iff_not,
    beq_eq_false_iff_ne, ne_eq]
  omega

/-- The text of an integer has no blanks around it. -/
@[simp] theorem trim_intText (i : Int) : trim (Value.intText i) = Value.intText i := by
  refine trim_of_tight (tight_of_no_blank fun c listed => ?_)
  rw [Value.intText, String.toList_ofList] at listed
  rcases List.mem_append.mp listed with sign | digit
  · split at sign
    · obtain rfl := List.mem_singleton.mp sign
      rfl
    · cases sign
  · exact isBlank_of_isDigit (Nat.isDigit_of_mem_toDigits (b := 10) (by decide) (by decide) digit)

end Text

theorem Value.intText_ne_empty (i : Int) : Value.intText i ≠ "" := by
  intro empty
  have none := congrArg String.toList empty
  rw [Value.intText, String.toList_ofList] at none
  exact Nat.toDigits_ne_nil (List.append_eq_nil_iff.mp none).2

end Tabular
