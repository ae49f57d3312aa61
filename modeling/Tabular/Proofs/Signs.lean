import Mathlib.Algebra.Group.Int.Defs
import Tabular.Proofs.Parsed

/-!
# Signs

Digits with signs and parentheses around them, as a tree. They are read as the integer that they come to, unless some
term of the tree is no integer of 64 bits (`Sql.Expr.expression_of_signed`). Nothing is wrapped around.
-/

namespace Tabular.Sql.Expr

/-! ## Values and terms -/

/-- Digits with signs and parentheses around them, and the integer that they come to. -/
inductive Signed : Expr → Int → Prop
  | digits {text : String} (long : Bool) (some : text.toList ≠ []) (each : ∀ c ∈ text.toList, c.isDigit = true) :
      Signed (.value (.number text long)) (Nat.ofDigitChars 10 text.toList 0)
  | nested {e : Expr} {i : Int} (inside : Signed e i) : Signed (.nested e) i
  | plus {e : Expr} {i : Int} (inside : Signed e i) : Signed (.signed .plus e) i
  | minus {e : Expr} {i : Int} (inside : Signed e i) : Signed (.signed .minus e) (-i)

/-- The terms of digits with signs: the whole, and the terms of what stands after its sign or in its parentheses. A
minus and the digits right after it are one term. -/
def terms : Expr → List Expr
  | e@(.signed .minus (.value (.number _ _))) => [e]
  | e@(.signed _ inside) => e :: inside.terms
  | e@(.nested inside) => e :: inside.terms
  | e => [e]

/-- The integers of 64 bits. -/
def Storable (i : Int) : Prop := -2 ^ 63 ≤ i ∧ i < 2 ^ 63

instance (i : Int) : Decidable (Storable i) := inferInstanceAs (Decidable (_ ∧ _))

theorem storable_toInt (v : Int64) : Storable v.toInt := ⟨v.le_toInt, v.toInt_lt⟩

theorem Signed.unique {e : Expr} {i j : Int} (signed : e.Signed i) (other : e.Signed j) : i = j := by
  induction signed generalizing j with
  | digits long some each => cases other; rfl
  | nested _ ih => cases other with | nested inside => exact ih inside
  | plus _ ih => cases other with | plus inside => exact ih inside
  | minus _ ih => cases other with | minus inside => rw [ih inside]

theorem Signed.storable {e : Expr} {i j : Int} {v : Int64} (signed : e.Signed i) (value : v.toInt = i)
    (other : e.Signed j) : Storable j := by
  rw [← signed.unique other, ← value]
  exact storable_toInt v

theorem Signed.storable_terms {e whole : Expr} {i : Int} {v : Int64} (signed : whole.Signed i) (value : v.toInt = i)
    (more : whole.terms = whole :: e.terms) (inside : ∀ t ∈ e.terms, ∀ j, t.Signed j → Storable j) :
    ∀ t ∈ whole.terms, ∀ j, t.Signed j → Storable j := by
  intro t listed j other
  rw [more] at listed
  rcases List.mem_cons.mp listed with rfl | listed
  · exact signed.storable value other
  · exact inside t listed j other

theorem terms_minus {e : Expr} (form : e.isNumber = false) :
    (signed .minus e).terms = signed .minus e :: e.terms := by
  cases e with
  | value v =>
    cases v with
    | number text long => cases form
    | _ => rfl
  | _ => rfl

/-! ## What becomes of them -/

/-- What becomes of digits with signs that come to an integer: its literal, while every term is an integer of 64 bits,
or a fault, because of a term that is none. -/
inductive Comes (e : Expr) (i : Int) : Prop
  | literal {v : Int64} (read : e.expression = .ok (.literal (.int v))) (value : v.toInt = i)
      (inside : ∀ t ∈ e.terms, ∀ j, t.Signed j → Storable j)
  | fault {text : String} (failed : e.expression = .error (.invalidNumber text)) {t : Expr} {j : Int}
      (term : t ∈ e.terms) (signed : t.Signed j) (outside : ¬ Storable j)

/-- A numeral is read whole, or it is too large. -/
theorem Comes.numeral {e : Expr} {i : Int} (text : String) (signed : e.Signed i) (single : e.terms = [e])
    (read : e.expression = (numberLiteral text).map .literal) (writes : Numeral.Writes text.toList i)
    (each : ∀ c ∈ text.toList, c.isDigit = true ∨ c = '-') : e.Comes i := by
  rw [numberLiteral_eq each] at read
  cases outcome : Numeral.readInt text with
  | ok v =>
    have value : v.toInt = i := (Numeral.readInt_eq_ok_iff.mp outcome).unique writes
    refine .literal (by rw [read, outcome]; rfl) value fun t listed j other => ?_
    obtain rfl := List.mem_singleton.mp (single ▸ listed)
    exact signed.storable value other
  | error fault =>
    refine .fault (by rw [read, outcome]; rfl) (single ▸ List.mem_singleton_self e) signed fun inside => ?_
    have value : (Int64.ofInt i).toInt = i := Int64.toInt_ofInt_of_le inside.1 inside.2
    rw [← value] at writes
    cases outcome.symm.trans (Numeral.readInt_eq_ok_iff.mpr writes)

/-- What is read as something else that comes to the same becomes the same. -/
theorem Comes.around {e whole : Expr} {i : Int} (comes : e.Comes i) (signed : whole.Signed i)
    (more : whole.terms = whole :: e.terms) (same : whole.expression = e.expression) : whole.Comes i := by
  cases comes with
  | literal read value inside => exact .literal (same.trans read) value (signed.storable_terms value more inside)
  | fault failed term known outside =>
    exact .fault (same.trans failed) (more ▸ List.mem_cons_of_mem _ term) known outside

theorem toInt_neg_of_ne {v : Int64} (more : v ≠ Int64.minValue) : (-v).toInt = -v.toInt := by
  have least : v.toInt ≠ -2 ^ 63 := fun same => more (Int64.toInt_inj.mp same)
  have low := v.le_toInt
  have high := v.toInt_lt
  rw [Int64.toInt_neg]
  exact Int.bmod_eq_of_le (by omega) (by omega)

/-- A minus in front of anything but digits gives the opposite of what was read, unless that is the least integer. -/
theorem Comes.opposite {e : Expr} {i : Int} (comes : e.Comes i) (signed : e.Signed i) (form : e.isNumber = false) :
    (Expr.signed .minus e).Comes (-i) := by
  cases comes with
  | @literal v read value inside =>
    have opposite : (Expr.signed .minus e).expression = negated (.literal (.int v)) := by
      rw [expression_minus form, read]
      rfl
    rw [negated] at opposite
    by_cases least : v = Int64.minValue
    · rw [if_pos least] at opposite
      refine .fault opposite (terms_minus form ▸ List.mem_cons_self) signed.minus fun inside => ?_
      rw [← value, least] at inside
      exact absurd inside.2 (by decide)
    · rw [if_neg least] at opposite
      have negative : (-v).toInt = -i := by rw [toInt_neg_of_ne least, value]
      exact .literal opposite negative (signed.minus.storable_terms negative (terms_minus form) inside)
  | @fault text failed t j term known outside =>
    have opposite : (Expr.signed .minus e).expression = .error (.invalidNumber text) := by
      rw [expression_minus form, failed]
      rfl
    exact .fault opposite (terms_minus form ▸ List.mem_cons_of_mem _ term) known outside

/-- The sign of digits is read with them, any other after what it stands before. -/
theorem Signed.comes {e : Expr} {i : Int} (signed : e.Signed i) : e.Comes i := by
  induction signed with
  | @digits text long some each =>
    exact .numeral text (.digits long some each) rfl rfl (.plain some each) fun c listed => Or.inl (each c listed)
  | nested inside ih => exact ih.around inside.nested rfl rfl
  | plus inside ih => exact ih.around inside.plus rfl rfl
  | @minus e i inside ih =>
    by_cases form : e.isNumber = false
    · exact ih.opposite inside form
    · obtain ⟨text, long, rfl⟩ := exists_of_isNumber form
      cases inside with
      | digits _ some each =>
        have listed : ("-" ++ text).toList = '-' :: text.toList := String.toList_append
        refine .numeral ("-" ++ text) (Signed.digits long some each).minus rfl rfl ?_ ?_
        · rw [listed]
          exact .minus some each
        · rw [listed]
          exact List.forall_mem_cons.mpr ⟨Or.inr rfl, fun c inText => Or.inl (each c inText)⟩

/-- Integers are never wrapped around. Digits with signs and parentheses around them are read as the literal of the
integer that they come to, or they are refused as a number that is none; and they are refused exactly if some term
comes to more than 64 bits hold. -/
theorem expression_of_signed {e : Expr} {i : Int} (signed : e.Signed i) :
    (∀ x, e.expression = .ok x → ∃ v : Int64, x = .literal (.int v) ∧ v.toInt = i) ∧
    (∀ fault, e.expression = .error fault → ∃ text, fault = .invalidNumber text) ∧
    ((∃ fault, e.expression = .error fault) ↔ ∃ t ∈ e.terms, ∃ j, t.Signed j ∧ ¬ Storable j) := by
  cases signed.comes with
  | @literal v read value inside =>
    rw [read]
    refine ⟨?_, nofun, nofun, ?_⟩
    · intro x same
      cases same
      exact ⟨v, rfl, value⟩
    · rintro ⟨t, term, j, known, outside⟩
      exact absurd (inside t term j known) outside
  | @fault text failed t j term known outside =>
    rw [failed]
    refine ⟨nofun, ?_, ?_⟩
    · intro fault same
      cases same
      exact ⟨text, rfl⟩
    · exact ⟨fun _ => ⟨t, term, j, known, outside⟩, fun _ => ⟨_, rfl⟩⟩

/-- The least integer is read from its digits with a minus before them, and the opposite of that is refused. -/
theorem expression_of_signed_least :
    let digits := value (.number "9223372036854775808" false)
    let least := signed .minus digits
    let opposite := signed .minus (nested least)
    (∃ v : Int64, least.expression = .ok (.literal (.int v)) ∧ v.toInt = -2 ^ 63) ∧
      ∃ text, opposite.expression = .error (.invalidNumber text) := by
  intro digits least opposite
  have value : Nat.ofDigitChars 10 "9223372036854775808".toList 0 = 2 ^ 63 := by decide +kernel
  have signed : least.Signed (-2 ^ 63) := by
    have given : least.Signed (-((Nat.ofDigitChars 10 "9223372036854775808".toList 0 : Nat) : Int)) :=
      (Signed.digits false (by simp) (by simp)).minus
    rw [value] at given
    exact given
  have whole : opposite.Signed (2 ^ 63) := signed.nested.minus
  obtain ⟨literal, _, fails⟩ := expression_of_signed signed
  obtain ⟨_, invalid, failsOpposite⟩ := expression_of_signed whole
  constructor
  · cases outcome : least.expression with
    | ok x =>
      obtain ⟨v, rfl, value⟩ := literal x outcome
      exact ⟨v, rfl, value⟩
    | error fault =>
      obtain ⟨t, term, j, known, outside⟩ := fails.mp ⟨fault, outcome⟩
      obtain rfl := List.mem_singleton.mp term
      exact absurd (signed.unique known ▸ by decide) outside
  · obtain ⟨fault, failed⟩ := failsOpposite.mpr ⟨opposite, List.mem_cons_self, _, whole, by decide⟩
    obtain ⟨text, rfl⟩ := invalid fault failed
    exact ⟨text, failed⟩

end Tabular.Sql.Expr
