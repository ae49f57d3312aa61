import Tabular.Proofs.Lossless
import Tabular.Proofs.Numerals

/-!
# Values as texts

Integers and truth values are not changed by being written out. A column of them is always cast to its texts, and
the texts are cast back to the column (`Kernel.cast_text_back`).
-/

namespace Tabular.Kernel

/-- The texts of integers. -/
def intTexts (cells : List (Option Int64)) : List (Option String) :=
  cells.map (Option.map fun i => Value.intText i.toInt)

/-- The texts of truth values. -/
def boolTexts (cells : List (Option Bool)) : List (Option String) := cells.map (Option.map Value.boolText)

theorem intOfString_intText (i : Int64) : intOfString (Value.intText i.toInt) = .ok i := by
  rw [intOfString, Numeral.readInt_intText, mapError_ok]

theorem boolOfString_boolText (b : Bool) : boolOfString (Value.boolText b) = .ok b := by
  cases b <;> decide

theorem cast_int_string (cells : List (Option Int64)) :
    cast ⟨.sql .int64, cells⟩ .string = .ok ⟨.sql .string, intTexts cells⟩ :=
  cast_of_total (show DataType.int64 ≠ .string by decide) rfl rfl

theorem cast_string_int (cells : List (Option Int64)) :
    cast ⟨.sql .string, intTexts cells⟩ .int64 = .ok ⟨.sql .int64, cells⟩ := by
  have differ : DataType.string ≠ .int64 := by decide
  refine (cast_back_iff differ (fun i : Int64 => Value.intText i.toInt) rfl rfl).mpr ?_
  intro i _
  exact intOfString_intText i

theorem cast_bool_string (cells : List (Option Bool)) :
    cast ⟨.sql .bool, cells⟩ .string = .ok ⟨.sql .string, boolTexts cells⟩ :=
  cast_of_total (show DataType.bool ≠ .string by decide) rfl rfl

theorem cast_string_bool (cells : List (Option Bool)) :
    cast ⟨.sql .string, boolTexts cells⟩ .bool = .ok ⟨.sql .bool, cells⟩ := by
  have differ : DataType.string ≠ .bool := by decide
  refine (cast_back_iff differ Value.boolText rfl rfl).mpr ?_
  intro b _
  exact boolOfString_boolText b

theorem exists_texts {c : Column} {type : DataType} (typed : c.type = .sql type)
    (spelled : type = .int64 ∨ type = .bool) :
    ∃ texts, cast c .string = .ok texts ∧ cast texts type = .ok c := by
  obtain ⟨_, cells⟩ := c
  subst typed
  rcases spelled with rfl | rfl
  · exact ⟨_, cast_int_string cells, cast_string_int cells⟩
  · exact ⟨_, cast_bool_string cells, cast_string_bool cells⟩

theorem eval_cast_text {b : Batch} {e : Bound} (typed : e.WellTyped b.schema.Holds)
    (spelled : e.type = .int64 ∨ e.type = .bool) : (Bound.cast e.type (.cast .string e)).eval b = e.eval b := by
  rw [Bound.eval, Bound.eval]
  cases computed : e.eval b with
  | error x => rfl
  | ok c =>
    have known : c.type = .sql e.type := ((Bound.eval_gathered typed b.schema).2 c computed).1
    obtain ⟨texts, written, back⟩ := exists_texts known spelled
    show ((cast c .string).mapError ExecError.kernel >>= fun texts => (cast texts e.type).mapError .kernel) = .ok c
    rw [written]
    show (cast texts e.type).mapError ExecError.kernel = .ok c
    rw [back, mapError_ok]

/-- A column of integers is cast to their decimal texts, one of truth values to `true` and `false`, and a null to a null;
the texts are cast back to the same column. So an expression of either type that is cast to a text and back gives what it
gives, or fails as it fails. -/
theorem cast_text_back :
    (∀ cells : List (Option Int64), cast ⟨.sql .int64, cells⟩ .string = .ok ⟨.sql .string, intTexts cells⟩ ∧
      cast ⟨.sql .string, intTexts cells⟩ .int64 = .ok ⟨.sql .int64, cells⟩) ∧
    (∀ cells : List (Option Bool), cast ⟨.sql .bool, cells⟩ .string = .ok ⟨.sql .string, boolTexts cells⟩ ∧
      cast ⟨.sql .string, boolTexts cells⟩ .bool = .ok ⟨.sql .bool, cells⟩) ∧
    ∀ (b : Batch) (e : Bound), e.WellTyped b.schema.Holds → e.type = .int64 ∨ e.type = .bool →
      (Bound.cast e.type (.cast .string e)).eval b = e.eval b := by
  refine ⟨?_, ?_, ?_⟩
  · intro cells
    exact ⟨cast_int_string cells, cast_string_int cells⟩
  · intro cells
    exact ⟨cast_bool_string cells, cast_string_bool cells⟩
  · intro b e typed spelled
    exact eval_cast_text typed spelled

theorem cast_text_back_edges :
    cast ⟨.sql .string, [some "-9223372036854775808", none, some "9223372036854775807"]⟩ .int64 =
      .ok ⟨.sql .int64, [some Int64.minValue, none, some Int64.maxValue]⟩ ∧
    (Bound.cast .int64 (.cast .string (.input 0 .int64))).eval
      ⟨[⟨"n", ⟨.sql .int64, [some Int64.minValue, none]⟩⟩], 2, by decide⟩ =
        .ok ⟨.sql .int64, [some Int64.minValue, none]⟩ := by
  obtain ⟨ints, _, exprs⟩ := cast_text_back
  have texts : intTexts [some Int64.minValue, none, some Int64.maxValue] =
      [some "-9223372036854775808", none, some "9223372036854775807"] := by decide
  constructor
  · rw [← texts]
    exact (ints _).2
  · exact exprs _ (.input 0 .int64) (.input ⟨_, rfl, rfl⟩) (Or.inl rfl)

end Tabular.Kernel
