import Tabular.Proofs.Typing

/-!
# Nulls beside operands

A null literal takes the type of the operand beside it (`Binding.Adopts`), whatever the operand is, but for one
that is a null itself: a cast of a null is bound to a null of the type of the cast, and of two nulls neither
keeps its type unless the operator takes both (`Binding.adopts_iff`).
-/

namespace Tabular

/-- Whether an expression is a null literal, maybe under casts. -/
def Expr.isNull : Expr → Bool
  | literal .null => true
  | cast inner _ => inner.isNull
  | _ => false

namespace Binding

variable {catalog : Catalog} {source : Option TableDef}

/-- A null literal on either side of an expression that is bound to `x` becomes a null of the type of `x`. The
operation is bound if the operator takes two operands of that type, and `x` stays as it is. -/
def Adopts (catalog : Catalog) (source : Option TableDef) (op : Operator) (e : Expr) (x : Bound) : Prop :=
  ∀ bound,
    (bindExpr catalog source (.binary op e (.literal .null)) = .ok bound ↔
      ∃ type, op.resultType x.type x.type = some type ∧
        bound = .binary op x (.constant (.null x.type)) type) ∧
    (bindExpr catalog source (.binary op (.literal .null) e) = .ok bound ↔
      ∃ type, op.resultType x.type x.type = some type ∧
        bound = .binary op (.constant (.null x.type)) x type)

/-! ## Nulls that are bound -/

theorem bindColumn_not_null {table : Option TableDef} {name display : String} {x : Bound}
    (accepted : bindColumn catalog table name display = .ok x) : x.isNullConstant = false := by
  unfold bindColumn at accepted
  split at accepted
  · cases accepted
  · split at accepted
    · cases accepted
    · split at accepted
      · cases accepted
      · cases accepted
        rfl
      · cases accepted

/-- Expressions that are bound to null constants are nulls under casts, and no others are. -/
theorem isNullConstant_bindExpr {e : Expr} {x : Bound} (accepted : bindExpr catalog source e = .ok x) :
    x.isNullConstant = e.isNull := by
  induction e generalizing x with
  | name column => exact bindColumn_not_null accepted
  | qualified qualifier column =>
    cases source with
    | none => cases accepted
    | some t => exact bindColumn_not_null (bindExpr_qualified accepted)
  | literal l => cases accepted; cases l <;> rfl
  | binary op left right _ _ =>
    obtain ⟨l, _, rest⟩ := bind_eq_ok.mp accepted
    obtain ⟨r, _, together⟩ := bind_eq_ok.mp rest
    simp only [bindBinary] at together
    split at together
    · cases together
      rfl
    · cases together
  | cast inner target ih =>
    obtain ⟨i, boundInner, around⟩ := bind_eq_ok.mp accepted
    have inside := ih boundInner
    unfold bindCast at around
    split_ifs at around with null
    · cases around
      exact null.symm.trans inside
    · cases around
      exact inside
    · cases around
      have operand : i.isNullConstant = false := by simpa using null
      exact operand.symm.trans inside

/-- A null constant is known by its type. -/
theorem eq_null_of_isNullConstant {x : Bound} (null : x.isNullConstant = true) :
    x = .constant (.null x.type) := by
  cases x with
  | constant value =>
    obtain ⟨type, cell⟩ := value
    have empty : cell = none := Option.isNone_iff_eq_none.mp null
    rw [empty]
    rfl
  | column => cases null
  | input => cases null
  | binary => cases null
  | cast => cases null

/-! ## Operands of one type -/

/-- Operands that have one type after nulls took theirs are bound as they are. -/
theorem bindBinary_eq_ok_iff {op : Operator} {left right l r bound : Bound}
    (adopted : adoptTypes op left right = (l, r)) (same : l.type = r.type) :
    bindBinary op left right = .ok bound ↔
      ∃ type, op.resultType l.type l.type = some type ∧ bound = .binary op l r type := by
  have wide : widen l r = (l, r) := by
    rw [widen, if_pos same]
  have given : op.resultType l.type r.type = op.resultType l.type l.type := by
    rw [same]
  simp only [bindBinary, adopted, wide, given]
  cases op.resultType l.type l.type with
  | none => simp
  | some type => simp [eq_comm]

/-- The operator takes two nulls of the type that it picks for nulls. -/
theorem exists_resultType_null (op : Operator) :
    ∃ type, op.resultType (nullOperandType op) (nullOperandType op) = some type := by
  cases op with
  | arithmetic op => exact ⟨.int64, rfl⟩
  | comparison op => exact ⟨.bool, rfl⟩
  | logical op => exact ⟨.bool, rfl⟩

/-- A string is an operand of comparisons only. -/
theorem resultType_string (op : Operator) :
    (op.resultType .string .string).isNone = !op.isComparison := by
  cases op <;> rfl

/-- The type of a null beside a null literal: a comparison leaves two strings as they are, and any other two nulls
take the type that the operator picks. -/
def besideNull (op : Operator) (type : DataType) : DataType :=
  if type = .string ∧ op.isComparison = true then .string else nullOperandType op

theorem besideNull_eq_iff (op : Operator) (type : DataType) :
    besideNull op type = type ↔ type = nullOperandType op ∨ type = .string ∧ op.isComparison = true := by
  unfold besideNull
  split_ifs with kept
  · exact iff_of_true kept.1.symm (Or.inr kept)
  · rw [or_iff_left kept]
    exact eq_comm

theorem exists_resultType_besideNull (op : Operator) (type : DataType) :
    ∃ given, op.resultType (besideNull op type) (besideNull op type) = some given := by
  unfold besideNull
  split_ifs with kept
  · have taken := resultType_string op
    rw [kept.2] at taken
    exact Option.isSome_iff_exists.mp (by simpa using taken)
  · exact exists_resultType_null op

variable {x : Bound}

/-- A null literal beside an operand that is no null takes its type. -/
theorem adoptTypes_operand (op : Operator) (operand : x.isNullConstant = false) :
    adoptTypes op x (.constant (.null .string)) = (x, .constant (.null x.type)) ∧
      adoptTypes op (.constant (.null .string)) x = (.constant (.null x.type), x) := by
  have literal : (Bound.constant (.null .string)).isNullConstant = true := rfl
  simp [adoptTypes, operand, literal]

/-- A null literal and another null take one type, whatever the type of the other was. -/
theorem adoptTypes_null (op : Operator) (null : x.isNullConstant = true) :
    let both := Bound.constant (.null (besideNull op x.type))
    adoptTypes op x (.constant (.null .string)) = (both, both) ∧
      adoptTypes op (.constant (.null .string)) x = (both, both) := by
  obtain ⟨type, rfl⟩ : ∃ type, x = .constant (.null type) := ⟨_, eq_null_of_isNullConstant null⟩
  have isNull (t : DataType) : (Bound.constant (.null t)).isNullConstant = true := rfl
  have typed (t : DataType) : (Bound.constant (.null t)).type = t := rfl
  simp only [adoptTypes, isNull, typed, Bool.and_self, if_true, besideNull]
  by_cases string : type = .string
  · rw [string, resultType_string]
    cases op.isComparison <;> simp
  · have refused : op.resultType type .string = none := by
      simp [Operator.resultType, string]
    have refused' : op.resultType .string type = none := by
      simp [Operator.resultType, Ne.symm string]
    simp [refused, refused', string]

/-! ## The law -/

/-- Operations of an expression and a null literal are those of what the expression is bound to. -/
theorem bindExpr_beside_null {e : Expr} (accepted : bindExpr catalog source e = .ok x) (op : Operator) :
    bindExpr catalog source (.binary op e (.literal .null)) = bindBinary op x (.constant (.null .string)) ∧
      bindExpr catalog source (.binary op (.literal .null) e) = bindBinary op (.constant (.null .string)) x := by
  constructor
  · rw [bindExpr, accepted]
    rfl
  · rw [bindExpr, accepted]
    rfl

/-- A null literal takes the type of the expression beside it unless that is a null itself, which may lose its own
type: both then have the type `besideNull`. -/
theorem adopts_iff {e : Expr} (accepted : bindExpr catalog source e = .ok x) (op : Operator) :
    (Adopts catalog source op e x ↔
      (e.isNull = true → x.type = nullOperandType op ∨ x.type = .string ∧ op.isComparison = true)) ∧
    (e.isNull = true → ∃ type, op.resultType (besideNull op x.type) (besideNull op x.type) = some type ∧
      let both := Bound.constant (.null (besideNull op x.type))
      bindExpr catalog source (.binary op e (.literal .null)) = .ok (.binary op both both type) ∧
        bindExpr catalog source (.binary op (.literal .null) e) = .ok (.binary op both both type)) := by
  obtain ⟨onLeft, onRight⟩ := bindExpr_beside_null accepted op
  rw [← isNullConstant_bindExpr accepted, ← besideNull_eq_iff, Adopts, onLeft, onRight]
  cases null : x.isNullConstant with
  | false =>
    obtain ⟨left, right⟩ := adoptTypes_operand op null
    refine ⟨iff_of_true (fun bound => ⟨?_, ?_⟩) nofun, nofun⟩
    · exact bindBinary_eq_ok_iff left rfl
    · exact bindBinary_eq_ok_iff right rfl
  | true =>
    obtain ⟨left, right⟩ := adoptTypes_null op null
    obtain ⟨type, gives⟩ := exists_resultType_besideNull op x.type
    have boundLeft := (bindBinary_eq_ok_iff left rfl).mpr ⟨type, gives, rfl⟩
    have boundRight := (bindBinary_eq_ok_iff right rfl).mpr ⟨type, gives, rfl⟩
    refine ⟨⟨fun adopts _ => ?_, fun kept bound => ?_⟩, fun _ => ⟨type, gives, boundLeft, boundRight⟩⟩
    · -- the null beside `x` shows the type that both have
      obtain ⟨_, _, same⟩ := (adopts _).1.mp boundLeft
      injection same with _ _ sameNull _
      injection sameNull with sameNull
      exact congrArg Scalar.type sameNull
    · have unchanged := eq_null_of_isNullConstant null
      rw [kept rfl, ← unchanged] at left right
      rw [← unchanged]
      exact ⟨bindBinary_eq_ok_iff left rfl, bindBinary_eq_ok_iff right rfl⟩

end Binding

namespace Sample

/-- `CAST(2 AS FLOAT64)`. -/
def castNumber : Expr := .cast (.literal (.int 2)) .float64

/-- `CAST(NULL AS FLOAT64)`. -/
def castNull : Expr := .cast (.literal .null) .float64

def nullFloat : Bound := .constant (.null .float64)

def nullInt : Bound := .constant (.null .int64)

end Sample

namespace Binding

open Sample

theorem adopts_iff_casts :
    (∃ x, bindExpr .empty none castNumber = .ok x ∧ Adopts .empty none .lt castNumber x) ∧
    bindExpr .empty none castNull = .ok nullFloat ∧
      (Adopts .empty none .add castNull nullFloat ↔
        (castNull.isNull = true → nullFloat.type = nullOperandType .add ∨
          nullFloat.type = .string ∧ Operator.add.isComparison = true)) ∧
      bindExpr .empty none (.binary .add castNull (.literal .null)) = .ok (.binary .add nullInt nullInt .int64) := by
  refine ⟨⟨_, rfl, (adopts_iff rfl .lt).1.mpr nofun⟩, rfl, (adopts_iff rfl .add).1, ?_⟩
  obtain ⟨type, gives, bound, _⟩ := (adopts_iff (e := castNull) rfl .add).2 rfl
  cases gives
  exact bound

/-- A float that is null does not stay a float beside a null literal. -/
theorem not_adopts_cast : bindExpr .empty none castNull = .ok nullFloat ∧
    Operator.add.resultType .float64 .float64 = some .float64 ∧
    bindExpr .empty none (.binary .add castNull (.literal .null)) = .ok (.binary .add nullInt nullInt .int64) ∧
    ¬ Adopts .empty none .add castNull nullFloat := by
  refine ⟨rfl, rfl, rfl, fun adopts => ?_⟩
  have bound := (adopts (.binary .add nullFloat nullFloat .float64)).1.mpr ⟨.float64, rfl, rfl⟩
  have actual : bindExpr .empty none (.binary .add castNull (.literal .null)) =
      .ok (.binary .add nullInt nullInt .int64) := rfl
  rw [actual] at bound
  cases bound

end Binding

end Tabular
