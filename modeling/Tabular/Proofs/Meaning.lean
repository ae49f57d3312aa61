import Tabular.Proofs.Evaluation
import Tabular.Proofs.Selection

/-!
# The meaning of statements

What a statement says of one row, as it is written: names lead to the columns of the table, and
values have the types they have. Binding adds types and casts to it, but no other values
(`bindExpr_value`).
-/

namespace Tabular

/-! ## Expressions -/

/-- The cell of a row of a table under a name. -/
def TableDef.cell (t : TableDef) (row : Row) (name : String) : Option Datum :=
  (t.columns.findIdx? (·.name == name)).bind row.cell

theorem TableDef.cell_name {t : TableDef} {c : ColumnDef} (listed : c ∈ t.columns) (row : Row) :
    t.cell row c.name = row.cell (t.position c) := by
  rw [cell, findIdx?_position listed]
  rfl

/-- The cell of a literal. -/
def Literal.datum : Literal → Option Datum
  | int i => some ⟨.sql .int64, i⟩
  | float x => some ⟨.sql .float64, x⟩
  | string s => some ⟨.sql .string, s⟩
  | bool b => some ⟨.sql .bool, b⟩
  | null => none

/-- Two values of which an integer beside a float is made a float. -/
def Datum.widen : Datum → Datum → Datum × Datum
  | ⟨.sql .int64, i⟩, ⟨.sql .float64, y⟩ => (⟨.sql .float64, Double.ofInt i.toInt⟩, ⟨.sql .float64, y⟩)
  | ⟨.sql .float64, x⟩, ⟨.sql .int64, j⟩ => (⟨.sql .float64, x⟩, ⟨.sql .float64, Double.ofInt j.toInt⟩)
  | a, b => (a, b)

/-- An operator on two cells as they stand: a null on either side gives null. -/
def Row.combine (op : Operator) (a b : Option Datum) : Except ExecError (Option Datum) :=
  (Kernel.liftCell (fun a b => Datum.operate op (a.widen b).1 (a.widen b).2) a b).mapError .kernel

/-- The value of an expression on a row of a table. -/
def Expr.value (t : TableDef) (row : Row) : Expr → Except ExecError (Option Datum)
  | name column => .ok (t.cell row column)
  | qualified _ column => .ok (t.cell row column)
  | literal l => .ok l.datum
  | binary op left right => do
    let a ← left.value t row
    let b ← right.value t row
    Row.combine op a b
  | cast inner target => do
    let a ← inner.value t row
    Row.convert target a

/-! ## Statements -/

/-- The cells that an item of a select list gives. -/
def SelectItem.cells (t : TableDef) (row : Row) : SelectItem → Except ExecError Row
  | wildcard => .ok row
  | expr e _ => do
    let a ← e.value t row
    return [a]

namespace Select

/-- The cells of the select list, from the first item to the last. -/
def cells (t : TableDef) (s : Select) (row : Row) : Except ExecError Row := do
  let cells ← s.items.mapM (·.cells t row)
  return cells.flatten

/-- Whether a row is wanted: every row without a condition, else those of which it is true. -/
def keeps (t : TableDef) (s : Select) (row : Row) : Except ExecError Bool :=
  match s.condition with
  | none => .ok true
  | some e => (e.value t row).map Row.isTrue

/-- What a statement does with the rows of a table. -/
def selection (t : TableDef) (s : Select) : Selection := ⟨s.condition.isSome, s.keeps t, s.cells t⟩

end Select

/-! ## Values under widening -/

namespace Row

/-- On cells of one type nothing is widened. -/
theorem combine_same {type : DataType} (op : Operator) {a b : Option Datum} (onLeft : type.Allows (.ok a))
    (onRight : type.Allows (.ok b)) : combine op a b = operate op a b := by
  match a, b with
  | none, _ => rfl
  | some _, none => rfl
  | some ⟨_, a⟩, some ⟨_, b⟩ =>
    cases onLeft
    cases onRight
    cases type <;> rfl

/-- An integer on the left of a float is combined as the float that it converts to. -/
theorem combine_int_float (op : Operator) {a : Option Datum} (onLeft : DataType.int64.Allows (.ok a)) :
    ∃ wide, convert .float64 a = .ok wide ∧
      ∀ b, DataType.float64.Allows (.ok b) → combine op a b = operate op wide b := by
  match a with
  | none => exact ⟨none, rfl, fun _ _ => rfl⟩
  | some ⟨_, i⟩ =>
    cases onLeft
    refine ⟨some ⟨.sql .float64, Double.ofInt i.toInt⟩, rfl, ?_⟩
    rintro (_ | ⟨_, y⟩) onRight
    · rfl
    · cases onRight
      rfl

/-- An integer on the right of a float is combined as the float that it converts to. -/
theorem combine_float_int (op : Operator) {b : Option Datum} (onRight : DataType.int64.Allows (.ok b)) :
    ∃ wide, convert .float64 b = .ok wide ∧
      ∀ a, DataType.float64.Allows (.ok a) → combine op a b = operate op a wide := by
  match b with
  | none => exact ⟨none, rfl, fun a _ => by cases a <;> rfl⟩
  | some ⟨_, j⟩ =>
    cases onRight
    refine ⟨some ⟨.sql .float64, Double.ofInt j.toInt⟩, rfl, ?_⟩
    rintro (_ | ⟨_, x⟩) onLeft
    · rfl
    · cases onLeft
      rfl

/-- A cell that already has a type is converted to itself. -/
theorem convert_of_allows {type : DataType} {a : Option Datum} (inside : type.Allows (.ok a)) :
    convert type a = .ok a := by
  match a with
  | none => rfl
  | some ⟨_, v⟩ =>
    cases inside
    cases type <;> rfl

end Row

/-! ## Binding -/

namespace Binding

variable {schema : Schema} {row : Row} {left right : Bound}

theorem datum_literalConstant (l : Literal) : (literalConstant l).datum = l.datum := by
  cases l <;> rfl

/-- A null constant has no value, whatever its type. -/
theorem value_of_isNullConstant {e : Bound} (null : e.isNullConstant = true) :
    e.value schema row = .ok none := by
  cases e with
  | constant s =>
    obtain ⟨type, value⟩ := s
    cases value with
    | none => rfl
    | some v => cases null
  | column => cases null
  | input => cases null
  | binary => cases null
  | cast => cases null

/-- The types that nulls take do not show in the values. -/
theorem adoptTypes_value (schema : Schema) (row : Row) (op : Operator) (left right : Bound) :
    (adoptTypes op left right).1.value schema row = left.value schema row ∧
      (adoptTypes op left right).2.value schema row = right.value schema row := by
  unfold adoptTypes
  split_ifs with both _ onLeft onRight
  · obtain ⟨nullLeft, nullRight⟩ := Bool.and_eq_true_iff.mp both
    rw [value_of_isNullConstant nullLeft, value_of_isNullConstant nullRight]
    exact ⟨rfl, rfl⟩
  · exact ⟨rfl, rfl⟩
  · rw [value_of_isNullConstant onLeft]
    exact ⟨rfl, rfl⟩
  · rw [value_of_isNullConstant onRight]
    exact ⟨rfl, rfl⟩
  · exact ⟨rfl, rfl⟩

theorem eq_of_widensTo {source target : DataType} (different : source ≠ target)
    (widens : source.widensTo target = true) : source = .int64 ∧ target = .float64 := by
  simpa [DataType.widensTo, different] using widens

/-- What the operands of an operation allow, once both have values. -/
private theorem operate_eq_combine {op : Operator} {wideLeft wideRight : Bound} {type : DataType}
    (each : ∀ a, left.value schema row = .ok a → ∃ wa, wideLeft.value schema row = .ok wa ∧
      ∀ b, right.value schema row = .ok b → ∃ wb, wideRight.value schema row = .ok wb ∧
        Row.operate op wa wb = Row.combine op a b)
    (failsLeft : ∀ x, left.value schema row = .error x → wideLeft.value schema row = .error x)
    (failsRight : ∀ x, right.value schema row = .error x → wideRight.value schema row = .error x) :
    (Bound.binary op wideLeft wideRight type).value schema row = (do
      let a ← left.value schema row
      let b ← right.value schema row
      Row.combine op a b) := by
  rw [Bound.value]
  cases atLeft : left.value schema row with
  | error x => rw [failsLeft x atLeft]; rfl
  | ok a =>
    obtain ⟨wa, wideA, other⟩ := each a atLeft
    rw [wideA]
    cases atRight : right.value schema row with
    | error x => rw [failsRight x atRight]; rfl
    | ok b =>
      obtain ⟨wb, wideB, same⟩ := other b atRight
      rw [wideB]
      exact same

/-- A cast around an expression fails where the expression does. -/
private theorem cast_value_error {e : Bound} {target : DataType} {x : ExecError}
    (fails : e.value schema row = .error x) : (Bound.cast target e).value schema row = .error x := by
  rw [Bound.value, fails]
  rfl

private theorem cast_value_ok {e : Bound} {target : DataType} {a wide : Option Datum}
    (known : e.value schema row = .ok a) (converts : Row.convert target a = .ok wide) :
    (Bound.cast target e).value schema row = .ok wide := by
  rw [Bound.value, known]
  exact converts

/-- An operation on operands of which one is widened combines the operands as they were. -/
theorem widen_value (fits : row.Fits schema) (onLeft : left.WellTyped (Bound.LeafOf schema))
    (onRight : right.WellTyped (Bound.LeafOf schema)) {op : Operator} {type : DataType}
    (gives : op.resultType (widen left right).1.type (widen left right).2.type = some type) :
    (Bound.binary op (widen left right).1 (widen left right).2 type).value schema row = (do
      let a ← left.value schema row
      let b ← right.value schema row
      Row.combine op a b) := by
  have allowsLeft := Bound.allows_value fits onLeft
  have allowsRight := Bound.allows_value fits onRight
  unfold widen at gives ⊢
  split_ifs at gives ⊢ with same onto back
  · refine operate_eq_combine (fun a atLeft => ⟨a, atLeft, fun b atRight => ⟨b, atRight, ?_⟩⟩)
      (fun _ => id) fun _ => id
    rw [atLeft] at allowsLeft
    rw [atRight, ← same] at allowsRight
    exact (Row.combine_same op allowsLeft allowsRight).symm
  · obtain ⟨int, float⟩ := eq_of_widensTo same onto
    rw [int] at allowsLeft
    rw [float] at allowsRight ⊢
    refine operate_eq_combine (fun a atLeft => ?_) (fun _ => cast_value_error) fun _ => id
    rw [atLeft] at allowsLeft
    obtain ⟨wide, converts, combined⟩ := Row.combine_int_float op allowsLeft
    refine ⟨wide, cast_value_ok atLeft converts, fun b atRight => ⟨b, atRight, ?_⟩⟩
    rw [atRight] at allowsRight
    exact (combined b allowsRight).symm
  · obtain ⟨int, float⟩ := eq_of_widensTo (Ne.symm same) back
    rw [int] at allowsRight
    rw [float] at allowsLeft ⊢
    refine operate_eq_combine (fun a atLeft => ⟨a, atLeft, fun b atRight => ?_⟩) (fun _ => id)
      fun _ => cast_value_error
    rw [atLeft] at allowsLeft
    rw [atRight] at allowsRight
    obtain ⟨wide, converts, combined⟩ := Row.combine_float_int op allowsRight
    exact ⟨wide, cast_value_ok atRight converts, (combined a allowsLeft).symm⟩
  · simp [Operator.resultType, same] at gives

theorem bindBinary_value (fits : row.Fits schema) (onLeft : left.WellTyped (Bound.LeafOf schema))
    (onRight : right.WellTyped (Bound.LeafOf schema)) {op : Operator} {bound : Bound}
    (accepted : bindBinary op left right = .ok bound) :
    bound.value schema row = (do
      let a ← left.value schema row
      let b ← right.value schema row
      Row.combine op a b) := by
  obtain ⟨adoptedLeft, adoptedRight⟩ := adoptTypes_wellTyped op onLeft onRight
  obtain ⟨sameLeft, sameRight⟩ := adoptTypes_value schema row op left right
  simp only [bindBinary] at accepted
  split at accepted
  · rename_i type gives
    cases accepted
    rw [widen_value fits adoptedLeft adoptedRight gives, sameLeft, sameRight]
  · cases accepted

theorem bindCast_value (fits : row.Fits schema) {inner bound : Bound} {target : DataType}
    (inside : inner.WellTyped (Bound.LeafOf schema)) (accepted : bindCast inner target = .ok bound) :
    bound.value schema row = (do
      let a ← inner.value schema row
      Row.convert target a) := by
  have allows := Bound.allows_value fits inside
  unfold bindCast at accepted
  split_ifs at accepted with null same
  · cases accepted
    rw [value_of_isNullConstant null]
    rfl
  · cases accepted
    rw [same] at allows
    cases known : inner.value schema row with
    | error x => rfl
    | ok a =>
      rw [known] at allows
      exact (Row.convert_of_allows allows).symm
  · cases accepted
    rfl

theorem bindColumn_value {catalog : Catalog} {t : TableDef} (known : catalog.table t.id = .ok t)
    {name display : String} {bound : Bound} (accepted : bindColumn catalog (some t) name display = .ok bound)
    (row : Row) : bound.value (Plan.scanSchema t) row = .ok (t.cell row name) := by
  obtain ⟨c, once, rfl⟩ := bindColumn_ok known accepted
  obtain ⟨_, position, first, there⟩ := Plan.exists_position_of_filter once
  simp [Bound.value, Plan.lookup_scanSchema, first, there, TableDef.cell]

/-- Binding keeps the value of an expression on every row of the table. -/
theorem bindExpr_value {catalog : Catalog} {t : TableDef} (known : catalog.table t.id = .ok t) {row : Row}
    (fits : row.Fits (Plan.scanSchema t)) {e : Expr} {bound : Bound}
    (accepted : bindExpr catalog (some t) e = .ok bound) :
    bound.value (Plan.scanSchema t) row = e.value t row := by
  have typed {e : Expr} {bound : Bound} (accepted : bindExpr catalog (some t) e = .ok bound) :
      bound.WellTyped (Bound.LeafOf (Plan.scanSchema t)) :=
    (bindExpr_wellTyped known accepted).mono fun _ => Or.inl
  induction e generalizing bound with
  | name column => exact bindColumn_value known accepted row
  | qualified qualifier column => exact bindColumn_value known (bindExpr_qualified accepted) row
  | literal l =>
    cases accepted
    rw [Bound.value, Expr.value, datum_literalConstant]
  | binary op left right ihl ihr =>
    obtain ⟨l, boundLeft, rest⟩ := bind_eq_ok.mp accepted
    obtain ⟨r, boundRight, together⟩ := bind_eq_ok.mp rest
    rw [bindBinary_value fits (typed boundLeft) (typed boundRight) together, ihl boundLeft, ihr boundRight]
    rfl
  | cast inner target ih =>
    obtain ⟨i, boundInner, around⟩ := bind_eq_ok.mp accepted
    rw [bindCast_value fits (typed boundInner) around, ih boundInner]
    rfl

/-- A bound statement has the table, the items and the condition that were written, each bound. -/
theorem bindSelect_ok {catalog : Catalog} {s : Select} {bound : BoundSelect}
    (accepted : bindSelect catalog s = .ok bound) :
    s.source.mapM (bindTable catalog) = .ok bound.source ∧
      (∃ outputs, s.items.mapM (bindItem catalog bound.source) = .ok outputs ∧
        bound.outputs = outputs.flatten) ∧
      s.condition.mapM (bindCondition catalog bound.source) = .ok bound.filter := by
  obtain ⟨source, atTable, rest⟩ := bind_eq_ok.mp accepted
  obtain ⟨outputs, atItems, rest⟩ := bind_eq_ok.mp rest
  obtain ⟨filter, atCondition, same⟩ := bind_eq_ok.mp rest
  cases same
  exact ⟨atTable, ⟨outputs, atItems, rfl⟩, atCondition⟩

/-- The table of a bound statement is the one that the catalog has under the written name. -/
theorem source_of_bindSelect {catalog : Catalog} {s : Select} {bound : BoundSelect} {name : String}
    (reads : s.source = some name) (accepted : bindSelect catalog s = .ok bound) :
    ∃ t, catalog.tableByName name = .ok t ∧ bound.source = some t := by
  obtain ⟨atTable, _⟩ := bindSelect_ok accepted
  rw [reads] at atTable
  obtain ⟨t, found, same⟩ := bind_eq_ok.mp atTable
  exact ⟨t, mapError_eq_ok.mp found, (Except.ok.inj same).symm⟩

/-! ## Select lists -/

/-- An output of a wildcard has the value of the first column that shares its name. -/
theorem wildcardOutputs_value (t : TableDef) (row : Row) :
    (wildcardOutputs t).mapM (fun o => o.expr.value (Plan.scanSchema t) row) =
      .ok (t.columns.map fun c => t.cell row c.name) := by
  rw [mapM_eq_ok, wildcardOutputs, List.map_map, List.map_map]
  refine List.map_congr_left fun c listed => ?_
  simp only [Function.comp, Bound.value, Plan.lookup_namesake listed, TableDef.cell_name listed, Option.bind_some]

/-- Where names differ, the cells under the names are the row itself. -/
theorem cells_of_nodup {t : TableDef} (differ : t.columnNames.Nodup) {row : Row}
    (whole : row.length = t.columns.length) : (t.columns.map fun c => t.cell row c.name) = row := by
  apply List.ext_getElem
  · simp [whole]
  · intro i _ inside
    have at_i : i < t.columns.length := whole ▸ inside
    rw [List.getElem_map, TableDef.cell_name (List.getElem_mem at_i), TableDef.position_of_nodup differ at_i]
    simp [Row.cell, List.getElem?_eq_getElem inside]

variable {catalog : Catalog} {t : TableDef}

/-- The outputs of an item have the cells of the item. -/
theorem bindItem_value (known : catalog.table t.id = .ok t) (differ : t.columnNames.Nodup)
    (fits : row.Fits (Plan.scanSchema t)) (whole : row.length = t.columns.length) {item : SelectItem}
    {outputs : List Output} (accepted : bindItem catalog (some t) item = .ok outputs) :
    outputs.mapM (fun o => o.expr.value (Plan.scanSchema t) row) = item.cells t row := by
  cases item with
  | wildcard =>
    cases accepted
    rw [wildcardOutputs_value, cells_of_nodup differ whole]
    rfl
  | expr e alias? =>
    obtain ⟨bound, boundTo, same⟩ := bind_eq_ok.mp accepted
    cases same
    rw [SelectItem.cells, ← bindExpr_value known fits boundTo, List.mapM_cons, List.mapM_nil]
    rfl

/-- The outputs of a select list have its cells, from the first item to the last. -/
theorem bindItems_value (known : catalog.table t.id = .ok t) (differ : t.columnNames.Nodup)
    (fits : row.Fits (Plan.scanSchema t)) (whole : row.length = t.columns.length) {items : List SelectItem}
    {outputs : List (List Output)} (accepted : items.mapM (bindItem catalog (some t)) = .ok outputs) :
    outputs.flatten.mapM (fun o => o.expr.value (Plan.scanSchema t) row) = (do
      let cells ← items.mapM (·.cells t row)
      return cells.flatten) := by
  induction items generalizing outputs with
  | nil => cases accepted; rfl
  | cons item items ih =>
    rw [List.mapM_cons] at accepted
    obtain ⟨first, boundFirst, rest⟩ := bind_eq_ok.mp accepted
    obtain ⟨others, boundOthers, same⟩ := bind_eq_ok.mp rest
    cases same
    rw [List.flatten_cons, List.mapM_append, bindItem_value known differ fits whole boundFirst, ih boundOthers,
      List.mapM_cons]
    cases item.cells t row with
    | error x => rfl
    | ok cells => cases items.mapM (·.cells t row) <;> rfl

end Binding

end Tabular
