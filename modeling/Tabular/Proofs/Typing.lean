import Mathlib.Data.List.Nodup
import Mathlib.Tactic.SplitIfs
import Tabular.Binding
import Tabular.Plan.Resolve
import Tabular.Proofs.Outcome
import Tabular.Proofs.Registrations

/-!
# Typing

The rules by which the parts of a bound expression fit together. Binding follows them
(`bindExpr_wellTyped`), and resolution keeps them while it turns names into positions
(`exists_resolve`).
-/

namespace Tabular

/-! ## Rules -/

/-- An expression whose operators and casts take the types of their operands and carry the types
they give. What columns and inputs there may be is left to `leaf`. -/
inductive Bound.WellTyped (leaf : Bound → Prop) : Bound → Prop
  | constant (value : Scalar) : WellTyped leaf (.constant value)
  | column {table name : String} {type : DataType} (known : leaf (.column table name type)) :
      WellTyped leaf (.column table name type)
  | input {index : Nat} {type : DataType} (known : leaf (.input index type)) :
      WellTyped leaf (.input index type)
  | binary {op : Operator} {left right : Bound} {type : DataType} (onLeft : WellTyped leaf left)
      (onRight : WellTyped leaf right) (gives : op.resultType left.type right.type = some type) :
      WellTyped leaf (.binary op left right type)
  | cast {target : DataType} {inner : Bound} (inside : WellTyped leaf inner)
      (allowed : inner.type.castsTo target = true) : WellTyped leaf (.cast target inner)

namespace Schema

/-- A named column whose first namesake in the schema has the type that it carries. -/
def Names (schema : Schema) : Bound → Prop
  | .column table name type =>
    ∃ index, schema.lookup (Bound.qualifiedName table name) = some (index, type)
  | _ => False

/-- An input that stands in the schema and carries its type. -/
def Holds (schema : Schema) : Bound → Prop
  | .input index type => ∃ field, schema.fields[index]? = some field ∧ field.type = .sql type
  | _ => False

/-- What is looked up stands at the position that is found. -/
theorem holds_of_lookup {schema : Schema} {name : String} {index : Nat} {type : DataType}
    (found : schema.lookup name = some (index, type)) : schema.Holds (.input index type) := by
  simp only [lookup, bind, Option.bind_eq_some_iff, pure, Option.some.injEq, Prod.mk.injEq] at found
  obtain ⟨index, _, field, at_index, type, known, rfl, rfl⟩ := found
  refine ⟨field, at_index, ?_⟩
  revert known
  cases field.type <;> simp [ColumnType.dataType?]

end Schema

theorem Operator.type_of_resultType {op : Operator} {left right type : DataType}
    (gives : op.resultType left right = some type) : right = left := by
  by_contra different
  simp [resultType, Ne.symm different] at gives

/-! ## Names of a table -/

namespace TableDef

/-- The position of the first column that has the name of a column. -/
def position (t : TableDef) (c : ColumnDef) : Nat := t.columns.findIdx (·.name == c.name)

/-- The first column that has the name of a column. -/
def namesake (t : TableDef) (c : ColumnDef) : ColumnDef := t.columns[t.position c]?.getD c

variable {t : TableDef} {c : ColumnDef}

theorem findIdx?_position (listed : c ∈ t.columns) :
    t.columns.findIdx? (·.name == c.name) = some (t.position c) :=
  List.findIdx?_eq_some_of_exists ⟨c, listed, by simp⟩

theorem position_lt (listed : c ∈ t.columns) : t.position c < t.columns.length :=
  List.findIdx_lt_length_of_exists ⟨c, listed, by simp⟩

theorem getElem?_position (listed : c ∈ t.columns) : t.columns[t.position c]? = some (t.namesake c) := by
  simp [namesake, List.getElem?_eq_getElem (position_lt listed)]

theorem name_namesake (listed : c ∈ t.columns) : (t.namesake c).name = c.name := by
  obtain ⟨inside, named, _⟩ := List.findIdx?_eq_some_iff_getElem.mp (findIdx?_position listed)
  simpa [namesake, List.getElem?_eq_getElem inside] using named

/-- Where names differ, every column is the first of its name. -/
theorem namesake_of_nodup (differ : t.columnNames.Nodup) (listed : c ∈ t.columns) : t.namesake c = c :=
  List.inj_on_of_nodup_map differ (List.mem_of_getElem? (getElem?_position listed)) listed
    (name_namesake listed)

theorem position_of_nodup (differ : t.columnNames.Nodup) {i : Nat} (inside : i < t.columns.length) :
    t.position t.columns[i] = i := by
  have listed : t.columns[i] ∈ t.columns := List.getElem_mem inside
  have there := getElem?_position listed
  rw [namesake_of_nodup differ listed, List.getElem?_eq_some_iff] at there
  obtain ⟨_, same⟩ := there
  exact (differ.of_map.getElem_inj_iff).mp same

end TableDef

theorem Bound.qualifiedName_inj {table name other : String} :
    qualifiedName table name = qualifiedName table other ↔ name = other := by
  simp [qualifiedName, String.append_right_inj]

namespace Plan

/-- In the columns of a scan, a qualified name leads to the first column of the table that has the
name. -/
theorem lookup_scanSchema (t : TableDef) (name : String) :
    (scanSchema t).lookup (Bound.qualifiedName t.name name) =
      (t.columns.findIdx? (·.name == name)).bind fun index =>
        t.columns[index]?.map fun c => (index, c.type) := by
  have same : (scanSchema t).fields.findIdx? (·.name == Bound.qualifiedName t.name name) =
      t.columns.findIdx? (·.name == name) := by
    simp only [scanSchema, Schema.ofColumns, List.map_map, List.findIdx?_map]
    congr 1
    funext c
    exact decide_eq_decide.mpr Bound.qualifiedName_inj
  rw [Schema.lookup, same]
  cases t.columns.findIdx? (·.name == name) with
  | none => rfl
  | some index =>
    have at_index : (scanSchema t).fields[index]? = t.columns[index]?.map fun c =>
        ⟨Bound.qualifiedName t.name c.name, .sql c.type⟩ := by
      simp [scanSchema, Schema.ofColumns, Function.comp_def]
    cases at_column : t.columns[index]? with
    | none => simp [at_index, at_column]
    | some c => simp [at_index, at_column, ColumnType.dataType?]

theorem lookup_namesake {t : TableDef} {c : ColumnDef} (listed : c ∈ t.columns) :
    (scanSchema t).lookup (Bound.qualifiedName t.name c.name) = some (t.position c, (t.namesake c).type) := by
  rw [lookup_scanSchema, TableDef.findIdx?_position listed]
  simp [TableDef.getElem?_position listed]

/-- The position and the column of a name that a table has once. -/
theorem exists_position_of_filter {t : TableDef} {name : String} {c : ColumnDef}
    (once : t.columns.filter (·.name == name) = [c]) :
    c.name = name ∧ ∃ position, t.columns.findIdx? (·.name == name) = some position ∧
      t.columns[position]? = some c := by
  have only : ∀ d, d ∈ t.columns ∧ d.name = name ↔ d = c := by
    intro d
    rw [← List.mem_singleton (a := d), ← once, List.mem_filter, beq_iff_eq]
  obtain ⟨listed, rfl⟩ := (only c).mpr rfl
  refine ⟨rfl, t.position c, TableDef.findIdx?_position listed, ?_⟩
  have first := TableDef.getElem?_position listed
  rw [first, (only _).mp ⟨List.mem_of_getElem? first, TableDef.name_namesake listed⟩]

end Plan

/-! ## Resolution -/

namespace Bound

@[simp] theorem resolve_constant (schema : Schema) (value : Scalar) :
    (constant value).resolve schema = .ok (constant value) := rfl

@[simp] theorem resolve_binary (schema : Schema) (op : Operator) (left right : Bound) (type : DataType) :
    (binary op left right type).resolve schema = do
      let left ← left.resolve schema
      let right ← right.resolve schema
      return binary op left right type := rfl

@[simp] theorem resolve_cast (schema : Schema) (target : DataType) (inner : Bound) :
    (cast target inner).resolve schema = do
      let inner ← inner.resolve schema
      return cast target inner := rfl

theorem resolve_column (schema : Schema) (table name : String) (type : DataType) :
    (column table name type).resolve schema =
      match schema.lookup (qualifiedName table name) with
      | some (index, found) => .ok (input index found)
      | none => .error (.inputResolution (qualifiedName table name)) := rfl

/-- Names that a schema has are resolved, and the types stay. -/
theorem exists_resolve {schema : Schema} {e : Bound} (typed : e.WellTyped schema.Names) :
    ∃ r, e.resolve schema = .ok r ∧ r.WellTyped schema.Holds ∧ r.type = e.type := by
  induction typed with
  | constant value => exact ⟨_, resolve_constant schema value, .constant value, rfl⟩
  | column known =>
    obtain ⟨index, found⟩ := known
    exact ⟨_, by rw [resolve_column, found], .input (Schema.holds_of_lookup found), rfl⟩
  | input known => exact known.elim
  | binary _ _ gives ihl ihr =>
    obtain ⟨l, resolvedLeft, typedLeft, sameLeft⟩ := ihl
    obtain ⟨r, resolvedRight, typedRight, sameRight⟩ := ihr
    refine ⟨.binary _ l r _, ?_, .binary typedLeft typedRight (by rw [sameLeft, sameRight, gives]), rfl⟩
    rw [resolve_binary, resolvedLeft, resolvedRight]
    rfl
  | cast _ allowed ih =>
    obtain ⟨i, resolvedInner, typedInner, sameInner⟩ := ih
    refine ⟨.cast _ i, ?_, .cast typedInner (by rw [sameInner, allowed]), rfl⟩
    rw [resolve_cast, resolvedInner]
    rfl

/-- No name is left in an expression over positions. -/
theorem contains_columnRef {schema : Schema} {e : Bound} (typed : e.WellTyped schema.Holds) :
    e.contains .columnRef = false := by
  induction typed with
  | constant => rfl
  | column known => exact known.elim
  | input => rfl
  | binary _ _ _ ihl ihr => simp [contains, ihl, ihr]
  | cast _ _ ih => simp [contains, ih]

end Bound

/-! ## Binding -/

theorem DataType.castsTo_of_widensTo {source target : DataType} (widens : source.widensTo target = true) :
    source.castsTo target = true := by
  revert widens
  cases source <;> cases target <;> decide

namespace Binding

variable {leaf : Bound → Prop} {left right : Bound}

/-- A property that the steps of binding keep: constants have it, and so do operations and casts that binding
makes of operands that have it. A cast it makes is never one to the type that is there. -/
structure Kept (p : Bound → Prop) : Prop where
  constant (value : Scalar) : p (.constant value)
  binary {op : Operator} {left right : Bound} {type : DataType} (onLeft : p left) (onRight : p right)
    (gives : op.resultType left.type right.type = some type) : p (.binary op left right type)
  cast {target : DataType} {inner : Bound} (inside : p inner) (different : inner.type ≠ target)
    (allowed : inner.type.castsTo target = true) : p (.cast target inner)

theorem kept_wellTyped (leaf : Bound → Prop) : Kept (Bound.WellTyped leaf) :=
  ⟨.constant, .binary, fun inside _ allowed => .cast inside allowed⟩

section
variable {p : Bound → Prop} (kept : Kept p)
include kept

theorem adoptTypes_kept (op : Operator) (onLeft : p left) (onRight : p right) :
    p (adoptTypes op left right).1 ∧ p (adoptTypes op left right).2 := by
  unfold adoptTypes
  split_ifs
  · exact ⟨kept.constant _, kept.constant _⟩
  · exact ⟨onLeft, onRight⟩
  · exact ⟨kept.constant _, onRight⟩
  · exact ⟨onLeft, kept.constant _⟩
  · exact ⟨onLeft, onRight⟩

theorem widen_kept (onLeft : p left) (onRight : p right) : p (widen left right).1 ∧ p (widen left right).2 := by
  unfold widen
  split_ifs with same onto back
  · exact ⟨onLeft, onRight⟩
  · exact ⟨kept.cast onLeft same (DataType.castsTo_of_widensTo onto), onRight⟩
  · exact ⟨onLeft, kept.cast onRight (Ne.symm same) (DataType.castsTo_of_widensTo back)⟩
  · exact ⟨onLeft, onRight⟩

theorem bindBinary_kept {op : Operator} {bound : Bound} (onLeft : p left) (onRight : p right)
    (accepted : bindBinary op left right = .ok bound) : p bound := by
  obtain ⟨adoptedLeft, adoptedRight⟩ := adoptTypes_kept kept op onLeft onRight
  obtain ⟨wideLeft, wideRight⟩ := widen_kept kept adoptedLeft adoptedRight
  simp only [bindBinary] at accepted
  split at accepted
  · rename_i gives
    cases accepted
    exact kept.binary wideLeft wideRight gives
  · cases accepted

theorem bindCast_kept {inner bound : Bound} {target : DataType} (inside : p inner)
    (accepted : bindCast inner target = .ok bound) : p bound := by
  unfold bindCast at accepted
  split_ifs at accepted with _ different allowed
  · cases accepted; exact kept.constant _
  · cases accepted; exact inside
  · cases accepted; exact kept.cast inside different allowed

end

theorem adoptTypes_wellTyped (op : Operator) (onLeft : left.WellTyped leaf) (onRight : right.WellTyped leaf) :
    (adoptTypes op left right).1.WellTyped leaf ∧ (adoptTypes op left right).2.WellTyped leaf :=
  adoptTypes_kept (kept_wellTyped leaf) op onLeft onRight

/-- A column that is bound by its name is the only one of the name. -/
theorem bindColumn_ok {catalog : Catalog} {t : TableDef} (known : catalog.table t.id = .ok t)
    {name display : String} {bound : Bound} (accepted : bindColumn catalog (some t) name display = .ok bound) :
    ∃ c, t.columns.filter (·.name == name) = [c] ∧ bound = .column t.name name c.type := by
  obtain ⟨d, entry, rfl⟩ := Catalog.table_eq_ok_iff.mp known
  simp only [bindColumn, entry] at accepted
  split at accepted
  · cases accepted
  · rename_i number c once
    cases accepted
    have only : d.table.columns.filter (·.name == name) = [c] := by
      rw [← TableDescriptor.findColumns_map_snd, once]
      rfl
    exact ⟨c, only, by rw [(Plan.exists_position_of_filter only).1]⟩
  · cases accepted

theorem bindColumn_wellTyped {catalog : Catalog} {t : TableDef} (known : catalog.table t.id = .ok t)
    {name display : String} {bound : Bound} (accepted : bindColumn catalog (some t) name display = .ok bound) :
    bound.WellTyped (Plan.scanSchema t).Names := by
  obtain ⟨c, once, rfl⟩ := bindColumn_ok known accepted
  obtain ⟨_, position, first, at_position⟩ := Plan.exists_position_of_filter once
  exact .column ⟨position, by simp [Plan.lookup_scanSchema, first, at_position]⟩

/-- A qualified column is bound as the column of the name, if the qualifier is the table's name. -/
theorem bindExpr_qualified {catalog : Catalog} {t : TableDef} {qualifier column : String} {bound : Bound}
    (accepted : bindExpr catalog (some t) (.qualified qualifier column) = .ok bound) :
    bindColumn catalog (some t) column (Expr.qualifiedText qualifier column) = .ok bound := by
  simp only [bindExpr] at accepted
  split at accepted
  · exact accepted
  · cases accepted

/-- What holds of the columns that are bound by their names, and is kept, holds of every bound expression. -/
theorem bindExpr_kept {p : Bound → Prop} (kept : Kept p) {catalog : Catalog} {table : Option TableDef}
    (columns : ∀ {name display : String} {bound : Bound},
      bindColumn catalog table name display = .ok bound → p bound)
    {e : Expr} {bound : Bound} (accepted : bindExpr catalog table e = .ok bound) : p bound := by
  induction e generalizing bound with
  | name column => exact columns accepted
  | qualified qualifier column =>
    cases table with
    | none => cases accepted
    | some t => exact columns (bindExpr_qualified accepted)
  | literal l => cases accepted; exact kept.constant _
  | binary op l r ihl ihr =>
    obtain ⟨left, boundLeft, rest⟩ := bind_eq_ok.mp accepted
    obtain ⟨right, boundRight, together⟩ := bind_eq_ok.mp rest
    exact bindBinary_kept kept (ihl boundLeft) (ihr boundRight) together
  | cast inner target ih =>
    obtain ⟨inner, boundInner, around⟩ := bind_eq_ok.mp accepted
    exact bindCast_kept kept (ih boundInner) around

/-- What is bound over a table is well typed over the columns of its scan. -/
theorem bindExpr_wellTyped {catalog : Catalog} {t : TableDef} (known : catalog.table t.id = .ok t)
    {e : Expr} {bound : Bound} (accepted : bindExpr catalog (some t) e = .ok bound) :
    bound.WellTyped (Plan.scanSchema t).Names :=
  bindExpr_kept (kept_wellTyped _) (bindColumn_wellTyped known) accepted

/-- A bound condition is well typed and a truth value. -/
theorem bindCondition_ok {catalog : Catalog} {table : Option TableDef} {e : Expr} {bound : Bound}
    (accepted : bindCondition catalog table e = .ok bound) :
    bindExpr catalog table e = .ok bound ∧ bound.type = .bool := by
  obtain ⟨found, boundTo, tested⟩ := bind_eq_ok.mp accepted
  split_ifs at tested with truth
  · cases tested
    exact ⟨boundTo, truth⟩

end Binding

end Tabular
