import Tabular.Engine
import Tabular.Proofs.Meaning

/-!
# Compilation

The plan that a bound statement is compiled to: its condition and its outputs, resolved over the
columns of the scan (`compile_eq`). What binding gives has such a plan (`exists_compile`).
-/

namespace Tabular

/-! ## Resolved plans -/

/-- An output over the columns of a schema, addressed by position. -/
def Output.resolve (schema : Schema) (o : Output) : Except PlanError Output := do
  let expr ← o.expr.resolve schema
  return ⟨o.name, expr⟩

namespace Plan

/-- The plan of outputs over a table, under a condition if there is one. -/
def ofParts (flavor : Flavor) (t : TableDef) (predicate : Option Bound) (outputs : List Output) : Plan :=
  .project flavor outputs <| match predicate with
    | none => .scan flavor t
    | some e => .filter flavor e (.scan flavor t)

theorem resolve_scan (flavor : Flavor) (t : TableDef) : (scan flavor t).resolve = .ok (scan flavor t) := rfl

theorem resolve_filter (flavor : Flavor) (predicate : Bound) (child : Plan) :
    (filter flavor predicate child).resolve = (do
      let child ← child.resolve
      let predicate ← predicate.resolve child.schema
      return filter flavor predicate child) := by
  show (do
    let node ← (do let child ← child.resolve; return filter flavor predicate child)
    node.mapExprs (Bound.resolve node.inputSchema)) = _
  cases child.resolve <;> rfl

theorem resolve_project (flavor : Flavor) (outputs : List Output) (child : Plan) :
    (project flavor outputs child).resolve = (do
      let child ← child.resolve
      let outputs ← outputs.mapM (Output.resolve child.schema)
      return project flavor outputs child) := by
  show (do
    let node ← (do let child ← child.resolve; return project flavor outputs child)
    node.mapExprs (Bound.resolve node.inputSchema)) = _
  cases child.resolve <;> rfl

section Violations

variable {p child : Plan} {flavor : Flavor} {t : TableDef} {predicate : Bound} {outputs : List Output}

theorem nodeViolation?_eq_none : p.nodeViolation? = none ↔
    p.flavor = .physical ∧ ∀ e ∈ p.exprs, e.contains .columnRef = false := by
  rw [nodeViolation?]
  cases p.flavor <;> simp

theorem violation?_of_leaf (leaf : p.children = []) : p.violation? = p.nodeViolation? := by
  cases p with
  | scan flavor t => simp [violation?, nodes]
  | filter flavor predicate below => cases leaf
  | project flavor outputs below => cases leaf

theorem violation?_of_child (only : p.children = [child]) : p.violation? = p.nodeViolation?.or child.violation? := by
  cases p with
  | scan flavor t => cases only
  | filter flavor predicate below =>
    cases only
    rw [violation?, nodes, List.findSome?_cons]
    cases nodeViolation? _ <;> rfl
  | project flavor outputs below =>
    cases only
    rw [violation?, nodes, List.findSome?_cons]
    cases nodeViolation? _ <;> rfl

theorem violation?_scan : (scan flavor t).violation? = none ↔ flavor = .physical := by
  rw [violation?_of_leaf rfl, nodeViolation?_eq_none]
  simp [Plan.flavor, exprs]

theorem violation?_filter : (filter flavor predicate child).violation? = none ↔
    flavor = .physical ∧ predicate.contains .columnRef = false ∧ child.violation? = none := by
  rw [violation?_of_child rfl, Option.or_eq_none_iff, nodeViolation?_eq_none, and_assoc]
  simp [Plan.flavor, exprs]

theorem violation?_project : (project flavor outputs child).violation? = none ↔
    flavor = .physical ∧ (∀ o ∈ outputs, o.expr.contains .columnRef = false) ∧ child.violation? = none := by
  rw [violation?_of_child rfl, Option.or_eq_none_iff, nodeViolation?_eq_none, and_assoc]
  simp [Plan.flavor, exprs]

end Violations

variable (t : TableDef) (predicate : Option Bound) (outputs : List Output)

theorem lower_ofParts : (ofParts .logical t predicate outputs).lower = ofParts .physical t predicate outputs := by
  cases predicate <;> rfl

/-- Condition and outputs are resolved over the columns of the scan. -/
theorem resolve_ofParts (flavor : Flavor) :
    (ofParts flavor t predicate outputs).resolve = (do
      let predicate ← predicate.mapM (Bound.resolve (scanSchema t))
      let outputs ← outputs.mapM (Output.resolve (scanSchema t))
      return ofParts flavor t predicate outputs) := by
  cases predicate with
  | none =>
    rw [ofParts, resolve_project, resolve_scan]
    rfl
  | some e =>
    rw [ofParts, resolve_project, resolve_filter, resolve_scan]
    show (do
      let child ← (do let e ← e.resolve (scanSchema t); return filter flavor e (scan flavor t))
      let outputs ← outputs.mapM (Output.resolve child.schema)
      return project flavor outputs child) = _
    rw [Option.mapM_some]
    cases e.resolve (scanSchema t) <;> rfl

@[simp] theorem table_ofParts (flavor : Flavor) : (ofParts flavor t predicate outputs).table = t := by
  cases predicate <;> rfl

@[simp] theorem schema_ofParts (flavor : Flavor) :
    (ofParts flavor t predicate outputs).schema = outputSchema outputs := rfl

/-- A batch gets the names of the scan, then the condition is asked, then the outputs are computed. -/
theorem stages_ofParts (flavor : Flavor) : (ofParts flavor t predicate outputs).stages =
    .relabel (scanSchema t) :: ((predicate.map Stage.filter).toList ++ [.project outputs]) := by
  cases predicate <;> rfl

/-- A plan over positions can be run. -/
theorem violation?_ofParts {schema : Schema} (predicateTyped : ∀ e ∈ predicate, e.WellTyped schema.Holds)
    (outputsTyped : ∀ o ∈ outputs, o.expr.WellTyped schema.Holds) :
    (ofParts .physical t predicate outputs).violation? = none := by
  have scanned : (scan .physical t).violation? = none := violation?_scan.mpr rfl
  refine violation?_project.mpr ⟨rfl, fun o listed => Bound.contains_columnRef (outputsTyped o listed), ?_⟩
  cases predicate with
  | none => exact scanned
  | some e => exact violation?_filter.mpr ⟨rfl, Bound.contains_columnRef (predicateTyped e rfl), scanned⟩

end Plan

/-! ## What is resolved -/

/-- An expression that resolution turns into a well typed one over positions. -/
def Bound.Resolves (schema : Schema) (e : Bound) : Prop :=
  ∃ r, e.resolve schema = .ok r ∧ r.WellTyped schema.Holds

/-- Whether a condition, if there is one, keeps a row. -/
def Bound.keeps (schema : Schema) (predicate : Option Bound) (row : Row) : Except ExecError Bool :=
  match predicate with
  | none => .ok true
  | some e => (e.value schema row).map Row.isTrue

/-- The cells that outputs give on a row. -/
def Output.cells (schema : Schema) (outputs : List Output) (row : Row) : Except ExecError Row :=
  outputs.mapM fun o => o.expr.value schema row

/-- What a condition and outputs do with rows over the columns of a schema. -/
def Selection.ofParts (schema : Schema) (predicate : Option Bound) (outputs : List Output) : Selection :=
  ⟨predicate.isSome, Bound.keeps schema predicate, Output.cells schema outputs⟩

/-- A condition over positions keeps the rows that it kept by names. -/
theorem Bound.exists_resolve_condition {schema : Schema} {filter : Option Bound}
    (typed : ∀ e ∈ filter, e.WellTyped schema.Names ∧ e.type = .bool) :
    ∃ predicate, filter.mapM (Bound.resolve schema) = .ok predicate ∧
      (∀ e ∈ predicate, e.WellTyped schema.Holds ∧ e.type = .bool) ∧
      predicate.isSome = filter.isSome ∧ Bound.keeps schema predicate = Bound.keeps schema filter := by
  cases filter with
  | none => exact ⟨none, rfl, by simp, rfl, rfl⟩
  | some e =>
    obtain ⟨named, truth⟩ := typed e rfl
    obtain ⟨r, resolved, typedResolved, sameType⟩ := Bound.exists_resolve named
    refine ⟨some r, ?_, ?_, rfl, ?_⟩
    · rw [Option.mapM_some, resolved]
      rfl
    · rintro _ ⟨rfl⟩
      exact ⟨typedResolved, sameType.trans truth⟩
    · funext row
      rw [keeps, keeps, Bound.value_resolve resolved row]

/-- Outputs that resolve are resolved one by one, and give the same cells. -/
theorem Output.exists_resolve {schema : Schema} {outputs : List Output}
    (resolves : ∀ o ∈ outputs, o.expr.Resolves schema) :
    ∃ rs, outputs.mapM (Output.resolve schema) = .ok rs ∧ (∀ r ∈ rs, r.expr.WellTyped schema.Holds) ∧
      Output.cells schema rs = Output.cells schema outputs := by
  induction outputs with
  | nil => exact ⟨[], rfl, by simp, rfl⟩
  | cons o outputs ih =>
    obtain ⟨e, resolved, typed⟩ := resolves o List.mem_cons_self
    obtain ⟨rs, others, typedOthers, same⟩ := ih fun r listed => resolves r (List.mem_cons_of_mem _ listed)
    have first : o.resolve schema = .ok ⟨o.name, e⟩ := by rw [Output.resolve, resolved]; rfl
    refine ⟨⟨o.name, e⟩ :: rs, ?_, ?_, ?_⟩
    · rw [List.mapM_cons, first, others]
      rfl
    · intro r listed
      rcases List.mem_cons.mp listed with rfl | listed
      · exact typed
      · exact typedOthers r listed
    · funext row
      have sameOthers := congrFun same row
      rw [cells, cells] at sameOthers
      rw [cells, cells, List.mapM_cons, List.mapM_cons, Bound.value_resolve resolved row, sameOthers]

namespace Binding

variable {catalog : Catalog} {t : TableDef}

/-- The outputs of a wildcard resolve, also where columns share a name. -/
theorem wildcardOutputs_resolves (t : TableDef) :
    ∀ o ∈ wildcardOutputs t, o.expr.Resolves (Plan.scanSchema t) := by
  intro o listed
  obtain ⟨c, column, rfl⟩ := List.mem_map.mp listed
  have known := Plan.lookup_namesake column
  exact ⟨_, by rw [Bound.resolve_column, known], .input (Schema.holds_of_lookup known)⟩

theorem bindItem_resolves (known : catalog.table t.id = .ok t) {item : SelectItem} {outputs : List Output}
    (accepted : bindItem catalog (some t) item = .ok outputs) :
    ∀ o ∈ outputs, o.expr.Resolves (Plan.scanSchema t) := by
  cases item with
  | wildcard =>
    cases accepted
    exact wildcardOutputs_resolves t
  | expr e alias? =>
    obtain ⟨bound, boundTo, same⟩ := bind_eq_ok.mp accepted
    cases same
    intro o listed
    obtain rfl := List.mem_singleton.mp listed
    obtain ⟨r, resolved, typed, _⟩ := Bound.exists_resolve (bindExpr_wellTyped known boundTo)
    exact ⟨r, resolved, typed⟩

theorem bindItems_resolves (known : catalog.table t.id = .ok t) {items : List SelectItem}
    {outputs : List (List Output)} (accepted : items.mapM (bindItem catalog (some t)) = .ok outputs) :
    ∀ o ∈ outputs.flatten, o.expr.Resolves (Plan.scanSchema t) := by
  have each := mapM_eq_ok.mp accepted
  intro o listed
  obtain ⟨some, given, inside⟩ := List.mem_flatten.mp listed
  have found : Except.ok some ∈ items.map (bindItem catalog (Option.some t)) :=
    each ▸ List.mem_map_of_mem given
  obtain ⟨item, _, bound⟩ := List.mem_map.mp found
  exact bindItem_resolves known bound o inside

theorem bindFilter_wellTyped (known : catalog.table t.id = .ok t) {condition : Option Expr}
    {filter : Option Bound} (accepted : condition.mapM (bindCondition catalog (some t)) = .ok filter) :
    ∀ e ∈ filter, e.WellTyped (Plan.scanSchema t).Names ∧ e.type = .bool := by
  cases condition with
  | none =>
    cases accepted
    simp
  | some c =>
    obtain ⟨bound, boundTo, same⟩ := bind_eq_ok.mp accepted
    cases same
    obtain ⟨asExpr, truth⟩ := bindCondition_ok boundTo
    rintro _ ⟨rfl⟩
    exact ⟨bindExpr_wellTyped known asExpr, truth⟩

end Binding

/-! ## Compiled statements -/

theorem PhysicalPlan.check_eq_ok {root : Plan} (runnable : root.violation? = none) :
    PhysicalPlan.check root = .ok ⟨root, runnable⟩ := by
  rw [check]
  split
  · rename_i violated
    rw [runnable] at violated
    cases violated
  · rfl

namespace Engine

/-- A statement over a table is compiled by resolving its condition, then its outputs. -/
theorem compile_eq {bound : BoundSelect} {t : TableDef} (reads : bound.source = some t) :
    compile bound = (do
      let predicate ← bound.filter.mapM (Bound.resolve (Plan.scanSchema t))
      let outputs ← bound.outputs.mapM (Output.resolve (Plan.scanSchema t))
      PhysicalPlan.check (.ofParts .physical t predicate outputs)) := by
  have planned : bound.plan = .ok (.ofParts .logical t bound.filter bound.outputs) := by
    rw [BoundSelect.plan, reads]
    cases bound.filter <;> rfl
  rw [compile, planned]
  show (Plan.ofParts .logical t bound.filter bound.outputs).lower.resolve >>= PhysicalPlan.check = _
  rw [Plan.lower_ofParts, Plan.resolve_ofParts]
  simp only [bind_assoc, pure_bind]

/-- A plan for a table: a condition, if there is one, that is a truth value, and outputs, all over the
positions of the columns. -/
structure Compiled (t : TableDef) (predicate : Option Bound) (outputs : List Output) (p : PhysicalPlan) :
    Prop where
  root : p.root = .ofParts .physical t predicate outputs
  predicateTyped : ∀ e ∈ predicate, e.WellTyped (Plan.scanSchema t).Holds ∧ e.type = .bool
  outputsTyped : ∀ o ∈ outputs, o.expr.WellTyped (Plan.scanSchema t).Holds

/-- What is bound over a table has a plan, which does with rows what the bound statement says. -/
theorem exists_compile {catalog : Catalog} {s : Select} {bound : BoundSelect} {t : TableDef}
    (known : catalog.table t.id = .ok t) (accepted : Binding.bindSelect catalog s = .ok bound)
    (reads : bound.source = some t) :
    ∃ predicate outputs p, compile bound = .ok p ∧ Compiled t predicate outputs p ∧
      bound.outputs.mapM (Output.resolve (Plan.scanSchema t)) = .ok outputs ∧
      Selection.ofParts (Plan.scanSchema t) predicate outputs =
        Selection.ofParts (Plan.scanSchema t) bound.filter bound.outputs := by
  obtain ⟨_, ⟨lists, boundItems, flattened⟩, boundCondition⟩ := Binding.bindSelect_ok accepted
  rw [reads] at boundItems boundCondition
  obtain ⟨predicate, resolvedFilter, predicateTyped, sameKind, sameKeeps⟩ :=
    Bound.exists_resolve_condition (Binding.bindFilter_wellTyped known boundCondition)
  obtain ⟨outputs, resolvedOutputs, outputsTyped, sameCells⟩ :=
    Output.exists_resolve (flattened ▸ Binding.bindItems_resolves known boundItems)
  have runnable : (Plan.ofParts .physical t predicate outputs).violation? = none :=
    Plan.violation?_ofParts t predicate outputs (fun e given => (predicateTyped e given).1) outputsTyped
  refine ⟨predicate, outputs, ⟨_, runnable⟩, ?_, ⟨rfl, predicateTyped, outputsTyped⟩, resolvedOutputs, ?_⟩
  · rw [compile_eq reads, resolvedFilter, resolvedOutputs]
    exact PhysicalPlan.check_eq_ok runnable
  · rw [Selection.ofParts, Selection.ofParts, sameKind, sameKeeps, sameCells]

end Engine

end Tabular
