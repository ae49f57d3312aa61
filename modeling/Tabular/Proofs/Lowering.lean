import Tabular.Proofs.Planning

/-!
# Lowering

Lowering turns the nodes of a plan physical and leaves everything else about them. So it does not matter whether
the columns of a plan are resolved before or after (`Plan.lower_commutes`).
-/

namespace Tabular.Plan

/-- A node that is another one turned physical, above its children in their order, each lowered in turn. -/
structure Lowered (node lowered : Plan) : Prop where
  kind : lowered.kind = ⟨.physical, node.shape⟩
  table : lowered.table = node.table
  exprs : lowered.exprs = node.exprs
  schema : lowered.schema = node.schema
  children : lowered.children = node.children.map lower

theorem schema_lower (p : Plan) : p.lower.schema = p.schema := by
  induction p with
  | scan flavor t => rw [lower_scan, schema, schema]
  | filter flavor predicate child ih => rw [lower_filter, schema, ih, schema]
  | project flavor outputs child ih => rw [lower_project, schema, schema]

theorem table_lower (p : Plan) : p.lower.table = p.table := by
  induction p with
  | scan flavor t => rw [lower_scan, table, table]
  | filter flavor predicate child ih => rw [lower_filter, table, ih, table]
  | project flavor outputs child ih => rw [lower_project, table, ih, table]

theorem lowered_lower (p : Plan) : Lowered p p.lower where
  kind := by cases p <;> simp [kind, Plan.flavor, shape]
  table := p.table_lower
  exprs := by cases p <;> simp [exprs]
  schema := p.schema_lower
  children := by cases p <;> simp [children]

theorem nodes_lower (p : Plan) : p.lower.nodes = p.nodes.map lower := by
  induction p with
  | scan flavor t => simp [nodes]
  | filter flavor predicate child ih => simp [nodes, ih]
  | project flavor outputs child ih => simp [nodes, ih]

theorem lower_lower (p : Plan) : p.lower.lower = p.lower := by
  induction p with
  | scan flavor t => simp
  | filter flavor predicate child ih => simp [ih]
  | project flavor outputs child ih => simp [ih]

/-- Among steps that may fail, those of lowering do not. -/
theorem transform_lowering (p : Plan) : p.transform lowering = (.ok p.lower : Except PlanError Plan) := by
  induction p with
  | scan flavor t => cases flavor <;> rfl
  | filter flavor predicate child ih =>
    rw [transform, ih, lower_filter]
    cases flavor <;> rfl
  | project flavor outputs child ih =>
    rw [transform, ih, lower_project]
    cases flavor <;> rfl

/-- A child gives the same columns before it is lowered and after, so the same names are found, and the first that
is missing is the same. -/
theorem resolve_lower (p : Plan) : p.lower.resolve = p.resolve.map lower := by
  induction p with
  | scan flavor t => rw [lower_scan, resolve_scan, resolve_scan, Except.map, lower_scan]
  | filter flavor predicate child ih =>
    rw [lower_filter, resolve_filter, resolve_filter, ih]
    cases child.resolve with
    | error x => rfl
    | ok c =>
      -- What the names above the child are looked up in is left as it was.
      show (do let e ← predicate.resolve c.lower.schema; return filter .physical e c.lower) =
        Except.map lower (do let e ← predicate.resolve c.schema; return filter flavor e c)
      rw [schema_lower]
      cases predicate.resolve c.schema with
      | error x => rfl
      | ok e => exact congrArg Except.ok lower_filter.symm
  | project flavor outputs child ih =>
    rw [lower_project, resolve_project, resolve_project, ih]
    cases child.resolve with
    | error x => rfl
    | ok c =>
      show (do let rs ← outputs.mapM (Output.resolve c.lower.schema); return project .physical rs c.lower) =
        Except.map lower (do let rs ← outputs.mapM (Output.resolve c.schema); return project flavor rs c)
      rw [schema_lower]
      cases outputs.mapM (Output.resolve c.schema) with
      | error x => rfl
      | ok rs => exact congrArg Except.ok lower_project.symm

/-- Lowering never fails, and a lowered plan is lowered to itself. Its nodes are those of the plan turned physical,
with the same columns, expressions, tables and children. Whether it comes before resolution or after it, it comes
to the same plan, or to the same name of a column that is missing. -/
theorem lower_commutes (p : Plan) :
    p.transform lowering = (.ok p.lower : Except PlanError Plan) ∧
    p.lower.lower = p.lower ∧
    p.lower.nodes = p.nodes.map lower ∧ (∀ node ∈ p.nodes, Lowered node node.lower) ∧
    ((∃ q, p.resolve = .ok q ∧ p.lower.resolve = .ok q.lower) ∨
      ∃ name, p.resolve = .error (.inputResolution name) ∧ p.lower.resolve = .error (.inputResolution name)) := by
  refine ⟨p.transform_lowering, p.lower_lower, p.nodes_lower, fun node _ => node.lowered_lower, ?_⟩
  have same := p.resolve_lower
  cases resolved : p.resolve with
  | ok q =>
    rw [resolved] at same
    exact Or.inl ⟨q, rfl, same⟩
  | error x =>
    rw [resolved] at same
    obtain ⟨name, rfl, _⟩ := resolve_lower_eq_error same
    exact Or.inr ⟨name, rfl, same⟩

end Tabular.Plan
