import Tabular.Plan.Lower
import Tabular.Plan.Resolve

/-!
# Physical plans

Plans that can be run: every node is physical and no expression names a column.
-/

namespace Tabular

namespace Plan

/-- What keeps a single node from being run. -/
def nodeViolation? (p : Plan) : Option PlanError :=
  match p.flavor with
  | .logical => some (.notPhysical p.kind)
  | .physical =>
    (p.exprs.find? (·.contains .columnRef)).map fun e => .unresolved e.text

/-- What keeps a plan from being run: the violation of the first node that has one, parents
first. -/
def violation? (p : Plan) : Option PlanError := p.nodes.findSome? nodeViolation?

end Plan

/-- A plan that can be run. -/
structure PhysicalPlan where
  root : Plan
  runnable : root.violation? = none

namespace PhysicalPlan

/-- The columns of the result. -/
def schema (p : PhysicalPlan) : Schema := p.root.schema

def text (p : PhysicalPlan) : String := p.root.text

/-- Accepts a plan that can be run, as it is. -/
def check (root : Plan) : Except PlanError PhysicalPlan :=
  match h : root.violation? with
  | some e => .error e
  | none => .ok ⟨root, h⟩

end PhysicalPlan

/-- Lowers a plan, then resolves its columns. -/
def Plan.toPhysical (p : Plan) : Except PlanError PhysicalPlan := do
  let resolved ← p.lower.resolve
  PhysicalPlan.check resolved

end Tabular
