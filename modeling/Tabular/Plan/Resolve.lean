import Tabular.Transform

/-!
# Resolution

Replaces names of columns by positions in the rows that a node reads.
-/

namespace Tabular

/-- A named column becomes the first column of that name in the schema. -/
def Bound.resolveColumn (schema : Schema) : Handler (Except PlanError) Bound
  | .column table name _, _ =>
    let qualified := Bound.qualifiedName table name
    match schema.lookup qualified with
    | some (index, type) => .ok (.input index type)
    | none => .error (.inputResolution qualified)
  | e, _ => .ok e

/-- An expression over the columns of a schema, addressed by position. -/
def Bound.resolve (schema : Schema) (e : Bound) : Except PlanError Bound :=
  e.transform (.only .columnRef (resolveColumn schema))

namespace Plan

/-- Children are resolved first; then the expressions of the node address its input. -/
def resolveNode : Handler (Except PlanError) Plan := fun _ descend => do
  let node ← descend
  node.mapExprs (Bound.resolve node.inputSchema)

/-- Filters and projections are resolved, scans have nothing to resolve. -/
def resolution : PlanKind → Handler (Except PlanError) Plan
  | ⟨_, .scan⟩ => Handler.standard
  | ⟨_, .filter⟩ => resolveNode
  | ⟨_, .project⟩ => resolveNode

/-- The plan with every named column replaced by a position. -/
def resolve (p : Plan) : Except PlanError Plan := p.transform resolution

end Plan

end Tabular
