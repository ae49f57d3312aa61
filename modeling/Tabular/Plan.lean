import Tabular.Bound
import Tabular.Catalog

/-!
# Plans

Trees of scans, filters and projections. A plan is logical while it says what is wanted and physical
once it can be run; each node has its own flavor.
-/

namespace Tabular

inductive Flavor where
  | logical
  | physical
  deriving DecidableEq

def Flavor.text : Flavor → String
  | logical => "Logical"
  | physical => "Physical"

/-- A plan: a table, or rows of a child that are kept or computed from. -/
inductive Plan where
  | scan (flavor : Flavor) (table : TableDef)
  | filter (flavor : Flavor) (predicate : Bound) (child : Plan)
  | project (flavor : Flavor) (outputs : List Output) (child : Plan)
  deriving DecidableEq

/-- What a node does. -/
inductive PlanShape where
  | scan
  | filter
  | project
  deriving DecidableEq

def PlanShape.text : PlanShape → String
  | scan => "TableScan"
  | filter => "Filter"
  | project => "Project"

/-- The kind of a node: its flavor and what it does. -/
structure PlanKind where
  flavor : Flavor
  shape : PlanShape
  deriving DecidableEq

def PlanKind.text (k : PlanKind) : String := k.flavor.text ++ k.shape.text

namespace Plan

def flavor : Plan → Flavor
  | scan flavor _ => flavor
  | filter flavor _ _ => flavor
  | project flavor _ _ => flavor

def shape : Plan → PlanShape
  | scan .. => .scan
  | filter .. => .filter
  | project .. => .project

def kind (p : Plan) : PlanKind := ⟨p.flavor, p.shape⟩

/-- The direct children of a node. -/
def children : Plan → List Plan
  | scan .. => []
  | filter _ _ child => [child]
  | project _ _ child => [child]

/-- The expressions that a node itself holds. -/
def exprs : Plan → List Bound
  | scan .. => []
  | filter _ predicate _ => [predicate]
  | project _ outputs _ => outputs.map (·.expr)

/-- The columns a scan gives: those of the table, under qualified names. -/
def scanSchema (table : TableDef) : Schema :=
  .ofColumns (table.columns.map fun c => (Bound.qualifiedName table.name c.name, c.type))

/-- The columns a projection gives. -/
def outputSchema (outputs : List Output) : Schema :=
  .ofColumns (outputs.map fun o => (o.name, o.expr.type))

/-- The columns a plan gives. -/
def schema : Plan → Schema
  | scan _ table => scanSchema table
  | filter _ _ child => child.schema
  | project _ outputs _ => outputSchema outputs

/-- The columns of the rows that a node reads; none for a scan. -/
def inputSchema : Plan → Schema
  | scan .. => .empty
  | filter _ _ child => child.schema
  | project _ _ child => child.schema

/-- A node and all below it, parents first. -/
def nodes : Plan → List Plan
  | p@(scan ..) => [p]
  | p@(filter _ _ child) => p :: child.nodes
  | p@(project _ _ child) => p :: child.nodes

/-! ## Text -/

/-- What stands after the kind on the line of a node. -/
def describe : Plan → String
  | scan _ table => table.name ++ " [" ++ ", ".intercalate table.columnNames ++ "]"
  | filter _ predicate _ => predicate.text
  | project _ outputs _ =>
    "[" ++ ", ".intercalate (outputs.map fun o => o.name ++ " := " ++ o.expr.text) ++ "]"

/-- The line of a node at a depth of the tree, each level two blanks to the right. -/
def line (p : Plan) (depth : Nat) : String :=
  String.ofList (List.replicate (2 * depth) ' ') ++ p.kind.text ++ " " ++ p.describe ++ "\n"

/-- The text of a plan below a depth, one line for each node, parents first. -/
def textAt (depth : Nat) : Plan → String
  | p@(scan ..) => p.line depth
  | p@(filter _ _ child) => p.line depth ++ child.textAt (depth + 1)
  | p@(project _ _ child) => p.line depth ++ child.textAt (depth + 1)

/-- The text of a plan. -/
def text (p : Plan) : String := p.textAt 0

end Plan

/-- What can go wrong in planning. -/
inductive PlanError where
  | inputResolution (column : String)
  | noSourceTable
  | notPhysical (kind : PlanKind)
  | unresolved (expr : String)
  deriving DecidableEq

/-- The wording of a planning error. -/
def PlanError.message : PlanError → String
  | inputResolution column => "column '" ++ column ++ "' is not produced by the node's input"
  | noSourceTable => "query has no source table"
  | notPhysical kind => "logical node " ++ kind.text ++ " in physical plan"
  | unresolved expr => "unresolved column reference " ++ expr ++ " in physical plan"

end Tabular
