import Tabular.Transform

/-!
# Lowering

Turns logical nodes into their physical counterparts.
-/

namespace Tabular.Plan

/-- A node with another flavor. -/
def withFlavor (flavor : Flavor) : Plan → Plan
  | scan _ table => scan flavor table
  | filter _ predicate child => filter flavor predicate child
  | project _ outputs child => project flavor outputs child

/-- Logical nodes become physical after their children; physical ones only descend. -/
def lowering {m : Type → Type} [Monad m] : PlanKind → Handler m Plan
  | ⟨.logical, _⟩ => fun _ descend => do return (← descend).withFlavor .physical
  | ⟨.physical, _⟩ => Handler.standard

/-- The plan with every node physical. -/
def lower (p : Plan) : Plan := Id.run (p.transform lowering)

end Tabular.Plan
