import Tabular.Plan

/-!
# Transformation

Expressions and plans are changed by one handler for each kind of node. A handler is given a node
and the transformation of its children, which it may run or leave.
-/

namespace Tabular

/-- What is done with a node: `descend` transforms its children and rebuilds it around them. -/
abbrev Handler (m : Type → Type) (α : Type) : Type := (node : α) → (descend : m α) → m α

namespace Handler

/-- The handler that only descends. -/
def standard {m : Type → Type} {α : Type} : Handler m α := fun _ descend => descend

/-- Handlers that are standard but for one kind. -/
def only {m : Type → Type} {α κ : Type} [DecidableEq κ] (kind : κ) (handler : Handler m α) :
    κ → Handler m α :=
  fun k => if k = kind then handler else standard

end Handler

variable {m : Type → Type} [Monad m]

/-- Transforms an expression, from the left part to the right. -/
def Bound.transform (handlers : BoundKind → Handler m Bound) : Bound → m Bound
  | e@(.constant _) => handlers .constant e (pure e)
  | e@(.column ..) => handlers .columnRef e (pure e)
  | e@(.input ..) => handlers .inputRef e (pure e)
  | e@(.binary op left right type) =>
    handlers .binaryOp e do
      let left ← left.transform handlers
      let right ← right.transform handlers
      return .binary op left right type
  | e@(.cast target inner) =>
    handlers .typeCast e do
      let inner ← inner.transform handlers
      return .cast target inner

/-- Transforms a plan. -/
def Plan.transform (handlers : PlanKind → Handler m Plan) : Plan → m Plan
  | p@(.scan ..) => handlers p.kind p (pure p)
  | p@(.filter flavor predicate child) =>
    handlers p.kind p do
      let child ← child.transform handlers
      return .filter flavor predicate child
  | p@(.project flavor outputs child) =>
    handlers p.kind p do
      let child ← child.transform handlers
      return .project flavor outputs child

/-- Applies a function to each expression that a node itself holds. -/
def Plan.mapExprs (f : Bound → m Bound) : Plan → m Plan
  | p@(.scan ..) => pure p
  | .filter flavor predicate child => do
    let predicate ← f predicate
    return .filter flavor predicate child
  | .project flavor outputs child => do
    let outputs ← outputs.mapM fun o => do
      let expr ← f o.expr
      return ⟨o.name, expr⟩
    return .project flavor outputs child

end Tabular
