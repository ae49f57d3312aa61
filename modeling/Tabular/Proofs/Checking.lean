import Tabular.Proofs.Compilation
import Tabular.Proofs.Places

/-!
# Checked plans

Which plans can be run, and what is said of the others. A plan is accepted, as it is, exactly if each of its nodes is
physical and none of its expressions names a column at any depth; else the first node that is not so decides the
error, parents before their children (`PhysicalPlan.check_exact`).
-/

namespace Tabular

/-! ## Expressions that name columns -/

/-- Some part of an expression, itself included, is a column by its name. -/
def Bound.NamesColumn (e : Bound) : Prop := ∃ place part, e.part? place = some part ∧ part.kind = .columnRef

namespace Bound

variable {kind : BoundKind}

theorem contains_eq_any (kind : BoundKind) (e : Bound) :
    e.contains kind = (e.kind == kind || e.children.any (contains kind)) := by
  cases e <;> simp [contains, Bound.kind, children, Bool.or_assoc, Bool.beq_comm]

/-- An expression contains a kind if it has a part of the kind at some place. -/
theorem contains_iff (kind : BoundKind) (e : Bound) :
    e.contains kind = true ↔ ∃ place part, e.part? place = some part ∧ part.kind = kind := by
  induction e using induction_children with
  | step e ih =>
    rw [contains_eq_any, Bool.or_eq_true, beq_iff_eq, List.any_eq_true]
    constructor
    · rintro (same | ⟨child, listed, inside⟩)
      · exact ⟨[], e, rfl, same⟩
      · obtain ⟨place, part, found, same⟩ := (ih child listed).mp inside
        obtain ⟨i, atI⟩ := List.mem_iff_getElem?.mp listed
        exact ⟨i :: place, part, part?_cons.mpr ⟨child, atI, found⟩, same⟩
    · rintro ⟨place, part, found, same⟩
      cases place with
      | nil =>
        cases found
        exact Or.inl same
      | cons i place =>
        obtain ⟨child, atI, inside⟩ := part?_cons.mp found
        have listed := List.mem_of_getElem? atI
        exact Or.inr ⟨child, listed, (ih child listed).mpr ⟨place, part, inside, same⟩⟩

theorem namesColumn_iff {e : Bound} : e.NamesColumn ↔ e.contains .columnRef = true := (contains_iff _ e).symm

end Bound

namespace Plan

/-! ## Nodes -/

/-- The node that stands at a place. -/
def node? : Place → Plan → Option Plan
  | [], p => some p
  | i :: place, p => p.children[i]?.bind (node? place)

/-- A node that can be run, whatever stands below it. -/
def Ready (p : Plan) : Prop := p.flavor = .physical ∧ ∀ e ∈ p.exprs, ¬ e.NamesColumn

/-- What is said of a node that cannot be run: its kind, if it is logical, and else the text of its first expression
that names a column. -/
inductive Offends (p : Plan) : PlanError → Prop
  | logical (flavor : p.flavor = .logical) : Offends p (.notPhysical p.kind)
  | named (flavor : p.flavor = .physical) {i : Nat} {e : Bound} (there : p.exprs[i]? = some e) (names : e.NamesColumn)
      (first : ∀ j < i, ∀ d, p.exprs[j]? = some d → ¬ d.NamesColumn) : Offends p (.unresolved e.text)

variable {p child : Plan} {x : PlanError}

theorem nodeViolation?_eq_none_iff : p.nodeViolation? = none ↔ p.Ready := by
  rw [nodeViolation?_eq_none, Ready]
  simp [Bound.namesColumn_iff]

theorem nodeViolation?_eq_some_iff : p.nodeViolation? = some x ↔ p.Offends x := by
  rw [nodeViolation?]
  constructor
  · intro violated
    split at violated
    · rename_i flavor
      cases violated
      exact .logical flavor
    · rename_i flavor
      obtain ⟨e, found, rfl⟩ := Option.map_eq_some_iff.mp violated
      obtain ⟨names, i, inside, rfl, before⟩ := List.find?_eq_some_iff_getElem.mp found
      refine .named flavor (List.getElem?_eq_getElem inside) (Bound.namesColumn_iff.mpr names) fun j earlier d there => ?_
      obtain ⟨_, rfl⟩ := List.getElem?_eq_some_iff.mp there
      simpa [Bound.namesColumn_iff] using before j earlier
  · intro offends
    cases offends with
    | logical flavor => rw [flavor]
    | @named flavor i e there names first =>
      rw [flavor]
      obtain ⟨inside, rfl⟩ := List.getElem?_eq_some_iff.mp there
      refine Option.map_eq_some_iff.mpr ⟨_, List.find?_eq_some_iff_getElem.mpr ?_, rfl⟩
      refine ⟨Bound.namesColumn_iff.mp names, i, inside, rfl, fun j earlier => ?_⟩
      have before := first j earlier _ (List.getElem?_eq_getElem (by omega))
      simpa [Bound.namesColumn_iff] using before

/-! ## Plans -/

/-- A plan that can be run: all its nodes are physical, and no expression of them names a column. -/
def Runnable (p : Plan) : Prop := ∀ place node, p.node? place = some node → node.Ready

/-- What is said of the first node that cannot be run. Parents come before their children, and those from the left to
the right. -/
def FirstFault (p : Plan) (x : PlanError) : Prop :=
  ∃ place node, p.node? place = some node ∧ node.Offends x ∧
    ∀ before < place, ∀ other, p.node? before = some other → other.Ready

theorem node?_cons_of_leaf (leaf : p.children = []) (i : Nat) (place : Place) : p.node? (i :: place) = none := by
  rw [node?, leaf]
  rfl

theorem node?_cons_of_child (only : p.children = [child]) {i : Nat} {place : Place} {node : Plan} :
    p.node? (i :: place) = some node ↔ i = 0 ∧ child.node? place = some node := by
  rw [node?, only]
  cases i <;> simp

theorem runnable_of_leaf (leaf : p.children = []) : p.Runnable ↔ p.Ready := by
  constructor
  · intro runnable
    exact runnable [] p rfl
  · intro ready place node found
    cases place with
    | nil =>
      cases found
      exact ready
    | cons i place => cases (node?_cons_of_leaf leaf i place).symm.trans found

theorem runnable_of_child (only : p.children = [child]) : p.Runnable ↔ p.Ready ∧ child.Runnable := by
  constructor
  · intro runnable
    refine ⟨runnable [] p rfl, fun place node found => ?_⟩
    exact runnable (0 :: place) node ((node?_cons_of_child only).mpr ⟨rfl, found⟩)
  · rintro ⟨ready, below⟩ place node found
    cases place with
    | nil =>
      cases found
      exact ready
    | cons i place => exact below place node ((node?_cons_of_child only).mp found).2

theorem firstFault_of_offends (offends : p.Offends x) : p.FirstFault x :=
  ⟨[], p, rfl, offends, fun before less => absurd less (List.not_lt_nil before)⟩

theorem firstFault_of_leaf (leaf : p.children = []) : p.FirstFault x ↔ p.Offends x := by
  constructor
  · rintro ⟨place, node, found, offends, _⟩
    cases place with
    | nil =>
      cases found
      exact offends
    | cons i place => cases (node?_cons_of_leaf leaf i place).symm.trans found
  · exact firstFault_of_offends

theorem firstFault_of_child (only : p.children = [child]) :
    p.FirstFault x ↔ p.Offends x ∨ p.Ready ∧ child.FirstFault x := by
  constructor
  · rintro ⟨place, node, found, offends, clean⟩
    cases place with
    | nil =>
      cases found
      exact Or.inl offends
    | cons i place =>
      obtain ⟨rfl, below⟩ := (node?_cons_of_child only).mp found
      refine Or.inr ⟨clean [] (List.nil_lt_cons 0 place) p rfl, place, node, below, offends, ?_⟩
      intro before less other there
      exact clean (0 :: before) (List.cons_lt_cons_self.mpr less) other ((node?_cons_of_child only).mpr ⟨rfl, there⟩)
  · rintro (offends | ⟨ready, place, node, below, offends, clean⟩)
    · exact firstFault_of_offends offends
    · refine ⟨0 :: place, node, (node?_cons_of_child only).mpr ⟨rfl, below⟩, offends, ?_⟩
      intro before less other there
      cases before with
      | nil =>
        cases there
        exact ready
      | cons j before =>
        obtain ⟨rfl, inside⟩ := (node?_cons_of_child only).mp there
        exact clean before (List.cons_lt_cons_self.mp less) other inside

theorem violation?_eq_none_iff : p.violation? = none ↔ p.Runnable := by
  have step {p child : Plan} (only : p.children = [child]) (ih : child.violation? = none ↔ child.Runnable) :
      p.violation? = none ↔ p.Runnable := by
    rw [violation?_of_child only, Option.or_eq_none_iff, nodeViolation?_eq_none_iff, ih, runnable_of_child only]
  induction p with
  | scan flavor t => rw [violation?_of_leaf rfl, nodeViolation?_eq_none_iff, runnable_of_leaf rfl]
  | filter flavor predicate child ih => exact step rfl ih
  | project flavor outputs child ih => exact step rfl ih

theorem violation?_eq_some_iff : p.violation? = some x ↔ p.FirstFault x := by
  have step {p child : Plan} (only : p.children = [child]) (ih : child.violation? = some x ↔ child.FirstFault x) :
      p.violation? = some x ↔ p.FirstFault x := by
    rw [violation?_of_child only, Option.or_eq_some_iff, nodeViolation?_eq_some_iff, nodeViolation?_eq_none_iff, ih,
      firstFault_of_child only]
  induction p with
  | scan flavor t => rw [violation?_of_leaf rfl, nodeViolation?_eq_some_iff, firstFault_of_leaf rfl]
  | filter flavor predicate child ih => exact step rfl ih
  | project flavor outputs child ih => exact step rfl ih

end Plan

namespace PhysicalPlan

theorem check_eq_error_iff {root : Plan} {x : PlanError} : check root = .error x ↔ root.violation? = some x := by
  rw [check]
  split
  · rename_i y violated
    rw [violated, Except.error.injEq, Option.some.injEq]
  · rename_i runnable
    simp [runnable]

/-- Checking a plan is exact. It is accepted, as it is, if and only if all its nodes are physical and none of their
expressions names a column at any depth. Otherwise the error is that of the first node, parents first, for which this
does not hold: its kind if it is logical, and else its first expression that names a column. -/
theorem check_exact (root : Plan) :
    ((∃ p, check root = .ok p) ↔ root.Runnable) ∧ (∀ p, check root = .ok p → p.root = root) ∧
      ∀ x, check root = .error x ↔ root.FirstFault x := by
  refine ⟨?_, ?_, fun x => check_eq_error_iff.trans Plan.violation?_eq_some_iff⟩
  · rw [← Plan.violation?_eq_none_iff]
    constructor
    · rintro ⟨p, checked⟩
      cases violated : root.violation? with
      | none => rfl
      | some x => cases (check_eq_error_iff.mpr violated).symm.trans checked
    · intro clean
      exact ⟨⟨root, clean⟩, check_eq_ok clean⟩
  · intro p checked
    cases violated : root.violation? with
    | none =>
      cases (check_eq_ok violated).symm.trans checked
      rfl
    | some x => cases (check_eq_error_iff.mpr violated).symm.trans checked

/-- A filter by name over a logical scan has two faults; that of the filter is told. -/
example :
    let p := Plan.filter .physical (.column "t" "a" .bool) (.scan .logical ⟨⟨0⟩, "t", [⟨"a", .bool⟩]⟩);
    p.violation? = some (.unresolved "t.a") := by
  decide

end PhysicalPlan

end Tabular
