import Mathlib.Data.List.Lex
import Mathlib.Data.List.Pairwise
import Tabular.Bound

/-!
# Places

The parts of an expression and where they stand. A part is found by its place, and the lists of parts go from the left
to the right, outer ones first: their places increase. Among the parts of a kind the outermost are those that are in
no other. Putting parts in at some places leaves the nodes outside of them as they are (`Bound.part?_replace`).
-/

namespace Tabular

/-- Where a part of an expression stands: which child is taken at each step down. -/
abbrev Place : Type := List Nat

/-- A part of an expression, and where it stands. -/
structure Part where
  place : Place
  node : Bound

/-- The same part, seen from an expression whose child at `i` it is a part of. -/
def Part.under (i : Nat) (p : Part) : Part := { p with place := i :: p.place }

namespace Bound

/-! ## Parts -/

/-- The part that stands at a place. -/
def part? : Place → Bound → Option Bound
  | [], e => some e
  | i :: place, e => e.children[i]?.bind (part? place)

/-- What a list of parts is for an expression that has it from each of its children, from the left to the right. -/
def beneath (f : Bound → List Part) (e : Bound) : List Part :=
  e.children.zipIdx.flatMap fun child => (f child.1).map (.under child.2)

/-- All parts: the expression itself, then those of its children. -/
def parts : Bound → List Part
  | e@(.binary _ left right _) => ⟨[], e⟩ :: (left.parts.map (.under 0) ++ right.parts.map (.under 1))
  | e@(.cast _ inner) => ⟨[], e⟩ :: inner.parts.map (.under 0)
  | e@(.constant _) | e@(.column ..) | e@(.input ..) => [⟨[], e⟩]

/-- The parts of a kind. -/
def ofKind (kind : BoundKind) (e : Bound) : List Part := e.parts.filter fun p => p.node.kind = kind

/-- The parts of a kind that are in no other part of the kind. -/
def outermost (kind : BoundKind) (e : Bound) : List Part :=
  if e.kind = kind then [⟨[], e⟩]
  else match e with
    | .binary _ left right _ => (left.outermost kind).map (.under 0) ++ (right.outermost kind).map (.under 1)
    | .cast _ inner => (inner.outermost kind).map (.under 0)
    | .constant _ | .column .. | .input .. => []

/-- The expression with other parts put in at some places. -/
def replace (e : Bound) (new : Place → Option Bound) : Bound :=
  (new []).getD <| match e with
    | .binary op left right type =>
      .binary op (left.replace fun place => new (0 :: place)) (right.replace fun place => new (1 :: place)) type
    | .cast target inner => .cast target (inner.replace fun place => new (0 :: place))
    | .constant _ | .column .. | .input .. => e

variable {kind : BoundKind} {e node : Bound} {p : Part} {place : Place} {f : Bound → List Part}

theorem mem_beneath : p ∈ beneath f e ↔
    ∃ (i : Nat) (child : Bound) (q : Part), e.children[i]? = some child ∧ q ∈ f child ∧ p = q.under i := by
  simp only [beneath, List.mem_flatMap, List.mem_map, Prod.exists, List.mk_mem_zipIdx_iff_getElem?]
  constructor
  · rintro ⟨child, i, listed, q, inside, rfl⟩
    exact ⟨i, child, q, listed, inside, rfl⟩
  · rintro ⟨i, child, q, listed, inside, rfl⟩
    exact ⟨child, i, listed, q, inside, rfl⟩

theorem beneath_binary {op : Operator} {left right : Bound} {type : DataType} :
    beneath f (.binary op left right type) = (f left).map (.under 0) ++ (f right).map (.under 1) := by
  simp [beneath, children]

theorem beneath_cast {target : DataType} {inner : Bound} : beneath f (.cast target inner) = (f inner).map (.under 0) := by
  simp [beneath, children]

theorem parts_eq (e : Bound) : e.parts = ⟨[], e⟩ :: beneath parts e := by
  cases e <;> simp [parts, beneath, children]

theorem outermost_of_eq (same : e.kind = kind) : e.outermost kind = [⟨[], e⟩] := by
  cases e <;> simp [outermost, same]

theorem outermost_of_ne (other : e.kind ≠ kind) : e.outermost kind = beneath (outermost kind) e := by
  cases e <;> simp [outermost, other, beneath, children]

theorem ofKind_eq (kind : BoundKind) (e : Bound) :
    e.ofKind kind = (if e.kind = kind then [⟨[], e⟩] else []) ++ beneath (ofKind kind) e := by
  have inside : (beneath parts e).filter (fun p => p.node.kind = kind) = beneath (ofKind kind) e := by
    simp only [beneath, List.filter_flatMap, List.filter_map]
    rfl
  rw [ofKind, parts_eq, List.filter_cons, inside]
  by_cases same : e.kind = kind <;> simp [same]

/-- What holds of an expression if it holds of its children holds of all. -/
theorem induction_children {motive : Bound → Prop} (step : ∀ e, (∀ child ∈ e.children, motive child) → motive e)
    (e : Bound) : motive e := by
  induction e with
  | binary op left right type onLeft onRight => exact step _ (by simp [children, onLeft, onRight])
  | cast target inner inside => exact step _ (by simp [children, inside])
  | _ => exact step _ (by simp [children])

/-! ## Where parts stand -/

/-- A part of the kind has the place strictly inside it. -/
def Covered (kind : BoundKind) (e : Bound) (place : Place) : Prop :=
  ∃ above part, above <+: place ∧ above ≠ place ∧ e.part? above = some part ∧ part.kind = kind

theorem nil_not_mem_beneath : ⟨[], node⟩ ∉ beneath f e := by
  rw [mem_beneath]
  rintro ⟨i, child, q, _, _, same⟩
  cases congrArg Part.place same

theorem cons_mem_beneath {i : Nat} : ⟨i :: place, node⟩ ∈ beneath f e ↔
    ∃ child, e.children[i]? = some child ∧ ⟨place, node⟩ ∈ f child := by
  rw [mem_beneath]
  constructor
  · rintro ⟨j, child, q, listed, inside, same⟩
    cases same
    exact ⟨child, listed, inside⟩
  · rintro ⟨child, listed, inside⟩
    exact ⟨i, child, _, listed, inside, rfl⟩

theorem part?_cons {i : Nat} : e.part? (i :: place) = some node ↔
    ∃ child, e.children[i]? = some child ∧ child.part? place = some node := Option.bind_eq_some_iff

theorem mem_parts : ⟨place, node⟩ ∈ e.parts ↔ e.part? place = some node := by
  induction place generalizing e with
  | nil =>
    rw [parts_eq, List.mem_cons, part?]
    simp [nil_not_mem_beneath, eq_comm]
  | cons i place ih =>
    rw [parts_eq, List.mem_cons, cons_mem_beneath, part?_cons]
    simp [ih]

theorem not_covered_nil : ¬ e.Covered kind [] := by
  rintro ⟨above, part, inside, differs, _⟩
  exact differs (List.prefix_nil.mp inside)

theorem covered_cons {i : Nat} : e.Covered kind (i :: place) ↔
    e.kind = kind ∨ ∃ child, e.children[i]? = some child ∧ child.Covered kind place := by
  constructor
  · rintro ⟨above, part, inside, differs, found, same⟩
    cases above with
    | nil =>
      cases found
      exact Or.inl same
    | cons j above =>
      obtain ⟨rfl, further⟩ := List.cons_prefix_cons.mp inside
      obtain ⟨child, listed, there⟩ := part?_cons.mp found
      exact Or.inr ⟨child, listed, above, part, further, fun equal => differs (congrArg _ equal), there, same⟩
  · rintro (same | ⟨child, listed, above, part, inside, differs, found, same⟩)
    · exact ⟨[], e, List.nil_prefix, (List.cons_ne_nil _ _).symm, rfl, same⟩
    · refine ⟨i :: above, part, List.cons_prefix_cons.mpr ⟨rfl, inside⟩, ?_, part?_cons.mpr ⟨child, listed, found⟩, same⟩
      intro equal
      exact differs (List.cons.inj equal).2

theorem mem_outermost : ⟨place, node⟩ ∈ e.outermost kind ↔
    e.part? place = some node ∧ node.kind = kind ∧ ¬ e.Covered kind place := by
  induction place generalizing e with
  | nil =>
    by_cases same : e.kind = kind
    · rw [outermost_of_eq same, part?]
      constructor
      · intro listed
        cases List.mem_singleton.mp listed
        exact ⟨rfl, same, not_covered_nil⟩
      · rintro ⟨equal, _, _⟩
        cases equal
        exact List.mem_singleton_self _
    · rw [outermost_of_ne same, part?]
      constructor
      · intro listed
        exact absurd listed nil_not_mem_beneath
      · rintro ⟨equal, found, _⟩
        cases equal
        exact absurd found same
  | cons i place ih =>
    by_cases same : e.kind = kind
    · rw [outermost_of_eq same]
      constructor
      · intro listed
        cases List.mem_singleton.mp listed
      · rintro ⟨_, _, uncovered⟩
        exact absurd (covered_cons.mpr (Or.inl same)) uncovered
    · rw [outermost_of_ne same, cons_mem_beneath, part?_cons, covered_cons]
      simp only [ih, same, false_or]
      constructor
      · rintro ⟨child, listed, found, known, uncovered⟩
        refine ⟨⟨child, listed, found⟩, known, ?_⟩
        rintro ⟨other, again, covered⟩
        cases listed.symm.trans again
        exact uncovered covered
      · rintro ⟨⟨child, listed, found⟩, known, uncovered⟩
        exact ⟨child, listed, found, known, fun covered => uncovered ⟨child, listed, covered⟩⟩

/-- A sum within a sum is no outermost one. -/
example :
    let inner := Bound.binary (.arithmetic .add) (.input 1 .int64) (.input 2 .int64) .int64
    let e := Bound.binary (.arithmetic .add) (.input 0 .int64) (.cast .int64 inner) .int64;
    (e.outermost .binaryOp).map Part.place = [[]] ∧
      (e.outermost .inputRef).map Part.place = [[0], [1, 0, 0], [1, 0, 1]] := by
  decide

theorem mem_ofKind : ⟨place, node⟩ ∈ e.ofKind kind ↔ e.part? place = some node ∧ node.kind = kind := by
  rw [ofKind, List.mem_filter, mem_parts, decide_eq_true_iff]

/-! ## The order of parts -/

theorem pairwise_beneath (each : ∀ child ∈ e.children, (f child).Pairwise (·.place < ·.place)) :
    (beneath f e).Pairwise (·.place < ·.place) := by
  rw [beneath, List.pairwise_flatMap]
  constructor
  · rintro ⟨child, i⟩ listed
    rw [List.pairwise_map]
    have inside : child ∈ e.children := List.mem_of_getElem? (List.mk_mem_zipIdx_iff_getElem?.mp listed)
    exact (each child inside).imp fun before => List.cons_lt_cons_self.mpr before
  · have numbers : (e.children.zipIdx.map Prod.snd).Pairwise (· < ·) := by
      rw [List.zipIdx_map_snd]
      exact List.pairwise_lt_range'
    refine (List.pairwise_map.mp numbers).imp ?_
    intro a b less x hx y hy
    obtain ⟨p, _, rfl⟩ := List.mem_map.mp hx
    obtain ⟨q, _, rfl⟩ := List.mem_map.mp hy
    exact List.Lex.rel less

theorem pairwise_parts (e : Bound) : e.parts.Pairwise (·.place < ·.place) := by
  induction e using induction_children with
  | step e ih =>
    rw [parts_eq, List.pairwise_cons]
    refine ⟨?_, pairwise_beneath ih⟩
    rintro ⟨place, node⟩ listed
    cases place with
    | nil => exact absurd listed nil_not_mem_beneath
    | cons i place => exact List.nil_lt_cons i place

theorem pairwise_ofKind (kind : BoundKind) (e : Bound) : (e.ofKind kind).Pairwise (·.place < ·.place) :=
  e.pairwise_parts.filter _

theorem pairwise_outermost (kind : BoundKind) (e : Bound) : (e.outermost kind).Pairwise (·.place < ·.place) := by
  induction e using induction_children with
  | step e ih =>
    by_cases same : e.kind = kind
    · rw [outermost_of_eq same]
      exact List.pairwise_singleton _ _
    · rw [outermost_of_ne same]
      exact pairwise_beneath ih

/-! ## What is left in place -/

theorem replace_of_some {new : Place → Option Bound} {answer : Bound} (given : new [] = some answer) :
    e.replace new = answer := by
  cases e <;> rw [replace, given, Option.getD_some]

theorem getElem?_children_replace {new : Place → Option Bound} (free : new [] = none) (i : Nat) :
    (e.replace new).children[i]? = e.children[i]?.map fun child => child.replace fun rest => new (i :: rest) := by
  cases e with
  | binary op left right type =>
    rcases i with _ | _ | i
    · simp [replace, free, children]
    · simp [replace, free, children]
    · simp [replace, free, children]
  | cast target inner =>
    rcases i with _ | i
    · simp [replace, free, children]
    · simp [replace, free, children]
  | _ => simp [replace, free, children]

/-- The same node, maybe with other children. -/
inductive SameNode : Bound → Bound → Prop
  | constant (value : Scalar) : SameNode (.constant value) (.constant value)
  | column (table column : String) (type : DataType) : SameNode (.column table column type) (.column table column type)
  | input (index : Nat) (type : DataType) : SameNode (.input index type) (.input index type)
  | binary (op : Operator) (left right left' right' : Bound) (type : DataType) :
      SameNode (.binary op left right type) (.binary op left' right' type)
  | cast (target : DataType) (inner inner' : Bound) : SameNode (.cast target inner) (.cast target inner')

theorem sameNode_replace {new : Place → Option Bound} (free : new [] = none) : SameNode e (e.replace new) := by
  cases e <;> rw [replace, free, Option.getD_none] <;> constructor

/-- At a place that nothing is put in above, there is what was there, with what is put in there or inside. -/
theorem part?_replace {new : Place → Option Bound}
    (free : ∀ above, above <+: place → above ≠ place → new above = none) :
    (e.replace new).part? place = (e.part? place).map fun part => part.replace fun rest => new (place ++ rest) := by
  induction place generalizing e new with
  | nil => rfl
  | cons i place ih =>
    have root : new [] = none := free [] List.nil_prefix (List.cons_ne_nil _ _).symm
    have inside : ∀ above, above <+: place → above ≠ place → new (i :: above) = none := by
      intro above within differs
      refine free (i :: above) (List.cons_prefix_cons.mpr ⟨rfl, within⟩) ?_
      intro equal
      exact differs (List.cons.inj equal).2
    rw [part?, part?, getElem?_children_replace root, Option.bind_map, Option.map_bind]
    exact congrArg _ (funext fun child => ih inside)

end Bound

end Tabular
