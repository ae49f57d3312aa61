import Tabular.Proofs.Compilation

/-!
# Planning

What becomes of any plan, whatever the flavors of its nodes: a plan that can be run and has a position
for every name of a column (`Plan.Becomes`), or the name of a column that some node reads and its child
does not give (`Plan.Lacks`). Nothing else can go wrong (`toPhysical_total`).
-/

namespace Tabular

/-! ## Positions -/

/-- The qualified names of the columns that an expression names, from left to right. -/
def Bound.columnNames : Bound → List String
  | constant _ => []
  | column table name _ => [qualifiedName table name]
  | input .. => []
  | binary _ left right _ => left.columnNames ++ right.columnNames
  | cast _ inner => inner.columnNames

/-- The first column of a name stands at a position and has a type. -/
structure Schema.First (schema : Schema) (name : String) (index : Nat) (type : DataType) : Prop where
  there : schema.fields[index]? = some ⟨name, .sql type⟩
  before : ∀ i < index, ∀ f, schema.fields[i]? = some f → f.name ≠ name

/-- Two expressions that differ in nothing but that where the first one names a column, the second one
has the position and the type of the first column of that name. -/
inductive Bound.Positioned (schema : Schema) : Bound → Bound → Prop
  | constant (value : Scalar) : Positioned schema (.constant value) (.constant value)
  | column {table name : String} {written type : DataType} {index : Nat}
      (first : schema.First (qualifiedName table name) index type) :
      Positioned schema (.column table name written) (.input index type)
  | input (index : Nat) (type : DataType) : Positioned schema (.input index type) (.input index type)
  | binary {op : Operator} {left right l r : Bound} {type : DataType} (onLeft : Positioned schema left l)
      (onRight : Positioned schema right r) : Positioned schema (.binary op left right type) (.binary op l r type)
  | cast {target : DataType} {inner i : Bound} (inside : Positioned schema inner i) :
      Positioned schema (.cast target inner) (.cast target i)

namespace Schema

theorem lookup_eq_some_iff {schema : Schema} {name : String} {index : Nat} {type : DataType} :
    schema.lookup name = some (index, type) ↔ schema.First name index type := by
  simp only [lookup, bind, Option.bind_eq_some_iff, pure, Option.some.injEq, Prod.mk.injEq]
  constructor
  · rintro ⟨i, found, field, there, t, known, rfl, rfl⟩
    obtain ⟨inside, named, before⟩ := List.findIdx?_eq_some_iff_getElem.mp found
    have same : schema.fields[i] = field := by simpa [List.getElem?_eq_getElem inside] using there
    rw [same, beq_iff_eq] at named
    refine ⟨?_, fun j earlier f atJ => ?_⟩
    · obtain ⟨_, type | _⟩ := field
      · cases known
        rw [there, ← named]
      · cases known
    · obtain ⟨insideJ, rfl⟩ := List.getElem?_eq_some_iff.mp atJ
      simpa using before j earlier
  · rintro ⟨there, before⟩
    obtain ⟨inside, same⟩ := List.getElem?_eq_some_iff.mp there
    refine ⟨index, ?_, _, there, type, rfl, rfl, rfl⟩
    refine List.findIdx?_eq_some_iff_getElem.mpr ⟨inside, by simp [same], fun j earlier => ?_⟩
    have atJ : schema.fields[j]? = some schema.fields[j] := List.getElem?_eq_getElem (by omega)
    simpa using before j earlier _ atJ

theorem First.mem_names {schema : Schema} {name : String} {index : Nat} {type : DataType}
    (first : schema.First name index type) : name ∈ schema.names :=
  List.mem_map.mpr ⟨_, List.mem_of_getElem? first.there, rfl⟩

/-- Among columns that a query can use, every name that is there is found. -/
theorem not_mem_names_of_lookup {schema : Schema} (usable : ∀ f ∈ schema.fields, ∃ type, f.type = .sql type)
    {name : String} (missing : schema.lookup name = none) : name ∉ schema.names := by
  intro listed
  obtain ⟨f, given, named⟩ := List.mem_map.mp listed
  obtain ⟨i, found⟩ : ∃ i, schema.fields.findIdx? (·.name == name) = some i := by
    rw [← Option.isSome_iff_exists, List.findIdx?_isSome]
    exact List.any_eq_true.mpr ⟨f, given, by simp [named]⟩
  obtain ⟨inside, _, _⟩ := List.findIdx?_eq_some_iff_getElem.mp found
  obtain ⟨type, usableHere⟩ := usable _ (List.getElem_mem inside)
  simp [lookup, found, List.getElem?_eq_getElem inside, usableHere, ColumnType.dataType?] at missing

end Schema

namespace Bound

variable {schema : Schema}

/-- Resolution gives an expression its positions, and nothing else. -/
theorem resolve_eq_ok_iff {e r : Bound} : e.resolve schema = .ok r ↔ e.Positioned schema r := by
  constructor
  · intro resolved
    induction e generalizing r with
    | constant value => cases resolved; exact .constant value
    | input index type => cases resolved; exact .input index type
    | column table name type =>
      rw [resolve_column] at resolved
      split at resolved
      · rename_i found
        cases resolved
        exact .column (Schema.lookup_eq_some_iff.mp found)
      · cases resolved
    | binary op left right type ihl ihr =>
      obtain ⟨l, onLeft, rest⟩ := bind_eq_ok.mp resolved
      obtain ⟨r, onRight, together⟩ := bind_eq_ok.mp rest
      cases together
      exact .binary (ihl onLeft) (ihr onRight)
    | cast target inner ih =>
      obtain ⟨i, onInner, around⟩ := bind_eq_ok.mp resolved
      cases around
      exact .cast (ih onInner)
  · intro positioned
    induction positioned with
    | constant value => rfl
    | column first => rw [resolve_column, Schema.lookup_eq_some_iff.mpr first]
    | input index type => rfl
    | binary _ _ ihl ihr => rw [resolve_binary, ihl, ihr]; rfl
    | cast _ ih => rw [resolve_cast, ih]; rfl

/-- Resolution fails only on a name that is not found. -/
theorem resolve_eq_error {e : Bound} {x : PlanError} (failed : e.resolve schema = .error x) :
    ∃ name ∈ e.columnNames, schema.lookup name = none ∧ x = .inputResolution name := by
  induction e with
  | constant value => cases failed
  | input index type => cases failed
  | column table name type =>
    rw [resolve_column] at failed
    split at failed
    · cases failed
    · rename_i missing
      cases failed
      exact ⟨_, List.mem_singleton_self _, missing, rfl⟩
  | binary op left right type ihl ihr =>
    rcases bind_eq_error.mp failed with onLeft | ⟨l, _, rest⟩
    · obtain ⟨name, listed, missing⟩ := ihl onLeft
      exact ⟨name, List.mem_append_left _ listed, missing⟩
    · rcases bind_eq_error.mp rest with onRight | ⟨r, _, done⟩
      · obtain ⟨name, listed, missing⟩ := ihr onRight
        exact ⟨name, List.mem_append_right _ listed, missing⟩
      · cases done
  | cast target inner ih =>
    rcases bind_eq_error.mp failed with onInner | ⟨i, _, done⟩
    · exact ih onInner
    · cases done

theorem Positioned.mem_names {e r : Bound} (positioned : e.Positioned schema r) :
    ∀ name ∈ e.columnNames, name ∈ schema.names := by
  induction positioned with
  | constant | input => simp [columnNames]
  | column first => simpa [columnNames] using first.mem_names
  | binary _ _ ihl ihr =>
    intro name listed
    rcases List.mem_append.mp listed with listed | listed
    · exact ihl name listed
    · exact ihr name listed
  | cast _ ih => exact ih

theorem Positioned.contains_columnRef {e r : Bound} (positioned : e.Positioned schema r) :
    r.contains .columnRef = false := by
  induction positioned with
  | constant | column | input => rfl
  | binary _ _ ihl ihr => simp [contains, ihl, ihr]
  | cast _ ih => simp [contains, ih]

/-- An expression without names is in its positions over every schema. -/
theorem positioned_self {e : Bound} (nameless : e.contains .columnRef = false) : e.Positioned schema e := by
  induction e with
  | constant value => exact .constant value
  | column table name type => cases nameless
  | input index type => exact .input index type
  | binary op left right type ihl ihr =>
    simp only [contains, Bool.or_eq_false_iff] at nameless
    exact .binary (ihl nameless.1.2) (ihr nameless.2)
  | cast target inner ih =>
    simp only [contains, Bool.or_eq_false_iff] at nameless
    exact .cast (ih nameless.2)

end Bound

/-- An output in its positions, under its name. -/
def Output.Positioned (schema : Schema) (o r : Output) : Prop :=
  r.name = o.name ∧ o.expr.Positioned schema r.expr

namespace Output

variable {schema : Schema}

theorem resolve_eq_ok_iff {o r : Output} : o.resolve schema = .ok r ↔ o.Positioned schema r := by
  obtain ⟨name, e⟩ := r
  rw [resolve, bind_eq_ok]
  constructor
  · rintro ⟨_, resolved, same⟩
    cases same
    exact ⟨rfl, Bound.resolve_eq_ok_iff.mp resolved⟩
  · rintro ⟨rfl, positioned⟩
    exact ⟨e, Bound.resolve_eq_ok_iff.mpr positioned, rfl⟩

theorem resolve_all_eq_ok_iff {outputs rs : List Output} :
    outputs.mapM (resolve schema) = .ok rs ↔ List.Forall₂ (Positioned schema) outputs rs := by
  simp only [mapM_eq_ok_iff_forall₂, resolve_eq_ok_iff]

theorem resolve_all_eq_error {outputs : List Output} {x : PlanError}
    (failed : outputs.mapM (resolve schema) = .error x) :
    ∃ o ∈ outputs, ∃ name ∈ o.expr.columnNames, schema.lookup name = none ∧ x = .inputResolution name := by
  obtain ⟨o, listed, fails⟩ := exists_of_mapM_error failed
  rcases bind_eq_error.mp fails with inside | ⟨_, _, done⟩
  · exact ⟨o, listed, Bound.resolve_eq_error inside⟩
  · cases done

theorem names_of_positioned {outputs rs : List Output} (each : List.Forall₂ (Positioned schema) outputs rs) :
    rs.map (·.name) = outputs.map (·.name) := by
  induction each with
  | nil => rfl
  | cons first _ ih => rw [List.map_cons, List.map_cons, first.1, ih]

theorem mem_names_of_positioned {outputs rs : List Output} (each : List.Forall₂ (Positioned schema) outputs rs) :
    ∀ o ∈ outputs, ∀ name ∈ o.expr.columnNames, name ∈ schema.names := by
  induction each with
  | nil => simp
  | cons first _ ih =>
    intro o listed
    rcases List.mem_cons.mp listed with rfl | listed
    · exact first.2.mem_names
    · exact ih o listed

theorem contains_columnRef_of_positioned {outputs rs : List Output}
    (each : List.Forall₂ (Positioned schema) outputs rs) :
    ∀ r ∈ rs, r.expr.contains .columnRef = false := by
  induction each with
  | nil => simp
  | cons first _ ih =>
    intro r listed
    rcases List.mem_cons.mp listed with rfl | listed
    · exact first.2.contains_columnRef
    · exact ih r listed

end Output

/-! ## Plans -/

namespace Plan

/-- Two plans of one shape over one table: the nodes of the second are physical, and its expressions
are those of the first in their positions among the columns that the child gives. -/
inductive Becomes : Plan → Plan → Prop
  | scan (flavor : Flavor) (t : TableDef) : Becomes (.scan flavor t) (.scan .physical t)
  | filter {flavor : Flavor} {predicate e : Bound} {child c : Plan} (below : Becomes child c)
      (inside : predicate.Positioned c.schema e) :
      Becomes (.filter flavor predicate child) (.filter .physical e c)
  | project {flavor : Flavor} {outputs rs : List Output} {child c : Plan} (below : Becomes child c)
      (each : List.Forall₂ (Output.Positioned c.schema) outputs rs) :
      Becomes (.project flavor outputs child) (.project .physical rs c)

/-- Some node of a plan has an expression that names, at any depth, a column which is not among those
that the child of the node gives. -/
def Lacks (p : Plan) (name : String) : Prop :=
  ∃ node ∈ p.nodes, ∃ e ∈ node.exprs, name ∈ e.columnNames ∧ name ∉ node.inputSchema.names

section Nodes

variable {flavor : Flavor} {t : TableDef} {predicate : Bound} {outputs : List Output} {child : Plan}
  {name : String}

theorem not_lacks_scan : ¬ (scan flavor t).Lacks name := by
  simp [Lacks, nodes, exprs]

theorem lacks_filter : (filter flavor predicate child).Lacks name ↔
    (name ∈ predicate.columnNames ∧ name ∉ child.schema.names) ∨ child.Lacks name := by
  simp [Lacks, nodes, exprs, inputSchema]

theorem lacks_project : (project flavor outputs child).Lacks name ↔
    (∃ o ∈ outputs, name ∈ o.expr.columnNames ∧ name ∉ child.schema.names) ∨ child.Lacks name := by
  simp [Lacks, nodes, exprs, inputSchema]

@[simp] theorem lower_scan : (scan flavor t).lower = scan .physical t := by
  cases flavor <;> rfl

@[simp] theorem lower_filter : (filter flavor predicate child).lower = filter .physical predicate child.lower := by
  cases flavor <;> rfl

@[simp] theorem lower_project : (project flavor outputs child).lower = project .physical outputs child.lower := by
  cases flavor <;> rfl

end Nodes

/-- A plan gives only columns that a query can use. -/
theorem usable_schema (p : Plan) : ∀ f ∈ p.schema.fields, ∃ type, f.type = .sql type := by
  induction p with
  | scan flavor t => simp [schema, scanSchema, Schema.ofColumns]
  | filter flavor predicate child ih => exact ih
  | project flavor outputs child ih => simp [schema, outputSchema, Schema.ofColumns]

namespace Becomes

variable {p q : Plan}

/-- The columns keep their names; only their types may become others. -/
theorem names_schema (becomes : p.Becomes q) : q.schema.names = p.schema.names := by
  induction becomes with
  | scan flavor t => rfl
  | filter _ _ ih => exact ih
  | project _ each _ =>
    have names := Output.names_of_positioned each
    simpa [schema, outputSchema, Schema.ofColumns, Schema.names, Function.comp_def] using names

theorem not_lacks (becomes : p.Becomes q) (name : String) : ¬ p.Lacks name := by
  induction becomes with
  | scan flavor t => exact not_lacks_scan
  | filter below inside ih =>
    rw [lacks_filter]
    rintro (⟨listed, missing⟩ | lacking)
    · exact missing (below.names_schema ▸ inside.mem_names name listed)
    · exact ih lacking
  | project below each ih =>
    rw [lacks_project]
    rintro (⟨o, given, listed, missing⟩ | lacking)
    · exact missing (below.names_schema ▸ Output.mem_names_of_positioned each o given name listed)
    · exact ih lacking

/-- What a plan becomes can be run. -/
theorem violation?_eq_none (becomes : p.Becomes q) : q.violation? = none := by
  induction becomes with
  | scan flavor t => exact violation?_scan.mpr rfl
  | filter _ inside ih => exact violation?_filter.mpr ⟨rfl, inside.contains_columnRef, ih⟩
  | project _ each ih =>
    exact violation?_project.mpr ⟨rfl, Output.contains_columnRef_of_positioned each, ih⟩

end Becomes

variable {p q : Plan}

/-- Lowering and then resolving a plan gives what the plan becomes. -/
theorem resolve_lower_eq_ok_iff : p.lower.resolve = .ok q ↔ p.Becomes q := by
  constructor
  · intro resolved
    induction p generalizing q with
    | scan flavor t =>
      rw [lower_scan, resolve_scan] at resolved
      cases resolved
      exact .scan flavor t
    | filter flavor predicate child ih =>
      rw [lower_filter, resolve_filter] at resolved
      obtain ⟨c, below, rest⟩ := bind_eq_ok.mp resolved
      obtain ⟨e, inside, same⟩ := bind_eq_ok.mp rest
      cases same
      exact .filter (ih below) (Bound.resolve_eq_ok_iff.mp inside)
    | project flavor outputs child ih =>
      rw [lower_project, resolve_project] at resolved
      obtain ⟨c, below, rest⟩ := bind_eq_ok.mp resolved
      obtain ⟨rs, each, same⟩ := bind_eq_ok.mp rest
      cases same
      exact .project (ih below) (Output.resolve_all_eq_ok_iff.mp each)
  · intro becomes
    induction becomes with
    | scan flavor t => rw [lower_scan, resolve_scan]
    | filter _ inside ih =>
      rw [lower_filter, resolve_filter]
      exact bind_eq_ok.mpr ⟨_, ih, bind_eq_ok.mpr ⟨_, Bound.resolve_eq_ok_iff.mpr inside, rfl⟩⟩
    | project _ each ih =>
      rw [lower_project, resolve_project]
      exact bind_eq_ok.mpr ⟨_, ih, bind_eq_ok.mpr ⟨_, Output.resolve_all_eq_ok_iff.mpr each, rfl⟩⟩

/-- Planning fails only on a name that some node lacks. -/
theorem resolve_lower_eq_error {x : PlanError} (failed : p.lower.resolve = .error x) :
    ∃ name, x = .inputResolution name ∧ p.Lacks name := by
  have absent {child c : Plan} {name : String} (below : child.lower.resolve = .ok c)
      (missing : c.schema.lookup name = none) : name ∉ child.schema.names :=
    (resolve_lower_eq_ok_iff.mp below).names_schema ▸ Schema.not_mem_names_of_lookup c.usable_schema missing
  induction p with
  | scan flavor t =>
    rw [lower_scan, resolve_scan] at failed
    cases failed
  | filter flavor predicate child ih =>
    rw [lower_filter, resolve_filter] at failed
    rcases bind_eq_error.mp failed with below | ⟨c, below, rest⟩
    · obtain ⟨name, same, lacking⟩ := ih below
      exact ⟨name, same, lacks_filter.mpr (.inr lacking)⟩
    · rcases bind_eq_error.mp rest with inside | ⟨_, _, done⟩
      · obtain ⟨name, listed, missing, same⟩ := Bound.resolve_eq_error inside
        exact ⟨name, same, lacks_filter.mpr (.inl ⟨listed, absent below missing⟩)⟩
      · cases done
  | project flavor outputs child ih =>
    rw [lower_project, resolve_project] at failed
    rcases bind_eq_error.mp failed with below | ⟨c, below, rest⟩
    · obtain ⟨name, same, lacking⟩ := ih below
      exact ⟨name, same, lacks_project.mpr (.inr lacking)⟩
    · rcases bind_eq_error.mp rest with inside | ⟨_, _, done⟩
      · obtain ⟨o, given, name, listed, missing, same⟩ := Output.resolve_all_eq_error inside
        exact ⟨name, same, lacks_project.mpr (.inl ⟨o, given, listed, absent below missing⟩)⟩
      · cases done

/-- A plan that can be run becomes itself. -/
theorem becomes_self (runnable : q.violation? = none) : q.Becomes q := by
  induction q with
  | scan flavor t =>
    obtain rfl := violation?_scan.mp runnable
    exact .scan _ t
  | filter flavor predicate child ih =>
    obtain ⟨rfl, nameless, below⟩ := violation?_filter.mp runnable
    exact .filter (ih below) (Bound.positioned_self nameless)
  | project flavor outputs child ih =>
    obtain ⟨rfl, nameless, below⟩ := violation?_project.mp runnable
    refine .project (ih below) (List.forall₂_same.mpr fun o listed => ⟨rfl, ?_⟩)
    exact Bound.positioned_self (nameless o listed)

/-- The final check accepts whatever was lowered and resolved. -/
theorem toPhysical_eq_ok_iff {p : Plan} {q : PhysicalPlan} : p.toPhysical = .ok q ↔ p.Becomes q.root := by
  rw [toPhysical, bind_eq_ok]
  constructor
  · rintro ⟨root, resolved, checked⟩
    have becomes := resolve_lower_eq_ok_iff.mp resolved
    rw [PhysicalPlan.check_eq_ok becomes.violation?_eq_none] at checked
    cases checked
    exact becomes
  · intro becomes
    exact ⟨q.root, resolve_lower_eq_ok_iff.mpr becomes, PhysicalPlan.check_eq_ok q.runnable⟩

theorem toPhysical_eq_error {p : Plan} {x : PlanError} (failed : p.toPhysical = .error x) :
    ∃ name, x = .inputResolution name ∧ p.Lacks name := by
  rcases bind_eq_error.mp failed with unresolved | ⟨root, resolved, checked⟩
  · exact resolve_lower_eq_error unresolved
  · rw [PhysicalPlan.check_eq_ok (resolve_lower_eq_ok_iff.mp resolved).violation?_eq_none] at checked
    cases checked

/-- What planning makes of any plan. It gives a plan exactly if no node lacks a column, and otherwise the
name of one that is lacking; the plan it gives is what the plan becomes, and is planned as it is. -/
theorem toPhysical_total (p : Plan) :
    ((∃ q, p.toPhysical = .ok q) ↔ ∀ name, ¬ p.Lacks name) ∧
    (∀ x, p.toPhysical = .error x → ∃ name, x = .inputResolution name ∧ p.Lacks name) ∧
    (∀ q, p.toPhysical = .ok q ↔ p.Becomes q.root) ∧
    ∀ q, p.toPhysical = .ok q → q.root.toPhysical = .ok q := by
  refine ⟨⟨?_, ?_⟩, fun x => toPhysical_eq_error, fun q => toPhysical_eq_ok_iff, fun q _ => ?_⟩
  · rintro ⟨q, planned⟩
    exact (toPhysical_eq_ok_iff.mp planned).not_lacks
  · intro supplied
    cases planned : p.toPhysical with
    | ok q => exact ⟨q, rfl⟩
    | error x =>
      obtain ⟨name, _, lacking⟩ := toPhysical_eq_error planned
      exact (supplied name lacking).elim
  · exact toPhysical_eq_ok_iff.mpr (becomes_self q.runnable)

end Plan

end Tabular
