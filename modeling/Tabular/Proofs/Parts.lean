import Tabular.Proofs.Meaning

/-!
# Parts of bound expressions

What binding makes sure of at every node of every expression that it gives out, however deep: names are
those of columns of the table that is read, and types agree from a node to the next
(`Binding.bindSelect_sound`). Nothing after binding looks at this again.
-/

namespace Tabular

namespace Bound

/-- An expression is a part of itself, and what is a part of a node right below it is one too. -/
inductive Within (part : Bound) : Bound → Prop
  | self : Within part part
  | deeper {e child : Bound} (listed : child ∈ e.children) (inside : Within part child) : Within part e

/-- A node that agrees with the nodes right below it. It is no position, a name is one of `columns`, an
operation carries the type it gives, and a cast changes the type in a way that exists. -/
def Agrees (columns : String → String → DataType → Prop) : Bound → Prop
  | constant _ => True
  | column table name type => columns table name type
  | input _ _ => False
  | binary op left right type => op.resultType left.type right.type = some type
  | cast target inner => inner.type ≠ target ∧ inner.type.castsTo target = true

/-- An expression all parts of which agree with what is below them. -/
def Sound (columns : String → String → DataType → Prop) (e : Bound) : Prop :=
  ∀ part, Within part e → part.Agrees columns

end Bound

namespace Binding

/-- A column of the table that is read, under the name of the table and with its own type. -/
def Lists (source : Option TableDef) (table name : String) (type : DataType) : Prop :=
  ∃ t, source = some t ∧ t.name = table ∧ ⟨name, type⟩ ∈ t.columns

/-- A column of the table that is read which shares its name with no other. -/
def ListsOnce (source : Option TableDef) (table name : String) (type : DataType) : Prop :=
  ∃ t, source = some t ∧ t.name = table ∧ ⟨name, type⟩ ∈ t.columns ∧ t.columnNames.count name = 1

/-- The columns that the outputs of an item may name. A written name is that of one column only; a star
stands for all columns, whatever they share. -/
def itemColumns (source : Option TableDef) : SelectItem → String → String → DataType → Prop
  | .wildcard => Lists source
  | .expr _ _ => ListsOnce source

/-! ## Columns -/

theorem listsOnce_of_filter {t : TableDef} {name : String} {c : ColumnDef}
    (once : t.columns.filter (·.name == name) = [c]) : ListsOnce (some t) t.name name c.type := by
  have listed : c ∈ t.columns.filter (·.name == name) := by rw [once]; exact List.mem_singleton_self c
  obtain ⟨inTable, named⟩ := List.mem_filter.mp listed
  obtain rfl : c.name = name := by simpa using named
  refine ⟨t, rfl, rfl, inTable, ?_⟩
  -- a name is found as often as columns have it
  rw [TableDef.columnNames, List.count_eq_countP, List.countP_map, List.countP_eq_length_filter]
  exact congrArg List.length once

/-! ## Expressions -/

variable {columns : String → String → DataType → Prop}

theorem kept_sound : Kept (Bound.Sound columns) where
  constant value := by
    rintro part (_ | ⟨listed, _⟩)
    · trivial
    · cases listed
  binary onLeft onRight gives := by
    rintro part (_ | ⟨listed, inside⟩)
    · exact gives
    · rcases List.mem_pair.mp listed with rfl | rfl
      · exact onLeft part inside
      · exact onRight part inside
  cast inside different allowed := by
    rintro part (_ | ⟨listed, within⟩)
    · exact ⟨different, allowed⟩
    · obtain rfl := List.mem_singleton.mp listed
      exact inside part within

theorem sound_of_column {table name : String} {type : DataType} (known : columns table name type) :
    (Bound.column table name type).Sound columns := by
  rintro part (_ | ⟨listed, _⟩)
  · exact known
  · cases listed

variable {catalog : Catalog} {source : Option TableDef}

/-- The table of a bound statement is what its number stands for in the catalog. -/
def Entered (catalog : Catalog) (source : Option TableDef) : Prop :=
  ∀ t, source = some t → catalog.table t.id = .ok t

theorem bindColumn_sound (entered : Entered catalog source) {name display : String} {bound : Bound}
    (accepted : bindColumn catalog source name display = .ok bound) :
    bound.Sound (ListsOnce source) := by
  cases source with
  | none => cases accepted
  | some t =>
    obtain ⟨c, once, rfl⟩ := bindColumn_ok (entered t rfl) accepted
    exact sound_of_column (listsOnce_of_filter once)

/-- Every part of an expression that is bound is sound, and its names are unambiguous. -/
theorem bindExpr_sound (entered : Entered catalog source) {e : Expr} {bound : Bound}
    (accepted : bindExpr catalog source e = .ok bound) : bound.Sound (ListsOnce source) :=
  bindExpr_kept kept_sound (bindColumn_sound entered) accepted

/-! ## Statements -/

theorem bindItem_sound (entered : Entered catalog source) {item : SelectItem} {outputs : List Output}
    (accepted : bindItem catalog source item = .ok outputs) :
    ∀ o ∈ outputs, o.expr.Sound (itemColumns source item) := by
  cases item with
  | wildcard =>
    cases source with
    | none => cases accepted
    | some t =>
      cases accepted
      intro o listed
      obtain ⟨c, inTable, rfl⟩ := List.mem_map.mp listed
      exact sound_of_column ⟨t, rfl, rfl, inTable⟩
  | expr e alias? =>
    obtain ⟨bound, boundTo, same⟩ := bind_eq_ok.mp accepted
    cases same
    intro o listed
    obtain rfl := List.mem_singleton.mp listed
    exact bindExpr_sound entered boundTo

theorem bindSelect_source {s : Select} {bound : BoundSelect} (accepted : bindSelect catalog s = .ok bound)
    {t : TableDef} (reads : bound.source = some t) :
    ∃ name, s.source = some name ∧ catalog.tableByName name = .ok t := by
  cases written : s.source with
  | none =>
    obtain ⟨atTable, _⟩ := bindSelect_ok accepted
    rw [written, reads] at atTable
    cases atTable
  | some name =>
    obtain ⟨u, found, source⟩ := source_of_bindSelect written accepted
    obtain rfl : u = t := Option.some.inj (source.symm.trans reads)
    exact ⟨name, rfl, found⟩

/-- What a bound statement is made of. It reads the table that the catalog has under the written name. In its
outputs, item by item, and in its condition every part at every depth is sound: there are no positions; names
are those of columns of the table with their types, and a name that was written is that of no other column;
operations carry the types they give, and casts change types in ways that exist. The condition is a truth
value. -/
theorem bindSelect_sound {s : Select} {bound : BoundSelect} (accepted : bindSelect catalog s = .ok bound) :
    (∀ t, bound.source = some t → ∃ name, s.source = some name ∧ catalog.tableByName name = .ok t) ∧
    (∃ lists, bound.outputs = lists.flatten ∧
      List.Forall₂ (fun item outputs => bindItem catalog bound.source item = .ok outputs ∧
        ∀ o ∈ outputs, o.expr.Sound (itemColumns bound.source item)) s.items lists) ∧
    ∀ e, bound.filter = some e → e.type = .bool ∧ e.Sound (ListsOnce bound.source) := by
  obtain ⟨_, ⟨lists, boundItems, flattened⟩, boundCondition⟩ := bindSelect_ok accepted
  have entered : Entered catalog bound.source := by
    intro t reads
    obtain ⟨name, _, found⟩ := bindSelect_source accepted reads
    exact Catalog.table_of_tableByName found
  refine ⟨fun t reads => bindSelect_source accepted reads, ⟨lists, flattened, ?_⟩, ?_⟩
  · exact (mapM_eq_ok_iff_forall₂.mp boundItems).imp fun item outputs here => ⟨here, bindItem_sound entered here⟩
  · intro e kept
    cases written : s.condition with
    | none =>
      rw [written, kept] at boundCondition
      cases boundCondition
    | some c =>
      rw [written] at boundCondition
      obtain ⟨found, boundTo, same⟩ := bind_eq_ok.mp boundCondition
      obtain rfl : found = e := Option.some.inj ((Except.ok.inj same).trans kept)
      obtain ⟨boundTo, truth⟩ := bindCondition_ok boundTo
      exact ⟨truth, bindExpr_sound entered boundTo⟩

end Binding

namespace Sample

/-- A table with numbers of both types and two columns of one name. -/
def mixedTable : TableDef := ⟨⟨0⟩, "t", [⟨"a", .int64⟩, ⟨"b", .float64⟩, ⟨"c", .string⟩, ⟨"c", .bool⟩]⟩

def mixedCatalog : Catalog := Catalog.empty.insert mixedTable.describe

/-- `SELECT *, (a + b), CAST((NULL = a) AS STRING) FROM t WHERE (t.a < b)`. -/
def mixed : Select where
  items := [.wildcard, .expr (.binary .add (.name "a") (.name "b")) none,
    .expr (.cast (.binary .eq (.literal .null) (.name "a")) .string) none]
  source := some "t"
  condition := some (.binary .lt (.qualified "t" "a") (.name "b"))

end Sample

namespace Binding

theorem bindSelect_sound_mixed : ∃ bound, bindSelect Sample.mixedCatalog Sample.mixed = .ok bound ∧
    bound.source = some Sample.mixedTable ∧ bound.outputs.length = 6 ∧
    (∃ lists, bound.outputs = lists.flatten ∧
      List.Forall₂ (fun item outputs => bindItem Sample.mixedCatalog bound.source item = .ok outputs ∧
        ∀ o ∈ outputs, o.expr.Sound (itemColumns bound.source item)) Sample.mixed.items lists) ∧
    ∃ e, bound.filter = some e ∧ e.type = .bool ∧ e.Sound (ListsOnce bound.source) := by
  obtain ⟨bound, accepted, source, count, e, kept⟩ :
      ∃ bound, bindSelect Sample.mixedCatalog Sample.mixed = .ok bound ∧
        bound.source = some Sample.mixedTable ∧ bound.outputs.length = 6 ∧ ∃ e, bound.filter = some e :=
    ⟨_, rfl, rfl, rfl, _, rfl⟩
  obtain ⟨_, outputs, condition⟩ := bindSelect_sound accepted
  exact ⟨bound, accepted, source, count, outputs, e, kept, condition e kept⟩

end Binding

end Tabular
