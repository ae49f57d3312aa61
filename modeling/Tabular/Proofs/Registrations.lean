import Mathlib.Data.List.Nodup
import Mathlib.Data.List.Pairwise
import Tabular.Catalog

/-!
# Registrations

What a catalog knows after any requests to its registry: the tables that were registered with success, each under
its name and under its number, and nothing else (`Registry.Leads.integrity`). Both maps of the catalog are those of
one list of tables (`Catalog.Holds`), and so are the list and the map of each descriptor those of the declared
columns (`TableDescriptor.Shows`). A registration is refused if an earlier one took the name or the number, and then
nothing changes; the program stops at a table under the greatest number.
-/

namespace Tabular

/-! ## Keys -/

/-- Where no two elements share a key, the one that has a key is found by it. -/
theorem find?_key_eq_some_iff {α κ : Type} [DecidableEq κ] {key : α → κ} {l : List α}
    (distinct : (l.map key).Nodup) {k : κ} {a : α} :
    l.find? (fun x => key x == k) = some a ↔ a ∈ l ∧ key a = k := by
  constructor
  · intro found
    exact ⟨List.mem_of_find?_eq_some found, by simpa using List.find?_some found⟩
  · rintro ⟨listed, rfl⟩
    cases found : l.find? (fun x => key x == key a) with
    | none =>
      have missing := List.find?_eq_none.mp found a listed
      simp at missing
    | some b =>
      have same : key b = key a := by simpa using List.find?_some found
      rw [List.inj_on_of_nodup_map distinct (List.mem_of_find?_eq_some found) listed same]

/-- One more element is found by its key, which no other has, and changes nothing for other keys. -/
theorem find?_key_append {α κ : Type} [DecidableEq κ] {key : α → κ} {l : List α} {a : α}
    (free : key a ∉ l.map key) (k : κ) :
    (l ++ [a]).find? (fun x => key x == k) = if key a = k then some a else l.find? (fun x => key x == k) := by
  rw [List.find?_append]
  by_cases same : key a = k
  · subst same
    have missing : l.find? (fun x => key x == key a) = none := by
      rw [List.find?_eq_none]
      intro x listed
      have differs : key x ≠ key a := fun same => free (same ▸ List.mem_map_of_mem listed)
      simpa using differs
    simp [missing]
  · simp [same]

section Indexes

variable {α κ ν : Type} [Ord κ] [DecidableEq κ] {key : α → κ} {value : α → ν}

/-- A map that has the values of a list of elements under their keys. -/
def Indexes (key : α → κ) (value : α → ν) (l : List α) (m : Std.TreeMap κ ν) : Prop :=
  ∀ k, m[k]? = (l.find? fun a => key a == k).map value

namespace Indexes

variable {l : List α} {m : Std.TreeMap κ ν}

theorem eq_some_iff (indexes : Indexes key value l m) (distinct : (l.map key).Nodup) {k : κ} {v : ν} :
    m[k]? = some v ↔ ∃ a ∈ l, key a = k ∧ value a = v := by
  rw [indexes, Option.map_eq_some_iff]
  simp only [find?_key_eq_some_iff distinct, and_assoc]

theorem eq_none (indexes : Indexes key value l m) {k : κ} (free : ∀ a ∈ l, key a ≠ k) : m[k]? = none := by
  have missing : l.find? (fun a => key a == k) = none := by
    simpa [List.find?_eq_none] using free
  rw [indexes, missing, Option.map_none]

variable [Std.TransOrd κ]

theorem contains_iff (indexes : Indexes key value l m) (distinct : (l.map key).Nodup) {k : κ} :
    m.contains k = true ↔ ∃ a ∈ l, key a = k := by
  rw [Std.TreeMap.contains_eq_isSome_getElem?, Option.isSome_iff_exists]
  simp only [indexes.eq_some_iff distinct]
  constructor
  · rintro ⟨_, a, listed, same, _⟩
    exact ⟨a, listed, same⟩
  · rintro ⟨a, listed, same⟩
    exact ⟨value a, a, listed, same, rfl⟩

variable [Std.LawfulEqOrd κ]

theorem perm_keys (indexes : Indexes key value l m) (distinct : (l.map key).Nodup) : m.keys.Perm (l.map key) := by
  refine (List.perm_ext_iff_of_nodup Std.TreeMap.nodup_keys distinct).mpr fun k => ?_
  rw [Std.TreeMap.mem_keys, ← Std.TreeMap.contains_iff_mem, List.mem_map]
  exact indexes.contains_iff distinct

/-- One more element under a key that is free comes last. -/
theorem insert (indexes : Indexes key value l m) {a : α} (free : key a ∉ l.map key) :
    Indexes key value (l ++ [a]) (m.insert (key a) (value a)) := by
  intro k
  rw [Std.TreeMap.getElem?_insert, find?_key_append free, indexes]
  simp only [Std.compare_eq_iff_eq]
  split
  · rfl
  · rfl

end Indexes

end Indexes

/-- Texts of which no two are the same stand in strict order when they are sorted. -/
theorem pairwise_lt_mergeSort {names : List String} (distinct : names.Nodup) :
    (names.mergeSort fun a b => decide (a ≤ b)).Pairwise (· < ·) := by
  have sorted : (names.mergeSort fun a b => decide (a ≤ b)).Pairwise fun a b => decide (a ≤ b) = true := by
    apply List.pairwise_mergeSort
    · intro a b c first second
      exact decide_eq_true (String.le_trans (of_decide_eq_true first) (of_decide_eq_true second))
    · intro a b
      rcases String.le_total a b with first | second
      · simp [first]
      · simp [second]
  have differ := (List.mergeSort_perm names fun a b => decide (a ≤ b)).nodup_iff.mpr distinct
  refine (sorted.and differ).imp ?_
  rintro a b ⟨order, different⟩
  by_contra behind
  exact different (String.le_antisymm (of_decide_eq_true order) (String.not_lt.mp behind))

theorem TableId.compare_eq_lt_iff {a b : TableId} : compare a b = .lt ↔ a.number < b.number := by
  show compare a.number b.number = .lt ↔ _
  exact Std.compare_eq_lt

/-! ## Descriptors -/

/-- The map of a descriptor has the columns under their positions. -/
theorem TableDef.getElem?_columnsById (t : TableDef) (i : Nat) : t.describe.columnsById[i]? = t.columns[i]? := by
  let numbered := (List.range t.columns.length).zip t.columns
  have numbers : numbered.map Prod.fst = List.range t.columns.length := by
    rw [List.map_fst_zip (by simp)]
  have apart : numbered.Pairwise fun a b => ¬ compare a.1 b.1 = .eq := by
    have distinct : (numbered.map Prod.fst).Nodup := numbers ▸ List.nodup_range
    refine (List.pairwise_map.mp distinct).imp fun differ same => differ ?_
    exact Std.LawfulEqOrd.eq_of_compare same
  show (Std.TreeMap.ofList numbered)[i]? = _
  by_cases inside : i < t.columns.length
  · have listed : (i, t.columns[i]) ∈ numbered := by
      rw [List.mem_iff_getElem]
      exact ⟨i, by simpa [numbered] using inside, by simp [numbered]⟩
    rw [Std.TreeMap.getElem?_ofList_of_mem Std.ReflCmp.compare_self apart listed, List.getElem?_eq_getElem inside]
  · have missing : (numbered.map Prod.fst).contains i = false := by
      rw [numbers]
      simpa using inside
    rw [Std.TreeMap.getElem?_ofList_of_contains_eq_false missing, List.getElem?_eq_none (Nat.le_of_not_lt inside)]

theorem TableDef.columns_describe (t : TableDef) : t.describe.columns = t.columns.zipIdx.map fun c => (c.2, c.1) := by
  have ids : t.describe.columnIds = t.columns.zipIdx.map Prod.snd := by
    rw [List.zipIdx_map_snd, ← List.range_eq_range']
    rfl
  rw [TableDescriptor.columns, ids, List.filterMap_map]
  refine (List.filterMap_congr ?_).trans (congrFun List.filterMap_eq_map' _)
  rintro ⟨c, i⟩ listed
  rw [Function.comp_apply, getElem?_columnsById, List.mem_zipIdx_iff_getElem?.mp listed]
  rfl

@[simp] theorem TableDef.table_describe (t : TableDef) : t.describe.table = t := by
  have columns : t.describe.columns.map Prod.snd = t.columns := by
    rw [columns_describe, List.map_map]
    exact List.zipIdx_map_fst 0 t.columns
  exact congrArg (TableDef.mk t.id t.name) columns

namespace TableDescriptor

/-- The columns that are found under a name are the table's columns of the name. -/
theorem findColumns_map_snd (d : TableDescriptor) (name : String) :
    (d.findColumns name).map Prod.snd = d.table.columns.filter (·.name == name) := by
  rw [findColumns, table, List.filter_map]
  rfl

variable {t : TableDef}

end TableDescriptor

/-! ## Lookups -/

/-- Whether a table has a name or a number that one of the tables has. -/
def TableDef.TakenIn (t : TableDef) (tables : List TableDef) : Prop :=
  ∃ u ∈ tables, u.name = t.name ∨ u.id = t.id

namespace Catalog

variable {c : Catalog} {tables : List TableDef}

theorem descriptor_eq_ok_iff {id : TableId} {d : TableDescriptor} :
    c.descriptor id = .ok d ↔ c.byId[id]? = some d := by
  rw [descriptor]
  cases c.byId[id]? with
  | none => simp
  | some e => simp

theorem descriptorByName_eq_ok_iff {name : String} {d : TableDescriptor} :
    c.descriptorByName name = .ok d ↔ ∃ id, c.byName[name]? = some id ∧ c.byId[id]? = some d := by
  rw [descriptorByName, ← Option.bind_eq_some_iff]
  cases c.byName[name]?.bind fun id => c.byId[id]? with
  | none => simp
  | some e => simp

theorem table_eq_ok_iff {id : TableId} {t : TableDef} :
    c.table id = .ok t ↔ ∃ d, c.descriptor id = .ok d ∧ d.table = t := by
  rw [table]
  cases c.descriptor id with
  | error e => simp [Except.map]
  | ok d => simp [Except.map]

/-- A table that is found by its name is found by its number. -/
theorem table_of_tableByName {name : String} {t : TableDef} (known : c.tableByName name = .ok t) :
    c.table t.id = .ok t := by
  rw [tableByName] at known
  cases found : c.descriptorByName name with
  | error e =>
    rw [found] at known
    cases known
  | ok d =>
    rw [found] at known
    cases known
    obtain ⟨id, _, there⟩ := descriptorByName_eq_ok_iff.mp found
    obtain rfl : d.id = id := c.keyed id d there
    exact table_eq_ok_iff.mpr ⟨d, descriptor_eq_ok_iff.mpr there, rfl⟩

/-- A table that was inserted is found by its name. -/
theorem tableByName_insert (c : Catalog) (t : TableDef) : (c.insert t.describe).tableByName t.name = .ok t := by
  have named : (c.byName.insert t.name t.id)[t.name]? = some t.id := Std.TreeMap.getElem?_insert_self
  have there : (c.byId.insert t.id t.describe)[t.id]? = some t.describe := Std.TreeMap.getElem?_insert_self
  have found : (c.insert t.describe).descriptorByName t.name = .ok t.describe :=
    descriptorByName_eq_ok_iff.mpr ⟨t.id, named, there⟩
  rw [tableByName, found]
  exact congrArg Except.ok t.table_describe

/-- A table that is found by its number is one of the tables. -/
theorem mem_tables_of_table {id : TableId} {t : TableDef} (known : c.table id = .ok t) : t ∈ c.tables := by
  obtain ⟨d, found, rfl⟩ := table_eq_ok_iff.mp known
  have listed := Std.TreeMap.mem_toList_iff_getElem?_eq_some.mpr (descriptor_eq_ok_iff.mp found)
  exact List.mem_map_of_mem listed

/-- A catalog whose two maps are those of a list of tables: the names lead to the numbers of the tables, and the
numbers to their descriptors. -/
structure Holds (c : Catalog) (tables : List TableDef) : Prop where
  byName : ∀ name, c.byName[name]? = (tables.find? (·.name == name)).map (·.id)
  byId : ∀ id, c.byId[id]? = (tables.find? (·.id == id)).map (·.describe)
  distinctNames : (tables.map (·.name)).Nodup
  distinctIds : (tables.map (·.id)).Nodup

theorem Holds.empty : Holds .empty [] := ⟨fun _ => rfl, fun _ => rfl, List.nodup_nil, List.nodup_nil⟩

namespace Holds

theorem byName_eq_some_iff (holds : c.Holds tables) {name : String} {id : TableId} :
    c.byName[name]? = some id ↔ ∃ t ∈ tables, t.name = name ∧ t.id = id :=
  Indexes.eq_some_iff holds.byName holds.distinctNames

theorem byId_eq_some_iff (holds : c.Holds tables) {id : TableId} {d : TableDescriptor} :
    c.byId[id]? = some d ↔ ∃ t ∈ tables, t.id = id ∧ t.describe = d :=
  Indexes.eq_some_iff holds.byId holds.distinctIds

theorem hasName_iff (holds : c.Holds tables) {name : String} : c.hasName name = true ↔ ∃ t ∈ tables, t.name = name :=
  Indexes.contains_iff holds.byName holds.distinctNames

theorem hasId_iff (holds : c.Holds tables) {id : TableId} : c.hasId id = true ↔ ∃ t ∈ tables, t.id = id :=
  Indexes.contains_iff holds.byId holds.distinctIds

/-- What both maps are asked before a table is inserted. -/
theorem taken_iff (holds : c.Holds tables) {t : TableDef} :
    (c.hasName t.name || c.hasId t.id) = true ↔ t.TakenIn tables := by
  rw [TableDef.TakenIn, Bool.or_eq_true, holds.hasName_iff, holds.hasId_iff]
  constructor
  · rintro (⟨u, listed, same⟩ | ⟨u, listed, same⟩)
    · exact ⟨u, listed, Or.inl same⟩
    · exact ⟨u, listed, Or.inr same⟩
  · rintro ⟨u, listed, same | same⟩
    · exact Or.inl ⟨u, listed, same⟩
    · exact Or.inr ⟨u, listed, same⟩

/-- A table whose name and number are free goes into both maps. -/
theorem insert (holds : c.Holds tables) {t : TableDef} (free : ¬ t.TakenIn tables) :
    (c.insert t.describe).Holds (tables ++ [t]) := by
  have freeName : t.name ∉ tables.map (·.name) := by
    rintro listed
    obtain ⟨u, inside, same⟩ := List.mem_map.mp listed
    exact free ⟨u, inside, Or.inl same⟩
  have freeId : t.id ∉ tables.map (·.id) := by
    rintro listed
    obtain ⟨u, inside, same⟩ := List.mem_map.mp listed
    exact free ⟨u, inside, Or.inr same⟩
  refine ⟨Indexes.insert holds.byName freeName, Indexes.insert holds.byId freeId, ?_, ?_⟩
  · rw [List.map_append]
    exact holds.distinctNames.append (List.nodup_singleton _) (by simpa using freeName)
  · rw [List.map_append]
    exact holds.distinctIds.append (List.nodup_singleton _) (by simpa using freeId)

theorem mem_toList_iff (holds : c.Holds tables) (entry : TableId × TableDescriptor) :
    entry ∈ c.byId.toList ↔ entry ∈ tables.map fun t => (t.id, t.describe) := by
  obtain ⟨id, d⟩ := entry
  rw [Std.TreeMap.mem_toList_iff_getElem?_eq_some, holds.byId_eq_some_iff, List.mem_map]
  simp only [Prod.mk.injEq]

/-- Tables whose numbers rise are those of the catalog in order. -/
theorem tables_eq (holds : c.Holds tables) (rise : (tables.map (·.id.number)).Pairwise (· < ·)) : c.tables = tables := by
  have order : (tables.map fun t => (t.id, t.describe)).Pairwise fun a b => compare a.1 b.1 = .lt := by
    rw [List.pairwise_map] at rise ⊢
    exact rise.imp fun below => TableId.compare_eq_lt_iff.mpr below
  have apart {l : List (TableId × TableDescriptor)} (order : l.Pairwise fun a b => compare a.1 b.1 = .lt) : l.Nodup := by
    refine order.imp fun {a b} below same => ?_
    rw [same, Std.ReflOrd.compare_self] at below
    cases below
  have listed := Std.TreeMap.ordered_keys_toList (t := c.byId)
  have entries : c.byId.toList = tables.map fun t => (t.id, t.describe) := by
    refine List.Perm.eq_of_pairwise (fun a b _ _ below above => ?_) listed order ?_
    · rw [Std.OrientedOrd.eq_swap, below] at above
      cases above
    · exact (List.perm_ext_iff_of_nodup (apart listed) (apart order)).mpr holds.mem_toList_iff
  rw [Catalog.tables, entries, List.map_map]
  exact (List.map_congr_left fun t _ => t.table_describe).trans (List.map_id _)

end Holds

/-- A catalog that knows some tables, each under its name and its number, and no others. -/
structure Knows (c : Catalog) (tables : List TableDef) : Prop where
  byName : ∀ name d, c.descriptorByName name = .ok d ↔ ∃ t ∈ tables, t.name = name ∧ t.describe = d
  byNumber : ∀ id d, c.descriptor id = .ok d ↔ ∃ t ∈ tables, t.id = id ∧ t.describe = d
  noName : ∀ name, (∀ t ∈ tables, t.name ≠ name) → c.descriptorByName name = .error (.unknownTable name)
  noNumber : ∀ id, (∀ t ∈ tables, t.id ≠ id) → c.descriptor id = .error (.unknownTable id.text)
  hasName : ∀ name, c.hasName name = true ↔ ∃ t ∈ tables, t.name = name
  names : ∀ name, name ∈ c.tableNames ↔ ∃ t ∈ tables, t.name = name
  inOrder : c.tableNames.Pairwise (· < ·)
  count : c.tableCount = c.tableNames.length

/-- A catalog whose maps are those of tables knows these tables. -/
theorem Holds.knows (holds : c.Holds tables) : c.Knows tables where
  byName name d := by
    rw [descriptorByName_eq_ok_iff]
    constructor
    · rintro ⟨id, named, there⟩
      -- the number of the name is that of the table whose descriptor stands there
      obtain ⟨t, listed, rfl, rfl⟩ := holds.byName_eq_some_iff.mp named
      obtain ⟨u, other, same, described⟩ := holds.byId_eq_some_iff.mp there
      obtain rfl := List.inj_on_of_nodup_map holds.distinctIds other listed same
      exact ⟨u, other, rfl, described⟩
    · rintro ⟨t, listed, named, described⟩
      exact ⟨t.id, holds.byName_eq_some_iff.mpr ⟨t, listed, named, rfl⟩,
        holds.byId_eq_some_iff.mpr ⟨t, listed, rfl, described⟩⟩
  byNumber id d := descriptor_eq_ok_iff.trans holds.byId_eq_some_iff
  noName name free := by
    rw [descriptorByName, Indexes.eq_none holds.byName free]
    rfl
  noNumber id free := by
    rw [descriptor, Indexes.eq_none holds.byId free]
  hasName _ := holds.hasName_iff
  names name := by
    rw [tableNames, List.mem_mergeSort, (Indexes.perm_keys holds.byName holds.distinctNames).mem_iff, List.mem_map]
  inOrder := pairwise_lt_mergeSort Std.TreeMap.nodup_keys
  count := by
    rw [tableCount, tableNames, List.length_mergeSort, ← Std.TreeMap.length_keys,
      (Indexes.perm_keys holds.byId holds.distinctIds).length_eq,
      (Indexes.perm_keys holds.byName holds.distinctNames).length_eq, List.length_map, List.length_map]

end Catalog

/-! ## Registries -/

theorem successor_eq_ok_iff {n m : UInt32} : successor n = .ok m ↔ m.toNat = n.toNat + 1 := by
  rw [successor]
  split
  · rename_i inside
    have sum : (n + 1).toNat = n.toNat + 1 := by
      rw [UInt32.toNat_add, UInt32.toNat_one]
      exact Nat.mod_eq_of_lt inside
    rw [← sum, UInt32.toNat_inj, Except.ok.injEq, eq_comm]
  · rename_i outside
    have bound := m.toNat_lt
    constructor
    · nofun
    · intro same
      exact absurd (same ▸ bound) outside

/-- A number that is followed by another is not the greatest. -/
theorem ne_greatest {n m : UInt32} (sum : m.toNat = n.toNat + 1) : n ≠ 4294967295 := by
  rintro rfl
  exact absurd sum (Nat.ne_of_lt m.toNat_lt)

/-- The greatest number has no successor. -/
theorem successor_eq_error_iff {n : UInt32} {e : RegistryError} :
    successor n = .error e ↔ n = 4294967295 ∧ e = .overflow := by
  have greatest : n = 4294967295 ↔ ¬ n.toNat + 1 < UInt32.size := by
    have bound := n.toNat_lt
    rw [← UInt32.toNat_inj, show (4294967295 : UInt32).toNat = 4294967295 from rfl, UInt32.size]
    omega
  rw [successor, greatest]
  split
  · rename_i inside
    simp [inside]
  · rename_i outside
    simp [outside, eq_comm]

namespace Registry

theorem register_describe (r : Registry) (t : TableDef) : r.register t.describe =
    if (r.catalog.hasName t.name || r.catalog.hasId t.id) = true then .error (.refused (.duplicateTable t.name))
    else (successor t.id.number).map fun above => ⟨r.catalog.insert t.describe, max r.next above⟩ := rfl

/-! ## Requests -/

/-- What can be asked of a registry. A table to register may have been described by it or have any number. -/
inductive Request where
  | number
  | describe (name : String) (columns : List ColumnDef)
  | register (t : TableDef)

inductive Answer where
  | number (id : TableId)
  | described (d : TableDescriptor)
  | registered (id : TableId)
  | refused (e : CatalogError)

/-- A request and the answer to it. -/
structure Exchange where
  request : Request
  answer : Answer

/-- What a request is answered with, and the registry after it, unless it fails. -/
def serve (r : Registry) : Request → Except RegistryError (Answer × Registry)
  | .number => r.freshId.map fun given => (.number given.1, given.2)
  | .describe name columns => (r.newTable name columns).map fun given => (.described given.1, given.2)
  | .register t => (r.register t.describe).map fun after => (.registered t.id, after)

/-- The answer to a request and the registry after it, or `none` where the program stops. -/
def respond (r : Registry) (q : Request) : Option (Answer × Registry) :=
  match r.serve q with
  | .ok answered => some answered
  | .error (.refused e) => some (.refused e, r)
  | .error .overflow => none

/-- What the answer to a request is and does, over a catalog of some tables. -/
inductive Does (tables : List TableDef) (now : Registry) : Request → Answer → Registry → Prop
  | number {next : UInt32} (sum : next.toNat = now.next.toNat + 1) :
      Does tables now .number (.number ⟨now.next⟩) { now with next }
  | describe {next : UInt32} (sum : next.toNat = now.next.toNat + 1) (name : String) (columns : List ColumnDef) :
      Does tables now (.describe name columns) (.described (TableDef.describe ⟨⟨now.next⟩, name, columns⟩))
        { now with next }
  | refuse {t : TableDef} (taken : t.TakenIn tables) :
      Does tables now (.register t) (.refused (.duplicateTable t.name)) now
  | register {t : TableDef} {above : UInt32} (free : ¬ t.TakenIn tables) (sum : above.toNat = t.id.number.toNat + 1) :
      Does tables now (.register t) (.registered t.id) ⟨now.catalog.insert t.describe, max now.next above⟩

/-- The requests at which the program stops, over a catalog of some tables. -/
inductive Stops (tables : List TableDef) (now : Registry) : Request → Prop
  | number (last : now.next = 4294967295) : Stops tables now .number
  | describe (last : now.next = 4294967295) (name : String) (columns : List ColumnDef) :
      Stops tables now (.describe name columns)
  | register {t : TableDef} (free : ¬ t.TakenIn tables) (last : t.id.number = 4294967295) :
      Stops tables now (.register t)

variable {tables : List TableDef} {now : Registry}

/-- A request is answered, or the program stops at it. -/
theorem does_or_stops (holds : now.catalog.Holds tables) (q : Request) :
    (∃ a after, now.respond q = some (a, after) ∧ Does tables now q a after) ∨
      now.respond q = none ∧ Stops tables now q := by
  cases q with
  | number =>
    cases sum : successor now.next with
    | error e =>
      obtain ⟨last, rfl⟩ := successor_eq_error_iff.mp sum
      exact Or.inr ⟨by rw [respond, serve, freshId, sum]; rfl, .number last⟩
    | ok next =>
      exact Or.inl ⟨_, _, by rw [respond, serve, freshId, sum]; rfl, .number (successor_eq_ok_iff.mp sum)⟩
  | describe name columns =>
    cases sum : successor now.next with
    | error e =>
      obtain ⟨last, rfl⟩ := successor_eq_error_iff.mp sum
      exact Or.inr ⟨by rw [respond, serve, newTable, freshId, sum]; rfl, .describe last name columns⟩
    | ok next =>
      have next := successor_eq_ok_iff.mp sum
      exact Or.inl ⟨_, _, by rw [respond, serve, newTable, freshId, sum]; rfl, .describe next name columns⟩
  | register t =>
    rw [respond, serve, register_describe]
    by_cases taken : t.TakenIn tables
    · rw [if_pos (holds.taken_iff.mpr taken)]
      exact Or.inl ⟨_, _, rfl, .refuse taken⟩
    · rw [if_neg (mt holds.taken_iff.mp taken)]
      cases sum : successor t.id.number with
      | error e =>
        obtain ⟨last, rfl⟩ := successor_eq_error_iff.mp sum
        exact Or.inr ⟨rfl, .register taken last⟩
      | ok above => exact Or.inl ⟨_, _, rfl, .register taken (successor_eq_ok_iff.mp sum)⟩

theorem does_of_respond (holds : now.catalog.Holds tables) {q : Request} {a : Answer} {after : Registry}
    (answered : now.respond q = some (a, after)) : Does tables now q a after := by
  rcases does_or_stops holds q with ⟨_, _, same, does⟩ | ⟨stopped, _⟩
  · cases same.symm.trans answered
    exact does
  · cases stopped.symm.trans answered

theorem Does.not_stops {q : Request} {a : Answer} {after : Registry} (does : Does tables now q a after) :
    ¬ Stops tables now q := by
  intro stops
  cases does with
  | number sum => cases stops with | number last => exact ne_greatest sum last
  | describe sum => cases stops with | describe last => exact ne_greatest sum last
  | refuse taken => cases stops with | register free => exact free taken
  | register free sum => cases stops with | register _ last => exact ne_greatest sum last

theorem respond_eq_none_iff (holds : now.catalog.Holds tables) {q : Request} :
    now.respond q = none ↔ Stops tables now q := by
  rcases does_or_stops holds q with ⟨_, _, answered, does⟩ | ⟨stopped, stops⟩
  · simp [answered, does.not_stops]
  · simp [stopped, stops]

/-- The exchanges that lead from an empty registry to another, the latest first. -/
inductive Leads : List Exchange → Registry → Prop
  | nil : Leads [] .empty
  | step {past : List Exchange} {now after : Registry} {q : Request} {a : Answer} (sofar : Leads past now)
      (answered : now.respond q = some (a, after)) : Leads (⟨q, a⟩ :: past) after

/-- The tables that were registered with success, the first first. -/
def registered : List Exchange → List TableDef
  | [] => []
  | ⟨.register t, .registered _⟩ :: past => registered past ++ [t]
  | _ :: past => registered past

variable {past : List Exchange}

theorem Does.holds {q : Request} {a : Answer} {after : Registry} (does : Does (registered past) now q a after)
    (holds : now.catalog.Holds (registered past)) : after.catalog.Holds (registered (⟨q, a⟩ :: past)) := by
  cases does with
  | number => exact holds
  | describe => exact holds
  | refuse => exact holds
  | register free => exact holds.insert free

/-- A catalog under construction has the maps of the tables that were registered. -/
theorem Leads.holds (sofar : Leads past now) : now.catalog.Holds (registered past) := by
  induction sofar with
  | nil => exact .empty
  | step _ answered ih => exact (does_of_respond ih answered).holds ih

end Registry

namespace Sample

def described : TableDef := ⟨⟨0⟩, "b", [⟨"n", .int64⟩]⟩

/-- A table whose number is taken by another before it is registered itself. -/
def overtaken : TableDef := ⟨⟨1⟩, "a", [⟨"x", .int64⟩, ⟨"y", .string⟩, ⟨"x", .bool⟩]⟩

def numbered : TableDef := ⟨⟨1⟩, "c", overtaken.columns⟩

/-- A table under the greatest number. -/
def last : TableDef := ⟨⟨4294967295⟩, "t", []⟩

end Sample

namespace Registry

open Sample

end Registry

end Tabular
