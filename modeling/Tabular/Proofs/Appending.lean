import Tabular.Proofs.Snapshots
import Tabular.Proofs.Wildcard

/-!
# Appending

What becomes of a batch that is appended to a table in memory. A table that has a column takes the batches of its
column types and no others, and stores them under its own names (`MemoryTable.takesFitting_iff`). A table without
columns takes nothing, not even a batch without columns, since such a batch does not say how many rows it has.
-/

namespace Tabular

/-- What keeps a batch out of a table with the columns of a schema. Of the columns of another type the first
counts. -/
inductive Batch.Misfits (schema : Schema) (b : Batch) : BatchFault → Prop
  | arity (differ : schema.fields.length ≠ b.columns.length) :
      Misfits schema b (.arity b.columns.length schema.fields.length)
  | noRowCount (fields : schema.fields = []) (columns : b.columns = []) : Misfits schema b .noRowCount
  | columnType {i : Nat} {f : Field} {c : NamedColumn} (count : schema.fields.length = b.columns.length)
      (field : schema.fields[i]? = some f) (column : b.columns[i]? = some c) (differ : f.type ≠ c.column.type)
      (first : (schema.fields.map (·.type)).take i = (b.columns.map (·.column.type)).take i) :
      Misfits schema b (.columnType f.type c.column.type i)

/-- A table in memory takes exactly the batches of the declared column types, whatever it holds. -/
def MemoryTable.TakesFitting (t : TableDef) : Prop :=
  ∀ batches b, (∃ u, (MemoryTable.mk t.schema batches).append b = .ok u) ↔ b.Fits t

namespace Batch

/-! ## Types of columns -/

variable {fields : List Field} {columns : List NamedColumn} {fault : BatchFault}

theorem types_of_typeFault? {index : Nat} (count : fields.length = columns.length)
    (clean : typeFault? index fields columns = none) : columns.map (·.column.type) = fields.map (·.type) := by
  induction fields generalizing index columns with
  | nil =>
    rw [List.length_eq_zero_iff.mp count.symm]
    rfl
  | cons f fields ih =>
    cases columns with
    | nil => cases count
    | cons c columns =>
      rw [typeFault?] at clean
      by_cases agree : f.type = c.column.type
      · rw [if_pos agree] at clean
        rw [List.map_cons, List.map_cons, ih (Nat.succ.inj count) clean, agree]
      · rw [if_neg agree] at clean
        cases clean

/-- The fault is that of the first column whose type is another. -/
theorem typeFault?_eq_some_iff {index : Nat} :
    typeFault? index fields columns = some fault ↔ ∃ i f c, fields[i]? = some f ∧ columns[i]? = some c ∧
      f.type ≠ c.column.type ∧ (fields.map (·.type)).take i = (columns.map (·.column.type)).take i ∧
      fault = .columnType f.type c.column.type (index + i) := by
  induction fields generalizing index columns with
  | nil => simp [typeFault?]
  | cons g fields ih =>
    cases columns with
    | nil => simp [typeFault?]
    | cons d columns =>
      rw [typeFault?]
      by_cases agree : g.type = d.column.type
      · rw [if_pos agree, ih]
        constructor
        · rintro ⟨i, f, c, field, column, differ, first, rfl⟩
          refine ⟨i + 1, f, c, field, column, differ, ?_, by rw [Nat.add_right_comm, Nat.add_assoc]⟩
          rw [List.map_cons, List.map_cons, List.take_succ_cons, List.take_succ_cons, agree, first]
        · rintro ⟨i, f, c, field, column, differ, first, rfl⟩
          cases i with
          | zero =>
            obtain rfl := Option.some.inj field
            obtain rfl := Option.some.inj column
            exact absurd agree differ
          | succ i =>
            refine ⟨i, f, c, field, column, differ, (List.cons.inj first).2, ?_⟩
            rw [Nat.add_right_comm, Nat.add_assoc]
      · rw [if_neg agree]
        constructor
        · intro found
          exact ⟨0, g, d, rfl, rfl, agree, rfl, (Option.some.inj found).symm⟩
        · rintro ⟨i, f, c, field, column, differ, first, rfl⟩
          cases i with
          | zero =>
            obtain rfl := Option.some.inj field
            obtain rfl := Option.some.inj column
            rfl
          | succ i => exact absurd (List.cons.inj first).1 agree

/-! ## New names -/

variable {b stored : Batch} {schema : Schema} {t : TableDef}

theorem relabel_eq_ok_iff : b.relabel schema = .ok stored ↔
    b.columns.map (·.column.type) = schema.fields.map (·.type) ∧
      stored.rowCount = b.rowCount ∧ stored.columns = renamed schema.fields b.columns := by
  constructor
  · intro done
    have types : b.columns.map (·.column.type) = schema.fields.map (·.type) := by
      rw [relabel] at done
      by_cases count : schema.fields.length = b.columns.length
      · rw [if_pos count] at done
        split at done
        · cases done
        · exact types_of_typeFault? count ‹_›
      · rw [if_neg count] at done
        cases done
    obtain ⟨out, given, columns, rowCount⟩ := relabel_ok types
    obtain rfl := Except.ok.inj (given.symm.trans done)
    exact ⟨types, rowCount, columns⟩
  · rintro ⟨types, rowCount, columns⟩
    obtain ⟨out, given, sameColumns, sameCount⟩ := relabel_ok types
    rw [given, eq_of_columns (sameColumns.trans columns.symm) (sameCount.trans rowCount.symm)]

theorem misfits_iff_of_length_ne (differ : schema.fields.length ≠ b.columns.length) :
    b.Misfits schema fault ↔ fault = .arity b.columns.length schema.fields.length := by
  constructor
  · intro misfits
    cases misfits with
    | arity => rfl
    | noRowCount fields columns => exact absurd (by rw [fields, columns]; rfl) differ
    | columnType count => exact absurd count differ
  · rintro rfl
    exact .arity differ

theorem misfits_iff_of_length_eq (count : schema.fields.length = b.columns.length)
    (counted : ¬ (schema.fields.length = 0 ∧ b.columns.length = 0)) :
    b.Misfits schema fault ↔ typeFault? 0 schema.fields b.columns = some fault := by
  rw [typeFault?_eq_some_iff]
  constructor
  · intro misfits
    cases misfits with
    | arity differ => exact absurd count differ
    | noRowCount fields columns => exact absurd ⟨congrArg List.length fields, congrArg List.length columns⟩ counted
    | columnType _ field column differ first =>
      exact ⟨_, _, _, field, column, differ, first, by rw [Nat.zero_add]⟩
  · rintro ⟨i, f, c, field, column, differ, first, rfl⟩
    rw [Nat.zero_add]
    exact .columnType count field column differ first

theorem relabel_eq_error_iff (counted : ¬ (schema.fields.length = 0 ∧ b.columns.length = 0)) :
    b.relabel schema = .error fault ↔ b.Misfits schema fault := by
  rw [relabel]
  by_cases count : schema.fields.length = b.columns.length
  · rw [if_pos count, misfits_iff_of_length_eq count counted]
    split
    · rename_i found
      rw [found, Except.error.injEq, Option.some.injEq]
    · rename_i clean
      simp [clean]
  · rw [if_neg count, misfits_iff_of_length_ne count, Except.error.injEq]
    exact eq_comm

theorem fits_iff : b.Fits t ↔ b.columns.map (·.column.type) = t.schema.fields.map (·.type) := by
  rw [Fits, TableDef.schema, Schema.ofColumns, List.map_map, List.map_map]
  rfl

end Batch

/-! ## Appends -/

namespace MemoryTable

variable {t : TableDef} {batches : List Batch} {b : Batch}

theorem fields_eq_nil_iff : t.schema.fields = [] ↔ t.columns = [] := by
  rw [TableDef.schema, Schema.ofColumns, List.map_eq_nil_iff, List.map_eq_nil_iff]

theorem append_of_blank (fields : t.schema.fields = []) (columns : b.columns = []) :
    (mk t.schema batches).append b = .error .noRowCount :=
  if_pos ⟨congrArg List.length fields, congrArg List.length columns⟩

theorem append_of_counted (counted : ¬ (t.schema.fields.length = 0 ∧ b.columns.length = 0)) :
    (mk t.schema batches).append b =
      (b.relabel t.schema).map fun stored => ⟨t.schema, batches ++ [stored]⟩ :=
  if_neg counted

theorem append_eq_ok_iff {u : MemoryTable} : (mk t.schema batches).append b = .ok u ↔
    t.columns ≠ [] ∧ b.Fits t ∧ ∃ stored, b.Declares t stored ∧ u = ⟨t.schema, batches ++ [stored]⟩ := by
  by_cases blank : t.schema.fields.length = 0 ∧ b.columns.length = 0
  · have fields := List.length_eq_zero_iff.mp blank.1
    rw [append_of_blank fields (List.length_eq_zero_iff.mp blank.2)]
    constructor
    · nofun
    · rintro ⟨columns, _⟩
      exact absurd (fields_eq_nil_iff.mp fields) columns
  · rw [append_of_counted blank, map_eq_ok]
    constructor
    · rintro ⟨stored, done, rfl⟩
      obtain ⟨types, declares⟩ := Batch.relabel_eq_ok_iff.mp done
      refine ⟨fun none => blank ?_, Batch.fits_iff.mpr types, stored, declares, rfl⟩
      have count := congrArg List.length types
      rw [List.length_map, List.length_map, fields_eq_nil_iff.mpr none] at count
      exact ⟨congrArg List.length (fields_eq_nil_iff.mpr none), count⟩
    · rintro ⟨_, fits, stored, declares, rfl⟩
      exact ⟨stored, Batch.relabel_eq_ok_iff.mpr ⟨Batch.fits_iff.mp fits, declares⟩, rfl⟩

theorem append_eq_error_iff {fault : BatchFault} :
    (mk t.schema batches).append b = .error fault ↔ b.Misfits t.schema fault := by
  by_cases blank : t.schema.fields.length = 0 ∧ b.columns.length = 0
  · have fields := List.length_eq_zero_iff.mp blank.1
    have columns := List.length_eq_zero_iff.mp blank.2
    rw [append_of_blank fields columns]
    constructor
    · rintro ⟨⟩
      exact .noRowCount fields columns
    · intro misfits
      cases misfits with
      | arity differ => exact absurd (blank.1.trans blank.2.symm) differ
      | noRowCount => rfl
      | columnType _ field =>
        rw [fields] at field
        cases field
  · rw [append_of_counted blank, map_eq_error, Batch.relabel_eq_error_iff blank]

/-- A batch that fits is stored under the declared names. -/
theorem exists_declares (fits : b.Fits t) : ∃ stored, b.Declares t stored := by
  obtain ⟨stored, _, columns, rowCount⟩ := Batch.relabel_ok (Batch.fits_iff.mp fits)
  exact ⟨stored, rowCount, columns⟩

theorem exists_fits (t : TableDef) : ∃ b : Batch, b.Fits t :=
  ⟨.empty t.schema, Batch.fits_iff.mpr (by simp [Batch.empty, Column.empty])⟩

/-- A table takes exactly the batches of its column types if it has a column; without one it takes none. A batch that
is taken is stored behind those before it, with its cells and its number of rows, under the names of the table. One that
is not is refused for what keeps it out, and then nothing has changed. -/
theorem takesFitting_iff (t : TableDef) :
    (TakesFitting t ↔ t.columns ≠ []) ∧
    (∀ batches b u, (mk t.schema batches).append b = .ok u ↔
      t.columns ≠ [] ∧ b.Fits t ∧ ∃ stored, b.Declares t stored ∧ u = ⟨t.schema, batches ++ [stored]⟩) ∧
    (∀ batches b fault, (mk t.schema batches).append b = .error fault ↔ b.Misfits t.schema fault) ∧
    ∀ (s : Session) (target : Address) (h : Handle) (batches : List Batch) (b : Batch),
      s.store.locate target = .ok h → s.store.table? h = some ⟨t.schema, batches⟩ →
      (t.columns ≠ [] ∧ b.Fits t ∧ ∃ stored store, b.Declares t stored ∧
        s.step (.append target b) = (.appended, s.withStore store) ∧ ∀ other, store.table? other =
          if other = h then some ⟨t.schema, batches ++ [stored]⟩ else s.store.table? other) ∨
      ∃ fault, b.Misfits t.schema fault ∧ s.step (.append target b) = (.refused (.schema (.batch fault)), s) := by
  refine ⟨?_, fun _ _ _ => append_eq_ok_iff, fun _ _ _ => append_eq_error_iff, ?_⟩
  · constructor
    · intro takes
      obtain ⟨b, fits⟩ := exists_fits t
      obtain ⟨u, done⟩ := (takes [] b).mpr fits
      exact (append_eq_ok_iff.mp done).1
    · intro columns batches b
      constructor
      · rintro ⟨u, done⟩
        exact (append_eq_ok_iff.mp done).2.1
      · intro fits
        obtain ⟨stored, declares⟩ := exists_declares fits
        exact ⟨_, append_eq_ok_iff.mpr ⟨columns, fits, stored, declares, rfl⟩⟩
  · intro s target h batches b located table
    have accepted : s.store.accepts target = true := by
      cases target with
      | number id => rfl
      | handle other =>
        obtain rfl := Except.ok.inj located
        rw [Memory.accepts, table]
        rfl
    have reached := Memory.appendTo_located located table b
    cases outcome : (mk t.schema batches).append b with
    | ok u =>
      rw [outcome] at reached
      obtain ⟨columns, fits, stored, declares, rfl⟩ := append_eq_ok_iff.mp outcome
      have appended := Session.step_append_ok accepted reached
      exact Or.inl ⟨columns, fits, stored, _, declares, appended, Memory.table?_set table _⟩
    | error fault =>
      rw [outcome] at reached
      exact Or.inr ⟨fault, append_eq_error_iff.mp outcome, Session.step_append_error accepted reached⟩

/-- A column of another name is taken, and has the name of the table when it is read. -/
theorem takesFitting_iff_renamed :
    let s := (Sample.session.step (.create ⟨0⟩ (.ofColumns [("a", .int64)]))).2
    ∃ next, s.step (.append (.number ⟨0⟩) (Sample.column "x" [some 1, none])) = (.appended, next) ∧
      next.store.readAt ⟨0⟩ = [Sample.column "a" [some 1, none]] := by
  intro s
  obtain ⟨_, _, _, steps⟩ := takesFitting_iff ⟨⟨0⟩, "t", [⟨"a", .int64⟩]⟩
  rcases steps s (.number ⟨0⟩) ⟨0⟩ [] (Sample.column "x" [some 1, none]) rfl rfl with
    ⟨_, _, stored, store, declares, stepped, tables⟩ | ⟨fault, _, refused⟩
  · refine ⟨_, stepped, ?_⟩
    have named : stored = Sample.column "a" [some 1, none] := Batch.eq_of_columns declares.2 declares.1
    show ((store.table? ⟨0⟩).map (·.batches)).getD [] = _
    rw [tables, if_pos rfl, named]
    rfl
  · cases congrArg Prod.fst refused

/-- A batch of two rows without columns has the column types of a table without columns, and a scan gives it under the
names of the table, but the table does not take it. -/
theorem not_takesFitting_blank :
    let t : TableDef := ⟨⟨0⟩, "t", []⟩
    let b : Batch := ⟨[], 2, nofun⟩
    b.Fits t ∧ b.relabel t.schema = .ok b ∧ (mk t.schema []).append b = .error .noRowCount ∧ ¬ TakesFitting t := by
  intro t b
  refine ⟨rfl, rfl, rfl, fun takes => ?_⟩
  obtain ⟨u, done⟩ := (takes [] b).mpr rfl
  cases done

end MemoryTable

end Tabular
