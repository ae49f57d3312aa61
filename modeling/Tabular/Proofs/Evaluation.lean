import Mathlib.Data.List.Basic
import Tabular.Proofs.Cellwise
import Tabular.Proofs.Rows
import Tabular.Proofs.Typing

/-!
# Evaluation row by row

The value of an expression on one row, and the evaluation of whole columns beside it: a column of a
well typed expression holds its values on the rows, and if there is none the error is that of some
row (`eval_gathered`).
-/

namespace Tabular

/-! ## The outcomes of many rows -/

/-- What becomes of many rows at once: all their values, seen through `view`, if each has one, and
else the error of some row. -/
def Gathered {σ β ε : Type} (view : σ → List β) (each : List (Except ε β)) : Except ε σ → Prop
  | .ok s => each = (view s).map .ok
  | .error e => .error e ∈ each

namespace Gathered

variable {α β γ δ σ τ υ ε φ : Type}

theorem mono {view : σ → List β} {each : List (Except ε β)} {out : Except ε σ}
    (gathered : Gathered view each out) (other : τ → List γ) (f : β → γ) (g : σ → τ)
    (same : ∀ s, out = .ok s → other (g s) = (view s).map f) :
    Gathered other (each.map (Except.map f)) (out.map g) := by
  cases out with
  | error e => exact List.mem_map.mpr ⟨_, gathered, rfl⟩
  | ok s =>
    have values : each = (view s).map .ok := gathered
    show each.map (Except.map f) = (other (g s)).map .ok
    rw [values, same s rfl, List.map_map, List.map_map]
    rfl

theorem mapError {view : σ → List β} {each : List (Except ε β)} {out : Except ε σ}
    (gathered : Gathered view each out) (f : ε → φ) :
    Gathered view (each.map (Except.mapError f)) (out.mapError f) := by
  cases out with
  | error e => exact List.mem_map.mpr ⟨_, gathered, rfl⟩
  | ok s =>
    have values : each = (view s).map .ok := gathered
    show each.map (Except.mapError f) = (view s).map .ok
    rw [values, List.map_map]
    rfl

/-- There are as many values as there were outcomes. -/
theorem length_eq {view : σ → List β} {each : List (Except ε β)} {s : σ} (gathered : Gathered view each (.ok s)) :
    (view s).length = each.length := by
  have values : each = (view s).map .ok := gathered
  rw [values, List.length_map]

/-- One more outcome in front of others. -/
theorem cons {head : Except ε β} {each : List (Except ε β)} {tail : Except ε (List β)}
    (rest : Gathered id each tail) :
    Gathered id (head :: each) (do let b ← head; let bs ← tail; return b :: bs) := by
  cases head with
  | error e => exact List.mem_cons_self
  | ok b =>
    cases tail with
    | error e => exact List.mem_cons_of_mem _ rest
    | ok bs => exact congrArg (Except.ok b :: ·) rest

private theorem zip_bind {rows : List α} {f : α → Except ε β} {g : α → Except ε γ}
    (h : β → γ → Except ε δ) {bs : List β} {cs : List γ} (first : rows.map f = bs.map .ok)
    (second : rows.map g = cs.map .ok) :
    (rows.map fun r => do let b ← f r; let c ← g r; h b c) = List.zipWith h bs cs := by
  induction rows generalizing bs cs with
  | nil => cases bs <;> simp_all
  | cons r rows ih =>
    cases bs with
    | nil => simp at first
    | cons b bs =>
      cases cs with
      | nil => simp at second
      | cons c cs =>
        simp only [List.map_cons, List.cons.injEq] at first second
        rw [List.map_cons, ih first.2 second.2, first.1, second.1]
        rfl

/-- Outcomes of two kinds that are put together row by row are put together as a whole. -/
theorem bind₂ {rows : List α} {view : σ → List β} {other : τ → List γ} {last : υ → List δ}
    {f : α → Except ε β} {g : α → Except ε γ} {h : β → γ → Except ε δ} {fs : Except ε σ}
    {gs : Except ε τ} {hs : σ → τ → Except ε υ} (first : Gathered view (rows.map f) fs)
    (second : Gathered other (rows.map g) gs)
    (both : ∀ s t, fs = .ok s → gs = .ok t → Gathered last (List.zipWith h (view s) (other t)) (hs s t)) :
    Gathered last (rows.map fun r => do let b ← f r; let c ← g r; h b c)
      (do let s ← fs; let t ← gs; hs s t) := by
  cases fs with
  | error e =>
    obtain ⟨r, listed, fails⟩ := List.mem_map.mp first
    exact List.mem_map.mpr ⟨r, listed, by rw [fails]; rfl⟩
  | ok s =>
    have values : rows.map f = (view s).map .ok := first
    cases gs with
    | error e =>
      obtain ⟨r, listed, fails⟩ := List.mem_map.mp second
      have hasValue : f r ∈ (view s).map .ok := values ▸ List.mem_map_of_mem listed
      obtain ⟨b, _, found⟩ := List.mem_map.mp hasValue
      exact List.mem_map.mpr ⟨r, listed, by rw [fails, ← found]; rfl⟩
    | ok t =>
      rw [zip_bind h values second]
      exact both s t rfl rfl

/-- Outcomes that are continued row by row are continued as a whole. -/
theorem bind {rows : List α} {view : σ → List β} {last : υ → List δ} {f : α → Except ε β}
    {h : β → Except ε δ} {fs : Except ε σ} {hs : σ → Except ε υ} (first : Gathered view (rows.map f) fs)
    (next : ∀ s, fs = .ok s → Gathered last ((view s).map h) (hs s)) :
    Gathered last (rows.map fun r => do let b ← f r; h b) (do let s ← fs; hs s) := by
  cases fs with
  | error e =>
    obtain ⟨r, listed, fails⟩ := List.mem_map.mp first
    exact List.mem_map.mpr ⟨r, listed, by rw [fails]; rfl⟩
  | ok s =>
    have values : rows.map f = (view s).map .ok := first
    have joined : (rows.map fun r => do let b ← f r; h b) = (view s).map h := by
      have both := congrArg (List.map fun b : Except ε β => b >>= h) values
      rw [List.map_map, List.map_map] at both
      exact both
    rw [joined]
    exact next s rfl

end Gathered

/-! ## Values -/

namespace Datum

/-- An operator on two values, which must have one type that it takes. -/
def operate (op : Operator) : Datum → Datum → Except KernelError Datum
  | ⟨.sql l, a⟩, ⟨.sql r, b⟩ =>
    if h : r = l then
      match Kernel.meaning op l with
      | some f => (f.apply a (h ▸ b)).map (⟨.sql f.result, ·⟩)
      | none => .error (.typeMismatch op (.sql l) (.sql r))
    else .error (.typeMismatch op (.sql l) (.sql r))
  | ⟨l, _⟩, ⟨r, _⟩ => .error (.typeMismatch op l r)

/-- A value as one of another type. -/
def convert (target : DataType) : Datum → Except KernelError Datum
  | ⟨.sql source, a⟩ =>
    match Kernel.conversion? source target with
    | some f => (f a).map (⟨.sql target, ·⟩) |>.mapError (.cast (.sql source) target)
    | none => .error (.cast (.sql source) target .unsupported)
  | ⟨.int32, _⟩ => .error (.cast .int32 target .unsupported)

theorem operate_of_meaning {op : Operator} {type : DataType} {f : Kernel.BinaryFunction type}
    (takes : Kernel.meaning op type = some f) (a b : type.Carrier) :
    operate op ⟨.sql type, a⟩ ⟨.sql type, b⟩ = (f.apply a b).map (⟨.sql f.result, ·⟩) := by
  simp [operate, takes]

theorem convert_of_conversion {source target : DataType}
    {f : source.Carrier → Except CastFault target.Carrier}
    (converts : Kernel.conversion? source target = some f) (a : source.Carrier) :
    convert target ⟨.sql source, a⟩ =
      ((f a).map (Datum.mk (.sql target))).mapError (.cast (.sql source) target) := by
  simp [convert, converts]

end Datum

/-- A conversion of values as one of cells: a null stays null. -/
def Kernel.convertCell {α β ε : Type} (f : α → Except ε β) : Option α → Except ε (Option β)
  | none => .ok none
  | some a => (f a).map some

/-- The cell of a scalar. -/
def Scalar.datum (s : Scalar) : Option Datum := s.value.map (Datum.mk (.sql s.type))

namespace Row

/-- An operator on two cells: a null on either side gives null. -/
def operate (op : Operator) (a b : Option Datum) : Except ExecError (Option Datum) :=
  (Kernel.liftCell (Datum.operate op) a b).mapError .kernel

/-- A cell as one of another type: a null stays null. -/
def convert (target : DataType) (a : Option Datum) : Except ExecError (Option Datum) :=
  (Kernel.convertCell (Datum.convert target) a).mapError .kernel

end Row

/-- The value of an expression on a row of the columns of a schema. -/
def Bound.value (schema : Schema) (row : Row) : Bound → Except ExecError (Option Datum)
  | constant s => .ok s.datum
  | column table name _ =>
    .ok ((schema.lookup (qualifiedName table name)).bind fun found => row.cell found.1)
  | input index _ => .ok (row.cell index)
  | binary op left right _ => do
    let a ← left.value schema row
    let b ← right.value schema row
    Row.operate op a b
  | cast target inner => do
    let a ← inner.value schema row
    Row.convert target a

/-! ## Kernels -/

namespace Kernel

theorem liftCells_gathered {α β ε : Type} (f : α → α → Except ε β) (as bs : List (Option α)) :
    Gathered id (List.zipWith (liftCell f) as bs) (liftCells f as bs) := by
  induction as generalizing bs with
  | nil => rfl
  | cons a as ih =>
    cases bs with
    | nil => rfl
    | cons b bs => exact .cons (ih bs)

theorem convertCells_cons {α β ε : Type} (f : α → Except ε β) (cell : Option α) (cells : List (Option α)) :
    convertCells f (cell :: cells) = do
      let b ← convertCell f cell
      let bs ← convertCells f cells
      return b :: bs := by
  cases cell with
  | none => rw [convertCells]; cases convertCells f cells <;> rfl
  | some a => rw [convertCells, convertCell]; cases f a <;> rfl

theorem convertCells_eq_mapM {α β ε : Type} (f : α → Except ε β) (cells : List (Option α)) :
    convertCells f cells = cells.mapM (convertCell f) := by
  induction cells with
  | nil => rfl
  | cons cell cells ih => rw [convertCells_cons, ih, List.mapM_cons]

theorem convertCells_gathered {α β ε : Type} (f : α → Except ε β) (cells : List (Option α)) :
    Gathered id (cells.map (convertCell f)) (convertCells f cells) := by
  induction cells with
  | nil => rfl
  | cons cell cells ih =>
    rw [convertCells_cons, List.map_cons]
    exact .cons ih

/-- On columns of the type that an operator takes, it works row by row. -/
theorem binary_gathered {op : Operator} {left right : Column} {type result : DataType}
    (onLeft : left.type = .sql type) (onRight : right.type = .sql type)
    (gives : op.resultType type type = some result) (count : left.length = right.length) :
    Gathered Column.data (List.zipWith (Row.operate op) left.data right.data)
      ((binary op left right).mapError ExecError.kernel) ∧
    ∀ c, binary op left right = .ok c → c.type = .sql result ∧ c.length = left.length := by
  obtain ⟨_, as⟩ := left
  obtain ⟨_, bs⟩ := right
  subst onLeft onRight
  rw [resultType_eq_meaning, Option.map_eq_some_iff] at gives
  obtain ⟨f, takes, rfl⟩ := gives
  have cells : List.zipWith (Row.operate op) (Column.data ⟨.sql type, as⟩) (Column.data ⟨.sql type, bs⟩) =
      ((List.zipWith (liftCell f.apply) as bs).map
        (Except.map (Option.map (Datum.mk (.sql f.result))))).map (Except.mapError .kernel) := by
    rw [Column.data_mk, Column.data_mk, List.zipWith_map, List.map_zipWith, List.map_zipWith]
    congr 1
    funext a b
    cases a with
    | none => rfl
    | some a =>
      cases b with
      | none => rfl
      | some b =>
        simp only [Row.operate, Option.map_some, liftCell, Datum.operate_of_meaning takes]
        cases f.apply a b <;> rfl
  rw [cells, binary_of_meaning takes count]
  refine ⟨((liftCells_gathered f.apply as bs).mono Column.data _ (Column.mk (.sql f.result))
    fun _ _ => rfl).mapError _, ?_⟩
  intro c done
  obtain ⟨cs, computed, rfl⟩ := map_eq_ok.mp done
  exact ⟨rfl, (lifted_of_liftCells count computed).length⟩

theorem conversion?_self (type : DataType) : conversion? type type = some .ok := by
  cases type <;> rfl

/-- A column that is looked over for a fault before it is converted has a row with that fault. -/
theorem firstLossy?_some {source target : DataType} {cells : List (Option source.Carrier)}
    {fault : CastFault} (found : firstLossy? source target cells = some fault)
    {f : source.Carrier → Except CastFault target.Carrier} (converts : conversion? source target = some f) :
    ∃ a, some a ∈ cells ∧ f a = .error fault := by
  cases source <;> cases target <;> simp only [firstLossy?, reduceCtorEq] at found
  obtain ⟨x, listed, inexact⟩ := List.exists_of_findSome?_eq_some found
  split_ifs at inexact with none
  cases converts
  refine ⟨x, by simpa using listed, ?_⟩
  have same : CastFault.inexact x = fault := Option.some.inj inexact
  show intOfDouble x = .error fault
  rw [intOfDouble, none, same]

theorem convert_cell {source target : DataType} {f : source.Carrier → Except CastFault target.Carrier}
    (converts : conversion? source target = some f) (cell : Option source.Carrier) :
    Row.convert target (cell.map (Datum.mk (.sql source))) =
      (((convertCell f cell).mapError (KernelError.cast (.sql source) target)).map
        (Option.map (Datum.mk (.sql target)))).mapError .kernel := by
  cases cell with
  | none => rfl
  | some a =>
    simp only [Option.map_some, Row.convert, convertCell, Datum.convert_of_conversion converts]
    cases f a <;> rfl

/-- A cast to the type that a column has leaves each of its cells. -/
theorem convert_self {column : Column} {type : DataType} (same : column.type = .sql type) :
    column.data.map (Row.convert type) = column.data.map .ok := by
  obtain ⟨_, cells⟩ := column
  subst same
  rw [Column.data_mk, List.map_map, List.map_map]
  refine List.map_congr_left fun cell _ => ?_
  simp only [Function.comp, convert_cell (conversion?_self type)]
  cases cell <;> rfl

/-- A cast converts cell after cell, unless a fault decides before any cell is converted. -/
theorem cast_of_converts {source target : DataType} (differ : source ≠ target)
    {f : source.Carrier → Except CastFault target.Carrier} (converts : conversion? source target = some f)
    {cells : List (Option source.Carrier)} (clean : firstLossy? source target cells = none) :
    cast ⟨.sql source, cells⟩ target =
      ((convertCells f cells).mapError (KernelError.cast (.sql source) target)).map (Column.mk (.sql target)) := by
  simp only [cast, differ, converts, clean, if_false]
  cases convertCells f cells <;> rfl

theorem cast_eq_ok_iff {source target : DataType} (differ : source ≠ target)
    {f : source.Carrier → Except CastFault target.Carrier} (converts : conversion? source target = some f)
    {cells : List (Option source.Carrier)} (clean : firstLossy? source target cells = none) {c : Column} :
    cast ⟨.sql source, cells⟩ target = .ok c ↔
      ∃ converted, convertCells f cells = .ok converted ∧ ⟨.sql target, converted⟩ = c := by
  rw [cast_of_converts differ converts clean, map_eq_ok]
  exact exists_congr fun converted => and_congr_left fun _ => mapError_eq_ok

/-- Where a cast is allowed, it works row by row. -/
theorem cast_gathered {column : Column} {source target : DataType} (type : column.type = .sql source)
    (allowed : source.castsTo target = true) :
    Gathered Column.data (column.data.map (Row.convert target))
      ((cast column target).mapError ExecError.kernel) ∧
    ∀ c, cast column target = .ok c → c.type = .sql target ∧ c.length = column.length := by
  by_cases same : source = target
  · subst same
    have kept : cast column source = .ok column := by
      obtain ⟨_, cells⟩ := column
      subst type
      simp [cast]
    rw [kept]
    refine ⟨convert_self type, ?_⟩
    rintro c ⟨rfl⟩
    exact ⟨type, rfl⟩
  · obtain ⟨_, cells⟩ := column
    subst type
    rw [← isSome_conversion?, Option.isSome_iff_exists] at allowed
    obtain ⟨f, converts⟩ := allowed
    have each : (Column.data ⟨.sql source, cells⟩).map (Row.convert target) =
        (((cells.map (convertCell f)).map (Except.mapError (KernelError.cast (.sql source) target))).map
          (Except.map (Option.map (Datum.mk (.sql target))))).map (Except.mapError .kernel) := by
      simp only [Column.data_mk, List.map_map]
      exact List.map_congr_left fun cell _ => convert_cell converts cell
    have pointwise := (((convertCells_gathered f cells).mapError (KernelError.cast (.sql source) target)).mono
      Column.data (Option.map (Datum.mk (.sql target))) (Column.mk (.sql target))
      fun _ _ => rfl).mapError ExecError.kernel
    rw [← each] at pointwise
    cases inexact : firstLossy? source target cells with
    | some fault =>
      have whole : cast ⟨.sql source, cells⟩ target = .error (.cast (.sql source) target fault) := by
        simp [cast, same, converts, inexact]
      obtain ⟨a, listed, fails⟩ := firstLossy?_some inexact converts
      rw [whole]
      refine ⟨List.mem_map.mpr ⟨_, List.mem_map.mpr ⟨_, listed, rfl⟩, ?_⟩, fun c done => nomatch done⟩
      rw [convert_cell converts, convertCell, fails]
      rfl
    | none =>
      rw [cast_of_converts same converts inexact]
      refine ⟨pointwise, ?_⟩
      intro c done
      obtain ⟨cs, computed, rfl⟩ := map_eq_ok.mp done
      have lengths := (mapError_eq_ok.mp computed ▸ convertCells_gathered f cells).length_eq
      rw [List.length_map, id] at lengths
      exact ⟨rfl, lengths⟩

end Kernel

/-! ## Expressions -/

namespace Bound

/-- A column of a well typed expression holds its values on the rows of the batch; if there is none,
the error is that of some row. -/
theorem eval_gathered {b : Batch} {e : Bound} (typed : e.WellTyped b.schema.Holds) (schema : Schema) :
    Gathered Column.data (b.rows.map fun row => e.value schema row) (e.eval b) ∧
    ∀ c, e.eval b = .ok c → c.type = .sql e.type ∧ c.length = b.rowCount := by
  induction typed with
  | constant s =>
    refine ⟨?_, ?_⟩
    · show b.rows.map (fun _ => Except.ok s.datum) = (Column.replicate b.rowCount s).data.map .ok
      rw [Column.data_replicate, List.map_replicate, List.map_const', Batch.length_rows]
      rfl
    · rintro c ⟨rfl⟩
      exact ⟨rfl, Column.length_replicate _ _⟩
  | column known => exact known.elim
  | @input index type known =>
    obtain ⟨field, there, typed⟩ := known
    simp only [Batch.schema, List.getElem?_map, Option.map_eq_some_iff] at there
    obtain ⟨named, found, rfl⟩ := there
    have column : b.column? index = some named.column := by simp [Batch.column?, found]
    have whole : (input index type).eval b = .ok named.column := by simp [eval, column]
    rw [whole]
    refine ⟨?_, ?_⟩
    · show b.rows.map (fun row => Except.ok (row.cell index)) = named.column.data.map .ok
      rw [← Batch.map_cell_rows column, List.map_map]
      rfl
    · rintro c ⟨rfl⟩
      exact ⟨typed, b.aligned named (List.mem_of_getElem? found)⟩
  | @binary op left right type _ _ gives ihl ihr =>
    obtain ⟨leftRows, leftColumn⟩ := ihl
    obtain ⟨rightRows, rightColumn⟩ := ihr
    have same : right.type = left.type := Operator.type_of_resultType gives
    rw [same] at gives rightColumn
    have kernel : ∀ l r, left.eval b = .ok l → right.eval b = .ok r →
        Gathered Column.data (List.zipWith (Row.operate op) l.data r.data)
          ((Kernel.binary op l r).mapError ExecError.kernel) ∧
        ∀ c, Kernel.binary op l r = .ok c → c.type = .sql type ∧ c.length = l.length := by
      intro l r onLeft onRight
      obtain ⟨leftType, leftCount⟩ := leftColumn l onLeft
      obtain ⟨rightType, rightCount⟩ := rightColumn r onRight
      exact Kernel.binary_gathered leftType rightType gives (leftCount.trans rightCount.symm)
    refine ⟨leftRows.bind₂ rightRows fun l r onLeft onRight => (kernel l r onLeft onRight).1, ?_⟩
    intro c done
    obtain ⟨l, onLeft, rest⟩ := bind_eq_ok.mp done
    obtain ⟨r, onRight, computed⟩ := bind_eq_ok.mp rest
    obtain ⟨resultType, count⟩ := (kernel l r onLeft onRight).2 c (mapError_eq_ok.mp computed)
    exact ⟨resultType, count.trans (leftColumn l onLeft).2⟩
  | @cast target inner _ allowed ih =>
    obtain ⟨innerRows, innerColumn⟩ := ih
    have kernel := fun i (done : inner.eval b = .ok i) =>
      Kernel.cast_gathered (innerColumn i done).1 allowed
    refine ⟨innerRows.bind fun i done => (kernel i done).1, ?_⟩
    intro c done
    obtain ⟨i, onInner, computed⟩ := bind_eq_ok.mp done
    obtain ⟨resultType, count⟩ := (kernel i onInner).2 c (mapError_eq_ok.mp computed)
    exact ⟨resultType, count.trans (innerColumn i onInner).2⟩

/-- Resolution does not change the values of an expression. -/
theorem value_resolve {schema : Schema} {e r : Bound} (resolved : e.resolve schema = .ok r) (row : Row) :
    r.value schema row = e.value schema row := by
  induction e generalizing r with
  | constant s => cases resolved; rfl
  | input index type => cases resolved; rfl
  | column table name type =>
    rw [resolve_column] at resolved
    split at resolved
    · rename_i found known
      cases resolved
      simp [value, known]
    · cases resolved
  | binary op left right type ihl ihr =>
    rw [resolve_binary] at resolved
    obtain ⟨l, onLeft, rest⟩ := bind_eq_ok.mp resolved
    obtain ⟨r, onRight, together⟩ := bind_eq_ok.mp rest
    cases together
    rw [value, value, ihl onLeft, ihr onRight]
  | cast target inner ih =>
    rw [resolve_cast] at resolved
    obtain ⟨i, onInner, around⟩ := bind_eq_ok.mp resolved
    cases around
    rw [value, value, ih onInner]

end Bound

/-! ## Errors of values -/

/-- An error that only some values cause: not one of types, lengths or names. -/
def ExecError.OfValues : ExecError → Prop
  | .kernel .divisionByZero => True
  | .kernel (.overflow _) => True
  | .kernel (.cast _ _ fault) => fault ≠ .unsupported
  | _ => False

/-- An outcome that is no more than a type allows: a null, a value of the type, or an error of
values. -/
def DataType.Allows (type : DataType) : Except ExecError (Option Datum) → Prop
  | .ok none => True
  | .ok (some d) => d.type = .sql type
  | .error x => x.OfValues

/-- A row whose values have the types of a schema. -/
def Row.Fits (schema : Schema) (row : Row) : Prop :=
  ∀ index field d, schema.fields[index]? = some field → row.cell index = some d → d.type = field.type

namespace Kernel

/-- Operators fail only on values. -/
theorem apply_error {op : Operator} {type : DataType} {f : BinaryFunction type}
    (takes : meaning op type = some f) {a b : type.Carrier} {k : KernelError}
    (fails : f.apply a b = .error k) : (ExecError.kernel k).OfValues := by
  cases op with
  | arithmetic op =>
    cases type <;> simp only [meaning, Option.some.injEq, reduceCtorEq] at takes <;> subst takes
    · simp only [intArithmetic] at fails
      split_ifs at fails <;> cases fails <;> trivial
    · cases fails
  | comparison op =>
    simp only [meaning, Option.some.injEq] at takes
    subst takes
    cases fails
  | logical op =>
    cases type <;> simp only [meaning, Option.some.injEq, reduceCtorEq] at takes
    subst takes
    cases fails

theorem intOfDouble_ne_unsupported (x : Double) : intOfDouble x ≠ .error .unsupported := by
  rw [intOfDouble]
  cases x.toInt? with
  | none => simp
  | some i => simp only; split_ifs <;> simp

theorem intOfString_ne_unsupported (s : String) : intOfString s ≠ .error .unsupported := by
  rw [intOfString]
  cases Numeral.readInt s <;> simp

theorem doubleOfString_ne_unsupported (s : String) : doubleOfString s ≠ .error .unsupported := by
  rw [doubleOfString]
  cases Numeral.readFloat s <;> simp

theorem boolOfString_ne_unsupported (s : String) : boolOfString s ≠ .error .unsupported := by
  simp only [boolOfString]
  split_ifs <;> simp

/-- Conversions fail only on values. -/
theorem conversion_error {source target : DataType} {f : source.Carrier → Except CastFault target.Carrier}
    (converts : conversion? source target = some f) {a : source.Carrier} {fault : CastFault}
    (fails : f a = .error fault) : fault ≠ .unsupported := by
  rintro rfl
  cases source <;> cases target <;> simp only [conversion?, Option.some.injEq, reduceCtorEq] at converts <;>
    subst converts <;> try simp only [reduceCtorEq] at fails
  · exact intOfDouble_ne_unsupported a fails
  · exact intOfString_ne_unsupported a fails
  · exact doubleOfString_ne_unsupported a fails
  · exact boolOfString_ne_unsupported a fails

end Kernel

namespace Row

theorem allows_operate {op : Operator} {type result : DataType} (gives : op.resultType type type = some result)
    {a b : Option Datum} (onLeft : type.Allows (.ok a)) (onRight : type.Allows (.ok b)) :
    result.Allows (operate op a b) := by
  rw [Kernel.resultType_eq_meaning, Option.map_eq_some_iff] at gives
  obtain ⟨f, takes, rfl⟩ := gives
  match a, b with
  | none, _ => trivial
  | some _, none => trivial
  | some ⟨_, a⟩, some ⟨_, b⟩ =>
    cases onLeft
    cases onRight
    simp only [operate, Kernel.liftCell, Datum.operate_of_meaning takes]
    cases computed : f.apply a b with
    | error k => exact Kernel.apply_error takes computed
    | ok c => exact rfl

theorem allows_convert {source target : DataType} (allowed : source.castsTo target = true)
    {a : Option Datum} (inside : source.Allows (.ok a)) : target.Allows (convert target a) := by
  rw [← Kernel.isSome_conversion?, Option.isSome_iff_exists] at allowed
  obtain ⟨f, converts⟩ := allowed
  match a with
  | none => trivial
  | some ⟨_, a⟩ =>
    cases inside
    simp only [convert, Kernel.convertCell, Datum.convert_of_conversion converts]
    cases computed : f a with
    | error fault => exact Kernel.conversion_error converts computed
    | ok c => exact rfl

/-- The rows of a batch have the types of its schema. -/
theorem fits_of_mem {b : Batch} {row : Row} (listed : row ∈ b.rows) : row.Fits b.schema := by
  obtain ⟨i, _, rfl⟩ := List.mem_map.mp listed
  intro index field d there holds
  simp only [Batch.schema, List.getElem?_map, Option.map_eq_some_iff] at there
  obtain ⟨c, found, rfl⟩ := there
  have cell : c.column.data[i]? = some (some d) := by
    simpa [Row.cell, Batch.row, found, Option.join_eq_some_iff] using holds
  exact Column.type_of_mem_data (List.mem_of_getElem? cell)

end Row

namespace Bound

/-- A leaf that is a named column or an input of a schema. -/
def LeafOf (schema : Schema) (e : Bound) : Prop := schema.Names e ∨ schema.Holds e

theorem WellTyped.mono {leaf other : Bound → Prop} {e : Bound} (typed : e.WellTyped leaf)
    (weaker : ∀ x, leaf x → other x) : e.WellTyped other := by
  induction typed with
  | constant s => exact .constant s
  | column known => exact .column (weaker _ known)
  | input known => exact .input (weaker _ known)
  | binary _ _ gives ihl ihr => exact .binary ihl ihr gives
  | cast _ allowed ih => exact .cast ih allowed

/-- A well typed expression has on every row a null, a value of its type or an error of values. -/
theorem allows_value {schema : Schema} {row : Row} (fits : row.Fits schema) {e : Bound}
    (typed : e.WellTyped (LeafOf schema)) : e.type.Allows (e.value schema row) := by
  have stored {index : Nat} {type : DataType} (holds : schema.Holds (.input index type)) :
      type.Allows (.ok (row.cell index)) := by
    obtain ⟨field, there, typed⟩ := holds
    cases cell : row.cell index with
    | none => trivial
    | some d => exact (fits index field d there cell).trans typed
  induction typed with
  | constant s =>
    obtain ⟨type, _ | v⟩ := s
    · trivial
    · exact rfl
  | column known =>
    rcases known with ⟨index, found⟩ | impossible
    · rw [value, found]
      exact stored (Schema.holds_of_lookup found)
    · exact impossible.elim
  | input known =>
    rcases known with impossible | holds
    · exact impossible.elim
    · exact stored holds
  | @binary op left right type _ _ gives ihl ihr =>
    have same : right.type = left.type := Operator.type_of_resultType gives
    rw [same] at gives ihr
    rw [value]
    cases onLeft : left.value schema row with
    | error x => rw [onLeft] at ihl; exact ihl
    | ok a =>
      cases onRight : right.value schema row with
      | error x => rw [onRight] at ihr; exact ihr
      | ok b =>
        rw [onLeft] at ihl
        rw [onRight] at ihr
        exact Row.allows_operate gives ihl ihr
  | @cast target inner _ allowed ih =>
    rw [value]
    cases onInner : inner.value schema row with
    | error x => rw [onInner] at ih; exact ih
    | ok a =>
      rw [onInner] at ih
      exact Row.allows_convert allowed ih

end Bound

end Tabular
