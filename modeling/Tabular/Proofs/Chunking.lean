import Tabular.Proofs.Answers
import Tabular.Proofs.Discovered
import Tabular.Proofs.Reading

/-!
# Chunking

Where batches end makes no difference to what a query answers. All answers of a run together are what
becomes of all rows, in order (`Selection.Runs.collects`), so over the files of a directory batches of any
size come to the same rows (`Engine.answer_batched`).
-/

namespace Tabular

/-! ## Runs over rows -/

namespace Selection

variable {q : Selection}

theorem onRows_append (rows more : List Row) : q.onRows (rows ++ more) = (do
    let out ← q.onRows rows
    let others ← q.onRows more
    return out ++ others) := by
  rw [onRows, onRows, onRows, List.mapM_append]
  cases rows.mapM q.onRow with
  | error x => rfl
  | ok outcomes =>
    cases more.mapM q.onRow with
    | error x => rfl
    | ok others => exact congrArg Except.ok List.filterMap_append

theorem onRows_append_ok {rows more out : List Row} (here : q.onRows rows = .ok out) :
    q.onRows (rows ++ more) = (q.onRows more).map (out ++ ·) := by
  rw [onRows_append, here]
  cases q.onRows more <;> rfl

theorem onRow_ok_of_onRows {rows out : List Row} (done : q.onRows rows = .ok out) {row : Row}
    (listed : row ∈ rows) : ∃ outcome, q.onRow row = .ok outcome := by
  obtain ⟨outcomes, each, _⟩ := bind_eq_ok.mp done
  have outcome : q.onRow row ∈ outcomes.map .ok := mapM_eq_ok.mp each ▸ List.mem_map_of_mem listed
  obtain ⟨given, _, same⟩ := List.mem_map.mp outcome
  exact ⟨given, same.symm⟩

/-- What rows and answers have to do with each other that end as told: if the answers end well the rows do,
and they become the answers; and the answers end well if the rows do and none of them fails. -/
structure Collects (q : Selection) (failure last : Option ExecError) (rows answers : List Row) : Prop where
  done : last = none → failure = none ∧ q.onRows rows = .ok answers
  ends : failure = none → ∀ out, q.onRows rows = .ok out → last = none

theorem Collects.append {failure last : Option ExecError} {rows out more answers : List Row}
    (given : q.onRows rows = .ok out) (further : q.Collects failure last more answers) :
    q.Collects failure last (rows ++ more) (out ++ answers) where
  done ok := by
    obtain ⟨atEnd, rest⟩ := further.done ok
    exact ⟨atEnd, by rw [onRows_append_ok given, rest]; rfl⟩
  ends ok all done := by
    rw [onRows_append_ok given] at done
    obtain ⟨others, rest, _⟩ := map_eq_ok.mp done
    exact further.ends ok others rest

/-- The answers of a run together are what becomes of all rows. -/
theorem Runs.collects {failure last : Option ExecError} {batches answers : List (List Row)}
    (runs : q.Runs failure batches answers last) :
    q.Collects failure last batches.flatten answers.flatten := by
  induction runs with
  | stop => exact ⟨fun ok => ⟨ok, rfl⟩, fun ok _ _ => ok⟩
  | fail here =>
    cases here with
    | error listed fails =>
      refine ⟨nofun, fun _ out done => ?_⟩
      obtain ⟨outcome, ok⟩ := onRow_ok_of_onRows done (List.mem_append_left _ listed)
      rw [fails] at ok
      cases ok
  | skip here _ ih =>
    cases here with
    | none _ empty => exact .append empty ih
  | answer here _ ih =>
    cases here with
    | some given _ => exact .append given ih

end Selection

/-! ## Collected streams -/

/-- What comes of collecting a script: its batches, or its failure. -/
def Script.collected {ε : Type} (s : Script ε) : Except ε (List Batch) :=
  match s.failure with
  | none => .ok s.batches
  | some e => .error e

theorem Script.collected_cons {ε : Type} (b : Batch) (s : Script ε) :
    (s.cons b).collected = s.collected.map (b :: ·) := by
  obtain ⟨batches, failure⟩ := s
  cases failure <;> rfl

namespace BatchStream

variable {κ : Type}

theorem collect_done {feed : Feed ExecError κ} {s next : BatchStream κ} (told : s.tell feed = (.done, next)) :
    s.collect feed = .ok [] := by
  rw [collect]; split <;> simp_all

theorem collect_failure {feed : Feed ExecError κ} {s next : BatchStream κ} {e : ExecError}
    (told : s.tell feed = (.failure e, next)) : s.collect feed = .error e := by
  rw [collect]; split <;> simp_all

theorem collect_batch {feed : Feed ExecError κ} {s next : BatchStream κ} {b : Batch}
    (told : s.tell feed = (.batch b, next)) : s.collect feed = (next.collect feed).map (b :: ·) := by
  rw [collect]; split <;> simp_all

theorem collect_failed (feed : Feed ExecError κ) {s : BatchStream κ} {e : ExecError}
    (failed : s.progress = .failed e) (untold : s.told = false) : s.collect feed = .error e := by
  apply collect_failure
  simp only [tell, pull, untold, failed, Progress.next]
  rfl

/-- A stream at work is collected as what its stages make of the script of its cursor. -/
theorem collect_running (feed : Feed ExecError κ) {s : BatchStream κ} {c : κ} (running : s.progress = .running c)
    (untold : s.told = false) : s.collect feed = ((feed.script c).pass s.stages).collected := by
  induction measure : feed.remaining c using Nat.strongRecOn generalizing s c with
  | _ count ih =>
    rw [feed.pass_script s.stages c]
    rcases drawn : feed.draw s.stages c with ⟨e | _ | out, next⟩
    · apply collect_failure
      simp only [tell, pull, untold, running, Progress.next, drawn]
      rfl
    · apply collect_done
      simp only [tell, pull, untold, running, Progress.next, drawn]
      rfl
    · have told : s.tell feed = (.batch out, { s with progress := .running next }) := by
        simp only [tell, pull, untold, running, Progress.next, drawn]
        rfl
      have less : feed.remaining next < count := measure ▸ feed.remaining_draw_lt _ drawn
      have further : ({ s with progress := .running next } : BatchStream κ).collect feed =
          ((feed.script next).pass s.stages).collected := ih _ less rfl untold rfl
      rw [collect_batch told, further]
      exact (Script.collected_cons out _).symm

end BatchStream

/-! ## Queries over files -/

/-- A directory with one file of two records. -/
def Sample.directory : Directory := Directory.write {} "t.csv" "a:INT64\n6\n1\n".toUTF8.toList

namespace Engine

/-- What an engine that is opened over a directory answers to a text. -/
def answer (config : Config) (directory : Except DirectoryFault Directory) (sql : String) :
    Except QueryError (List Batch) := do
  let e ← (openDirectory config directory).mapError .opening
  e.run sql

/-- Two answers that come to the same: both fail, or both have the same rows in the same order, all under
one schema. -/
def Agree {ε : Type} : Except ε (List Batch) → Except ε (List Batch) → Prop
  | .ok bs, .ok cs => bs.flatMap Batch.rows = cs.flatMap Batch.rows ∧ ∃ schema, ∀ b ∈ bs ++ cs, b.schema = schema
  | .error _, .error _ => True
  | _, _ => False

/-- An answer to rows that end in a fault or well: what becomes of all of them, under a schema, or a failure
if there is a fault or a row that fails. -/
def Answers (q : Selection) (fault : Option StorageError) (rows : List Row) (schema : Schema) :
    Except ExecError (List Batch) → Prop
  | .ok bs => fault = none ∧ q.onRows rows = .ok (bs.flatMap Batch.rows) ∧ ∀ b ∈ bs, b.schema = schema
  | .error _ => fault = none → ∀ out, q.onRows rows ≠ .ok out

/-- Answers to the same rows come to the same. -/
theorem Answers.agree {q : Selection} {fault : Option StorageError} {rows : List Row} {schema : Schema}
    {left right : Except ExecError (List Batch)} (answers : Answers q fault rows schema left)
    (others : Answers q fault rows schema right) : Agree left right := by
  cases left with
  | error x =>
    cases right with
    | error y => trivial
    | ok cs => exact answers others.1 _ others.2.1
  | ok bs =>
    obtain ⟨clean, done, schemas⟩ := answers
    cases right with
    | error y => exact others clean _ done
    | ok cs =>
      obtain ⟨_, same, others⟩ := others
      refine ⟨Except.ok.inj (done.symm.trans same), schema, fun b listed => ?_⟩
      rcases List.mem_append.mp listed with listed | listed
      · exact schemas b listed
      · exact others b listed

theorem Agree.mapError {ε φ : Type} {left right : Except ε (List Batch)} (f : ε → φ) (agree : Agree left right) :
    Agree (left.mapError f) (right.mapError f) := by
  cases left <;> cases right <;> exact agree

/-- A compiled plan over a file answers to the records of the file. -/
theorem runPlan_answers {e : Engine FileStore} {t : TableDef} {predicate : Option Bound} {outputs : List Output}
    {p : PhysicalPlan} (compiled : Compiled t predicate outputs p) {c : FileCursor}
    (opened : Storage.openRead e.store t.id = .ok c) {records : List Delimited.Record}
    {fault : Option StorageError} (holds : ((Storage.feed e.store).script c).Holds t.columns records fault) :
    Answers (.ofParts (Plan.scanSchema t) predicate outputs) fault (records.map (Delimited.recordRow t.columns))
      p.schema (e.runPlan p) := by
  have running : (e.execute p).progress = .running c := by
    rw [execute, PhysicalPlan.start, compiled.root, Plan.table_ofParts, opened]
  have schema : p.schema = Plan.outputSchema outputs := by
    rw [PhysicalPlan.schema, compiled.root, Plan.schema_ofParts]
  generalize passed : Script.through (Plan.ofParts .physical t predicate outputs).stages
    (((Storage.feed e.store).script c).failure.map ExecError.storage)
    ((Storage.feed e.store).script c).batches = result
  have collected : e.runPlan p = result.collected := by
    rw [runPlan, BatchStream.collect_running _ running rfl, execFeed, Feed.script_mapError, ← passed,
      ← compiled.root]
    rfl
  obtain ⟨runs, schemas⟩ :=
    Script.through_runs compiled.predicateTyped compiled.outputsTyped _ holds.fits passed
  have collects := runs.collects
  rw [holds.failure, ← List.flatMap_def, ← List.flatMap_def] at collects
  rw [collected, schema, Script.collected]
  cases failed : result.failure with
  | none =>
    obtain ⟨atEnd, done⟩ := collects.done failed
    have clean : fault = none := Option.map_eq_none_iff.mp atEnd
    rw [holds.rows clean] at done
    exact ⟨clean, done, schemas⟩
  | some x =>
    intro clean out done
    rw [← holds.rows clean] at done
    have noFailure := collects.ends (by rw [clean]; rfl) out done
    rw [failed] at noFailure
    cases noFailure

/-- A plan that cannot open its table fails. -/
theorem runPlan_unopened {e : Engine FileStore} {p : PhysicalPlan} {x : StorageError}
    (refused : Storage.openRead e.store p.root.table.id = .error x) : e.runPlan p = .error (.storage x) := by
  have failed : (e.execute p).progress = .failed (.storage x) := by
    rw [execute, PhysicalPlan.start, refused]
  exact BatchStream.collect_failed _ failed rfl

/-- A plan answers to the same rows and the same fault with batches of any size. -/
theorem exists_runPlan_answers {e : Engine FileStore} {t : TableDef} {predicate : Option Bound} {outputs : List Output}
    {p : PhysicalPlan} (compiled : Compiled t predicate outputs p) {d : Directory} {name : String}
    (has : e.store.Has d name t) :
    ∃ q fault rows, ∀ size ≠ 0, Answers q fault rows p.schema ((e.batched size).runPlan p) := by
  have table : p.root.table = t := by rw [compiled.root, Plan.table_ofParts]
  refine ⟨.ofParts (Plan.scanSchema t) predicate outputs, ?_⟩
  cases opened : e.store.openFile name with
  | error refused =>
    obtain ⟨x, _⟩ := has.openRead_refused opened
    refine ⟨some x, [], fun size _ => ?_⟩
    obtain ⟨_, refusedHere⟩ := (has.batched size).openRead_refused opened
    rw [runPlan_unopened (e := e.batched size) (table ▸ refusedHere)]
    exact nofun
  | ok number =>
    let c : FileCursor := { columns := t.columns, file := number }
    obtain ⟨records, fault, reads⟩ := Delimited.exists_reads e.store.format t.columns (e.store.ahead c)
    refine ⟨fault, records.map (Delimited.recordRow t.columns), fun size positive => ?_⟩
    exact runPlan_answers (e := e.batched size) compiled ((has.batched size).openRead opened)
      (FileStore.script_of_reads (c := c) positive rfl reads)

/-- What is planned reads a table of the catalog. -/
theorem exists_compiled {e : Engine FileStore} {s : Select} {p : PhysicalPlan} (planned : e.planSelect s = .ok p) :
    ∃ t predicate outputs, t ∈ e.catalog.tables ∧ Compiled t predicate outputs p := by
  obtain ⟨bound, accepted, compiles⟩ := bind_eq_ok.mp planned
  have accepted : Binding.bindSelect e.catalog s = .ok bound := mapError_eq_ok.mp accepted
  have compiles : compile bound = .ok p := mapError_eq_ok.mp compiles
  cases reads : s.source with
  | none =>
    obtain ⟨source, _⟩ := Binding.bindSelect_ok accepted
    rw [reads] at source
    rw [compile, BoundSelect.plan, ← Except.ok.inj source] at compiles
    cases compiles
  | some name =>
    obtain ⟨t, found, source⟩ := Binding.source_of_bindSelect reads accepted
    have entry := Catalog.table_of_tableByName found
    obtain ⟨predicate, outputs, q, compiled, shape, _⟩ := exists_compile entry accepted source
    obtain rfl : q = p := Except.ok.inj (compiled.symm.trans compiles)
    exact ⟨t, predicate, outputs, Catalog.mem_tables_of_table entry, shape⟩

/-- What is planned answers to the same rows and the same fault with batches of any size. -/
theorem exists_planned_answers {e : Engine FileStore} {d : Directory} {files : List String}
    (has : List.Forall₂ (e.store.Has d) files e.catalog.tables) {s : Select} {p : PhysicalPlan}
    (planned : e.planSelect s = .ok p) :
    ∃ q fault rows, ∀ size ≠ 0, Answers q fault rows p.schema ((e.batched size).runPlan p) := by
  obtain ⟨t, predicate, outputs, listed, compiled⟩ := exists_compiled planned
  obtain ⟨file, _, has⟩ := exists_of_forall₂ has.flip listed
  exact exists_runPlan_answers compiled has

theorem run_batched {e : Engine FileStore} {d : Directory} {files : List String}
    (has : List.Forall₂ (e.store.Has d) files e.catalog.tables) (sql : String) {n m : Nat} (left : n ≠ 0)
    (right : m ≠ 0) : Agree ((e.batched n).run sql) ((e.batched m).run sql) := by
  rw [run, run]
  cases (Command.ofSql sql).mapError QueryError.parse with
  | error x => trivial
  | ok command =>
    cases command with
    | select s =>
      show Agree (e.planSelect s >>= _) (e.planSelect s >>= _)
      cases planned : e.planSelect s with
      | error x => trivial
      | ok p =>
        obtain ⟨q, fault, rows, answers⟩ := exists_planned_answers has planned
        exact ((answers n left).agree (answers m right)).mapError _
    | explain s =>
      show Agree (e.explainSelect s >>= _) (e.explainSelect s >>= _)
      cases e.explainSelect s with
      | error x => trivial
      | ok text => exact ⟨rfl, (explanationBatch text).schema, by simp⟩

/-- Answers do not depend on the size of batches. Over the files of a directory a text fails with batches of
any size, or has the same rows in the same order, under one schema. -/
theorem answer_batched (config : Config) (directory : Except DirectoryFault Directory) (sql : String) {n m : Nat}
    (left : 0 < n) (right : 0 < m) :
    Agree (answer (config.batched n) directory sql) (answer (config.batched m) directory sql) := by
  have left : n ≠ 0 := Nat.ne_of_gt left
  have right : m ≠ 0 := Nat.ne_of_gt right
  -- both engines are one that was opened with a third size, which is at hand for any settings
  have base : (config.batched 1).batchSize ≠ 0 := Nat.one_ne_zero
  have opened {size : Nat} (positive : size ≠ 0) : openDirectory (config.batched size) directory =
      (openDirectory (config.batched 1) directory).map (Engine.batched · size) :=
    openDirectory_batched base positive directory
  rw [answer, answer, opened left, opened right]
  cases engine : openDirectory (config.batched 1) directory with
  | error x => trivial
  | ok e =>
    obtain ⟨d, _, _, _, has⟩ := found_of_openDirectory engine
    exact run_batched has sql left right

/-- Two records come in two batches or in one. -/
theorem answer_batched_halves :
    let answer (size : Nat) := answer (({} : Config).batched size) (.ok Sample.directory) "SELECT a FROM t"
    (answer 1).toOption.map List.length = some 2 ∧ (answer 2).toOption.map List.length = some 1 ∧
      Agree (answer 1) (answer 2) :=
  ⟨by decide +kernel, by decide +kernel, answer_batched _ _ _ Nat.one_pos Nat.two_pos⟩

end Engine

end Tabular
