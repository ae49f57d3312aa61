import Tabular.Evaluate
import Tabular.Kernel.Mask
import Tabular.Plan.Physical

/-!
# Pipelines

Runs a plan batch by batch. Each batch of the source goes through the stages from the scan upwards;
a filter that keeps no row drops the batch, and the next one is drawn. Once a stream has ended or
failed it is not drawn from again and goes on answering the same.
-/

namespace Tabular

/-- One step on the way of a batch. -/
inductive Stage where
  /-- Gives the columns the names of a schema. -/
  | relabel (schema : Schema)
  /-- Keeps the rows of which the predicate is true. -/
  | filter (predicate : Bound)
  /-- Computes new columns. -/
  | project (outputs : List Output)

namespace Stage

/-- The columns of a projection. -/
def outputColumns (b : Batch) : List Output → Except ExecError (List NamedColumn)
  | [] => .ok []
  | o :: outputs => do
    let column ← o.expr.eval b
    let columns ← outputColumns b outputs
    return ⟨o.name, column⟩ :: columns

/-- What becomes of a batch in a stage: another batch, or nothing if no row is left. -/
def apply (b : Batch) : Stage → Except ExecError (Option Batch)
  | relabel schema => ((b.relabel schema).mapError (.kernel <| .invalidBatch ·)).map some
  | filter predicate => do
    let mask ← predicate.eval b
    let kept ← (Kernel.applyMask b mask).mapError .kernel
    return if kept.rowCount = 0 then none else some kept
  | project outputs => do
    let columns ← outputColumns b outputs
    ((Batch.ofColumns columns b.rowCount).mapError (.kernel <| .invalidBatch ·)).map some

/-- What becomes of a batch in stages one after the other. -/
def applyAll (b : Batch) : List Stage → Except ExecError (Option Batch)
  | [] => .ok (some b)
  | s :: stages => do
    match ← s.apply b with
    | none => return none
    | some b => applyAll b stages

end Stage

/-! ## Drawing -/

variable {κ : Type}

/-- Draws batches from a source until one comes through the stages. -/
def Feed.draw (feed : Feed ExecError κ) (stages : List Stage) (c : κ) :
    Except ExecError (Option Batch) × κ :=
  match _ : feed.poll c with
  | (.error e, next) => (.error e, next)
  | (.ok none, next) => (.ok none, next)
  | (.ok (some b), next) =>
    match Stage.applyAll b stages with
    | .error e => (.error e, next)
    | .ok (some out) => (.ok (some out), next)
    | .ok none => feed.draw stages next
termination_by feed.remaining c
decreasing_by exact feed.remaining_lt ‹_›

/-- A batch that comes through was drawn from the source. -/
theorem Feed.remaining_draw_lt (feed : Feed ExecError κ) (stages : List Stage) {c next : κ}
    {out : Batch} (h : feed.draw stages c = (.ok (some out), next)) :
    feed.remaining next < feed.remaining c := by
  fun_induction feed.draw stages c with
  | case1 => simp at h
  | case2 => simp at h
  | case3 => simp at h
  | case4 c b next' hpoll out' happly =>
    simp only [Prod.mk.injEq] at h
    exact h.2 ▸ feed.remaining_lt hpoll
  | case5 c b next' hpoll happly ih => exact Nat.lt_trans (ih h) (feed.remaining_lt hpoll)

/-! ## Streams -/

/-- How far a stream has come: still drawing from a cursor, at its end, or failed. -/
inductive Progress (κ : Type) where
  | running (c : κ)
  | exhausted
  | failed (e : ExecError)

namespace Progress

/-- Whether nothing is drawn any more. -/
def isFinal : Progress κ → Bool
  | running _ => false
  | exhausted => true
  | failed _ => true

/-- The next batch, or the answer that a finished stream repeats. -/
def next (feed : Feed ExecError κ) (stages : List Stage) :
    Progress κ → Except ExecError (Option Batch) × Progress κ
  | exhausted => (.ok none, exhausted)
  | failed e => (.error e, failed e)
  | running c =>
    match feed.draw stages c with
    | (.ok (some b), c) => (.ok (some b), running c)
    | (.ok none, _) => (.ok none, exhausted)
    | (.error e, _) => (.error e, failed e)

/-- A bound on the batches to come. -/
def remaining (feed : Feed ExecError κ) : Progress κ → Nat
  | running c => feed.remaining c
  | exhausted => 0
  | failed _ => 0

theorem remaining_next_lt (feed : Feed ExecError κ) (stages : List Stage) {p after : Progress κ}
    {b : Batch} (h : p.next feed stages = (.ok (some b), after)) :
    after.remaining feed < p.remaining feed := by
  cases p with
  | exhausted => simp [next] at h
  | failed e => simp [next] at h
  | running c =>
    simp only [next] at h
    split at h <;> simp only [Prod.mk.injEq, Except.ok.injEq, reduceCtorEq, false_and,
      Option.some.injEq] at h
    rename_i hd
    obtain ⟨rfl, rfl⟩ := h
    exact feed.remaining_draw_lt stages hd

end Progress

/-- The batches of one run of a plan. -/
structure BatchStream (κ : Type) where
  schema : Schema
  stages : List Stage
  progress : Progress κ
  /-- Whether the run has been told to its end, error included. -/
  told : Bool := false

/-- One step of telling a run from batch to batch. -/
inductive Told where
  | batch (b : Batch)
  | failure (e : ExecError)
  | done

namespace BatchStream

/-- The next batch; a stream that has ended or failed repeats its answer. -/
def pull (feed : Feed ExecError κ) (s : BatchStream κ) :
    Except ExecError (Option Batch) × BatchStream κ :=
  let (answer, progress) := s.progress.next feed s.stages
  (answer, { s with progress })

/-- The next batch, or the error once, or that there is nothing more. -/
def tell (feed : Feed ExecError κ) (s : BatchStream κ) : Told × BatchStream κ :=
  if s.told then (.done, s)
  else match s.pull feed with
    | (.ok (some b), s) => (.batch b, s)
    | (.ok none, s) => (.done, { s with told := true })
    | (.error e, s) => (.failure e, { s with told := true })

theorem remaining_pull_lt (feed : Feed ExecError κ) {s after : BatchStream κ} {b : Batch}
    (h : s.pull feed = (.ok (some b), after)) :
    after.progress.remaining feed < s.progress.remaining feed := by
  simp only [pull, Prod.mk.injEq] at h
  obtain ⟨h, rfl⟩ := h
  exact Progress.remaining_next_lt feed s.stages (Prod.ext h rfl)

theorem remaining_tell_lt (feed : Feed ExecError κ) {s after : BatchStream κ} {b : Batch}
    (h : s.tell feed = (.batch b, after)) :
    after.progress.remaining feed < s.progress.remaining feed := by
  unfold tell at h
  split at h
  · simp at h
  · split at h <;> simp only [Prod.mk.injEq, Told.batch.injEq, reduceCtorEq, false_and] at h
    rename_i hp
    obtain ⟨rfl, rfl⟩ := h
    exact remaining_pull_lt feed hp

/-- All batches that are still to be told, or the error that ends them. -/
def collect (feed : Feed ExecError κ) (s : BatchStream κ) : Except ExecError (List Batch) :=
  match _ : s.tell feed with
  | (.done, _) => .ok []
  | (.failure e, _) => .error e
  | (.batch b, s) => (s.collect feed).map (b :: ·)
termination_by s.progress.remaining feed
decreasing_by exact remaining_tell_lt feed ‹_›

end BatchStream

/-! ## Plans -/

namespace Plan

/-- The table at the bottom of a plan. -/
def table : Plan → TableDef
  | scan _ table => table
  | filter _ _ child => child.table
  | project _ _ child => child.table

/-- The stages of a plan, from the scan upwards. -/
def stages : Plan → List Stage
  | scan _ table => [.relabel (scanSchema table)]
  | filter _ predicate child => child.stages ++ [.filter predicate]
  | project _ outputs child => child.stages ++ [.project outputs]

end Plan

/-- The feed of a store for a running query. -/
def execFeed {S : Type} [Storage S κ] (store : S) : Feed ExecError κ :=
  (Storage.feed store).mapError .storage

/-- Begins to run a plan. If its table cannot be opened, the stream has failed from the start. -/
def PhysicalPlan.start {S : Type} [Storage S κ] (store : S) (p : PhysicalPlan) : BatchStream κ where
  schema := p.schema
  stages := p.root.stages
  progress := match Storage.openRead store p.root.table.id with
    | .ok c => .running c
    | .error e => .failed (.storage e)

end Tabular
