import Tabular.Proofs.Executors
import Tabular.Proofs.Masks

/-!
# Filters

A filter that is asked for a batch asks its child until a batch decides the call: one of which the predicate
selects a row, or one on which it fails. So it gives no batch without rows, asks for no batch more than it
needs, and comes back over every child that comes to an end (`Feed.filter_calls`).
-/

namespace Tabular

/-! ## One batch -/

namespace Bound

/-- What a predicate leaves of a batch: the rows of which it is true. -/
def reduce (predicate : Bound) (b : Batch) : Except ExecError Batch := do
  let mask ← predicate.eval b
  (Kernel.applyMask b mask).mapError .kernel

/-- A predicate is true of some row of a batch. -/
def Selects (predicate : Bound) (b : Batch) : Prop :=
  ∃ entries, predicate.eval b = .ok ⟨.sql .bool, entries⟩ ∧ entries.length = b.rowCount ∧ some true ∈ entries

/-- A batch of which a predicate selects a row, or on which the predicate or its mask fails. -/
def Decides (predicate : Bound) (b : Batch) : Prop :=
  predicate.Selects b ∨ ∃ x, predicate.reduce b = .error x

/-- What a predicate leaves of batches, without those of which it leaves no row. -/
def reductions (predicate : Bound) (batches : List Batch) : List Batch :=
  batches.filterMap fun b =>
    match predicate.reduce b with
    | .ok kept => if kept.rowCount = 0 then none else some kept
    | .error _ => none

variable {predicate : Bound} {b : Batch}

theorem apply_filter_eq : Stage.apply b (.filter predicate) =
    (predicate.reduce b).map fun kept => if kept.rowCount = 0 then none else some kept := by
  rw [Stage.apply, reduce]
  cases predicate.eval b with
  | error x => rfl
  | ok mask => cases Kernel.applyMask b mask <;> rfl

theorem selects_iff {kept : Batch} (reduced : predicate.reduce b = .ok kept) :
    predicate.Selects b ↔ kept.rowCount ≠ 0 := by
  obtain ⟨mask, computed, masked⟩ := bind_eq_ok.mp reduced
  rcases Kernel.applyMask_cases b mask with ⟨_, failed⟩ | ⟨_, failed⟩ | ⟨entries, fits, rfl, given⟩
  · rw [failed] at masked
    cases masked
  · rw [failed] at masked
    cases masked
  · rw [given] at masked
    cases masked
    have count : (b.select (Kernel.marks entries) ((Kernel.length_marks entries).trans fits)).rowCount =
        entries.count (some true) := Kernel.count_marks entries
    rw [count, Ne, List.count_eq_zero, not_not]
    constructor
    · rintro ⟨others, same, _, listed⟩
      cases computed.symm.trans same
      exact listed
    · intro listed
      exact ⟨entries, computed, fits, listed⟩

/-- A predicate fails on a batch, or it selects some of its rows, or none. -/
theorem reduce_cases (predicate : Bound) (b : Batch) :
    (∃ x, predicate.reduce b = .error x ∧ Stage.apply b (.filter predicate) = .error x) ∨
    (∃ kept, predicate.reduce b = .ok kept ∧ predicate.Selects b ∧ kept.rowCount ≠ 0 ∧
      Stage.apply b (.filter predicate) = .ok (some kept)) ∨
    (∃ kept, predicate.reduce b = .ok kept ∧ ¬ predicate.Decides b ∧ kept.rowCount = 0 ∧
      Stage.apply b (.filter predicate) = .ok none) := by
  rw [apply_filter_eq]
  cases reduced : predicate.reduce b with
  | error x => exact Or.inl ⟨x, rfl, rfl⟩
  | ok kept =>
    by_cases empty : kept.rowCount = 0
    · have undecided : ¬ predicate.Decides b := by
        rintro (selects | ⟨x, failed⟩)
        · exact (selects_iff reduced).mp selects empty
        · cases reduced.symm.trans failed
      refine Or.inr (Or.inr ⟨kept, rfl, undecided, empty, ?_⟩)
      simp [Except.map, empty]
    · refine Or.inr (Or.inl ⟨kept, rfl, (selects_iff reduced).mpr empty, empty, ?_⟩)
      simp [Except.map, empty]

end Bound

/-! ## One call -/

/-- How a call of a filter goes over what its child still gives, with the number of times it asks the child, its
answer, and what the child gives after it. Batches that decide nothing are passed over, up to the first that does,
or to the end. -/
inductive FilterCall (predicate : Bound) (s : Script ExecError) :
    Nat → Except ExecError (Option Batch) → Script ExecError → Prop
  | batch {passed rest : List Batch} {b kept : Batch} (split : s.batches = passed ++ b :: rest)
      (undecided : ∀ d ∈ passed, ¬ predicate.Decides d) (selects : predicate.Selects b)
      (reduced : predicate.reduce b = .ok kept) (filled : kept.rowCount ≠ 0) :
      FilterCall predicate s (passed.length + 1) (.ok (some kept)) ⟨rest, s.failure⟩
  | fault {passed rest : List Batch} {b : Batch} {x : ExecError} (split : s.batches = passed ++ b :: rest)
      (undecided : ∀ d ∈ passed, ¬ predicate.Decides d) (fails : predicate.reduce b = .error x) :
      FilterCall predicate s (passed.length + 1) (.error x) ⟨rest, s.failure⟩
  -- A child that has come to its end may give anything to who asks on.
  | stop (left : Script ExecError) (undecided : ∀ d ∈ s.batches, ¬ predicate.Decides d) :
      FilterCall predicate s (s.batches.length + 1) s.stop left

/-- One more batch in front that decides nothing is asked for and passed over. -/
theorem FilterCall.cons {predicate : Bound} {s left : Script ExecError} {polls : Nat}
    {answer : Except ExecError (Option Batch)} (call : FilterCall predicate s polls answer left) {b : Batch}
    (undecided : ¬ predicate.Decides b) : FilterCall predicate (s.cons b) (polls + 1) answer left := by
  cases call with
  | @batch passed rest d kept split others selects reduced filled =>
    have ahead : (s.cons b).batches = (b :: passed) ++ d :: rest := congrArg (b :: ·) split
    exact .batch ahead (List.forall_mem_cons.mpr ⟨undecided, others⟩) selects reduced filled
  | @fault passed rest d x split others fails =>
    have ahead : (s.cons b).batches = (b :: passed) ++ d :: rest := congrArg (b :: ·) split
    exact .fault ahead (List.forall_mem_cons.mpr ⟨undecided, others⟩) fails
  | stop left others => exact .stop left (List.forall_mem_cons.mpr ⟨undecided, others⟩)

theorem Stage.applyAll_one (b : Batch) (stage : Stage) : applyAll b [stage] = stage.apply b := by
  rw [applyAll]
  rcases stage.apply b with _ | _ | _ <;> rfl

namespace Feed

variable {κ : Type}

/-- What comes through stages, as a feed of its own. -/
def staged (feed : Feed ExecError κ) (stages : List Stage) : Feed ExecError κ where
  poll := feed.draw stages
  remaining := feed.remaining
  remaining_lt := feed.remaining_draw_lt stages

variable {feed : Feed ExecError κ} {c next : κ} {b : Batch}

theorem poll_counted {answer : Except ExecError (Option Batch)} (polled : feed.poll c = (answer, next)) (n : Nat) :
    feed.counted.poll (c, n) = (answer, (next, n + 1)) := by
  simp [counted, polled]

theorem draw_one (stage : Stage) (polled : feed.poll c = (.ok (some b), next)) : feed.draw [stage] c =
    match stage.apply b with
    | .error e => (.error e, next)
    | .ok (some out) => (.ok (some out), next)
    | .ok none => feed.draw [stage] next := by
  rw [draw_eq, polled]
  rcases applied : stage.apply b with _ | _ | _
  all_goals simp only [Stage.applyAll_one, applied]

theorem draw_last {answer : Except ExecError (Option Batch)} (polled : feed.poll c = (answer, next))
    (last : IsLast answer) (stages : List Stage) : feed.draw stages c = (answer, next) := by
  rw [draw_eq, polled]
  rcases answer with e | _ | b
  · rfl
  · rfl
  · exact last.elim

/-- A call of a filter goes over the script of its child, and leaves the child at what stands behind that. -/
theorem filter_call (child : Feed ExecError κ) (predicate : Bound) (c : κ) :
    ∃ polls answer next, child.draw [.filter predicate] c = (answer, next) ∧
      (∀ n, child.counted.draw [.filter predicate] (c, n) = (answer, (next, n + polls))) ∧
      FilterCall predicate (child.script c) polls answer (child.script next) := by
  -- The calls of the child are those that its script records, so they are gone through with the script. The
  -- child that counts is asked in step with it.
  fun_induction child.script c with
  | case1 c e next polled =>
    refine ⟨1, _, next, draw_last polled trivial _, fun n => draw_last (poll_counted polled n) trivial _, ?_⟩
    exact FilterCall.stop (s := ⟨[], some e⟩) _ (List.forall_mem_nil _)
  | case2 c next polled =>
    refine ⟨1, _, next, draw_last polled trivial _, fun n => draw_last (poll_counted polled n) trivial _, ?_⟩
    exact FilterCall.stop (s := ⟨[], none⟩) _ (List.forall_mem_nil _)
  | case3 c b next polled ih =>
    have here := draw_one (.filter predicate) polled
    have counted (n : Nat) := draw_one (.filter predicate) (poll_counted polled n)
    have first : ((child.script next).cons b).batches = [] ++ b :: (child.script next).batches := rfl
    rcases predicate.reduce_cases b with
      ⟨x, failed, applied⟩ | ⟨kept, reduced, selects, filled, applied⟩ | ⟨_, _, undecided, _, applied⟩
    all_goals rw [applied] at here; simp only [applied] at counted
    · refine ⟨1, _, next, here, counted, ?_⟩
      exact .fault first (List.forall_mem_nil _) failed
    · refine ⟨1, _, next, here, counted, ?_⟩
      exact .batch first (List.forall_mem_nil _) selects reduced filled
    · obtain ⟨polls, answer, last, drawn, countedNext, call⟩ := ih
      refine ⟨polls + 1, answer, last, here.trans drawn, fun n => ?_, call.cons undecided⟩
      rw [counted, countedNext, Nat.add_right_comm, Nat.add_assoc]

end Feed

/-! ## All calls -/

/-- What a filter makes of what its child gives: of each batch the rows that the predicate leaves, where it leaves
any, up to the first batch on which it fails, if there is one. -/
inductive FilterRun (predicate : Bound) (s : Script ExecError) : Script ExecError → Prop
  | whole (good : ∀ b ∈ s.batches, ∃ kept, predicate.reduce b = .ok kept) :
      FilterRun predicate s ⟨predicate.reductions s.batches, s.failure⟩
  | cut {done rest : List Batch} {b : Batch} {x : ExecError} (split : s.batches = done ++ b :: rest)
      (good : ∀ d ∈ done, ∃ kept, predicate.reduce d = .ok kept) (fails : predicate.reduce b = .error x) :
      FilterRun predicate s ⟨predicate.reductions done, some x⟩

theorem Bound.reductions_cons (predicate : Bound) (b : Batch) (batches : List Batch) :
    predicate.reductions (b :: batches) = predicate.reductions [b] ++ predicate.reductions batches :=
  List.filterMap_append (l := [b])

theorem FilterRun.cons {predicate : Bound} {s out : Script ExecError} (run : FilterRun predicate s out) {b kept : Batch}
    (reduced : predicate.reduce b = .ok kept) :
    FilterRun predicate (s.cons b) ⟨predicate.reductions [b] ++ out.batches, out.failure⟩ := by
  cases run with
  | whole good =>
    rw [← predicate.reductions_cons]
    exact .whole (List.forall_mem_cons.mpr ⟨⟨kept, reduced⟩, good⟩)
  | cut split good fails =>
    rw [← predicate.reductions_cons]
    exact .cut (congrArg (b :: ·) split) (List.forall_mem_cons.mpr ⟨⟨kept, reduced⟩, good⟩) fails

theorem Script.filterRun_pass (predicate : Bound) (s : Script ExecError) :
    FilterRun predicate s (s.pass [.filter predicate]) := by
  obtain ⟨batches, failure⟩ := s
  induction batches with
  | nil => exact .whole (List.forall_mem_nil _)
  | cons b batches ih =>
    rcases predicate.reduce_cases b with
      ⟨x, failed, applied⟩ | ⟨kept, reduced, _, filled, applied⟩ | ⟨kept, reduced, _, empty, applied⟩
    all_goals rw [pass, through, Stage.applyAll_one, applied]
    · have first : (Script.mk (b :: batches) failure).batches = [] ++ b :: batches := rfl
      exact .cut first (List.forall_mem_nil _) failed
    · have given : predicate.reductions [b] = [kept] := by simp [Bound.reductions, reduced, filled]
      have run := ih.cons reduced
      rw [given] at run
      exact run
    · have dropped : predicate.reductions [b] = [] := by simp [Bound.reductions, reduced, empty]
      have run := ih.cons reduced
      rw [dropped] at run
      exact run

namespace Feed

variable {κ : Type}

theorem script_staged (feed : Feed ExecError κ) (stages : List Stage) (c : κ) :
    (feed.staged stages).script c = (feed.script c).pass stages := by
  fun_induction (feed.staged stages).script c with
  | case1 c e next polled =>
    have drawn : feed.draw stages c = (.error e, next) := polled
    rw [pass_script, drawn]
  | case2 c next polled =>
    have drawn : feed.draw stages c = (.ok none, next) := polled
    rw [pass_script, drawn]
  | case3 c b next polled ih =>
    have drawn : feed.draw stages c = (.ok (some b), next) := polled
    rw [pass_script, drawn, ih]

theorem draw_staged (feed : Feed ExecError κ) (stages : List Stage) (stage : Stage) (c : κ) :
    feed.draw (stages ++ [stage]) c = (feed.staged stages).draw [stage] c := by
  fun_induction (feed.staged stages).draw [stage] c with
  | case1 c e next polled =>
    have drawn : feed.draw stages c = (.error e, next) := polled
    rw [draw_append, drawn]
  | case2 c next polled =>
    have drawn : feed.draw stages c = (.ok none, next) := polled
    rw [draw_append, drawn]
  | case3 c b next polled e applied | case4 c b next polled out applied =>
    have drawn : feed.draw stages c = (.ok (some b), next) := polled
    rw [Stage.applyAll_one] at applied
    rw [draw_append, drawn]
    simp only [applied]
  | case5 c b next polled applied ih =>
    have drawn : feed.draw stages c = (.ok (some b), next) := polled
    rw [Stage.applyAll_one] at applied
    rw [draw_append, drawn, ← ih]
    simp only [applied]

/-- A filter asks its child, whatever that is, up to and including the first batch that decides the call, or to
its end or error, and answers with what the predicate leaves of the batch, which is not empty, with the fault of
the predicate or the mask, with the end or with the error. Its answers one after the other are what is left of
the batches of the child, in order and without empty ones, until something fails. A filter in a plan has all that
stands below it for its child. -/
theorem filter_calls (child : Feed ExecError κ) (predicate : Bound) (c : κ) :
    (∃ polls answer next, child.draw [.filter predicate] c = (answer, next) ∧
      (∀ n, child.counted.draw [.filter predicate] (c, n) = (answer, (next, n + polls))) ∧
      FilterCall predicate (child.script c) polls answer (child.script next)) ∧
    FilterRun predicate (child.script c) ((child.staged [.filter predicate]).script c) ∧
    ∀ below, child.draw (below ++ [.filter predicate]) c = (child.staged below).draw [.filter predicate] c := by
  refine ⟨filter_call child predicate c, ?_, fun below => draw_staged child below _ c⟩
  rw [script_staged]
  exact Script.filterRun_pass predicate _

end Feed

end Tabular
