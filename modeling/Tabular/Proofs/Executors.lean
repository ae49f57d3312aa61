import Tabular.Proofs.Script

/-!
# Executors

A plan that runs as a tree of executors, one for each node, over a transaction of which nothing is
known: it may go on giving batches after its end or after an error. Each executor stands behind a guard
that lets go of it once it has ended or failed (`Executor.guard`). So what a tree answers last it answers
for ever, and it asks its transaction nothing after that (`PhysicalPlan.stops_for_good`). Over a store a
stream answers what the tree answers (`exists_runs_start`).
-/

namespace Tabular

/-- Whether nothing is to come after an answer: the end, or an error. -/
def IsLast {ε : Type} : Except ε (Option Batch) → Prop
  | .ok (some _) => False
  | .ok none => True
  | .error _ => True

instance {ε : Type} (answer : Except ε (Option Batch)) : Decidable (IsLast answer) :=
  match answer with
  | .ok (some _) => .isFalse id
  | .ok none => .isTrue trivial
  | .error _ => .isTrue trivial

/-- An executor behind its guard. It is at work, on a transaction or above another executor, or it has
ended or failed and holds nothing any more. -/
inductive Executor (κ : Type) where
  | scan (schema : Schema) (transaction : κ)
  | over (stage : Stage) (child : Executor κ)
  | exhausted
  | failed (e : ExecError)

/-- The tree of executors for a plan, given what came of opening its table. If that failed, so has the
executor of the scan. -/
def Plan.executor {κ : Type} (opened : Except StorageError κ) : Plan → Executor κ
  | scan _ t =>
    match opened with
    | .ok c => .scan (scanSchema t) c
    | .error e => .failed (.storage e)
  | filter _ predicate child => .over (.filter predicate) (child.executor opened)
  | project _ outputs child => .over (.project outputs) (child.executor opened)

/-- What came of a pull: the answers of the transaction that was asked meanwhile, and the answer given. -/
structure Pulled where
  polls : List Answer
  answer : Except ExecError (Option Batch)

namespace Executor

variable {κ : Type}

/-- What a guard keeps after an answer: the executor after a batch, and nothing of it after the last
answer. -/
def guard (answer : Except ExecError (Option Batch)) (inner : Executor κ) : Executor κ :=
  match answer with
  | .ok (some _) => inner
  | .ok none => .exhausted
  | .error e => .failed e

/-- What a scan makes of an answer of its transaction. -/
def scanned (schema : Schema) : Answer → Except ExecError (Option Batch)
  | .error e => .error (.storage e)
  | .ok none => .ok none
  | .ok (some b) => Stage.apply b (.relabel schema)

/-- One pull. An executor that was let go of repeats its answer. A stage takes batches from below until it
makes something of one, and passes on the last answer. There is no pull that does not come back. -/
inductive Pull (poll : κ → Answer × κ) : Executor κ → Pulled → Executor κ → Prop
  | exhausted : Pull poll .exhausted ⟨[], .ok none⟩ .exhausted
  | failed (e : ExecError) : Pull poll (.failed e) ⟨[], .error e⟩ (.failed e)
  | scan {schema : Schema} {c next : κ} {a : Answer} (polled : poll c = (a, next)) :
      Pull poll (.scan schema c) ⟨[a], scanned schema a⟩ (guard (scanned schema a) (.scan schema next))
  | last {stage : Stage} {child below : Executor κ} {r : Pulled} (inner : Pull poll child r below)
      (last : IsLast r.answer) : Pull poll (.over stage child) r (guard r.answer (.over stage below))
  | given {stage : Stage} {child below : Executor κ} {polls : List Answer} {b : Batch}
      {out : Except ExecError (Option Batch)} (inner : Pull poll child ⟨polls, .ok (some b)⟩ below)
      (applied : stage.apply b = out) (shown : out ≠ .ok none) :
      Pull poll (.over stage child) ⟨polls, out⟩ (guard out (.over stage below))
  | again {stage : Stage} {child below after : Executor κ} {polls : List Answer} {b : Batch} {r : Pulled}
      (inner : Pull poll child ⟨polls, .ok (some b)⟩ below) (dropped : stage.apply b = .ok none)
      (further : Pull poll (.over stage below) r after) :
      Pull poll (.over stage child) ⟨polls ++ r.polls, r.answer⟩ after

/-- Pulls one after the other. -/
inductive Runs (poll : κ → Answer × κ) : Executor κ → List Pulled → Executor κ → Prop
  | stop (ex : Executor κ) : Runs poll ex [] ex
  | pull {ex next rest : Executor κ} {r : Pulled} {rs : List Pulled} (first : Pull poll ex r next)
      (further : Runs poll next rs rest) : Runs poll ex (r :: rs) rest

/-- An answer as it is told. -/
def telling : Except ExecError (Option Batch) → Told
  | .ok (some b) => .batch b
  | .ok none => .done
  | .error e => .failure e

/-- Steps of telling a run one after the other. Once the last answer has been told, the executor is not
pulled any more. -/
inductive Tells (poll : κ → Answer × κ) : (told : Bool) → Executor κ → List Told → Prop
  | stop (told : Bool) (ex : Executor κ) : Tells poll told ex []
  | over {ex : Executor κ} {steps : List Told} (further : Tells poll true ex steps) :
      Tells poll true ex (.done :: steps)
  | pull {ex next : Executor κ} {r : Pulled} {steps : List Told} (first : Pull poll ex r next)
      (further : Tells poll (decide (IsLast r.answer)) next steps) :
      Tells poll false ex (telling r.answer :: steps)

/-- Answers as they are told: the batches, then the error if there is one, and after the last answer nothing
more. -/
def tellings : List (Except ExecError (Option Batch)) → List Told
  | [] => []
  | a :: rest => telling a :: if IsLast a then List.replicate rest.length .done else tellings rest

variable {poll : κ → Answer × κ} {ex next : Executor κ} {r : Pulled}

/-! ## One pull -/

/-- Nothing is left of an executor that gave its last answer. -/
theorem Pull.guarded (pulled : Pull poll ex r next) : next = guard r.answer next := by
  have idem (answer : Except ExecError (Option Batch)) (inner : Executor κ) :
      guard answer inner = guard answer (guard answer inner) := by
    rcases answer with _ | _ | _ <;> rfl
  induction pulled with
  | exhausted => rfl
  | failed e => rfl
  | scan _ => exact idem _ _
  | last _ _ _ => exact idem _ _
  | given _ _ _ _ => exact idem _ _
  | again _ _ _ _ ih => exact ih

/-- An executor that was let go of repeats its last answer and asks nothing. -/
theorem pull_guard_iff {answer : Except ExecError (Option Batch)} (last : IsLast answer) (inner : Executor κ) :
    Pull poll (guard answer inner) r next ↔ r = ⟨[], answer⟩ ∧ next = guard answer inner := by
  constructor
  · intro pulled
    rcases answer with e | _ | b
    · cases pulled; exact ⟨rfl, rfl⟩
    · cases pulled; exact ⟨rfl, rfl⟩
    · exact last.elim
  · rintro ⟨rfl, rfl⟩
    rcases answer with e | _ | b
    · exact .failed e
    · exact .exhausted
    · exact last.elim

/-- A pull comes back in one way only. -/
theorem Pull.unique {r' : Pulled} {next' : Executor κ} (pulled : Pull poll ex r next)
    (other : Pull poll ex r' next') : r' = r ∧ next' = next := by
  induction pulled generalizing r' next' with
  | exhausted => cases other; exact ⟨rfl, rfl⟩
  | failed e => cases other; exact ⟨rfl, rfl⟩
  | scan polled =>
    cases other with
    | scan polled' =>
      obtain ⟨rfl, rfl⟩ := Prod.mk.inj (polled.symm.trans polled')
      exact ⟨rfl, rfl⟩
  | last _ last ih =>
    cases other with
    | last inner' _ =>
      obtain ⟨rfl, rfl⟩ := ih inner'
      exact ⟨rfl, rfl⟩
    | given inner' _ _ =>
      obtain ⟨rfl, _⟩ := ih inner'
      exact last.elim
    | again inner' _ _ =>
      obtain ⟨rfl, _⟩ := ih inner'
      exact last.elim
  | given _ applied shown ih =>
    cases other with
    | last inner' last' =>
      obtain ⟨rfl, _⟩ := ih inner'
      exact last'.elim
    | given inner' applied' _ =>
      obtain ⟨same, rfl⟩ := ih inner'
      cases same
      obtain rfl := applied'.symm.trans applied
      exact ⟨rfl, rfl⟩
    | again inner' dropped' _ =>
      obtain ⟨same, rfl⟩ := ih inner'
      cases same
      exact (shown (applied.symm.trans dropped')).elim
  | again _ dropped _ ih ihFurther =>
    cases other with
    | last inner' last' =>
      obtain ⟨rfl, _⟩ := ih inner'
      exact last'.elim
    | given inner' applied' shown' =>
      obtain ⟨same, rfl⟩ := ih inner'
      cases same
      exact (shown' (applied'.symm.trans dropped)).elim
    | again inner' _ further' =>
      obtain ⟨same, rfl⟩ := ih inner'
      cases same
      obtain ⟨rfl, rfl⟩ := ihFurther further'
      exact ⟨rfl, rfl⟩

/-- Within a pull the transaction is asked nothing after its last answer, which makes the answer of the
pull the last one too. -/
theorem Pull.polls_stop (pulled : Pull poll ex r next) :
    r.polls.Pairwise (fun before _ => ¬ IsLast before) ∧ ((∃ a ∈ r.polls, IsLast a) → IsLast r.answer) := by
  induction pulled with
  | exhausted => exact ⟨.nil, fun _ => trivial⟩
  | failed e => exact ⟨.nil, fun _ => trivial⟩
  | scan _ =>
    refine ⟨List.pairwise_singleton _ _, ?_⟩
    rintro ⟨a, listed, last⟩
    obtain rfl := List.mem_singleton.mp listed
    rcases a with e | _ | b
    · trivial
    · trivial
    · exact last.elim
  | last _ _ ih => exact ih
  | given _ _ _ ih => exact ⟨ih.1, fun stopped => (ih.2 stopped).elim⟩
  | again _ _ _ ih ihFurther =>
    refine ⟨List.pairwise_append.mpr ⟨ih.1, ihFurther.1, fun a listed _ _ last => ih.2 ⟨a, listed, last⟩⟩, ?_⟩
    rintro ⟨a, listed, last⟩
    rcases List.mem_append.mp listed with listed | listed
    · exact (ih.2 ⟨a, listed, last⟩).elim
    · exact ihFurther.2 ⟨a, listed, last⟩

/-! ## Runs -/

/-- An executor that was let go of only repeats its answer, as often as it is pulled. -/
theorem runs_guard_iff {answer : Except ExecError (Option Batch)} (last : IsLast answer) (inner : Executor κ)
    {rs : List Pulled} {rest : Executor κ} : Runs poll (guard answer inner) rs rest ↔
      rs = List.replicate rs.length ⟨[], answer⟩ ∧ rest = guard answer inner := by
  constructor
  · intro runs
    generalize start : guard answer inner = ex at runs
    induction runs with
    | stop ex => exact ⟨rfl, rfl⟩
    | pull first _ ih =>
      rw [← start] at first
      obtain ⟨rfl, rfl⟩ := (pull_guard_iff last _).mp first
      obtain ⟨others, rfl⟩ := ih rfl
      refine ⟨?_, start⟩
      rw [List.length_cons, List.replicate_succ, ← others]
  · rintro ⟨same, rfl⟩
    rw [same]
    induction rs.length with
    | zero => exact .stop _
    | succ n ih => exact .pull ((pull_guard_iff last _).mpr ⟨rfl, rfl⟩) ih

variable {rs : List Pulled} {rest : Executor κ}

/-- After the last answer a run gives it again and asks nothing. -/
theorem Runs.repeats (runs : Runs poll ex rs rest) :
    rs.Pairwise fun before after => IsLast before.answer → after = ⟨[], before.answer⟩ := by
  induction runs with
  | stop ex => exact .nil
  | pull first further ih =>
    refine List.pairwise_cons.mpr ⟨fun after listed last => ?_, ih⟩
    rw [first.guarded] at further
    have same := ((runs_guard_iff last _).mp further).1
    rw [same] at listed
    exact List.eq_of_mem_replicate listed

/-- A run that has given its last answer can go on for ever. -/
theorem Runs.goes_on (runs : Runs poll ex rs rest) {last : Pulled} (listed : last ∈ rs)
    (isLast : IsLast last.answer) (n : Nat) :
    Runs poll rest (List.replicate n ⟨[], last.answer⟩) rest := by
  induction runs with
  | stop ex => cases listed
  | @pull ex next rest r rs first further ih =>
    rcases List.mem_cons.mp listed with rfl | listed
    · rw [first.guarded] at further
      obtain ⟨_, rfl⟩ := (runs_guard_iff isLast _).mp further
      exact (runs_guard_iff isLast _).mpr ⟨by rw [List.length_replicate], rfl⟩
    · exact ih listed

/-- In a run the transaction is asked nothing after its last answer. -/
theorem Runs.polls_stop (runs : Runs poll ex rs rest) :
    (rs.flatMap Pulled.polls).Pairwise fun before _ => ¬ IsLast before := by
  induction runs with
  | stop ex => exact .nil
  | pull first further ih =>
    obtain ⟨within, passed⟩ := first.polls_stop
    rw [List.flatMap_cons]
    refine List.pairwise_append.mpr ⟨within, ih, fun a listed b later last => ?_⟩
    have stopped := passed ⟨a, listed, last⟩
    rw [first.guarded] at further
    rw [((runs_guard_iff stopped _).mp further).1] at later
    simp at later

/-! ## Telling -/

theorem tells_true_iff {steps : List Told} :
    Tells poll true ex steps ↔ steps = List.replicate steps.length .done := by
  induction steps with
  | nil => exact ⟨fun _ => rfl, fun _ => .stop _ _⟩
  | cons step steps ih =>
    rw [List.length_cons, List.replicate_succ, List.cons.injEq, ← ih]
    constructor
    · rintro (_ | further)
      exact ⟨rfl, further⟩
    · rintro ⟨rfl, further⟩
      exact .over further

/-- A run that is told gives its batches in order, then its error once, and nothing more after that. -/
theorem Runs.tells_iff (runs : Runs poll ex rs rest) {steps : List Told} (count : steps.length = rs.length) :
    Tells poll false ex steps ↔ steps = tellings (rs.map Pulled.answer) := by
  induction runs generalizing steps with
  | stop ex =>
    obtain rfl := List.eq_nil_of_length_eq_zero count
    exact ⟨fun _ => rfl, fun _ => .stop _ _⟩
  | @pull ex next rest r rs first further ih =>
    cases steps with
    | nil => cases count
    | cons step steps =>
      have count : steps.length = rs.length := Nat.succ.inj count
      have here : Tells poll false ex (step :: steps) ↔
          step = telling r.answer ∧ Tells poll (decide (IsLast r.answer)) next steps := by
        constructor
        · rintro (_ | _ | ⟨other, further'⟩)
          obtain ⟨rfl, rfl⟩ := first.unique other
          exact ⟨rfl, further'⟩
        · rintro ⟨rfl, further'⟩
          exact .pull first further'
      rw [here, List.map_cons, tellings, List.cons.injEq]
      refine and_congr_right fun _ => ?_
      by_cases last : IsLast r.answer
      · rw [decide_eq_true last, if_pos last, tells_true_iff, count, List.length_map]
      · rw [decide_eq_false last, if_neg last]
        exact ih count

/-! ## Tables that cannot be opened -/

/-- Above an executor that has failed every executor fails in the same way. -/
theorem pull_over_failed {child : Executor κ} {x : ExecError}
    (below : ∀ {r next}, Pull poll child r next ↔ r = ⟨[], .error x⟩ ∧ next = .failed x) (stage : Stage) :
    Pull poll (.over stage child) r next ↔ r = ⟨[], .error x⟩ ∧ next = .failed x := by
  constructor
  · intro pulled
    cases pulled with
    | last inner _ =>
      obtain ⟨rfl, rfl⟩ := below.mp inner
      exact ⟨rfl, rfl⟩
    | given inner _ _ => cases (below.mp inner).1
    | again inner _ _ => cases (below.mp inner).1
  · rintro ⟨rfl, rfl⟩
    exact .last (below.mpr ⟨rfl, rfl⟩) trivial

theorem pull_executor_error (p : Plan) (e : StorageError) : ∀ {r next},
    Pull poll (p.executor (.error e)) r next ↔ r = ⟨[], .error (.storage e)⟩ ∧ next = .failed (.storage e) := by
  induction p with
  | scan flavor t =>
    intro r next
    have last : IsLast (.error (.storage e) : Except ExecError (Option Batch)) := trivial
    exact pull_guard_iff last .exhausted
  | filter flavor predicate child ih => exact pull_over_failed ih _
  | project flavor outputs child ih => exact pull_over_failed ih _

/-- If its table cannot be opened, a plan answers with the error from the first pull on. -/
theorem runs_executor_error_iff (p : Plan) (e : StorageError) :
    (∃ rest, Runs poll (p.executor (.error e)) rs rest) ↔
      rs = List.replicate rs.length ⟨[], .error (.storage e)⟩ := by
  have last : IsLast (.error (.storage e) : Except ExecError (Option Batch)) := trivial
  cases rs with
  | nil => exact ⟨fun _ => rfl, fun _ => ⟨_, .stop _⟩⟩
  | cons r rs =>
    rw [List.length_cons, List.replicate_succ, List.cons.injEq]
    constructor
    · rintro ⟨rest, _ | ⟨first, further⟩⟩
      obtain ⟨rfl, rfl⟩ := (pull_executor_error p e).mp first
      exact ⟨rfl, ((runs_guard_iff last .exhausted).mp further).1⟩
    · rintro ⟨rfl, others⟩
      exact ⟨_, .pull ((pull_executor_error p e).mpr ⟨rfl, rfl⟩) ((runs_guard_iff last .exhausted).mpr ⟨others, rfl⟩)⟩

end Executor

/-! ## Streams over a store -/

theorem Stage.applyAll_append (b : Batch) (stages : List Stage) (stage : Stage) :
    applyAll b (stages ++ [stage]) = (do
      match ← applyAll b stages with
      | none => return none
      | some b => stage.apply b) := by
  induction stages generalizing b with
  | nil =>
    show (do match ← stage.apply b with | none => return none | some b => applyAll b []) = stage.apply b
    rcases stage.apply b with _ | _ | _ <;> rfl
  | cons first stages ih =>
    show (do match ← first.apply b with | none => return none | some b => applyAll b (stages ++ [stage])) = _
    rw [applyAll]
    rcases first.apply b with _ | _ | _
    · rfl
    · rfl
    · exact ih _

namespace Feed

variable {κ : Type}

theorem draw_eq (feed : Feed ExecError κ) (stages : List Stage) (c : κ) :
    feed.draw stages c = match feed.poll c with
      | (.error e, next) => (.error e, next)
      | (.ok none, next) => (.ok none, next)
      | (.ok (some b), next) =>
        match Stage.applyAll b stages with
        | .error e => (.error e, next)
        | .ok (some out) => (.ok (some out), next)
        | .ok none => feed.draw stages next := by
  fun_cases feed.draw stages c with
  | case1 e next polled => rw [polled]
  | case2 next polled => rw [polled]
  | case3 b next polled e applied | case4 b next polled out applied | case5 b next polled applied =>
    rw [polled]
    simp only [applied]

/-- One more stage takes batches from the stages before it until it makes something of one. -/
theorem draw_append (feed : Feed ExecError κ) (stages : List Stage) (stage : Stage) (c : κ) :
    feed.draw (stages ++ [stage]) c = match feed.draw stages c with
      | (.error e, next) => (.error e, next)
      | (.ok none, next) => (.ok none, next)
      | (.ok (some b), next) =>
        match stage.apply b with
        | .error e => (.error e, next)
        | .ok (some out) => (.ok (some out), next)
        | .ok none => feed.draw (stages ++ [stage]) next := by
  fun_induction feed.draw stages c with
  | case1 c e next polled => rw [draw_eq, polled]
  | case2 c next polled => rw [draw_eq, polled]
  | case3 c b next polled e applied =>
    rw [draw_eq, polled]
    simp only [Stage.applyAll_append, applied]
    rfl
  | case4 c b next polled out applied =>
    rw [draw_eq, polled]
    simp only [Stage.applyAll_append, applied]
    show (match stage.apply out with
      | .error e => _
      | .ok (some out) => _
      | .ok none => _) = _
    rcases stage.apply out with _ | _ | _ <;> rfl
  | case5 c b next polled applied ih =>
    rw [draw_eq, polled, ← ih]
    simp only [Stage.applyAll_append, applied]
    rfl

/-- The feed with a record of what its polls answer. -/
def recorded {ε : Type} (feed : Feed ε κ) : Feed ε (κ × List (Except ε (Option Batch))) where
  poll c := ((feed.poll c.1).1, (feed.poll c.1).2, c.2 ++ [(feed.poll c.1).1])
  remaining c := feed.remaining c.1
  remaining_lt := by
    intro c b next polled
    obtain ⟨answer, rfl⟩ := Prod.mk.inj polled
    exact feed.remaining_lt (Prod.ext answer rfl)

variable (feed : Feed StorageError κ)

/-- What the polls answer while a batch is drawn for stages: the record that is left of them. -/
def polled (stages : List Stage) (c : κ) : List Answer :=
  ((feed.recorded.mapError ExecError.storage).draw stages (c, [])).2.2

theorem poll_recorded (c : κ) (record : List Answer) :
    (feed.recorded.mapError ExecError.storage).poll (c, record) =
      ((feed.poll c).1.mapError .storage, (feed.poll c).2, record ++ [(feed.poll c).1]) := rfl

/-- Nothing is drawn in another way where there is a record. -/
theorem draw_recorded (stages : List Stage) (c : κ) (record : List Answer) :
    (feed.recorded.mapError ExecError.storage).draw stages (c, record) =
      (((feed.mapError .storage).draw stages c).1, ((feed.mapError .storage).draw stages c).2,
        record ++ feed.polled stages c) := by
  suffices same : ∃ polls, ∀ record : List Answer,
      (feed.recorded.mapError ExecError.storage).draw stages (c, record) =
        (((feed.mapError .storage).draw stages c).1, ((feed.mapError .storage).draw stages c).2, record ++ polls) by
    obtain ⟨polls, same⟩ := same
    rw [polled, same record, same [], List.nil_append]
  fun_induction (feed.mapError ExecError.storage).draw stages c with
  | case1 c e next answered =>
    obtain ⟨answer, rfl⟩ := Prod.mk.inj answered
    refine ⟨[(feed.poll c).1], fun record => ?_⟩
    rw [draw_eq, poll_recorded, answer]
  | case2 c next answered =>
    obtain ⟨answer, rfl⟩ := Prod.mk.inj answered
    refine ⟨[(feed.poll c).1], fun record => ?_⟩
    rw [draw_eq, poll_recorded, answer]
  | case3 c b next answered e applied | case4 c b next answered out applied =>
    obtain ⟨answer, rfl⟩ := Prod.mk.inj answered
    refine ⟨[(feed.poll c).1], fun record => ?_⟩
    rw [draw_eq, poll_recorded, answer]
    simp only [applied]
  | case5 c b next answered applied ih =>
    obtain ⟨answer, rfl⟩ := Prod.mk.inj answered
    obtain ⟨polls, further⟩ := ih
    refine ⟨(feed.poll c).1 :: polls, fun record => ?_⟩
    rw [draw_eq, poll_recorded, answer]
    simp only [applied]
    rw [further, List.append_assoc]
    rfl

/-- One more stage polls as the stages before it do, and again if it drops what they give. -/
theorem polled_append (stages : List Stage) (stage : Stage) (c : κ) :
    feed.polled (stages ++ [stage]) c = feed.polled stages c ++
      match (feed.mapError ExecError.storage).draw stages c with
      | (.ok (some b), next) =>
        match stage.apply b with
        | .ok none => feed.polled (stages ++ [stage]) next
        | _ => []
      | _ => [] := by
  rw [polled, draw_append, draw_recorded, List.nil_append]
  rcases (feed.mapError ExecError.storage).draw stages c with ⟨_ | _ | b, next⟩
  · exact (List.append_nil _).symm
  · exact (List.append_nil _).symm
  · dsimp only
    rcases stage.apply b with _ | _ | _
    · exact (List.append_nil _).symm
    · rw [draw_recorded]
    · exact (List.append_nil _).symm

/-- Drawing for a scan is one poll. -/
theorem draw_relabel (schema : Schema) (c : κ) :
    (feed.mapError .storage).draw [.relabel schema] c =
      (Executor.scanned schema (feed.poll c).1, (feed.poll c).2) := by
  have answered : (feed.mapError ExecError.storage).poll c =
      ((feed.poll c).1.mapError .storage, (feed.poll c).2) := rfl
  rw [draw_eq, answered]
  rcases feed.poll c with ⟨e | _ | b, next⟩
  · rfl
  · rfl
  · show (match Stage.applyAll b [.relabel schema] with
      | .error e => (.error e, next)
      | .ok (some out) => (.ok (some out), next)
      | .ok none => (feed.mapError .storage).draw [.relabel schema] next) = (Stage.apply b (.relabel schema), next)
    simp only [Stage.applyAll, Stage.apply]
    cases b.relabel schema <;> rfl

theorem polled_relabel (schema : Schema) (c : κ) : feed.polled [.relabel schema] c = [(feed.poll c).1] := by
  rw [polled, draw_eq, poll_recorded]
  rcases feed.poll c with ⟨e | _ | b, next⟩
  · rfl
  · rfl
  · simp only [mapError_ok, Stage.applyAll, Stage.apply]
    cases b.relabel schema <;> rfl

end Feed

namespace Executor

variable {κ : Type} (feed : Feed StorageError κ)

/-- An executor above others is pulled as often as its stage is drawn for. -/
theorem pull_over {child : κ → Executor κ} {stages : List Stage} (stage : Stage)
    (below : ∀ c, Pull feed.poll (child c) ⟨feed.polled stages c, ((feed.mapError .storage).draw stages c).1⟩
      (guard ((feed.mapError .storage).draw stages c).1 (child ((feed.mapError .storage).draw stages c).2)))
    (c : κ) : Pull feed.poll (.over stage (child c))
      ⟨feed.polled (stages ++ [stage]) c, ((feed.mapError .storage).draw (stages ++ [stage]) c).1⟩
      (guard ((feed.mapError .storage).draw (stages ++ [stage]) c).1
        (.over stage (child ((feed.mapError .storage).draw (stages ++ [stage]) c).2))) := by
  induction measure : feed.remaining c using Nat.strongRecOn generalizing c with
  | _ count ih =>
    have inner := below c
    rw [Feed.draw_append, Feed.polled_append]
    rcases drawn : (feed.mapError ExecError.storage).draw stages c with ⟨e | _ | b, next⟩
    all_goals rw [drawn] at inner
    · have ends : Pull feed.poll (.over stage (child c)) ⟨feed.polled stages c, .error e⟩ (.failed e) :=
        .last inner trivial
      rwa [List.append_nil]
    · have ends : Pull feed.poll (.over stage (child c)) ⟨feed.polled stages c, .ok none⟩ .exhausted :=
        .last inner trivial
      rwa [List.append_nil]
    · dsimp only
      rcases applied : stage.apply b with e | _ | out
      · rw [List.append_nil]
        exact .given inner applied nofun
      · have less : feed.remaining next < count := measure ▸ Feed.remaining_draw_lt _ stages drawn
        exact .again inner applied (ih _ less next rfl)
      · rw [List.append_nil]
        exact .given inner applied nofun

/-- A tree at work is pulled as its stages are drawn for. -/
theorem pull_draw (p : Plan) (c : κ) : Pull feed.poll (p.executor (.ok c))
    ⟨feed.polled p.stages c, ((feed.mapError .storage).draw p.stages c).1⟩
    (guard ((feed.mapError .storage).draw p.stages c).1
      (p.executor (.ok ((feed.mapError .storage).draw p.stages c).2))) := by
  induction p generalizing c with
  | scan flavor t =>
    rw [Plan.stages, Feed.draw_relabel, Feed.polled_relabel]
    exact .scan rfl
  | filter flavor predicate child ih => exact pull_over feed (.filter predicate) ih c
  | project flavor outputs child ih => exact pull_over feed (.project outputs) ih c

end Executor

namespace BatchStream

variable {κ : Type}

/-- The steps of telling a stream. -/
def tellings (feed : Feed ExecError κ) : Nat → BatchStream κ → List Told
  | 0, _ => []
  | n + 1, s => (s.tell feed).1 :: tellings feed n (s.tell feed).2

/-- What the transaction of a stream answers within one pull. -/
def polled (feed : Feed StorageError κ) (s : BatchStream κ) : List Answer :=
  match s.progress with
  | .running c => feed.polled s.stages c
  | .exhausted => []
  | .failed _ => []

/-- What the transaction answers within each of some pulls. -/
def pollings (feed : Feed StorageError κ) : Nat → BatchStream κ → List (List Answer)
  | 0, _ => []
  | n + 1, s => s.polled feed :: pollings feed n (s.pull (feed.mapError .storage)).2

theorem pollings_failed (feed : Feed StorageError κ) {s : BatchStream κ} {e : ExecError}
    (failed : s.progress = .failed e) (n : Nat) : s.pollings feed n = List.replicate n [] := by
  induction n generalizing s with
  | zero => rfl
  | succ n ih =>
    have still : (s.pull (feed.mapError .storage)).2.progress = .failed e := by rw [pull, failed]; rfl
    rw [pollings, ih still, polled, failed, List.replicate_succ]

theorem tellings_told (feed : Feed ExecError κ) {s : BatchStream κ} (told : s.told = true) (n : Nat) :
    s.tellings feed n = List.replicate n .done := by
  induction n with
  | zero => rfl
  | succ n ih =>
    have same : s.tell feed = (.done, s) := by simp [tell, told]
    rw [tellings, same, ih, List.replicate_succ]

theorem length_answers (feed : Feed ExecError κ) (s : BatchStream κ) (n : Nat) :
    (s.answers feed n).length = n := by
  induction n generalizing s with
  | zero => rfl
  | succ n ih => rw [answers, List.length_cons, ih]

theorem length_tellings (feed : Feed ExecError κ) (s : BatchStream κ) (n : Nat) :
    (s.tellings feed n).length = n := by
  induction n generalizing s with
  | zero => rfl
  | succ n ih => rw [tellings, List.length_cons, ih]

/-- A stream is told as it is pulled, up to its last answer. -/
theorem tellings_eq (feed : Feed ExecError κ) {s : BatchStream κ} (untold : s.told = false) (n : Nat) :
    s.tellings feed n = Executor.tellings (s.answers feed n) := by
  induction n generalizing s with
  | zero => rfl
  | succ n ih =>
    rw [tellings, answers, Executor.tellings, length_answers, tell, untold]
    rcases pulled : s.pull feed with ⟨e | _ | b, next⟩
    · exact congrArg _ (tellings_told feed rfl n)
    · exact congrArg _ (tellings_told feed rfl n)
    · have still : next.told = false := by
        have same : (s.pull feed).2.told = s.told := rfl
        rw [← untold, ← same, pulled]
      exact congrArg _ (ih still)

end BatchStream

/-- What is left of the tree of a plan that has come as far as its stream. -/
def Plan.executorAt {κ : Type} (p : Plan) : Progress κ → Executor κ
  | .running c => p.executor (.ok c)
  | .exhausted => .exhausted
  | .failed e => .failed e

namespace Executor

variable {κ : Type} (feed : Feed StorageError κ)

theorem pull_stream {p : Plan} {s : BatchStream κ} (stages : s.stages = p.stages) :
    Pull feed.poll (p.executorAt s.progress) ⟨s.polled feed, (s.pull (feed.mapError .storage)).1⟩
      (p.executorAt (s.pull (feed.mapError .storage)).2.progress) := by
  rw [BatchStream.pull, BatchStream.polled, stages]
  cases s.progress with
  | exhausted => exact .exhausted
  | failed e => exact .failed e
  | running c =>
    have pulled := pull_draw feed p c
    rw [Progress.next]
    dsimp only
    rcases drawn : (feed.mapError ExecError.storage).draw p.stages c with ⟨e | _ | b, next⟩
    all_goals
      rw [drawn] at pulled
      exact pulled

/-- A stream that is at work answers and polls as what is left of its tree. -/
theorem exists_runs_stream {p : Plan} {s : BatchStream κ} (stages : s.stages = p.stages) (n : Nat) :
    ∃ rs rest, Runs feed.poll (p.executorAt s.progress) rs rest ∧
      rs.map Pulled.answer = s.answers (feed.mapError .storage) n ∧ rs.map Pulled.polls = s.pollings feed n := by
  induction n generalizing s with
  | zero => exact ⟨[], _, .stop _, rfl, rfl⟩
  | succ n ih =>
    have first := pull_stream feed stages
    have stages : (s.pull (feed.mapError .storage)).2.stages = p.stages := stages
    obtain ⟨rs, rest, further, answers, polls⟩ := ih stages
    exact ⟨_, rest, .pull first further, congrArg _ answers, congrArg _ polls⟩

end Executor

namespace PhysicalPlan

open Executor

/-- A stream over a store answers and polls as the tree of executors of its plan. -/
theorem exists_runs_start {S κ : Type} [Storage S κ] (store : S) (p : PhysicalPlan) (n : Nat) :
    ∃ rs rest, Runs (Storage.feed store).poll (p.root.executor (Storage.openRead store p.root.table.id)) rs rest ∧
      rs.map Pulled.answer = (p.start store).answers (execFeed store) n ∧
      rs.map Pulled.polls = (p.start store).pollings (Storage.feed store) n := by
  cases opened : Storage.openRead store p.root.table.id with
  | ok c =>
    have running : (p.start store).progress = .running c := by simp [start, opened]
    have stages : (p.start store).stages = p.root.stages := rfl
    obtain ⟨rs, rest, runs, same, polls⟩ := exists_runs_stream (Storage.feed store) stages n
    rw [running] at runs
    exact ⟨rs, rest, runs, same, polls⟩
  | error e =>
    have failed : (p.start store).progress = .failed (.storage e) := by simp [start, opened]
    obtain ⟨rest, runs⟩ : ∃ rest, Runs (Storage.feed store).poll (p.root.executor (.error e))
        (List.replicate n ⟨[], .error (.storage e)⟩) rest :=
      (runs_executor_error_iff p.root e).mpr (by rw [List.length_replicate])
    refine ⟨_, rest, runs, ?_, ?_⟩
    · rw [BatchStream.answers_failed _ failed, List.map_replicate]
    · rw [BatchStream.pollings_failed _ failed, List.map_replicate]

/-- What a tree of executors answers last it answers for ever, whatever its transaction does, and the
transaction is asked nothing after an end or an error. Told from step to step, a run gives its batches in
order, its error once and then nothing more. Above a table that cannot be opened each pull answers with the
error. Over a store a stream is such a run: it gives the same answers, polls its transaction as the tree does,
and tells the same. -/
theorem stops_for_good {κ : Type} (p : PhysicalPlan) (opened : Except StorageError κ) (poll : κ → Answer × κ) :
    (∀ rs rest, Runs poll (p.root.executor opened) rs rest →
      rs.Pairwise (fun before after => IsLast before.answer → after = ⟨[], before.answer⟩) ∧
      (∀ last ∈ rs, IsLast last.answer →
        ∀ n, Runs poll rest (List.replicate n ⟨[], last.answer⟩) rest) ∧
      (rs.flatMap Pulled.polls).Pairwise (fun before _ => ¬ IsLast before) ∧
      ∀ steps, steps.length = rs.length →
        (Tells poll false (p.root.executor opened) steps ↔ steps = tellings (rs.map Pulled.answer))) ∧
    (∀ e, opened = .error e → ∀ rs, (∃ rest, Runs poll (p.root.executor opened) rs rest) ↔
      rs = List.replicate rs.length ⟨[], .error (.storage e)⟩) ∧
    ∀ (S : Type) [Storage S κ] (store : S), Storage.openRead store p.root.table.id = opened →
      (Storage.feed store).poll = poll → ∀ n,
        (∃ rs rest, Runs poll (p.root.executor opened) rs rest ∧
          rs.map Pulled.answer = (p.start store).answers (execFeed store) n ∧
          rs.map Pulled.polls = (p.start store).pollings (Storage.feed store) n) ∧
        Tells poll false (p.root.executor opened) ((p.start store).tellings (execFeed store) n) := by
  refine ⟨?_, ?_, ?_⟩
  · intro rs rest runs
    exact ⟨runs.repeats, fun last listed isLast n => runs.goes_on listed isLast n, runs.polls_stop,
      fun steps count => runs.tells_iff count⟩
  · rintro e rfl rs
    exact runs_executor_error_iff p.root e
  · rintro S _ store rfl rfl n
    obtain ⟨rs, rest, runs, same, polls⟩ := exists_runs_start store p n
    have count : ((p.start store).tellings (execFeed store) n).length = rs.length := by
      rw [BatchStream.length_tellings, ← List.length_map Pulled.answer, same, BatchStream.length_answers]
    have untold : (p.start store).told = false := rfl
    refine ⟨⟨rs, rest, runs, same, polls⟩, (runs.tells_iff count).mpr ?_⟩
    rw [same, BatchStream.tellings_eq _ untold]

end PhysicalPlan

end Tabular
