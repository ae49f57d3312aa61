import Tabular.Pipeline
import Tabular.Proofs.Outcome
import Tabular.Storage.Replay

/-!
# Scripts

What a source gives until it stops: batches, then an error or else the end. The script of a cursor
is read off its feed; that of a stream is what its stages make of the script of its source
(`PhysicalPlan.answers_start`), and after it the stream repeats the answer on which it stopped.
-/

namespace Tabular

/-- What a source gives until it stops: its batches, then an error if there is one, else the end. -/
structure Script (ε : Type) where
  batches : List Batch
  failure : Option ε

namespace Script

variable {ε φ : Type}

/-- The script with one more batch in front. -/
def cons (b : Batch) (s : Script ε) : Script ε := ⟨b :: s.batches, s.failure⟩

/-- The answer on which a script stops. -/
def stop (s : Script ε) : Except ε (Option Batch) :=
  match s.failure with
  | none => .ok none
  | some e => .error e

/-- The answers to `n` polls of a source that follows a script and repeats the last answer. -/
def answers (s : Script ε) (n : Nat) : List (Except ε (Option Batch)) :=
  (s.batches.map (fun b => Except.ok (some b)) ++ List.replicate n s.stop).take n

/-- The answer to the poll after `n` others. -/
def answer (s : Script ε) (n : Nat) : Except ε (Option Batch) :=
  match s.batches[n]? with
  | some b => .ok (some b)
  | none => s.stop

/-- The answers that follow a script: its batches, then the one on which it stops. -/
def played (s : Script ε) : List (Except ε (Option Batch)) :=
  s.batches.map (fun b => Except.ok (some b)) ++ [s.stop]

/-- The same batches with other errors. -/
def mapError (f : ε → φ) (s : Script ε) : Script φ := ⟨s.batches, s.failure.map f⟩

/-- What stages make of batches that end in a failure or well. -/
def through (stages : List Stage) (failure : Option ExecError) : List Batch → Script ExecError
  | [] => ⟨[], failure⟩
  | b :: batches =>
    match Stage.applyAll b stages with
    | .error e => ⟨[], some e⟩
    | .ok none => through stages failure batches
    | .ok (some out) => (through stages failure batches).cons out

/-- What stages make of a script. -/
def pass (stages : List Stage) (s : Script ExecError) : Script ExecError :=
  through stages s.failure s.batches

theorem answers_cons (b : Batch) (s : Script ε) (n : Nat) :
    (s.cons b).answers (n + 1) = .ok (some b) :: s.answers n := by
  have first : (s.cons b).answers (n + 1) = .ok (some b) ::
      (s.batches.map (fun b => Except.ok (some b)) ++ List.replicate (n + 1) s.stop).take n := rfl
  rw [first, List.replicate_succ', ← List.append_assoc, List.take_append_of_le_length (by simp)]
  rfl

theorem answers_stopped (failure : Option ε) (n : Nat) :
    (Script.mk [] failure).answers n = List.replicate n (Script.mk [] failure).stop := by
  simp [answers]

/-- One more poll has one more answer. -/
theorem answers_succ (s : Script ε) (n : Nat) : s.answers (n + 1) = s.answers n ++ [s.answer n] := by
  have here : (s.batches.map (fun b => Except.ok (some b)) ++ List.replicate (n + 1) s.stop)[n]? =
      some (s.answer n) := by
    rw [List.getElem?_append, List.getElem?_map, answer]
    by_cases inside : n < s.batches.length
    · simp [inside]
    · have behind : n - s.batches.length < n + 1 := by omega
      simp [inside, behind]
  have fewer : (s.batches.map (fun b => Except.ok (some b)) ++ List.replicate (n + 1) s.stop).take n = s.answers n := by
    rw [List.replicate_succ', ← List.append_assoc, List.take_append_of_le_length (by simp)]
    rfl
  rw [answers, List.take_add_one, here, fewer]
  rfl

end Script

namespace Feed

variable {ε φ κ : Type}

/-- The script that a cursor follows. -/
def script (feed : Feed ε κ) (c : κ) : Script ε :=
  match _ : feed.poll c with
  | (.error e, _) => ⟨[], some e⟩
  | (.ok none, _) => ⟨[], none⟩
  | (.ok (some b), next) => (feed.script next).cons b
termination_by feed.remaining c
decreasing_by exact feed.remaining_lt ‹_›

theorem script_error {feed : Feed ε κ} {c next : κ} {e : ε} (polled : feed.poll c = (.error e, next)) :
    feed.script c = ⟨[], some e⟩ := by
  rw [script]; split <;> simp_all

theorem script_end {feed : Feed ε κ} {c next : κ} (polled : feed.poll c = (.ok none, next)) :
    feed.script c = ⟨[], none⟩ := by
  rw [script]; split <;> simp_all

theorem script_batch {feed : Feed ε κ} {c next : κ} {b : Batch}
    (polled : feed.poll c = (.ok (some b), next)) : feed.script c = (feed.script next).cons b := by
  rw [script]; split <;> simp_all

/-- Batches in memory come one after the other. -/
theorem script_ofBatches (batches : List Batch) : (ofBatches (ε := ε)).script batches = ⟨batches, none⟩ := by
  induction batches with
  | nil => exact script_end rfl
  | cons b batches ih =>
    have polled : (ofBatches (ε := ε)).poll (b :: batches) = (.ok (some b), batches) := rfl
    rw [script_batch polled, ih]
    rfl

/-- Every script is followed by a list of answers. -/
theorem script_played (s : Script ε) : ofAnswers.script s.played = s := by
  obtain ⟨batches, failure⟩ := s
  induction batches with
  | nil =>
    cases failure with
    | none => exact script_end rfl
    | some e => exact script_error rfl
  | cons b batches ih =>
    have polled : ofAnswers.poll (Script.mk (b :: batches) failure).played =
        (.ok (some b), (Script.mk batches failure).played) := rfl
    rw [script_batch polled, ih]
    rfl

/-- Other errors change nothing but the failure of a script. -/
theorem script_mapError (feed : Feed ε κ) (f : ε → φ) (c : κ) :
    (feed.mapError f).script c = (feed.script c).mapError f := by
  fun_induction feed.script c with
  | case1 c e next polled =>
    have mapped : (feed.mapError f).poll c = (.error (f e), next) := by
      simp [mapError, polled]
    rw [script_error mapped]
    rfl
  | case2 c next polled =>
    have mapped : (feed.mapError f).poll c = (.ok none, next) := by
      simp [mapError, polled]
    rw [script_end mapped]
    rfl
  | case3 c b next polled ih =>
    have mapped : (feed.mapError f).poll c = (.ok (some b), next) := by
      simp [mapError, polled]
    rw [script_batch mapped, ih]
    rfl

/-- One draw takes from the script what the stages give next, and leaves the rest of it. -/
theorem pass_script (feed : Feed ExecError κ) (stages : List Stage) (c : κ) :
    (feed.script c).pass stages =
      match feed.draw stages c with
      | (.error e, _) => ⟨[], some e⟩
      | (.ok none, _) => ⟨[], none⟩
      | (.ok (some out), next) => ((feed.script next).pass stages).cons out := by
  fun_induction feed.draw stages c with
  | case1 c e next polled => rw [script_error polled]; rfl
  | case2 c next polled => rw [script_end polled]; rfl
  | case3 c b next polled e applied =>
    rw [script_batch polled]
    simp [Script.pass, Script.cons, Script.through, applied]
  | case4 c b next polled out applied =>
    rw [script_batch polled]
    simp [Script.pass, Script.cons, Script.through, applied]
  | case5 c b next polled applied ih =>
    rw [← ih, script_batch polled]
    simp [Script.pass, Script.cons, Script.through, applied]

end Feed

/-- A store whose one table follows a script. -/
def Replay.ofScript (id : TableId) (s : Script StorageError) : Replay := ⟨[⟨id, .ok s.played⟩]⟩

theorem Replay.openRead_ofScript (id : TableId) (s : Script StorageError) :
    Storage.openRead (Replay.ofScript id s) id = .ok s.played := by
  show Replay.read (Replay.ofScript id s) id = _
  simp [read, ofScript]

theorem Replay.script_ofScript (id : TableId) (s : Script StorageError) :
    (Storage.feed (Replay.ofScript id s)).script s.played = s := Feed.script_played s

namespace BatchStream

variable {κ : Type}

/-- The answers to `n` pulls of a stream. -/
def answers (feed : Feed ExecError κ) : Nat → BatchStream κ → List (Except ExecError (Option Batch))
  | 0, _ => []
  | n + 1, s => (s.pull feed).1 :: answers feed n (s.pull feed).2

/-- A stream that has stopped repeats its answer. -/
theorem answers_exhausted (feed : Feed ExecError κ) {s : BatchStream κ} (done : s.progress = .exhausted)
    (n : Nat) : s.answers feed n = List.replicate n (.ok none) := by
  induction n with
  | zero => rfl
  | succ n ih =>
    have same : s.pull feed = (.ok none, s) := by
      cases s; simp_all [pull, Progress.next]
    rw [answers, same, ih, List.replicate_succ]

theorem answers_failed (feed : Feed ExecError κ) {s : BatchStream κ} {e : ExecError}
    (done : s.progress = .failed e) (n : Nat) : s.answers feed n = List.replicate n (.error e) := by
  induction n with
  | zero => rfl
  | succ n ih =>
    have same : s.pull feed = (.error e, s) := by
      cases s; simp_all [pull, Progress.next]
    rw [answers, same, ih, List.replicate_succ]

/-- A stream answers with what its stages make of the script of its cursor. -/
theorem answers_running (feed : Feed ExecError κ) {s : BatchStream κ} {c : κ}
    (running : s.progress = .running c) (n : Nat) :
    s.answers feed n = ((feed.script c).pass s.stages).answers n := by
  induction n generalizing s c with
  | zero => rfl
  | succ n ih =>
    rw [feed.pass_script s.stages c, answers]
    rcases drawn : feed.draw s.stages c with ⟨e | _ | out, next⟩
    · have pulled : s.pull feed = (.error e, { s with progress := .failed e }) := by
        simp [pull, Progress.next, running, drawn]
      rw [pulled, answers_failed feed rfl, Script.answers_stopped, List.replicate_succ]
      rfl
    · have pulled : s.pull feed = (.ok none, { s with progress := .exhausted }) := by
        simp [pull, Progress.next, running, drawn]
      rw [pulled, answers_exhausted feed rfl, Script.answers_stopped, List.replicate_succ]
      rfl
    · have pulled : s.pull feed = (.ok (some out), { s with progress := .running next }) := by
        simp [pull, Progress.next, running, drawn]
      rw [pulled, Script.answers_cons]
      exact congrArg _ (ih rfl)

end BatchStream

/-- A plan that is run answers with what its stages make of the script of its table. -/
theorem PhysicalPlan.answers_start {S κ : Type} [Storage S κ] {store : S} {p : PhysicalPlan} {c : κ}
    (opened : Storage.openRead store p.root.table.id = .ok c) (n : Nat) :
    (p.start store).answers (execFeed store) n =
      ((((Storage.feed store).script c).mapError .storage).pass p.root.stages).answers n := by
  have running : (p.start store).progress = .running c := by simp [start, opened]
  rw [BatchStream.answers_running _ running, execFeed, Feed.script_mapError]
  rfl

end Tabular
