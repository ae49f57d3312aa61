import Mathlib.Logic.Function.Iterate
import Tabular.Engine
import Tabular.Proofs.Script
import Tabular.Storage.Memory

/-!
# Snapshots

What many users of one store in memory are answered, whatever the order in which they create tables, append
to them, read them and run plans over them. Every answer is told by what was done before it
(`Session.isolated`): a read gives the batches that its table had when it was opened, and nothing done
afterwards shows.
-/

namespace Tabular

/-! ## Sessions -/

/-- A table, by the number under which it can be found or by its handle. -/
inductive Address where
  | number (id : TableId)
  | handle (h : Handle)

/-- What the users of a store can do. Reads and streams are numbered in the order in which they are opened. -/
inductive Action where
  | create (id : TableId) (schema : Schema)
  | find (id : TableId)
  | append (target : Address) (b : Batch)
  | read (source : Address)
  | next (read : Nat)
  | execute (p : PhysicalPlan)
  | pull (stream : Nat)

inductive Reply where
  | table (h : Handle)
  | appended
  | reading (read : Nat)
  | batch (answer : Except StorageError (Option Batch))
  | running (stream : Nat)
  | pulled (answer : Except ExecError (Option Batch))
  | refused (e : StorageError)
  /-- No such handle, read or stream was given out. -/
  | unknown

/-- An action and the reply to it. -/
structure Event where
  action : Action
  reply : Reply

namespace Memory

/-- The table at an address. -/
def locate (m : Memory) : Address → Except StorageError Handle
  | .number id => m.handle id
  | .handle h => .ok h

/-- Whether an address can be used: a number always can, if only to learn that it is free. -/
def accepts (m : Memory) : Address → Bool
  | .number _ => true
  | .handle h => (m.table? h).isSome

def appendTo (m : Memory) (b : Batch) : Address → Except StorageError Memory
  | .number id => m.append id b
  | .handle h => m.appendAt h b

def readFrom (m : Memory) : Address → Except StorageError (List Batch)
  | .number id => m.read id
  | .handle h => .ok (m.readAt h)

theorem appendTo_eq (m : Memory) (b : Batch) (target : Address) :
    m.appendTo b target = m.locate target >>= fun h => m.appendAt h b := by
  cases target <;> rfl

theorem readFrom_eq (m : Memory) (source : Address) : m.readFrom source = (m.locate source).map m.readAt := by
  cases source <;> rfl

end Memory

/-- An engine over tables in memory, with the reads and streams that were opened. -/
structure Session where
  engine : Engine Memory
  reads : List (List Batch) := []
  streams : List (BatchStream (List Batch)) := []

namespace Session

def store (s : Session) : Memory := s.engine.store

def withStore (s : Session) (store : Memory) : Session := { s with engine := { s.engine with store } }

/-- One action, with the reply to it. -/
def step (s : Session) : Action → Reply × Session
  | .create id schema => (.table (s.store.create id schema).1, s.withStore (s.store.create id schema).2)
  | .find id =>
    match s.store.handle id with
    | .ok h => (.table h, s)
    | .error e => (.refused e, s)
  | .append target b =>
    if s.store.accepts target then
      match s.store.appendTo b target with
      | .ok store => (.appended, s.withStore store)
      | .error e => (.refused e, s)
    else (.unknown, s)
  | .read source =>
    if s.store.accepts source then
      match s.store.readFrom source with
      | .ok batches => (.reading s.reads.length, { s with reads := s.reads ++ [batches] })
      | .error e => (.refused e, s)
    else (.unknown, s)
  | .next r =>
    match s.reads[r]? with
    | some left =>
      let (answer, left) := (Storage.feed s.store).poll left
      (.batch answer, { s with reads := s.reads.set r left })
    | none => (.unknown, s)
  | .execute p => (.running s.streams.length, { s with streams := s.streams ++ [s.engine.execute p] })
  | .pull k =>
    match s.streams[k]? with
    | some stream =>
      let (answer, stream) := stream.pull (execFeed s.store)
      (.pulled answer, { s with streams := s.streams.set k stream })
    | none => (.unknown, s)

/-- The events that lead from one session to another, the latest first. -/
inductive Leads (s : Session) : List Event → Session → Prop
  | nil : Leads s [] s
  | step {past : List Event} {now : Session} (sofar : Leads s past now) (a : Action) :
      Leads s (⟨a, (now.step a).1⟩ :: past) (now.step a).2

end Session

/-! ## What events say -/

namespace Event

/-- The table that stands under a number because of an event. -/
def puts (id : TableId) : Event → Option Handle
  | ⟨.create other _, .table h⟩ => if other = id then some h else none
  | _ => none

/-- The columns with which an event creates a table. -/
def shapes (h : Handle) : Event → Option Schema
  | ⟨.create _ schema, .table created⟩ => if created = h then some schema else none
  | _ => none

end Event

/-- The table that was last created under a number. -/
def latest (id : TableId) (past : List Event) : Option Handle := past.findSome? (·.puts id)

/-- The columns with which a table was created. -/
def schemaOf (h : Handle) (past : List Event) : Option Schema := past.findSome? (·.shapes h)

/-- The table that an address means after some events. -/
def Address.means (past : List Event) : Address → Option Handle
  | number id => latest id past
  | handle h => some h

/-- The batch that an event appends to a table. -/
def Event.adds (h : Handle) (past : List Event) : Event → List Batch
  | ⟨.append target b, .appended⟩ => if target.means past = some h then [b] else []
  | _ => []

/-- The batches that were appended to a table with success, the first first. -/
def appendedTo (h : Handle) : List Event → List Batch
  | [] => []
  | e :: past => appendedTo h past ++ e.adds h past

/-- Batches under the names of columns. -/
def Renamed (schema : Schema) : List Batch → List Batch → Prop :=
  List.Forall₂ fun given stored => given.relabel schema = .ok stored

/-- What is in a table after some events: all that was appended to it, under the names of its columns. -/
def Snapshot (past : List Event) (h : Handle) (batches : List Batch) : Prop :=
  ∃ schema, schemaOf h past = some schema ∧ Renamed schema (appendedTo h past) batches

/-- What a plan has to give that is executed after some events. -/
def Sees (past : List Event) (p : PhysicalPlan) (given : Script ExecError) : Prop :=
  match latest p.root.table.id past with
  | none => given = ⟨[], some (.storage (.tableNotFound p.root.table.id))⟩
  | some h => ∃ batches, Snapshot past h batches ∧ given = (Script.mk batches none).pass p.root.stages

/-- The reply to an action on a table, told by what it is if there is such a table. -/
def OnTable (past : List Event) (reply : Reply) (found : Handle → Schema → Prop) : Address → Prop
  | .number id =>
    match latest id past with
    | none => reply = .refused (.tableNotFound id)
    | some h => ∃ schema, schemaOf h past = some schema ∧ found h schema
  | .handle h =>
    match schemaOf h past with
    | none => reply = .unknown
    | some schema => found h schema

namespace Action

/-- Whether an action is meant to change the store. -/
def changes : Action → Bool
  | create .. => true
  | append .. => true
  | _ => false

def isNext (r : Nat) : Action → Bool
  | next other => other == r
  | _ => false

def isPull (k : Nat) : Action → Bool
  | pull other => other == k
  | _ => false

end Action

/-- The reply to an action, told by the events before it. -/
def Answered (past : List Event) : Action → Reply → Prop
  | .create _ _, reply => ∃ h, schemaOf h past = none ∧ reply = .table h
  | .find id, reply => OnTable past reply (fun h _ => reply = .table h) (.number id)
  | .append target b, reply =>
    OnTable past reply (fun _ schema =>
      match (MemoryTable.mk schema []).append b with
      | .ok _ => reply = .appended
      | .error fault => reply = .refused (.schema (.batch fault))) target
  | .read source, reply =>
    OnTable past reply (fun _ _ => ∃ r, reply = .reading r ∧ ∀ other, ⟨.read other, .reading r⟩ ∉ past) source
  | .next r, reply => ∀ later source before, past = later ++ ⟨.read source, .reading r⟩ :: before →
    ∃ h batches, source.means before = some h ∧ Snapshot before h batches ∧
      reply = .batch (.ok batches[later.countP (·.action.isNext r)]?)
  | .execute _, reply => ∃ k, reply = .running k ∧ ∀ other, ⟨.execute other, .running k⟩ ∉ past
  | .pull k, reply => ∀ later p before, past = later ++ ⟨.execute p, .running k⟩ :: before →
    ∃ given, Sees before p given ∧ reply = .pulled (given.answer (later.countP (·.action.isPull k)))

/-! ## Streams -/

namespace BatchStream

variable {κ : Type}

/-- A stream after some pulls. -/
def after (feed : Feed ExecError κ) (n : Nat) (stream : BatchStream κ) : BatchStream κ :=
  Nat.iterate (fun stream => (stream.pull feed).2) n stream

theorem after_succ (feed : Feed ExecError κ) (n : Nat) (stream : BatchStream κ) :
    stream.after feed (n + 1) = ((stream.after feed n).pull feed).2 :=
  Function.iterate_succ_apply' _ n stream

theorem answers_succ (feed : Feed ExecError κ) (n : Nat) (stream : BatchStream κ) :
    stream.answers feed (n + 1) = stream.answers feed n ++ [((stream.after feed n).pull feed).1] := by
  induction n generalizing stream with
  | zero => rfl
  | succ n ih =>
    rw [answers, ih]
    rfl

/-- A stream that answers as a script says gives, after some pulls, the answer that comes next. -/
theorem pull_after {feed : Feed ExecError κ} {stream : BatchStream κ} {given : Script ExecError}
    (follows : ∀ n, stream.answers feed n = given.answers n) (n : Nat) :
    ((stream.after feed n).pull feed).1 = given.answer n := by
  have next := follows (n + 1)
  rw [answers_succ, Script.answers_succ, follows n] at next
  exact List.singleton_inj.mp (List.append_cancel_left next)

end BatchStream

/-! ## Tables -/

theorem isSome_schemaOf {id : TableId} {h : Handle} {past : List Event} (there : latest id past = some h) :
    (schemaOf h past).isSome := by
  obtain ⟨e, listed, put⟩ := List.exists_of_findSome?_eq_some there
  refine List.findSome?_isSome_iff.mpr ⟨e, listed, ?_⟩
  obtain ⟨action, reply⟩ := e
  cases action <;> cases reply <;> simp_all [Event.puts, Event.shapes]

/-- An event by which no table is created and nothing is appended. -/
def Event.Quiet (e : Event) : Prop :=
  (∀ id, e.puts id = none) ∧ (∀ h, e.shapes h = none) ∧ ∀ h past, e.adds h past = []

theorem Event.quiet_of_looks {a : Action} (looks : a.changes = false) (reply : Reply) : Event.Quiet ⟨a, reply⟩ := by
  cases a with
  | create | append => cases looks
  | find | read | next | execute | pull => exact ⟨fun _ => rfl, fun _ => rfl, fun _ _ => rfl⟩

theorem Event.quiet_refused (a : Action) (e : StorageError) : Event.Quiet ⟨a, .refused e⟩ := by
  cases a <;> exact ⟨fun _ => rfl, fun _ => rfl, fun _ _ => rfl⟩

theorem Event.quiet_unknown (a : Action) : Event.Quiet ⟨a, .unknown⟩ := by
  cases a <;> exact ⟨fun _ => rfl, fun _ => rfl, fun _ _ => rfl⟩

/-- The store is as the events say. -/
structure Tracked (past : List Event) (m : Memory) : Prop where
  current : ∀ id, m.current.lookup id = latest id past
  schemas : ∀ h, (m.table? h).map (·.schema) = schemaOf h past
  contents : ∀ h t, m.table? h = some t → Renamed t.schema (appendedTo h past) t.batches
  untouched : ∀ h, m.table? h = none → appendedTo h past = []

/-- What an address is good for: it leads to a table, or its number is free, or its handle was never given
out. -/
inductive Located (past : List Event) (m : Memory) : Address → Prop
  | there {a : Address} {h : Handle} {t : MemoryTable} (means : a.means past = some h) (found : m.locate a = .ok h)
      (accepted : m.accepts a = true) (table : m.table? h = some t) (schema : schemaOf h past = some t.schema) :
      Located past m a
  | free {id : TableId} (unset : latest id past = none)
      (missing : m.locate (.number id) = .error (.tableNotFound id)) : Located past m (.number id)
  | forged {h : Handle} (unset : schemaOf h past = none) (unknown : m.accepts (.handle h) = false) :
      Located past m (.handle h)

theorem OnTable.of_means {past : List Event} {a : Address} {h : Handle} {schema : Schema} {reply : Reply}
    {found : Handle → Schema → Prop} (means : a.means past = some h) (shaped : schemaOf h past = some schema)
    (holds : found h schema) : OnTable past reply found a := by
  cases a with
  | number id =>
    have there : latest id past = some h := means
    rw [OnTable, there]
    exact ⟨schema, shaped, holds⟩
  | handle other =>
    obtain rfl : other = h := Option.some.inj means
    rw [OnTable, shaped]
    exact holds

theorem MemoryTable.append_cases (t : MemoryTable) (b : Batch) :
    (∃ stored, b.relabel t.schema = .ok stored ∧ t.append b = .ok { t with batches := t.batches ++ [stored] } ∧
      ∃ u, (MemoryTable.mk t.schema []).append b = .ok u) ∨
    ∃ fault, t.append b = .error fault ∧ (MemoryTable.mk t.schema []).append b = .error fault := by
  unfold append
  by_cases blank : t.schema.fields.length = 0 ∧ b.columns.length = 0
  · exact Or.inr ⟨_, if_pos blank, if_pos blank⟩
  · simp only [if_neg blank]
    cases b.relabel t.schema with
    | ok stored => exact Or.inl ⟨stored, rfl, rfl, _, rfl⟩
    | error fault => exact Or.inr ⟨fault, rfl, rfl⟩

namespace Memory

variable {m : Memory}

theorem table?_create (id : TableId) (schema : Schema) (h : Handle) :
    (m.create id schema).2.table? h =
      if h = (m.create id schema).1 then some ⟨schema, []⟩ else m.table? h := by
  obtain ⟨i⟩ := h
  by_cases new : i = m.tables.length
  · subst new
    simp [create, table?]
  · have other : Handle.mk i ≠ (m.create id schema).1 := fun same => new (Handle.mk.inj same)
    rw [if_neg other]
    simp only [create, table?]
    by_cases inside : i < m.tables.length
    · rw [List.getElem?_append_left inside]
    · rw [List.getElem?_eq_none (by simp; omega), List.getElem?_eq_none (by omega)]

theorem table?_new (id : TableId) (schema : Schema) : m.table? (m.create id schema).1 = none := by
  simp [create, table?]

theorem table?_set {h : Handle} {t : MemoryTable} (there : m.table? h = some t) (u : MemoryTable) (other : Handle) :
    { m with tables := m.tables.set h.index u }.table? other = if other = h then some u else m.table? other := by
  obtain ⟨i⟩ := h
  obtain ⟨j⟩ := other
  obtain ⟨inside, _⟩ := List.getElem?_eq_some_iff.mp there
  by_cases same : j = i
  · subst same
    simp only [table?, if_true]
    rw [List.getElem?_set_self inside]
  · have differ : Handle.mk j ≠ Handle.mk i := fun equal => same (Handle.mk.inj equal)
    simp only [table?, if_neg differ]
    rw [List.getElem?_set_ne (Ne.symm same)]

end Memory

namespace Tracked

variable {past : List Event} {m : Memory}

theorem located (tracked : Tracked past m) (a : Address) : Located past m a := by
  cases a with
  | number id =>
    cases there : latest id past with
    | none =>
      refine .free there ?_
      rw [Memory.locate, Memory.handle, tracked.current, there]
    | some h =>
      obtain ⟨schema, shaped⟩ := Option.isSome_iff_exists.mp (isSome_schemaOf there)
      obtain ⟨t, table, rfl⟩ := Option.map_eq_some_iff.mp ((tracked.schemas h).trans shaped)
      refine .there there ?_ rfl table shaped
      rw [Memory.locate, Memory.handle, tracked.current, there]
  | handle h =>
    cases table : m.table? h with
    | none =>
      have unset := tracked.schemas h
      rw [table] at unset
      exact .forged unset.symm (by rw [Memory.accepts, table]; rfl)
    | some t =>
      have shaped := tracked.schemas h
      rw [table] at shaped
      exact .there rfl rfl (by rw [Memory.accepts, table]; rfl) table shaped.symm

theorem snapshot (tracked : Tracked past m) {h : Handle} {t : MemoryTable} (table : m.table? h = some t) :
    Snapshot past h t.batches := by
  have shaped := tracked.schemas h
  rw [table] at shaped
  exact ⟨t.schema, shaped.symm, tracked.contents h t table⟩

theorem start : Tracked [] {} where
  current _ := rfl
  schemas _ := rfl
  contents h t table := by simp [Memory.table?] at table
  untouched _ _ := rfl

theorem quiet (tracked : Tracked past m) {e : Event} (quiet : e.Quiet) : Tracked (e :: past) m := by
  obtain ⟨noNumber, noTable, noBatch⟩ := quiet
  have same (h : Handle) : appendedTo h (e :: past) = appendedTo h past := by
    rw [appendedTo, noBatch, List.append_nil]
  constructor
  · intro id
    rw [tracked.current, latest, latest, List.findSome?_cons, noNumber]
  · intro h
    rw [tracked.schemas, schemaOf, schemaOf, List.findSome?_cons, noTable]
  · intro h t table
    rw [same]
    exact tracked.contents h t table
  · intro h table
    rw [same]
    exact tracked.untouched h table

theorem create (tracked : Tracked past m) (id : TableId) (schema : Schema) :
    Tracked (⟨.create id schema, .table (m.create id schema).1⟩ :: past) (m.create id schema).2 := by
  have same (h : Handle) : appendedTo h (⟨.create id schema, .table (m.create id schema).1⟩ :: past) =
      appendedTo h past := List.append_nil _
  constructor
  · intro other
    have looked : (m.create id schema).2.current = (id, (m.create id schema).1) :: m.current := rfl
    rw [looked, List.lookup_cons, latest, List.findSome?_cons, Event.puts]
    by_cases equal : id = other
    · simp [equal]
    · have differ : (other == id) = false := by simpa using Ne.symm equal
      rw [differ, if_neg equal]
      exact tracked.current other
  · intro h
    rw [Memory.table?_create, schemaOf, List.findSome?_cons, Event.shapes]
    by_cases new : h = (m.create id schema).1
    · rw [if_pos new, if_pos new.symm]
      rfl
    · rw [if_neg new, if_neg (Ne.symm new)]
      exact tracked.schemas h
  · intro h t table
    rw [same]
    rw [Memory.table?_create] at table
    by_cases new : h = (m.create id schema).1
    · -- nothing can have been appended under a handle that is only given out now
      rw [if_pos new] at table
      obtain rfl := Option.some.inj table
      rw [tracked.untouched h (new ▸ Memory.table?_new id schema)]
      exact List.Forall₂.nil
    · rw [if_neg new] at table
      exact tracked.contents h t table
  · intro h table
    rw [same]
    rw [Memory.table?_create] at table
    by_cases new : h = (m.create id schema).1
    · rw [if_pos new] at table
      cases table
    · rw [if_neg new] at table
      exact tracked.untouched h table

theorem append (tracked : Tracked past m) {target : Address} {h : Handle} {t : MemoryTable} {b stored : Batch}
    (means : target.means past = some h) (table : m.table? h = some t) (renamed : b.relabel t.schema = .ok stored) :
    Tracked (⟨.append target b, .appended⟩ :: past)
      { m with tables := m.tables.set h.index { t with batches := t.batches ++ [stored] } } := by
  have adds (other : Handle) : appendedTo other (⟨.append target b, .appended⟩ :: past) =
      appendedTo other past ++ if h = other then [b] else [] := by
    simp only [appendedTo, Event.adds, means, Option.some.injEq]
  constructor
  · exact tracked.current
  · intro other
    rw [Memory.table?_set table, schemaOf, List.findSome?_cons]
    by_cases same : other = h
    · subst same
      rw [if_pos rfl]
      have shaped := tracked.schemas other
      rw [table] at shaped
      exact shaped
    · rw [if_neg same]
      exact tracked.schemas other
  · intro other u found
    rw [Memory.table?_set table] at found
    rw [adds]
    by_cases same : other = h
    · subst same
      rw [if_pos rfl] at found
      obtain rfl := Option.some.inj found
      rw [if_pos rfl]
      exact List.rel_append (tracked.contents other t table) (List.Forall₂.cons renamed .nil)
    · rw [if_neg same] at found
      rw [if_neg (Ne.symm same), List.append_nil]
      exact tracked.contents other u found
  · intro other missing
    rw [Memory.table?_set table] at missing
    rw [adds]
    by_cases same : other = h
    · rw [if_pos same] at missing
      cases missing
    · rw [if_neg same] at missing
      rw [if_neg (Ne.symm same), List.append_nil]
      exact tracked.untouched other missing

end Tracked

/-! ## One action -/

namespace Memory

variable {m : Memory}

theorem appendTo_error {target : Address} {e : StorageError} (missing : m.locate target = .error e) (b : Batch) :
    m.appendTo b target = .error e := by
  rw [appendTo_eq, missing]
  rfl

theorem appendTo_located {target : Address} {h : Handle} {t : MemoryTable} (found : m.locate target = .ok h)
    (table : m.table? h = some t) (b : Batch) :
    m.appendTo b target = match t.append b with
      | .error fault => .error (.schema (.batch fault))
      | .ok u => .ok { m with tables := m.tables.set h.index u } := by
  rw [appendTo_eq, found]
  show m.appendAt h b = _
  cases outcome : t.append b <;> simp only [appendAt, table, outcome]

theorem readFrom_error {source : Address} {e : StorageError} (missing : m.locate source = .error e) :
    m.readFrom source = .error e := by
  rw [readFrom_eq, missing]
  rfl

theorem readFrom_located {source : Address} {h : Handle} {t : MemoryTable} (found : m.locate source = .ok h)
    (table : m.table? h = some t) : m.readFrom source = .ok t.batches := by
  rw [readFrom_eq, found]
  show Except.ok (m.readAt h) = _
  rw [readAt, table]
  rfl

end Memory

namespace Session

variable {past later : List Event} {s last : Session}

theorem step_append_ok {target : Address} {b : Batch} {store : Memory} (accepted : s.store.accepts target = true)
    (done : s.store.appendTo b target = .ok store) : s.step (.append target b) = (.appended, s.withStore store) := by
  simp [step, accepted, done]

theorem step_append_error {target : Address} {b : Batch} {e : StorageError} (accepted : s.store.accepts target = true)
    (failed : s.store.appendTo b target = .error e) : s.step (.append target b) = (.refused e, s) := by
  simp [step, accepted, failed]

theorem step_append_unknown {target : Address} (unknown : s.store.accepts target = false) (b : Batch) :
    s.step (.append target b) = (.unknown, s) := by
  simp [step, unknown]

theorem step_read_ok {source : Address} {batches : List Batch} (accepted : s.store.accepts source = true)
    (opened : s.store.readFrom source = .ok batches) :
    s.step (.read source) = (.reading s.reads.length, { s with reads := s.reads ++ [batches] }) := by
  simp [step, accepted, opened]

theorem step_read_error {source : Address} {e : StorageError} (accepted : s.store.accepts source = true)
    (failed : s.store.readFrom source = .error e) : s.step (.read source) = (.refused e, s) := by
  simp [step, accepted, failed]

theorem step_read_unknown {source : Address} (unknown : s.store.accepts source = false) :
    s.step (.read source) = (.unknown, s) := by
  simp [step, unknown]

theorem step_next {r : Nat} {left : List Batch} (there : s.reads[r]? = some left) :
    s.step (.next r) = (.batch (.ok left.head?), { s with reads := s.reads.set r left.tail }) := by
  simp only [step, there]
  cases left <;> rfl

theorem step_pull {k : Nat} {stream : BatchStream (List Batch)} (there : s.streams[k]? = some stream) :
    s.step (.pull k) = (.pulled (stream.pull (execFeed s.store)).1,
      { s with streams := s.streams.set k (stream.pull (execFeed s.store)).2 }) := by
  simp [step, there]

theorem step_next_unknown {r : Nat} (unknown : s.reads[r]? = none) : s.step (.next r) = (.unknown, s) := by
  simp [step, unknown]

theorem step_pull_unknown {k : Nat} (unknown : s.streams[k]? = none) : s.step (.pull k) = (.unknown, s) := by
  simp [step, unknown]

/-- What is refused changes nothing. -/
theorem step_refused {a : Action} {e : StorageError} (refused : (s.step a).1 = .refused e) : (s.step a).2 = s := by
  cases a with
  | create id schema => cases refused
  | execute p => cases refused
  | find id =>
    simp only [step] at refused ⊢
    split <;> rfl
  | append target b =>
    cases accepted : s.store.accepts target with
    | false => rw [step_append_unknown accepted]
    | true =>
      cases done : s.store.appendTo b target with
      | error e => rw [step_append_error accepted done]
      | ok store =>
        rw [step_append_ok accepted done] at refused
        cases refused
  | read source =>
    cases accepted : s.store.accepts source with
    | false => rw [step_read_unknown accepted]
    | true =>
      cases opened : s.store.readFrom source with
      | error e => rw [step_read_error accepted opened]
      | ok batches =>
        rw [step_read_ok accepted opened] at refused
        cases refused
  | next r =>
    cases there : s.reads[r]? with
    | none => rw [step_next_unknown there]
    | some left =>
      rw [step_next there] at refused
      cases refused
  | pull k =>
    cases there : s.streams[k]? with
    | none => rw [step_pull_unknown there]
    | some stream =>
      rw [step_pull there] at refused
      cases refused

theorem step_store {a : Action} (looks : a.changes = false) : (s.step a).2.store = s.store := by
  cases a with
  | create | append => cases looks
  | execute p => rfl
  | find id =>
    simp only [step]
    split <;> rfl
  | read source =>
    simp only [step]
    split
    · split <;> rfl
    · rfl
  | next r =>
    simp only [step]
    split <;> rfl
  | pull k =>
    simp only [step]
    split <;> rfl

theorem step_tracked_append (tracked : Tracked past s.store) (target : Address) (b : Batch) :
    Tracked (⟨.append target b, (s.step (.append target b)).1⟩ :: past) (s.step (.append target b)).2.store := by
  cases tracked.located target with
  | there means found accepted table schema =>
    have reached := Memory.appendTo_located found table b
    rcases MemoryTable.append_cases _ b with ⟨stored, renamed, appended, _⟩ | ⟨fault, failed, _⟩
    · rw [appended] at reached
      rw [step_append_ok accepted reached]
      exact tracked.append means table renamed
    · rw [failed] at reached
      rw [step_append_error accepted reached]
      exact tracked.quiet (Event.quiet_refused _ _)
  | free unset missing =>
    rw [step_append_error rfl (Memory.appendTo_error missing b)]
    exact tracked.quiet (Event.quiet_refused _ _)
  | forged unset unknown =>
    rw [step_append_unknown unknown]
    exact tracked.quiet (Event.quiet_unknown _)

/-- One action keeps the store as the events say. -/
theorem step_tracked (tracked : Tracked past s.store) (a : Action) :
    Tracked (⟨a, (s.step a).1⟩ :: past) (s.step a).2.store := by
  cases a with
  | create id schema => exact tracked.create id schema
  | append target b => exact step_tracked_append tracked target b
  | find | read | next | execute | pull =>
    rw [step_store rfl]
    exact tracked.quiet (Event.quiet_of_looks rfl _)

/-- Only drawing from a read moves it. -/
theorem step_reads {r : Nat} {left : List Batch} (there : s.reads[r]? = some left) (a : Action) :
    (s.step a).2.reads[r]? = some (if a.isNext r then left.tail else left) := by
  obtain ⟨inside, _⟩ := List.getElem?_eq_some_iff.mp there
  cases a with
  | create id schema => exact there
  | execute p => exact there
  | find id =>
    simp only [step]
    split <;> exact there
  | append target b =>
    simp only [step]
    split
    · split <;> exact there
    · exact there
  | read source =>
    simp only [step]
    split
    · split
      · exact (List.getElem?_append_left inside).trans there
      · exact there
    · exact there
  | next other =>
    by_cases same : other = r
    · subst same
      rw [step_next there, Action.isNext, beq_self_eq_true, if_pos rfl]
      exact List.getElem?_set_self inside
    · rw [Action.isNext, beq_false_of_ne same]
      simp only [step]
      split
      · exact (List.getElem?_set_ne same).trans there
      · exact there
  | pull k =>
    simp only [step]
    split <;> exact there

/-- Only pulling from a stream moves it, and the store at the time does not matter. -/
theorem step_streams {k : Nat} {stream : BatchStream (List Batch)} (there : s.streams[k]? = some stream)
    (a : Action) :
    (s.step a).2.streams[k]? = some (if a.isPull k then (stream.pull (execFeed ({} : Memory))).2 else stream) := by
  obtain ⟨inside, _⟩ := List.getElem?_eq_some_iff.mp there
  cases a with
  | create id schema => exact there
  | execute p => exact (List.getElem?_append_left inside).trans there
  | find id =>
    simp only [step]
    split <;> exact there
  | append target b =>
    simp only [step]
    split
    · split <;> exact there
    · exact there
  | read source =>
    simp only [step]
    split
    · split <;> exact there
    · exact there
  | next r =>
    simp only [step]
    split <;> exact there
  | pull other =>
    by_cases same : other = k
    · subst same
      rw [step_pull there, Action.isPull, beq_self_eq_true, if_pos rfl]
      exact List.getElem?_set_self inside
    · rw [Action.isPull, beq_false_of_ne same]
      simp only [step]
      split
      · exact (List.getElem?_set_ne same).trans there
      · exact there

/-! ## Many actions -/

namespace Leads

theorem tracked {first : Session} (led : Leads first past s) (started : first.store = {}) : Tracked past s.store := by
  induction led with
  | nil =>
    rw [started]
    exact .start
  | step sofar a ih => exact step_tracked ih a

/-- Where more has been done, there was a session after the first events. -/
theorem split {first : Session} (led : Leads first (later ++ past) last) :
    ∃ s, Leads first past s ∧ Leads s later last := by
  induction later generalizing last with
  | nil => exact ⟨last, led, .nil⟩
  | cons e later ih =>
    cases led with
    | step sofar a =>
      obtain ⟨s, before, after⟩ := ih sofar
      exact ⟨s, before, .step after a⟩

theorem reads {r : Nat} {batches : List Batch} (led : Leads s later last) (opened : s.reads[r]? = some batches) :
    last.reads[r]? = some (batches.drop (later.countP (·.action.isNext r))) := by
  induction led with
  | nil => exact opened
  | step sofar a ih =>
    rw [step_reads ih, List.countP_cons]
    cases a.isNext r
    · rfl
    · simp [List.tail_drop]

theorem streams {k : Nat} {stream : BatchStream (List Batch)} (led : Leads s later last)
    (opened : s.streams[k]? = some stream) :
    last.streams[k]? = some (stream.after (execFeed ({} : Memory)) (later.countP (·.action.isPull k))) := by
  induction led with
  | nil => exact opened
  | step sofar a ih =>
    rw [step_streams ih, List.countP_cons]
    cases a.isPull k
    · rfl
    · simp [BatchStream.after_succ]

end Leads

/-! ## Replies -/

theorem answered_append {target : Address} {b : Batch} (tracked : Tracked past s.store) :
    Answered past (.append target b) (s.step (.append target b)).1 := by
  cases tracked.located target with
  | there means found accepted table schema =>
    refine OnTable.of_means means schema ?_
    have reached := Memory.appendTo_located found table b
    rcases MemoryTable.append_cases _ b with ⟨stored, _, appended, u, fits⟩ | ⟨fault, failed, refused⟩
    · rw [appended] at reached
      rw [step_append_ok accepted reached, fits]
    · rw [failed] at reached
      rw [step_append_error accepted reached, refused]
  | free unset missing =>
    rw [step_append_error rfl (Memory.appendTo_error missing b), Answered, OnTable, unset]
  | forged unset unknown =>
    rw [step_append_unknown unknown, Answered, OnTable, unset]

theorem answered_find {id : TableId} (tracked : Tracked past s.store) :
    Answered past (.find id) (s.step (.find id)).1 := by
  cases located : tracked.located (.number id) with
  | there means found accepted table schema =>
    refine OnTable.of_means means schema ?_
    have handle : s.store.handle id = _ := found
    simp only [step, handle]
  | free unset missing =>
    have handle : s.store.handle id = _ := missing
    simp only [step, handle]
    rw [Answered, OnTable, unset]

/-- A read that is opened has what its table has now. -/
theorem opened_read {source : Address} {r : Nat} (tracked : Tracked past s.store)
    (opened : (s.step (.read source)).1 = .reading r) :
    ∃ h batches, source.means past = some h ∧ Snapshot past h batches ∧
      (s.step (.read source)).2.reads[r]? = some batches := by
  cases tracked.located source with
  | there means found accepted table schema =>
    have result := step_read_ok accepted (Memory.readFrom_located found table)
    rw [result] at opened
    obtain rfl : s.reads.length = r := Reply.reading.inj opened
    refine ⟨_, _, means, tracked.snapshot table, ?_⟩
    rw [result]
    exact List.getElem?_concat_length
  | free unset missing =>
    rw [step_read_error rfl (Memory.readFrom_error missing)] at opened
    cases opened
  | forged unset unknown =>
    rw [step_read_unknown unknown] at opened
    cases opened

/-- A stream that is begun answers as a plan has to that sees what its table has now. -/
theorem begun_stream {p : PhysicalPlan} {k : Nat} (tracked : Tracked past s.store)
    (begun : (s.step (.execute p)).1 = .running k) :
    ∃ (given : Script ExecError) (stream : BatchStream (List Batch)), Sees past p given ∧
      (s.step (.execute p)).2.streams[k]? = some stream ∧
      ∀ n, stream.answers (execFeed ({} : Memory)) n = given.answers n := by
  obtain rfl : s.streams.length = k := Reply.running.inj begun
  have stored : (s.step (.execute p)).2.streams[s.streams.length]? = some (p.start s.store) :=
    List.getElem?_concat_length
  cases tracked.located (.number p.root.table.id) with
  | @there _ h t means found accepted table schema =>
    have there : latest p.root.table.id past = some h := means
    have opened : Storage.openRead s.store p.root.table.id = .ok t.batches :=
      Memory.readFrom_located found table
    refine ⟨(Script.mk t.batches none).pass p.root.stages, p.start s.store, ?_, stored, fun n => ?_⟩
    · rw [Sees, there]
      exact ⟨t.batches, tracked.snapshot table, rfl⟩
    · have answers := PhysicalPlan.answers_start opened n
      rw [show (Storage.feed s.store).script t.batches = ⟨t.batches, none⟩ from Feed.script_ofBatches _] at answers
      exact answers
  | free unset missing =>
    have failed : Storage.openRead s.store p.root.table.id = .error (.tableNotFound p.root.table.id) :=
      Memory.readFrom_error missing
    refine ⟨⟨[], some (.storage (.tableNotFound p.root.table.id))⟩, p.start s.store, by rw [Sees, unset], stored,
      fun n => ?_⟩
    rw [BatchStream.answers_failed _ (by rw [PhysicalPlan.start, failed]), Script.answers_stopped]
    rfl

/-- How far a read is: past as many batches of its snapshot as were drawn from it. -/
theorem Leads.reading {first : Session} (led : Leads first past s) (started : first.store = {}) {r : Nat}
    {before : List Event} {source : Address} (parts : past = later ++ ⟨.read source, .reading r⟩ :: before) :
    ∃ h batches, source.means before = some h ∧ Snapshot before h batches ∧
      s.reads[r]? = some (batches.drop (later.countP (·.action.isNext r))) := by
  -- the read was opened by the last step before `later`, and every step of `later` leaves it or draws from it
  obtain ⟨mid, opens, rest⟩ := split (parts ▸ led)
  generalize opening : Event.mk (.read source) (.reading r) = e at opens
  cases opens with
  | step sofar a =>
    obtain ⟨rfl, replied⟩ := Event.mk.inj opening
    obtain ⟨h, batches, means, snapshot, opened⟩ := opened_read (sofar.tracked started) replied.symm
    exact ⟨h, batches, means, snapshot, rest.reads opened⟩

/-- How far a stream is: as many pulls on as were made since its plan was executed. -/
theorem Leads.running {first : Session} (led : Leads first past s) (started : first.store = {}) {k : Nat}
    {before : List Event} {p : PhysicalPlan} (parts : past = later ++ ⟨.execute p, .running k⟩ :: before) :
    ∃ (given : Script ExecError) (stream : BatchStream (List Batch)), Sees before p given ∧
      (∀ n, stream.answers (execFeed ({} : Memory)) n = given.answers n) ∧
      s.streams[k]? = some (stream.after (execFeed ({} : Memory)) (later.countP (·.action.isPull k))) := by
  obtain ⟨mid, begins, rest⟩ := split (parts ▸ led)
  generalize beginning : Event.mk (.execute p) (.running k) = e at begins
  cases begins with
  | step sofar a =>
    obtain ⟨rfl, replied⟩ := Event.mk.inj beginning
    obtain ⟨given, stream, sees, begun, follows⟩ := begun_stream (sofar.tracked started) replied.symm
    exact ⟨given, stream, sees, follows, rest.streams begun⟩

theorem answered_read {first : Session} (led : Leads first past s) (started : first.store = {}) (source : Address) :
    Answered past (.read source) (s.step (.read source)).1 := by
  cases (led.tracked started).located source with
  | there means found accepted table schema =>
    refine OnTable.of_means means schema ⟨s.reads.length, ?_, fun other listed => ?_⟩
    · rw [step_read_ok accepted (Memory.readFrom_located found table)]
    · obtain ⟨later, before, parts⟩ := List.append_of_mem listed
      -- a read of that number would already be among those that are open
      obtain ⟨_, _, _, _, here⟩ := led.reading started parts
      exact Nat.lt_irrefl _ (List.getElem?_eq_some_iff.mp here).1
  | free unset missing =>
    rw [step_read_error rfl (Memory.readFrom_error missing), Answered, OnTable, unset]
  | forged unset unknown =>
    rw [step_read_unknown unknown, Answered, OnTable, unset]

/-- Every answer is told by what was done before it. Users of a store in memory create tables, append to them,
read them and run plans over them in any order; an address means the table last created under its number, or
that of its handle. A read gives all batches that were appended to its table before it was opened, in their
order, each once, and then its end; a plan gives what it makes of them. What is refused changes nothing. -/
theorem isolated {catalog : Catalog} {config : Config} (led : Leads { engine := ⟨catalog, {}, config⟩ } past s)
    (a : Action) :
    Answered past a (s.step a).1 ∧ ∀ e, (s.step a).1 = .refused e → (s.step a).2 = s := by
  have tracked : Tracked past s.store := led.tracked rfl
  refine ⟨?_, fun e refused => step_refused refused⟩
  cases a with
  | create id schema =>
    refine ⟨(s.store.create id schema).1, ?_, rfl⟩
    rw [← tracked.schemas, Memory.table?_new]
    rfl
  | find id => exact answered_find tracked
  | append target b => exact answered_append tracked
  | read source => exact answered_read led rfl source
  | next r =>
    intro later source before parts
    obtain ⟨h, batches, means, snapshot, here⟩ := led.reading rfl parts
    refine ⟨h, batches, means, snapshot, ?_⟩
    rw [step_next here, List.head?_drop]
  | execute p =>
    refine ⟨s.streams.length, rfl, fun other listed => ?_⟩
    obtain ⟨later, before, parts⟩ := List.append_of_mem listed
    obtain ⟨_, _, _, _, here⟩ := led.running rfl parts
    exact Nat.lt_irrefl _ (List.getElem?_eq_some_iff.mp here).1
  | pull k =>
    intro later p before parts
    obtain ⟨given, stream, sees, follows, here⟩ := led.running rfl parts
    refine ⟨given, sees, ?_⟩
    rw [step_pull here]
    exact congrArg Reply.pulled (BatchStream.pull_after follows _)

end Session

namespace Sample

def column (name : String) (cells : List (Option Int64)) : Batch where
  columns := [⟨name, ⟨.sql .int64, cells⟩⟩]
  rowCount := cells.length
  aligned := by simp [Column.length]

def session : Session where
  engine := ⟨.empty, {}, {}⟩

/-- A table is read while it grows and its number goes to another table; the latest action first. -/
def crossing : List Action :=
  [.next 0, .append (.number ⟨0⟩) (column "y" [some 4]), .create ⟨0⟩ (.ofColumns [("b", .string)]),
    .append (.handle ⟨0⟩) (column "x" [some 3]), .read (.number ⟨0⟩), .append (.handle ⟨0⟩) (column "y" [none]),
    .append (.number ⟨0⟩) (column "x" [some 1, some 2]), .create ⟨0⟩ (.ofColumns [("a", .int64)])]

end Sample

namespace Session

theorem isolated_crossing : ∃ past s, Leads Sample.session past s ∧ past.map (·.action) = Sample.crossing ∧
    Answered past (.next 0) (s.step (.next 0)).1 ∧
    (s.step (.next 0)).1 = .batch (.ok (some (Sample.column "a" [none]))) := by
  obtain ⟨past, s, led, actions, reply⟩ : ∃ past s, Leads Sample.session past s ∧
      past.map (·.action) = Sample.crossing ∧
      (s.step (.next 0)).1 = .batch (.ok (some (Sample.column "a" [none]))) :=
    ⟨_, _, .step (.step (.step (.step (.step (.step (.step (.step .nil _) _) _) _) _) _) _) _, rfl, rfl⟩
  exact ⟨past, s, led, actions, (isolated led (.next 0)).1, reply⟩

end Session

end Tabular
