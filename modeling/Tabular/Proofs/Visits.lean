import Tabular.Proofs.Places
import Tabular.Transform

/-!
# Visits

Which parts of an expression a handler is called with. A handler for one kind that does not descend meets the
outermost parts of that kind, from the left to the right; one that descends after it has done something meets all of
them, outer ones first (`Bound.transform_visits`).
-/

namespace Tabular

namespace Bound

variable {kind : BoundKind} {e : Bound}

/-! ## Transformations as loops -/

section Visits

variable {m : Type → Type} [Monad m]

/-- The children transformed, and the expression rebuilt around them. -/
def descend (handlers : BoundKind → Handler m Bound) : Bound → m Bound
  | .binary op left right type => do
    let left ← left.transform handlers
    let right ← right.transform handlers
    return .binary op left right type
  | .cast target inner => do
    let inner ← inner.transform handlers
    return .cast target inner
  | e@(.constant _) | e@(.column ..) | e@(.input ..) => pure e

theorem transform_eq (handlers : BoundKind → Handler m Bound) (e : Bound) :
    e.transform handlers = handlers e.kind e (e.descend handlers) := by
  cases e <;> rfl

theorem transform_only (handler : Handler m Bound) (e : Bound) : e.transform (.only kind handler) =
    if e.kind = kind then handler e (e.descend (.only kind handler)) else e.descend (.only kind handler) := by
  rw [transform_eq, Handler.only]
  by_cases same : e.kind = kind
  · rw [if_pos same, if_pos same]
  · rw [if_neg same, if_neg same, Handler.standard]

theorem descend_of_leaf {handlers : BoundKind → Handler m Bound} (leaf : e.children = []) :
    e.descend handlers = pure e := by
  cases e <;> simp_all [children, descend]

/-- Asks what to put in at a place of a part. -/
def answerFor (h : Bound → m Bound) (p : Part) : m (Place × Bound) := do
  let answer ← h p.node
  return (p.place, answer)

/-- The same answers, seen from an expression whose child at `i` they are for. -/
def deeper (i : Nat) (answers : List (Place × Bound)) : List (Place × Bound) :=
  answers.map fun a => (i :: a.1, a.2)

theorem lookup_deeper_nil (i : Nat) (answers : List (Place × Bound)) : (deeper i answers).lookup [] = none := by
  induction answers with
  | nil => rfl
  | cons a answers ih => exact ih

theorem lookup_deeper (i j : Nat) (answers : List (Place × Bound)) (place : Place) :
    (deeper i answers).lookup (j :: place) = if j = i then answers.lookup place else none := by
  induction answers with
  | nil => simp [deeper]
  | cons a answers ih =>
    obtain ⟨other, answer⟩ := a
    rw [deeper, List.map_cons, List.lookup_cons, ← deeper, ih]
    by_cases here : j = i
    · subst here
      simp [List.lookup_cons]
    · simp [here, beq_false_of_ne here]

variable [LawfulMonad m]

theorem mapM_under (h : Bound → m Bound) (i : Nat) (parts : List Part) :
    (parts.map (.under i)).mapM (answerFor h) = deeper i <$> parts.mapM (answerFor h) := by
  induction parts with
  | nil => simp [deeper]
  | cons p parts ih => simp [ih, answerFor, Part.under, deeper]

theorem transform_outermost_of_eq (h : Bound → m Bound) (same : e.kind = kind) :
    e.transform (.only kind fun node _ => h node) = do
      let answers ← (e.outermost kind).mapM (answerFor h)
      return e.replace (answers.lookup ·) := by
  have whole (answer : Bound) : e.replace (fun place => [(([] : Place), answer)].lookup place) = answer :=
    replace_of_some rfl
  rw [transform_only, if_pos same, outermost_of_eq same]
  simp [answerFor, whole]

theorem transform_outermost_of_leaf (h : Bound → m Bound) (leaf : e.children = []) :
    e.transform (.only kind fun node _ => h node) = do
      let answers ← (e.outermost kind).mapM (answerFor h)
      return e.replace (answers.lookup ·) := by
  have whole : e.replace (fun _ => none) = e := by
    cases e <;> simp_all [children, replace]
  by_cases same : e.kind = kind
  · exact transform_outermost_of_eq h same
  · rw [transform_only, if_neg same, outermost_of_ne same, descend_of_leaf leaf]
    simp [beneath, leaf, whole]

/-- A handler that does not descend is called with the outermost parts, and its answers are put in their places. -/
theorem transform_outermost (h : Bound → m Bound) (e : Bound) :
    e.transform (.only kind fun node _ => h node) = do
      let answers ← (e.outermost kind).mapM (answerFor h)
      return e.replace (answers.lookup ·) := by
  -- The answers for a child are looked up by places of the child, those for the whole by places that lead through it.
  induction e with
  | binary op left right type onLeft onRight =>
    by_cases same : (binary op left right type).kind = kind
    · exact transform_outermost_of_eq h same
    · rw [transform_only, if_neg same, outermost_of_ne same, descend, onLeft, onRight, beneath_binary, List.mapM_append,
        mapM_under, mapM_under]
      simp [replace, lookup_deeper, lookup_deeper_nil, List.lookup_append]
  | cast target inner ih =>
    by_cases same : (cast target inner).kind = kind
    · exact transform_outermost_of_eq h same
    · rw [transform_only, if_neg same, outermost_of_ne same, descend, ih, beneath_cast, mapM_under]
      simp [replace, lookup_deeper, lookup_deeper_nil]
  | _ => exact transform_outermost_of_leaf h rfl

/-- Does something with each of a list of parts. -/
def visitAll (record : Bound → m PUnit) (parts : List Part) : m PUnit := parts.forM fun p => record p.node

theorem visitAll_under (record : Bound → m PUnit) (i : Nat) (parts : List Part) :
    visitAll record (parts.map (.under i)) = visitAll record parts := by
  simp [visitAll, Part.under]

theorem visitAll_append (record : Bound → m PUnit) (before after : List Part) :
    visitAll record (before ++ after) = (do visitAll record before; visitAll record after) := by
  simp [visitAll]

theorem transform_recording_of (record : Bound → m PUnit)
    (inside : e.descend (.only kind fun node descend => do record node; descend) = do
      visitAll record (beneath (ofKind kind) e)
      return e) :
    e.transform (.only kind fun node descend => do record node; descend) = do
      visitAll record (e.ofKind kind)
      return e := by
  rw [transform_only, inside, ofKind_eq]
  by_cases same : e.kind = kind
  · rw [if_pos same, if_pos same]
    simp [visitAll]
  · rw [if_neg same, if_neg same, List.nil_append]

/-- A handler that does something and then descends does it with all parts of its kind, and changes nothing. -/
theorem transform_recording (record : Bound → m PUnit) (e : Bound) :
    e.transform (.only kind fun node descend => do record node; descend) = do
      visitAll record (e.ofKind kind)
      return e := by
  induction e with
  | binary op left right type onLeft onRight =>
    refine transform_recording_of record ?_
    rw [descend, onLeft, onRight, beneath_binary, visitAll_append, visitAll_under, visitAll_under]
    simp
  | cast target inner ih =>
    refine transform_recording_of record ?_
    rw [descend, ih, beneath_cast, visitAll_under]
    simp
  | _ =>
    refine transform_recording_of record ?_
    rw [descend_of_leaf rfl]
    simp [beneath, children, visitAll]

theorem transform_standard (e : Bound) : e.transform (fun _ => .standard) = (pure e : m Bound) := by
  induction e with
  | binary op left right type onLeft onRight => simp [transform, Handler.standard, onLeft, onRight]
  | cast target inner ih => simp [transform, Handler.standard, ih]
  | _ => rfl

end Visits

end Bound

theorem Plan.transform_standard {m : Type → Type} [Monad m] [LawfulMonad m] (p : Plan) :
    p.transform (fun _ => .standard) = (pure p : m Plan) := by
  induction p with
  | scan => rfl
  | filter flavor predicate child ih => simp [transform, Handler.standard, ih]
  | project flavor outputs child ih => simp [transform, Handler.standard, ih]

theorem Plan.mapExprs_standard {m : Type → Type} [Monad m] [LawfulMonad m] (p : Plan) :
    p.mapExprs (fun e => e.transform fun _ => .standard) = (pure p : m Plan) := by
  cases p with
  | scan => rfl
  | filter flavor predicate child => simp [mapExprs, Bound.transform_standard]
  | project flavor outputs child => simp [mapExprs, Bound.transform_standard]

/-! ## Handlers with a state -/

/-- A step that works on a state and may fail. -/
abbrev Visit (σ : Type) : Type → Type := ExceptT PlanError (StateM σ)

namespace Visit

variable {σ α β : Type}

/-- What a step gives from a state, and the state after it. -/
def outcome (x : Visit σ α) (s : σ) : Except PlanError α × σ := x.run.run s

variable {x : Visit σ α} {f : α → Visit σ β} {s last : σ} {b : β} {e : PlanError}

theorem outcome_bind (x : Visit σ α) (f : α → Visit σ β) (s : σ) : outcome (x >>= f) s =
    match outcome x s with
    | (.ok a, next) => outcome (f a) next
    | (.error e, next) => (.error e, next) := by
  show (match outcome x s with
    | (result, next) => @ExceptT.bindCont PlanError (StateM σ) _ α β f result next) = _
  obtain ⟨result, next⟩ := outcome x s
  cases result <;> rfl

theorem outcome_bind_eq_ok : outcome (x >>= f) s = (.ok b, last) ↔
    ∃ a next, outcome x s = (.ok a, next) ∧ outcome (f a) next = (.ok b, last) := by
  rw [outcome_bind]
  obtain ⟨_ | a, next⟩ := outcome x s
  · simp
  · simp

theorem outcome_bind_eq_error : outcome (x >>= f) s = (.error e, last) ↔
    outcome x s = (.error e, last) ∨ ∃ a next, outcome x s = (.ok a, next) ∧ outcome (f a) next = (.error e, last) := by
  rw [outcome_bind]
  obtain ⟨_ | a, next⟩ := outcome x s
  · simp
  · simp

end Visit

namespace Bound

open Visit (outcome outcome_bind outcome_bind_eq_ok outcome_bind_eq_error)

variable {kind : BoundKind} {e : Bound} {σ : Type} {h : Bound → Visit σ Bound} {s last : σ} {parts : List Part}
  {answers : List (Place × Bound)} {x : PlanError}

/-- Calls of a handler with parts, one after the other, that all give an answer: the state is handed on from call to
call. -/
inductive Calls (h : Bound → Visit σ Bound) : σ → List Part → List (Place × Bound) → σ → Prop
  | done (s : σ) : Calls h s [] [] s
  | call {s next last : σ} {p : Part} {parts : List Part} {answer : Bound} {answers : List (Place × Bound)}
      (called : outcome (h p.node) s = (.ok answer, next)) (further : Calls h next parts answers last) :
      Calls h s (p :: parts) ((p.place, answer) :: answers) last

theorem outcome_mapM_eq_ok :
    outcome (parts.mapM (answerFor h)) s = (.ok answers, last) ↔ Calls h s parts answers last := by
  induction parts generalizing s answers with
  | nil =>
    constructor
    · intro done
      cases done
      exact .done _
    · intro calls
      cases calls
      rfl
  | cons p parts ih =>
    rw [List.mapM_cons, answerFor, bind_assoc, outcome_bind_eq_ok]
    constructor
    · rintro ⟨answer, next, called, rest⟩
      rw [pure_bind, outcome_bind_eq_ok] at rest
      obtain ⟨others, final, further, done⟩ := rest
      cases done
      exact .call called (ih.mp further)
    · intro calls
      cases calls with
      | @call _ next _ _ _ answer answers called further =>
        refine ⟨answer, next, called, ?_⟩
        rw [pure_bind, outcome_bind_eq_ok]
        exact ⟨answers, last, ih.mpr further, rfl⟩

theorem outcome_mapM_eq_error : outcome (parts.mapM (answerFor h)) s = (.error x, last) ↔
    ∃ before p after answers middle, parts = before ++ p :: after ∧ Calls h s before answers middle ∧
      outcome (h p.node) middle = (.error x, last) := by
  constructor
  · intro failed
    induction parts generalizing s with
    | nil => cases failed
    | cons p parts ih =>
      rw [List.mapM_cons, answerFor, bind_assoc, outcome_bind_eq_error] at failed
      rcases failed with first | ⟨answer, next, called, rest⟩
      · exact ⟨[], p, parts, [], s, rfl, .done s, first⟩
      · rw [pure_bind, outcome_bind_eq_error] at rest
        rcases rest with later | ⟨others, final, _, done⟩
        · obtain ⟨before, q, after, answers, middle, rfl, calls, fails⟩ := ih later
          exact ⟨p :: before, q, after, _, middle, rfl, .call called calls, fails⟩
        · cases done
  · rintro ⟨before, p, after, answers, middle, rfl, calls, fails⟩
    rw [List.mapM_append, outcome_bind_eq_error]
    refine Or.inr ⟨answers, middle, outcome_mapM_eq_ok.mpr calls, ?_⟩
    rw [List.mapM_cons, answerFor, bind_assoc, bind_assoc, outcome_bind_eq_error]
    exact Or.inl fails

theorem Calls.places (calls : Calls h s parts answers last) : answers.map Prod.fst = parts.map Part.place := by
  induction calls with
  | done => rfl
  | call _ _ ih => rw [List.map_cons, List.map_cons, ih]

theorem lookup_of_mem {place : Place} {answer : Bound} (sorted : (answers.map Prod.fst).Pairwise (· < ·))
    (listed : (place, answer) ∈ answers) : answers.lookup place = some answer := by
  induction answers with
  | nil => cases listed
  | cons a answers ih =>
    obtain ⟨first, later⟩ := List.pairwise_cons.mp sorted
    rcases List.mem_cons.mp listed with rfl | listed
    · exact List.lookup_cons_self
    · have less := first place (List.mem_map_of_mem listed)
      rw [List.lookup_cons, beq_false_of_ne (ne_of_gt less)]
      exact ih later listed

theorem lookup_of_not_mem {place : Place} (absent : place ∉ answers.map Prod.fst) : answers.lookup place = none := by
  rw [List.lookup_eq_none_iff]
  intro a listed
  rw [bne_iff_ne]
  rintro rfl
  exact absent (List.mem_map_of_mem listed)

/-- An expression with answers in the places of parts of a kind. Outside of such parts every node is the same. -/
structure Answered (kind : BoundKind) (e : Bound) (answers : List (Place × Bound)) (out : Bound) : Prop where
  whole : out = e.replace (answers.lookup ·)
  answered : ∀ place answer, (place, answer) ∈ answers → out.part? place = some answer
  kept : ∀ place part, e.part? place = some part → part.kind ≠ kind → ¬ e.Covered kind place →
    ∃ same, out.part? place = some same ∧ SameNode part same

theorem Calls.answered (calls : Calls h s (e.outermost kind) answers last) :
    Answered kind e answers (e.replace (answers.lookup ·)) := by
  have places := calls.places
  have known : ∀ place ∈ answers.map Prod.fst, ∃ part, e.part? place = some part ∧ part.kind = kind ∧
      ¬ e.Covered kind place := by
    intro place listed
    rw [places] at listed
    obtain ⟨⟨_, node⟩, inside, rfl⟩ := List.mem_map.mp listed
    exact ⟨node, mem_outermost.mp inside⟩
  -- Above a place that is in no part of the kind there is no place with an answer.
  have free : ∀ place, ¬ e.Covered kind place → ∀ above, above <+: place → above ≠ place →
      answers.lookup above = none := by
    intro place uncovered above inside differs
    refine lookup_of_not_mem fun listed => uncovered ?_
    obtain ⟨part, found, same, _⟩ := known above listed
    exact ⟨above, part, inside, differs, found, same⟩
  refine ⟨rfl, ?_, ?_⟩
  · intro place answer listed
    obtain ⟨part, found, _, uncovered⟩ := known place (List.mem_map_of_mem listed)
    have sorted : (answers.map Prod.fst).Pairwise (· < ·) := by
      rw [places, List.pairwise_map]
      exact pairwise_outermost kind e
    rw [part?_replace (free place uncovered), found, Option.map_some]
    refine congrArg some (replace_of_some ?_)
    rw [List.append_nil]
    exact lookup_of_mem sorted listed
  · intro place part found other uncovered
    have absent : answers.lookup place = none := by
      refine lookup_of_not_mem fun listed => ?_
      obtain ⟨again, there, same, _⟩ := known place listed
      cases found.symm.trans there
      exact other same
    rw [part?_replace (free place uncovered), found]
    exact ⟨_, rfl, sameNode_replace (by rwa [List.append_nil])⟩

theorem transform_only_eq_ok {out : Bound} :
    outcome (e.transform (.only kind fun node _ => h node)) s = (.ok out, last) ↔
      ∃ answers, Calls h s (e.outermost kind) answers last ∧ Answered kind e answers out := by
  rw [transform_outermost, outcome_bind_eq_ok]
  constructor
  · rintro ⟨answers, next, called, done⟩
    cases done
    have calls := outcome_mapM_eq_ok.mp called
    exact ⟨answers, calls, calls.answered⟩
  · rintro ⟨answers, calls, answered⟩
    rw [answered.whole]
    exact ⟨answers, last, outcome_mapM_eq_ok.mpr calls, rfl⟩

theorem transform_only_eq_error :
    outcome (e.transform (.only kind fun node _ => h node)) s = (.error x, last) ↔
      ∃ before p after answers middle, e.outermost kind = before ++ p :: after ∧ Calls h s before answers middle ∧
        outcome (h p.node) middle = (.error x, last) := by
  rw [transform_outermost, outcome_bind_eq_error, outcome_mapM_eq_error]
  constructor
  · rintro (failed | ⟨answers, next, _, done⟩)
    · exact failed
    · cases done
  · exact Or.inl

theorem outcome_visitAll (record : Bound → σ → σ) (parts : List Part) (s : σ) :
    outcome (visitAll (fun node => (modify (record node) : Visit σ PUnit)) parts) s =
      (.ok ⟨⟩, parts.foldl (fun s p => record p.node s) s) := by
  induction parts generalizing s with
  | nil => rfl
  | cons p parts ih =>
    rw [← List.singleton_append, visitAll_append, outcome_bind]
    exact ih (record p.node s)

theorem outcome_recording (record : Bound → σ → σ) (s : σ) :
    outcome (e.transform (.only kind fun node descend => do (modify (record node) : Visit σ PUnit); descend)) s =
      (.ok e, (e.ofKind kind).foldl (fun s p => record p.node s) s) := by
  rw [transform_recording, outcome_bind, outcome_visitAll]
  rfl

/-- A handler of a kind that does not descend is called with the parts of the kind that are in no other, from the left
to the right, and with nothing else. If all calls give an answer the result is the expression with the answers in
their places, and every node that is in no part of the kind is the same; else the first failing call decides the
error, and none follows it. A handler that notes a node and then descends notes every part of the kind once, outer
ones first. Without handlers expressions and plans stay the same. -/
theorem transform_visits (kind : BoundKind) (e : Bound) :
    (∀ place node, ⟨place, node⟩ ∈ e.outermost kind ↔
      e.part? place = some node ∧ node.kind = kind ∧ ¬ e.Covered kind place) ∧
    (e.outermost kind).Pairwise (·.place < ·.place) ∧
    (∀ (σ : Type) (h : Bound → Visit σ Bound) (s last : σ),
      (∀ out, outcome (e.transform (.only kind fun node _ => h node)) s = (.ok out, last) ↔
        ∃ answers, Calls h s (e.outermost kind) answers last ∧ Answered kind e answers out) ∧
      ∀ x, outcome (e.transform (.only kind fun node _ => h node)) s = (.error x, last) ↔
        ∃ before p after answers middle, e.outermost kind = before ++ p :: after ∧ Calls h s before answers middle ∧
          outcome (h p.node) middle = (.error x, last)) ∧
    (∀ place node, ⟨place, node⟩ ∈ e.ofKind kind ↔ e.part? place = some node ∧ node.kind = kind) ∧
    (e.ofKind kind).Pairwise (·.place < ·.place) ∧
    (∀ (σ : Type) (record : Bound → σ → σ) (s : σ),
      outcome (e.transform (.only kind fun node descend => do (modify (record node) : Visit σ PUnit); descend)) s =
        (.ok e, (e.ofKind kind).foldl (fun s p => record p.node s) s)) ∧
    ∀ (σ : Type) (s : σ),
      outcome (e.transform fun _ => .standard) s = (.ok e, s) ∧
      ∀ p : Plan, outcome (p.transform fun _ => .standard) s = (.ok p, s) ∧
        outcome (p.mapExprs fun e => e.transform fun _ => .standard) s = (.ok p, s) := by
  refine ⟨?_, pairwise_outermost kind e, ?_, ?_, pairwise_ofKind kind e, ?_, ?_⟩
  · intro place node
    exact mem_outermost
  · intro σ h s last
    constructor
    · intro out
      exact transform_only_eq_ok
    · intro x
      exact transform_only_eq_error
  · intro place node
    exact mem_ofKind
  · intro σ record s
    exact outcome_recording record s
  · intro σ s
    refine ⟨congrArg (outcome · s) e.transform_standard, ?_⟩
    intro p
    exact ⟨congrArg (outcome · s) p.transform_standard, congrArg (outcome · s) p.mapExprs_standard⟩

end Bound

end Tabular
