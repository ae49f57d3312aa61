import Mathlib.Data.List.Forall2

/-!
# Outcomes

How a computation that may fail comes to a value.
-/

namespace Tabular

variable {α β ε φ : Type}

/-- A sequence gives a value if its first step gives one from which the rest gives it. -/
theorem bind_eq_ok {x : Except ε α} {f : α → Except ε β} {b : β} :
    x >>= f = .ok b ↔ ∃ a, x = .ok a ∧ f a = .ok b := by
  constructor
  · intro done
    cases x with
    | error e => cases done
    | ok a => exact ⟨a, rfl, done⟩
  · rintro ⟨a, rfl, done⟩
    exact done

/-- A sequence fails in its first step or, after a value of it, in the rest. -/
theorem bind_eq_error {x : Except ε α} {f : α → Except ε β} {e : ε} :
    x >>= f = .error e ↔ x = .error e ∨ ∃ a, x = .ok a ∧ f a = .error e := by
  constructor
  · intro failed
    cases x with
    | error y => exact Or.inl (by cases failed; rfl)
    | ok a => exact Or.inr ⟨a, rfl, failed⟩
  · rintro (rfl | ⟨a, rfl, failed⟩)
    · rfl
    · exact failed

theorem map_eq_ok {x : Except ε α} {f : α → β} {b : β} : x.map f = .ok b ↔ ∃ a, x = .ok a ∧ f a = b := by
  cases x with
  | error e => simp [Except.map]
  | ok a => simp [Except.map]

@[simp] theorem mapError_ok (f : ε → φ) (a : α) : (Except.ok a).mapError f = .ok a := rfl

@[simp] theorem mapError_error (f : ε → φ) (e : ε) : (Except.error e : Except ε α).mapError f = .error (f e) :=
  rfl

theorem mapError_eq_ok {x : Except ε α} {f : ε → φ} {a : α} : x.mapError f = .ok a ↔ x = .ok a := by
  cases x with
  | error e =>
    rw [mapError_error]
    exact ⟨nofun, nofun⟩
  | ok b => rw [mapError_ok, Except.ok.injEq, Except.ok.injEq]

theorem mapError_eq_error {x : Except ε α} {f : ε → φ} {e : φ} :
    x.mapError f = .error e ↔ ∃ y, x = .error y ∧ f y = e := by
  cases x with
  | error y =>
    rw [mapError_error, Except.error.injEq]
    simp
  | ok a =>
    rw [mapError_ok]
    exact ⟨nofun, nofun⟩

@[simp] theorem toOption_mapError (x : Except ε α) (f : ε → φ) : (x.mapError f).toOption = x.toOption := by
  cases x <;> rfl

@[simp] theorem toOption_bind (x : Except ε α) (f : α → Except ε β) :
    (x >>= f).toOption = x.toOption.bind fun a => (f a).toOption := by
  cases x <;> rfl

theorem map_eq_error {x : Except ε α} {f : α → β} {e : ε} : x.map f = .error e ↔ x = .error e := by
  cases x with
  | error y => simp [Except.map]
  | ok a => simp [Except.map]

theorem error_of_map {x : Except ε α} {f : α → β} {e : ε} (failed : x.map f = .error e) : x = .error e :=
  map_eq_error.mp failed

/-- A list of steps gives the values that its steps give. -/
theorem mapM_eq_ok {f : α → Except ε β} {as : List α} {bs : List β} :
    as.mapM f = .ok bs ↔ as.map f = bs.map .ok := by
  induction as generalizing bs with
  | nil => cases bs <;> simp [pure, Except.pure]
  | cons a as ih =>
    rw [List.mapM_cons, bind_eq_ok]
    constructor
    · rintro ⟨b, first, done⟩
      obtain ⟨rest, others, same⟩ := bind_eq_ok.mp done
      cases same
      rw [List.map_cons, first, ih.mp others, List.map_cons]
    · intro each
      cases bs with
      | nil => cases each
      | cons b bs =>
        obtain ⟨first, others⟩ := List.cons.inj each
        exact ⟨b, first, by rw [ih.mpr others]; rfl⟩

/-- The values of a list of steps are in step with it. -/
theorem mapM_eq_ok_iff_forall₂ {f : α → Except ε β} {as : List α} {bs : List β} :
    as.mapM f = .ok bs ↔ List.Forall₂ (fun a b => f a = .ok b) as bs := by
  rw [mapM_eq_ok, ← List.forall₂_eq_eq_eq, List.forall₂_map_left_iff, List.forall₂_map_right_iff]

/-- A list of steps fails as its first step that fails. -/
theorem mapM_eq_error {f : α → Except ε β} {as : List α} {e : ε} :
    as.mapM f = .error e ↔ ∃ before a after bs,
      as = before ++ a :: after ∧ before.mapM f = .ok bs ∧ f a = .error e := by
  constructor
  · intro failed
    induction as with
    | nil => cases failed
    | cons a as ih =>
      rcases bind_eq_error.mp (List.mapM_cons.symm.trans failed) with first | ⟨b, first, rest⟩
      · exact ⟨[], a, as, [], rfl, rfl, first⟩
      · rcases bind_eq_error.mp rest with later | ⟨bs, _, done⟩
        · obtain ⟨before, c, after, bs, rfl, good, fails⟩ := ih later
          refine ⟨a :: before, c, after, b :: bs, rfl, ?_, fails⟩
          rw [List.mapM_cons, first, good]
          rfl
        · cases done
  · rintro ⟨before, a, after, bs, rfl, good, fails⟩
    rw [List.mapM_append, good, List.mapM_cons, fails]
    rfl

/-- What a step keeps of the elements that are done, a run of steps keeps. -/
theorem foldlM_keeps {f : β → α → Except ε β} {motive : List α → β → Prop} {as : List α}
    (step : ∀ done b a next, a ∈ as → motive done b → f b a = .ok next → motive (done ++ [a]) next) {done : List α}
    {b c : β} (before : motive done b) (ran : as.foldlM f b = .ok c) : motive (done ++ as) c := by
  induction as generalizing done b with
  | nil =>
    cases ran
    rwa [List.append_nil]
  | cons a as ih =>
    obtain ⟨next, first, further⟩ := bind_eq_ok.mp (List.foldlM_cons.symm.trans ran)
    rw [← List.singleton_append, ← List.append_assoc]
    refine ih (fun done b a next inside => step done b a next (List.mem_cons_of_mem _ inside)) ?_ further
    exact step done b a next List.mem_cons_self before first

/-- A list of steps that fails has a step that fails. -/
theorem exists_of_mapM_error {f : α → Except ε β} {as : List α} {e : ε} (failed : as.mapM f = .error e) :
    ∃ a ∈ as, f a = .error e := by
  obtain ⟨before, a, after, _, rfl, _, fails⟩ := mapM_eq_error.mp failed
  exact ⟨a, List.mem_append_right _ List.mem_cons_self, fails⟩

/-- What is in step with a list has a partner in it. -/
theorem exists_of_forall₂ {r : α → β → Prop} {as : List α} {bs : List β} (inStep : List.Forall₂ r as bs) {a : α}
    (listed : a ∈ as) : ∃ b ∈ bs, r a b := by
  induction inStep with
  | nil => cases listed
  | cons first _ ih =>
    rcases List.mem_cons.mp listed with rfl | listed
    · exact ⟨_, List.mem_cons_self, first⟩
    · obtain ⟨b, inside, related⟩ := ih listed
      exact ⟨b, List.mem_cons_of_mem _ inside, related⟩

end Tabular
