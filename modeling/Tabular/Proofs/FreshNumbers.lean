import Tabular.Proofs.Registrations

/-!
# Fresh numbers

The numbers that a registry hands out. Each lies above all numbers that were handed out before or belong to a
registered table, and is the least that does, so it is fresh. The program stops where there is no number above: at a
request for a number once the last but one was used, and at a table under the greatest one
(`Registry.Leads.fresh_or_stops`).
-/

namespace Tabular.Registry

/-- The number that an answer hands out. -/
def Answer.handedOut? : Answer → Option TableId
  | number id => some id
  | described d => some d.id
  | registered _ => none
  | refused _ => none

/-- The numbers that were handed out, the latest first. -/
def handedOut (past : List Exchange) : List TableId := past.filterMap (·.answer.handedOut?)

/-- A number that was handed out, or is that of a registered table. -/
def Used (past : List Exchange) (id : TableId) : Prop :=
  id ∈ handedOut past ∨ ∃ t ∈ registered past, t.id = id

instance (past : List Exchange) (id : TableId) : Decidable (Used past id) := inferInstanceAs (Decidable (_ ∨ _))

variable {past : List Exchange} {now after : Registry} {q : Request} {a : Answer}

/-! ## One request -/

theorem used_handOut {given id : TableId} (handed : a.handedOut? = some given)
    (same : registered (⟨q, a⟩ :: past) = registered past) :
    Used (⟨q, a⟩ :: past) id ↔ Used past id ∨ given = id := by
  have numbers : handedOut (⟨q, a⟩ :: past) = given :: handedOut past := List.filterMap_cons_some handed
  rw [Used, numbers, List.mem_cons, same, Used]
  constructor
  · rintro ((rfl | before) | known)
    · exact Or.inr rfl
    · exact Or.inl (Or.inl before)
    · exact Or.inl (Or.inr known)
  · rintro ((before | known) | rfl)
    · exact Or.inl (Or.inr before)
    · exact Or.inr known
    · exact Or.inl (Or.inl rfl)

theorem used_register {t : TableDef} {id : TableId} :
    Used (⟨.register t, .registered t.id⟩ :: past) id ↔ Used past id ∨ t.id = id := by
  have tables : registered (⟨.register t, .registered t.id⟩ :: past) = registered past ++ [t] := rfl
  have numbers : handedOut (⟨.register t, .registered t.id⟩ :: past) = handedOut past := rfl
  rw [Used, tables, numbers, Used, or_assoc]
  simp only [List.mem_append, List.mem_singleton, or_and_right, exists_or, exists_eq_left]

theorem toNat_max (m n : UInt32) : (max m n).toNat = max m.toNat n.toNat := by
  rw [show max m n = if m ≤ n then n else m from rfl]
  split
  · simp_all [UInt32.le_iff_toNat_le]
  · simp_all [UInt32.le_iff_toNat_le]
    omega

/-- The next number is the least one above all that are used. -/
structure Least (past : List Exchange) (now : Registry) : Prop where
  above : ∀ id, Used past id → id.number.toNat < now.next.toNat
  least : now.next.toNat = 0 ∨ ∃ id, Used past id ∧ id.number.toNat + 1 = now.next.toNat

namespace Least

theorem empty : Least [] .empty where
  above id used := by simp [Used, handedOut, registered] at used
  least := Or.inl rfl

/-- Once the next number is handed out, the one after it is next. -/
theorem handOut (sofar : Least past now) {next : UInt32} (sum : next.toNat = now.next.toNat + 1)
    (used : ∀ id, Used (⟨q, a⟩ :: past) id ↔ Used past id ∨ ⟨now.next⟩ = id) :
    Least (⟨q, a⟩ :: past) { now with next } where
  above id inUse := by
    show _ < next.toNat
    rcases (used id).mp inUse with before | rfl
    · have below := sofar.above id before
      omega
    · show now.next.toNat < _
      omega
  least := Or.inr ⟨⟨now.next⟩, (used _).mpr (Or.inr rfl), sum.symm⟩

/-- The next number is raised above the number of a table that is registered. -/
theorem register (sofar : Least past now) {t : TableDef} {above : UInt32} (sum : above.toNat = t.id.number.toNat + 1)
    (catalog : Catalog) : Least (⟨.register t, .registered t.id⟩ :: past) ⟨catalog, max now.next above⟩ where
  above id inUse := by
    show _ < (max now.next above).toNat
    rw [toNat_max]
    rcases used_register.mp inUse with before | rfl
    · exact Nat.lt_of_lt_of_le (sofar.above id before) (Nat.le_max_left _ _)
    · omega
  least := by
    have next : (max now.next above).toNat = max now.next.toNat above.toNat := toNat_max _ _
    rcases Nat.le_total now.next.toNat above.toNat with raised | kept
    · refine Or.inr ⟨t.id, used_register.mpr (Or.inr rfl), ?_⟩
      rw [← sum, next, Nat.max_eq_right raised]
    · rw [Nat.max_eq_left kept] at next
      rcases sofar.least with zero | ⟨id, inUse, same⟩
      · omega
      · exact Or.inr ⟨id, used_register.mpr (Or.inl inUse), same.trans next.symm⟩

theorem step (sofar : Least past now) (does : Does (registered past) now q a after) : Least (⟨q, a⟩ :: past) after := by
  cases does with
  | number sum => exact sofar.handOut sum fun _ => used_handOut rfl rfl
  | describe sum => exact sofar.handOut sum fun _ => used_handOut rfl rfl
  | refuse => exact ⟨sofar.above, sofar.least⟩
  | register _ sum => exact sofar.register sum _

end Least

/-! ## Many requests -/

theorem Leads.least (sofar : Leads past now) : Least past now := by
  induction sofar with
  | nil => exact .empty
  | step sofar answered ih => exact ih.step (does_of_respond sofar.holds answered)

/-- The last number that is handed out. Above it there is one more, which never is. -/
def lastId : TableId := ⟨4294967294⟩

theorem Leads.next_eq_greatest_iff (sofar : Leads past now) : now.next = 4294967295 ↔ Used past lastId := by
  have greatest : now.next = 4294967295 ↔ now.next.toNat = 4294967295 := by
    rw [← UInt32.toNat_inj]
    rfl
  have lastNumber : lastId.number.toNat = 4294967294 := rfl
  have bound := now.next.toNat_lt
  rw [greatest]
  constructor
  · intro next
    rcases sofar.least.least with zero | ⟨id, inUse, same⟩
    · omega
    · have number : id.number.toNat = lastId.number.toNat := by omega
      have same : id = lastId := congrArg TableId.mk (UInt32.toNat_inj.mp number)
      exact same ▸ inUse
  · intro inUse
    have below := sofar.least.above lastId inUse
    omega

/-- Every number that is handed out is fresh, as the program stops where there is none: at a request for a number if the
last number was used, and else only at a table under the number after the last whose name is free. -/
theorem Leads.fresh_or_stops (sofar : Leads past now) :
    (∀ q a after, now.respond q = some (a, after) → ∀ id ∈ a.handedOut?,
      id ∉ handedOut past ∧ ∀ t ∈ registered past, t.id ≠ id) ∧
    (now.respond .number = none ↔ Used past lastId) ∧
    (∀ name columns, now.respond (.describe name columns) = none ↔ Used past lastId) ∧
    ∀ t, now.respond (.register t) = none ↔ ¬ t.TakenIn (registered past) ∧ t.id.number = 4294967295 := by
  have holds := sofar.holds
  refine ⟨fun q a after answered id given => ?_, ?_, fun name columns => ?_, fun t => ?_⟩
  · have next : id = ⟨now.next⟩ := by
      cases does_of_respond holds answered with
      | number => exact (Option.some.inj given).symm
      | describe => exact (Option.some.inj given).symm
      | refuse => cases given
      | register => cases given
    have unused : ¬ Used past id := fun inUse => by
      have below := sofar.least.above id inUse
      rw [next] at below
      exact Nat.lt_irrefl _ below
    refine ⟨fun handed => unused (Or.inl handed), fun t listed same => ?_⟩
    exact unused (Or.inr ⟨t, listed, same⟩)
  · rw [respond_eq_none_iff holds, ← sofar.next_eq_greatest_iff]
    exact ⟨fun | .number last => last, .number⟩
  · rw [respond_eq_none_iff holds, ← sofar.next_eq_greatest_iff]
    exact ⟨fun | .describe last _ _ => last, (.describe · name columns)⟩
  · rw [respond_eq_none_iff holds]
    exact ⟨fun | .register free last => ⟨free, last⟩, fun ⟨free, last⟩ => .register free last⟩

/-- A number that is registered is passed over. -/
theorem Leads.fresh_or_stops_passed : ∃ past now, Leads past now ∧
    past.map (·.answer) = [.number ⟨6⟩, .registered ⟨5⟩, .number ⟨0⟩] ∧ now.respond .number ≠ none ∧
    ∀ a after, now.respond .number = some (a, after) → ∀ id ∈ a.handedOut?, id ∉ handedOut past := by
  have sofar := ((Leads.nil.step (q := .number) rfl).step (q := .register ⟨⟨5⟩, "x", []⟩) rfl).step (q := .number) rfl
  obtain ⟨fresh, stops, _⟩ := sofar.fresh_or_stops
  refine ⟨_, _, sofar, rfl, mt stops.mp (by decide), fun a after answered id given => ?_⟩
  exact (fresh .number a after answered id given).1

/-- Not every request is answered: after the last number was registered none is handed out, and no table can be
registered under the number after it. -/
theorem not_always_answered :
    (∃ past now, Leads past now ∧ past.map (·.request) = [.register ⟨lastId, "t", []⟩, .number] ∧
      now.respond .number = none) ∧
    ∃ past now, Leads past now ∧ ¬ Sample.last.TakenIn (registered past) ∧
      now.respond (.register Sample.last) = none := by
  constructor
  · have sofar := (Leads.nil.step (q := .number) rfl).step (q := .register ⟨lastId, "t", []⟩) rfl
    exact ⟨_, _, sofar, rfl, rfl⟩
  · exact ⟨[], .empty, .nil, by simp [TableDef.TakenIn, registered], rfl⟩

end Tabular.Registry
