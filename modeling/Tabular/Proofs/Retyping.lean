import Tabular.Proofs.Deliveries
import Tabular.Proofs.Numerals

/-!
# Retyping

A column of delimited text that is declared with another type than that of strings. Declared with integers it gives
what a cast of the strings to integers gives, and fails where that cast fails; declared with truth values it gives,
where it gives anything, what the cast gives (`FileStore.retyped_recast`). Casts know more words for truth values
than cells do.
-/

namespace Tabular

/-- In every column of strings, a text is cast to a value of a type: the cast succeeds if it does on the other cells,
and puts the value where the text was. -/
def Kernel.Turns (text : String) (type : DataType) (v : type.Carrier) : Prop :=
  ∀ before after c, cast ⟨.sql .string, before ++ some text :: after⟩ type = .ok c ↔
    ∃ first last, cast ⟨.sql .string, before⟩ type = .ok ⟨.sql type, first⟩ ∧
      cast ⟨.sql .string, after⟩ type = .ok ⟨.sql type, last⟩ ∧ c = ⟨.sql type, first ++ some v :: last⟩

namespace Kernel

variable {type : DataType} {f : String → Except CastFault type.Carrier} {cells : List (Option String)} {c : Column}

/-! ## Casts of strings -/

theorem cast_string_eq_ok_iff (differ : .string ≠ type) (converts : conversion? .string type = some f) :
    cast ⟨.sql .string, cells⟩ type = .ok c ↔
      ∃ converted, cells.mapM (convertCell f) = .ok converted ∧ ⟨.sql type, converted⟩ = c := by
  rw [cast_eq_ok_iff differ converts (by cases type <;> rfl), convertCells_eq_mapM]

theorem cast_string_eq_ok_mk_iff (differ : .string ≠ type) (converts : conversion? .string type = some f)
    {converted : List (Option type.Carrier)} :
    cast ⟨.sql .string, cells⟩ type = .ok ⟨.sql type, converted⟩ ↔ cells.mapM (convertCell f) = .ok converted := by
  rw [cast_string_eq_ok_iff differ converts]
  constructor
  · rintro ⟨other, done, same⟩
    cases same
    exact done
  · intro done
    exact ⟨converted, done, rfl⟩

theorem convertCell_some_iff {α β : Type} {f : α → Except CastFault β} {x : α} {v : β} :
    convertCell f (some x) = .ok (some v) ↔ f x = .ok v := by
  rw [convertCell, map_eq_ok]
  simp

theorem turns_iff (differ : .string ≠ type) (converts : conversion? .string type = some f) {text : String}
    {v : type.Carrier} : Turns text type v ↔ f text = .ok v := by
  constructor
  · intro turns
    have alone : cast ⟨.sql .string, [some text]⟩ type = .ok ⟨.sql type, [some v]⟩ := by
      refine (turns [] [] _).mpr ⟨[], [], ?_, ?_, rfl⟩
      · exact (cast_string_eq_ok_mk_iff differ converts).mpr rfl
      · exact (cast_string_eq_ok_mk_iff differ converts).mpr rfl
    have cell := mapM_eq_ok.mp ((cast_string_eq_ok_mk_iff differ converts).mp alone)
    exact convertCell_some_iff.mp (List.cons.inj cell).1
  · intro done before after c
    rw [cast_string_eq_ok_iff differ converts]
    simp only [cast_string_eq_ok_mk_iff differ converts]
    have here : convertCell f (some text) = .ok (some v) := convertCell_some_iff.mpr done
    constructor
    · rintro ⟨converted, all, rfl⟩
      rw [List.mapM_append, List.mapM_cons, here] at all
      obtain ⟨first, left, rest⟩ := bind_eq_ok.mp all
      obtain ⟨others, right, same⟩ := bind_eq_ok.mp rest
      obtain ⟨_, found, further⟩ := bind_eq_ok.mp right
      obtain ⟨last, final, ended⟩ := bind_eq_ok.mp further
      cases found
      cases ended
      cases same
      exact ⟨first, last, left, final, rfl⟩
    · rintro ⟨first, last, left, right, rfl⟩
      refine ⟨_, ?_, rfl⟩
      rw [List.mapM_append, List.mapM_cons, here, left, right]
      rfl

end Kernel

namespace Delimited

/-! ## Cells -/

/-- What a column of strings holds for the text of a cell. -/
def stringCell (text : String) : Option String := if text = "" then none else some text

theorem readCell_string (text : String) : readCell .string text = .ok (stringCell text) := by
  by_cases empty : text = ""
  · simp [readCell, stringCell, empty]
  · simp [readCell, stringCell, empty, readValue, Except.map]

theorem readValue_int_iff {text : String} (tight : Text.Tight text) {i : Int64} :
    readValue .int64 text = .ok i ↔ Numeral.Writes text.toList i.toInt := by
  rw [readValue, Text.trim_of_tight tight, mapError_eq_ok, Numeral.readInt_eq_ok_iff]

theorem intOfString_iff {text : String} {i : Int64} :
    Kernel.intOfString text = .ok i ↔ Numeral.Writes text.toList i.toInt := by
  rw [Kernel.intOfString, mapError_eq_ok, Numeral.readInt_eq_ok_iff]

theorem readBool?_of_readValue {text : String} {b : Bool} (read : readValue .bool text = .ok b) :
    readBool? text = some b := by
  rw [readValue] at read
  cases word : readBool? text with
  | none =>
    rw [word] at read
    cases read
  | some other =>
    rw [word] at read
    exact congrArg some (Except.ok.inj read)

/-- The words for truth values in cells are words for the same ones in casts. -/
theorem boolOfString_of_readBool? {text : String} {b : Bool} (read : readBool? text = some b) :
    Kernel.boolOfString text = .ok b := by
  have trueInside : ∀ word ∈ trueCells, Kernel.trueWords.contains word = true := by decide
  have falseInside : ∀ word ∈ falseCells, Kernel.trueWords.contains word = false ∧
    Kernel.falseWords.contains word = true := by decide
  simp only [readBool?] at read
  simp only [Kernel.boolOfString]
  by_cases yes : trueCells.contains (Text.lower (Text.trim text)) = true
  · rw [if_pos yes] at read
    rw [if_pos (trueInside _ (List.contains_iff_mem.mp yes)), Option.some.inj read]
  · rw [if_neg yes] at read
    by_cases no : falseCells.contains (Text.lower (Text.trim text)) = true
    · rw [if_pos no] at read
      obtain ⟨other, known⟩ := falseInside _ (List.contains_iff_mem.mp no)
      rw [other, if_neg Bool.false_ne_true, if_pos known, Option.some.inj read]
    · rw [if_neg no] at read
      cases read

/-- Of a text without blanks around it, cells of integers and casts to them make the same. -/
theorem readCell_int_iff {text : String} (tight : Text.Tight text) {cell : Option Int64} :
    readCell .int64 text = .ok cell ↔ Kernel.convertCell Kernel.intOfString (stringCell text) = .ok cell := by
  by_cases empty : text = ""
  · simp [readCell, stringCell, empty, Kernel.convertCell]
  · rw [readCell, if_neg empty, stringCell, if_neg empty, Kernel.convertCell, map_eq_ok, map_eq_ok]
    exact exists_congr fun i => and_congr_left' ((readValue_int_iff tight).trans intOfString_iff.symm)

theorem convertCell_of_readCell_bool {text : String} {cell : Option Bool} (read : readCell .bool text = .ok cell) :
    Kernel.convertCell Kernel.boolOfString (stringCell text) = .ok cell := by
  by_cases empty : text = ""
  · rw [readCell, if_pos empty] at read
    obtain rfl := Except.ok.inj read
    rw [stringCell, if_pos empty, Kernel.convertCell]
  · rw [readCell, if_neg empty] at read
    obtain ⟨b, found, rfl⟩ := map_eq_ok.mp read
    rw [stringCell, if_neg empty, Kernel.convertCell, boolOfString_of_readBool? (readBool?_of_readValue found)]
    rfl

/-- The values that cells of a type read are those that casts make of their texts. -/
theorem readCell_turns {text : String} (filled : text ≠ "") (solid : Text.Tight text) :
    (∀ v : Int64, readCell .int64 text = .ok (some v) ↔ Kernel.Turns text .int64 v) ∧
      (∀ v : Int64, readCell .int64 text = .ok (some v) ↔ Numeral.Writes text.toList v.toInt) ∧
      ∀ v : Bool, readCell .bool text = .ok (some v) → Kernel.Turns text .bool v := by
  have cell : stringCell text = some text := if_neg filled
  have int : ∀ v : Int64, readCell .int64 text = .ok (some v) ↔ Kernel.intOfString text = .ok v := by
    intro v
    rw [readCell_int_iff solid, cell, Kernel.convertCell_some_iff]
  refine ⟨?_, ?_, ?_⟩
  · intro v
    have differ : DataType.string ≠ .int64 := by decide
    exact (int v).trans (Kernel.turns_iff differ rfl).symm
  · intro v
    exact (int v).trans intOfString_iff
  · intro v read
    have differ : DataType.string ≠ .bool := by decide
    have converted := convertCell_of_readCell_bool read
    rw [cell, Kernel.convertCell_some_iff] at converted
    exact (Kernel.turns_iff differ rfl).mpr converted

/-! ## Records -/

/-- The columns, with another type for the one at a position. -/
def retype (columns : List ColumnDef) (i : Nat) (name : String) (type : DataType) : List ColumnDef :=
  columns.set i ⟨name, type⟩

/-- The record has nothing at a position that is no cell of the type. -/
def Readable (i : Nat) (type : DataType) (r : Record) : Prop :=
  ∀ text, r.cells[i]? = some text → ∃ cell, readCell type text = .ok cell

variable {columns : List ColumnDef} {i : Nat} {name : String} {type : DataType}

theorem clean_iff {line : Nat} {cells : List String} : cellFault? line columns cells = none ↔
    ∀ (j : Nat) (c : ColumnDef) (text : String), columns[j]? = some c → cells[j]? = some text →
      ∃ cell, readCell c.type text = .ok cell := by
  rw [cellFault?_eq_none_iff]
  constructor
  · intro each j c text column place
    exact each (c, text) (List.mem_of_getElem? (List.getElem?_zip_eq_some.mpr ⟨column, place⟩))
  · rintro each ⟨c, text⟩ listed
    obtain ⟨j, found⟩ := List.mem_iff_getElem?.mp listed
    obtain ⟨column, place⟩ := List.getElem?_zip_eq_some.mp found
    exact each j c text column place

theorem recordFault?_retype (strings : columns[i]? = some ⟨name, .string⟩) (r : Record) :
    recordFault? (retype columns i name type) r = none ↔ recordFault? columns r = none ∧ Readable i type r := by
  have inside : i < columns.length := (List.getElem?_eq_some_iff.mp strings).1
  rw [recordFault?, recordFault?, retype, List.length_set]
  by_cases width : r.cells.length = columns.length
  · rw [if_pos width, if_pos width, clean_iff, clean_iff]
    constructor
    · intro each
      constructor
      · intro j c text column place
        by_cases here : j = i
        · -- Declared with strings the column reads every text.
          subst here
          rw [strings] at column
          cases column
          exact ⟨_, readCell_string text⟩
        · exact each j c text (by rwa [List.getElem?_set_ne (Ne.symm here)]) place
      · intro text place
        exact each i ⟨name, type⟩ text (List.getElem?_set_self inside) place
    · rintro ⟨each, readable⟩ j c text column place
      by_cases here : j = i
      · subst here
        rw [List.getElem?_set_self inside] at column
        cases column
        exact readable text place
      · rw [List.getElem?_set_ne (Ne.symm here)] at column
        exact each j c text column place
  · rw [if_neg width, if_neg width]
    simp

theorem gather_retype (strings : columns[i]? = some ⟨name, .string⟩) {count : Nat} {left : List Delivery}
    {records : List Record} : (gather (retype columns i name type) count left).1 = .ok records ↔
      (gather columns count left).1 = .ok records ∧ ∀ r ∈ records, Readable i type r := by
  simp only [gather_eq_ok_iff, recordFault?_retype strings, imp_and, forall_and, and_assoc]

theorem records_of_gather {count : Nat} {left : List Delivery} {records : List Record}
    (done : (gather columns count left).1 = .ok records) : ∀ r ∈ records, .ok r ∈ left := by
  intro r listed
  refine List.mem_of_mem_take (i := count) ?_
  rw [(gather_eq_ok_iff.mp done).1]
  exact List.mem_map_of_mem listed

/-! ## Batches -/

theorem getElem?_rowsBatch (records : List Record) (j : Nat) :
    (rowsBatch columns records).columns[j]? = columns[j]?.map (columnAt records j) := by
  simp [rowsBatch, Function.comp_def]

theorem columns_rowsBatch_retype (inside : i < columns.length) (records : List Record) :
    (rowsBatch (retype columns i name type) records).columns =
      (rowsBatch columns records).columns.set i (columnAt records i ⟨name, type⟩) := by
  apply List.ext_getElem?
  intro j
  rw [getElem?_rowsBatch, retype]
  by_cases here : i = j
  · subst here
    have counted : i < (rowsBatch columns records).columns.length := by simpa [rowsBatch] using inside
    rw [List.getElem?_set_self inside, List.getElem?_set_self counted]
    rfl
  · rw [List.getElem?_set_ne here, List.getElem?_set_ne here, getElem?_rowsBatch]

variable {f : String → Except CastFault type.Carrier}

theorem cast_columnAt_iff (differ : .string ≠ type) (converts : Kernel.conversion? .string type = some f)
    (records : List Record) {c : Column} : Kernel.cast (columnAt records i ⟨name, .string⟩).column type = .ok c ↔
      ∃ cells, List.Forall₂ (fun r cell => Kernel.convertCell f (stringCell (r.cells[i]?.getD "")) = .ok cell)
        records cells ∧ ⟨.sql type, cells⟩ = c := by
  have strings : (columnAt records i ⟨name, .string⟩).column =
      ⟨.sql .string, records.map fun r => stringCell (r.cells[i]?.getD "")⟩ := by
    rw [columnAt]
    simp only [readCell_string]
    rfl
  rw [strings, Kernel.cast_string_eq_ok_iff differ converts]
  simp only [mapM_eq_ok_iff_forall₂, List.forall₂_map_left_iff]

/-! ## Answers -/

/-- Records have texts without blanks around them at a position. -/
def TightAt (i : Nat) (left : List Delivery) : Prop :=
  ∀ r, .ok r ∈ left → ∀ text, r.cells[i]? = some text → Text.Tight text

/-- From an answer with strings at a position to one with their cast in their place. -/
inductive Recast (i : Nat) (type : DataType) : Answer → Answer → Prop
  | ended : Recast i type (.ok none) (.ok none)
  | batch {strings typed : Batch} {texts : NamedColumn} {c : Column} (here : strings.columns[i]? = some texts)
      (cast : Kernel.cast texts.column type = .ok c) (columns : typed.columns = strings.columns.set i ⟨texts.name, c⟩)
      (rows : typed.rowCount = strings.rowCount) : Recast i type (.ok (some strings)) (.ok (some typed))

theorem Recast.unique {strings first second : Answer} (recast : Recast i type strings first)
    (other : Recast i type strings second) : first = second := by
  cases recast with
  | ended =>
    cases other
    rfl
  | batch here cast columns rows =>
    cases other with
    | batch here' cast' columns' rows' =>
      cases here.symm.trans here'
      cases cast.symm.trans cast'
      rw [Batch.eq_of_columns (columns.trans columns'.symm) (rows.trans rows'.symm)]

theorem Recast.good {strings typed : Answer} (recast : Recast i type strings typed) : ∃ b, typed = .ok b := by
  cases recast with
  | ended => exact ⟨none, rfl⟩
  | batch => exact ⟨some _, rfl⟩

variable {size : Nat} {left : List Delivery} {a : Answer}

theorem answer_serve {records : List Record} (done : (gather columns size left).1 = .ok records) :
    (serve columns size left).1 = .ok (if records.isEmpty then none else some (rowsBatch columns records)) := by
  rw [serve, done]
  rfl

theorem rest_serve {records : List Record} (done : (gather columns size left).1 = .ok records) :
    (serve columns size left).2 = left.drop size := (gather_ok done).2

/-- A record with a tight text at the position, or with none there. -/
theorem TightAt.getD (tight : TightAt i left) {r : Record} (listed : .ok r ∈ left) :
    Text.Tight (r.cells[i]?.getD "") := by
  cases place : r.cells[i]? with
  | none => rintro c (first | last) <;> contradiction
  | some text => exact tight r listed text place

theorem TightAt.serve (tight : TightAt i left) {b : Option Batch} (good : (serve columns size left).1 = .ok b) :
    TightAt i (serve columns size left).2 := by
  obtain ⟨records, done, _⟩ := map_eq_ok.mp good
  intro r listed
  rw [rest_serve done] at listed
  exact tight r (List.mem_of_mem_drop listed)

theorem Readable.getD {r : Record} (readable : Readable i type r) :
    ∃ cell, readCell type (r.cells[i]?.getD "") = .ok cell := by
  cases place : r.cells[i]? with
  | none => exact ⟨none, by simp [readCell]⟩
  | some text => exact readable text place

section Declared

variable (strings : columns[i]? = some ⟨name, .string⟩) (differ : .string ≠ type)
    (converts : Kernel.conversion? .string type = some f)

include strings differ converts

theorem Recast.of_rowsBatch {records : List Record}
    (converted : ∀ r ∈ records, ∃ cell, readCell type (r.cells[i]?.getD "") = .ok cell ∧
      Kernel.convertCell f (stringCell (r.cells[i]?.getD "")) = .ok cell) :
    Recast i type (.ok (some (rowsBatch columns records)))
      (.ok (some (rowsBatch (retype columns i name type) records))) := by
  refine @Recast.batch i type _ _ (columnAt records i ⟨name, .string⟩) (columnAt records i ⟨name, type⟩).column
    ?_ ?_ ?_ rfl
  · rw [getElem?_rowsBatch, strings, Option.map_some]
  · refine (cast_columnAt_iff differ converts records).mpr ⟨_, ?_, rfl⟩
    rw [List.forall₂_map_right_iff, List.forall₂_same]
    intro r listed
    obtain ⟨cell, read, done⟩ := converted r listed
    rw [done, read]
    rfl
  · exact columns_rowsBatch_retype (List.getElem?_eq_some_iff.mp strings).1 records

theorem recast_serve
    (agrees : ∀ text, Text.Tight text → ∀ cell, readCell type text = .ok cell →
      Kernel.convertCell f (stringCell text) = .ok cell) (tight : TightAt i left) {b : Option Batch}
    (good : (serve (retype columns i name type) size left).1 = .ok b) :
    Recast i type (serve columns size left).1 (.ok b) ∧
      (serve (retype columns i name type) size left).2 = (serve columns size left).2 := by
  obtain ⟨records, done, same⟩ := map_eq_ok.mp good
  obtain ⟨plain, readable⟩ := (gather_retype strings).mp done
  refine ⟨?_, (rest_serve done).trans (rest_serve plain).symm⟩
  rw [answer_serve plain, ← same]
  by_cases empty : records.isEmpty = true
  · rw [if_pos empty, if_pos empty]
    exact .ended
  · rw [if_neg empty, if_neg empty]
    refine .of_rowsBatch strings differ converts ?_
    intro r listed
    obtain ⟨cell, read⟩ := (readable r listed).getD
    exact ⟨cell, read, agrees _ (tight.getD (records_of_gather plain r listed)) cell read⟩

theorem serve_of_recast
    (agrees : ∀ text, Text.Tight text → ∀ cell, Kernel.convertCell f (stringCell text) = .ok cell →
      readCell type text = .ok cell) (tight : TightAt i left)
    (recast : Recast i type (serve columns size left).1 a) :
    ∃ b, (serve (retype columns i name type) size left).1 = .ok b := by
  cases plain : (gather columns size left).1 with
  | error e =>
    -- An error is recast to nothing.
    rw [serve, plain] at recast
    cases recast
  | ok records =>
    refine ⟨_, answer_serve ((gather_retype strings).mpr ⟨plain, ?_⟩)⟩
    rw [answer_serve plain] at recast
    intro r listed text place
    rw [if_neg (by simpa using List.ne_nil_of_mem listed)] at recast
    generalize given : rowsBatch columns records = b at recast
    cases recast with
    | batch here cast _ _ =>
      rw [← given, getElem?_rowsBatch, strings, Option.map_some] at here
      cases here
      obtain ⟨cells, converted, _⟩ := (cast_columnAt_iff differ converts records).mp cast
      obtain ⟨cell, _, done⟩ := exists_of_forall₂ converted listed
      rw [place, Option.getD_some] at done
      exact ⟨cell, agrees text (tight r (records_of_gather plain r listed) text place) cell done⟩

theorem recast_answers
    (agrees : ∀ text, Text.Tight text → ∀ cell, readCell type text = .ok cell →
      Kernel.convertCell f (stringCell text) = .ok cell) (tight : TightAt i left) {calls : Nat}
    (good : ∀ a ∈ answers (retype columns i name type) size calls left, ∃ b, a = .ok b) :
    List.Forall₂ (Recast i type) (answers columns size calls left)
      (answers (retype columns i name type) size calls left) := by
  induction calls generalizing left with
  | zero => exact .nil
  | succ calls ih =>
    obtain ⟨⟨b, first⟩, others⟩ := List.forall_mem_cons.mp good
    obtain ⟨recast, rest⟩ := recast_serve strings differ converts agrees tight first
    rw [answers, answers, first, ← rest]
    exact .cons recast (ih (tight.serve first) others)

theorem answers_of_recast
    (agrees : ∀ text, Text.Tight text → ∀ cell, readCell type text = .ok cell ↔
      Kernel.convertCell f (stringCell text) = .ok cell) (tight : TightAt i left) {calls : Nat} {as : List Answer}
    (recast : List.Forall₂ (Recast i type) (answers columns size calls left) as) :
    answers (retype columns i name type) size calls left = as := by
  induction calls generalizing left as with
  | zero =>
    cases recast
    rfl
  | succ calls ih =>
    cases recast with
    | cons here others =>
      obtain ⟨b, first⟩ := serve_of_recast strings differ converts (fun text solid cell => (agrees text solid cell).mpr)
        tight here
      obtain ⟨same, rest⟩ := recast_serve strings differ converts (fun text solid cell => (agrees text solid cell).mp)
        tight first
      rw [answers, first, rest, ih (rest ▸ tight.serve first) others, here.unique same]

end Declared

end Delimited

/-! ## Reads of a file -/

namespace FileStore

open Delimited

/-- The read of a table whose column at a position is declared with another type. -/
def retyped (c : FileCursor) (i : Nat) (name : String) (type : DataType) : FileCursor :=
  { c with columns := retype c.columns i name type }

variable {s : FileStore} {c : FileCursor} {left : List Delivery} {i : Nat} {name : String}

theorem Faces.retyped (faces : s.Faces c left) (type : DataType) : s.Faces (retyped c i name type) left :=
  ⟨faces.ended, faces.atWork⟩

theorem polls_retyped_int (faces : s.Faces c left) (strings : c.columns[i]? = some ⟨name, .string⟩)
    (tight : TightAt i left) (calls : Nat) (as : List Answer) :
    (s.polls calls (retyped c i name .int64) = as ∧ ∀ a ∈ as, ∃ b, a = .ok b) ↔
      List.Forall₂ (Recast i .int64) (s.polls calls c) as := by
  have differ : DataType.string ≠ .int64 := by decide
  rw [faces.polls, (faces.retyped .int64).polls]
  constructor
  · rintro ⟨rfl, good⟩
    exact recast_answers strings differ rfl (fun _ solid _ => (readCell_int_iff solid).mp) tight good
  · intro recast
    refine ⟨answers_of_recast strings differ rfl (fun _ solid _ => readCell_int_iff solid) tight recast, ?_⟩
    intro a listed
    obtain ⟨_, _, related⟩ := exists_of_forall₂ recast.flip listed
    exact related.good

theorem polls_retyped_bool (faces : s.Faces c left) (strings : c.columns[i]? = some ⟨name, .string⟩)
    (tight : TightAt i left) (calls : Nat) (good : ∀ a ∈ s.polls calls (retyped c i name .bool), ∃ b, a = .ok b) :
    List.Forall₂ (Recast i .bool) (s.polls calls c) (s.polls calls (retyped c i name .bool)) := by
  have differ : DataType.string ≠ .bool := by decide
  rw [(faces.retyped .bool).polls] at good ⊢
  rw [faces.polls]
  exact recast_answers strings differ rfl (fun _ _ _ => convertCell_of_readCell_bool) tight good

/-- A text without blanks around it is read as an integer by a cell exactly if casts make that integer of it, in every
column of strings, and exactly if it is a numeral of it; what a cell reads as a truth value casts make the same of.
So polls of a file whose column of strings is declared with integers give, if they all give something, the batches
with the column cast, and they do if the strings can be read and cast; declared with truth values they give, if they
all give something, the batches with the column cast. -/
theorem retyped_recast :
    (∀ text, text ≠ "" → Text.Tight text →
      (∀ v : Int64, readCell .int64 text = .ok (some v) ↔ Kernel.Turns text .int64 v) ∧
      (∀ v : Int64, readCell .int64 text = .ok (some v) ↔ Numeral.Writes text.toList v.toInt) ∧
      ∀ v : Bool, readCell .bool text = .ok (some v) → Kernel.Turns text .bool v) ∧
    ∀ (s : FileStore) (c : FileCursor) (left : List Delivery) (i : Nat) (name : String), s.Faces c left →
      c.columns[i]? = some ⟨name, .string⟩ → TightAt i left → ∀ calls,
        (∀ as, (s.polls calls (retyped c i name .int64) = as ∧ ∀ a ∈ as, ∃ b, a = .ok b) ↔
          List.Forall₂ (Recast i .int64) (s.polls calls c) as) ∧
        ((∀ a ∈ s.polls calls (retyped c i name .bool), ∃ b, a = .ok b) →
          List.Forall₂ (Recast i .bool) (s.polls calls c) (s.polls calls (retyped c i name .bool))) := by
  constructor
  · intro text filled solid
    exact readCell_turns filled solid
  · intro s c left i name faces strings tight calls
    exact ⟨polls_retyped_int faces strings tight calls, polls_retyped_bool faces strings tight calls⟩

/-- A sign and zeros in front change nothing: the file holds `+007` below the header `n`. -/
theorem retyped_recast_padded :
    Kernel.Turns "+007" .int64 7 ∧
    List.Forall₂ (Recast 0 .int64)
      (polls ⟨{}, some ⟨[("t.csv", 0)], [.file [110, 10, 43, 48, 48, 55, 10]]⟩, []⟩ 2
        { columns := [⟨"n", .string⟩], file := 0 })
      (polls ⟨{}, some ⟨[("t.csv", 0)], [.file [110, 10, 43, 48, 48, 55, 10]]⟩, []⟩ 2
        (retyped { columns := [⟨"n", .string⟩], file := 0 } 0 "n" .int64)) := by
  obtain ⟨cells, reads⟩ := retyped_recast
  have solid : Text.Tight "+007" := by
    rintro c (first | last)
    · cases first
      decide
    · cases last
      decide
  constructor
  · exact ((cells "+007" (by decide) solid).1 7).mp (by decide)
  · refine ((reads _ _ [.ok ⟨2, ["+007"]⟩] 0 "n" ?_ rfl ?_ 2).1 _).mp ⟨rfl, ?_⟩
    · exact ⟨nofun, fun _ => .more rfl (.stop rfl)⟩
    · rintro r listed text place
      cases List.mem_singleton.mp listed
      cases place
      exact solid
    · intro a listed
      rcases List.mem_cons.mp listed with rfl | listed
      · exact ⟨_, rfl⟩
      · rcases List.mem_cons.mp listed with rfl | listed
        · exact ⟨_, rfl⟩
        · cases listed

end FileStore

end Tabular