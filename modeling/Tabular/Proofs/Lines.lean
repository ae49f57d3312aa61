import Mathlib.Data.List.Basic
import Tabular.Config
import Tabular.Delimited.Record
import Tabular.Proofs.Utf8

/-!
# Lines

Texts that are written as they are, with a delimiter between them and a line feed behind, are read as the
cells of one record (`Reader.nextRaw_line`). Empty lines before them are passed over.
-/

namespace Tabular.Delimited

/-- The bytes of a line of cells. -/
def line (delimiter : UInt8) (cells : List String) : List UInt8 :=
  [delimiter].intercalate (cells.map Text.bytes) ++ [10]

/-- A text that means itself between delimiters: it has neither the delimiter nor a quote, a line end or a
byte order mark. -/
def Plain (delimiter : UInt8) (text : String) : Prop :=
  ∀ c ∈ text.toList, c.toNat ≠ delimiter.toNat ∧ c ≠ '"' ∧ c ≠ '\r' ∧ c ≠ '\n' ∧ c ≠ '\uFEFF'

instance (delimiter : UInt8) (text : String) : Decidable (Plain delimiter text) := List.decidableBAll _ _

/-- A byte that means itself outside quotes. -/
def PlainByte (delimiter b : UInt8) : Prop := b ≠ delimiter ∧ b ≠ quote ∧ isTerminator b = false

variable {delimiter : UInt8}

theorem allowed_cases (allowed : Config.allowsDelimiter delimiter = true) :
    delimiter.toNat < 128 ∧ delimiter ≠ quote ∧ delimiter ≠ 10 := by
  simpa [Config.allowsDelimiter, quote, UInt8.lt_iff_toNat_lt, and_assoc] using allowed

theorem Plain.bytes {text : String} (plain : Plain delimiter text)
    (allowed : Config.allowsDelimiter delimiter = true) : ∀ b ∈ Text.bytes text, PlainByte delimiter b := by
  intro b listed
  have other {special : UInt8} (ascii : special.toNat < 128) (absent : ∀ c ∈ text.toList, c.toNat ≠ special.toNat) :
      b ≠ special := by
    rintro rfl
    obtain ⟨c, inside, same⟩ := Text.exists_of_mem_bytes listed ascii
    exact absent c inside same
  have apart {c d : Char} (differ : c ≠ d) : c.toNat ≠ d.toNat := fun same => differ (Char.toNat_inj.mp same)
  refine ⟨other (allowed_cases allowed).1 fun c inside => (plain c inside).1, ?_, ?_⟩
  · exact other (by decide) fun c inside => apart (plain c inside).2.1
  · have noReturn : b ≠ 13 := other (by decide) fun c inside => apart (plain c inside).2.2.1
    have noFeed : b ≠ 10 := other (by decide) fun c inside => apart (plain c inside).2.2.2.1
    simp [isTerminator, noReturn, noFeed]

/-! ## Cells of a line -/

/-- A line begins with its first cell. -/
theorem exists_line_cons (delimiter : UInt8) (text : String) (texts : List String) :
    ∃ rest, line delimiter (text :: texts) = Text.bytes text ++ rest := by
  cases texts with
  | nil => exact ⟨[10], by rw [line, List.map_singleton, List.intercalate_singleton]⟩
  | cons next texts =>
    refine ⟨delimiter :: line delimiter (next :: texts), ?_⟩
    rw [line, line, List.map_cons, List.map_cons, List.intercalate_cons_cons]
    simp

/-- Plain bytes become part of the cell. -/
theorem scanCells_plain {bytes : List UInt8} (plain : ∀ b ∈ bytes, PlainByte delimiter b) {state : CellState}
    (outside : state = .start ∨ state = .plain) (cell : List UInt8) (p : Position) (rest : List UInt8) :
    ∃ after q, (after = .start ∨ after = .plain) ∧
      scanCells delimiter state cell p (bytes ++ rest) = scanCells delimiter after (bytes.reverse ++ cell) q rest := by
  induction bytes generalizing state cell p with
  | nil => exact ⟨state, p, outside, rfl⟩
  | cons b bytes ih =>
    obtain ⟨noDelimiter, noQuote, noEnd⟩ := plain b List.mem_cons_self
    have step : scanCells delimiter state cell p (b :: (bytes ++ rest)) =
        scanCells delimiter .plain (b :: cell) (p.step b) (bytes ++ rest) := by
      rcases outside with rfl | rfl <;> simp [scanCells, noDelimiter, noQuote, noEnd]
    obtain ⟨after, q, still, same⟩ :=
      ih (fun c listed => plain c (List.mem_cons_of_mem _ listed)) (Or.inr rfl) (b :: cell) (p.step b)
    refine ⟨after, q, still, ?_⟩
    rw [List.cons_append, step, same, List.reverse_cons, List.append_assoc]
    rfl

theorem scanCells_delimiter (allowed : Config.allowsDelimiter delimiter = true) {state : CellState}
    (outside : state = .start ∨ state = .plain) (cell : List UInt8) (p : Position) (rest : List UInt8) :
    scanCells delimiter state cell p (delimiter :: rest) =
      (scanCells delimiter .start [] (p.step delimiter) rest).prepend cell.reverse := by
  obtain ⟨_, noQuote, _⟩ := allowed_cases allowed
  rcases outside with rfl | rfl <;> simp [scanCells, noQuote]

theorem scanCells_end (allowed : Config.allowsDelimiter delimiter = true) {state : CellState}
    (outside : state = .start ∨ state = .plain) (cell : List UInt8) (p : Position) (rest : List UInt8) :
    scanCells delimiter state cell p (10 :: rest) = ⟨[cell.reverse], p.step 10, rest, true⟩ := by
  obtain ⟨_, _, noFeed⟩ := allowed_cases allowed
  rcases outside with rfl | rfl <;> simp [scanCells, quote, noFeed.symm, isTerminator]

/-- The cells of a line are found. -/
theorem scanCells_line (allowed : Config.allowsDelimiter delimiter = true) {text : String} {texts : List String}
    (plain : ∀ t ∈ text :: texts, Plain delimiter t) (p : Position) (rest : List UInt8) :
    ∃ q, scanCells delimiter .start [] p (line delimiter (text :: texts) ++ rest) =
      ⟨(text :: texts).map Text.bytes, q, rest, true⟩ := by
  induction texts generalizing text p with
  | nil =>
    obtain ⟨after, q, outside, found⟩ := scanCells_plain ((plain text List.mem_cons_self).bytes allowed)
      (Or.inl rfl) [] p (10 :: rest)
    have whole : line delimiter [text] ++ rest = Text.bytes text ++ 10 :: rest := by
      rw [line, List.map_singleton, List.intercalate_singleton, List.append_assoc]
      rfl
    refine ⟨q.step 10, ?_⟩
    rw [whole, found, scanCells_end allowed outside, List.append_nil, List.reverse_reverse, List.map_singleton]
  | cons next texts ih =>
    have whole : line delimiter (text :: next :: texts) ++ rest =
        Text.bytes text ++ delimiter :: (line delimiter (next :: texts) ++ rest) := by
      rw [line, line, List.map_cons, List.map_cons, List.intercalate_cons_cons]
      simp
    obtain ⟨after, q, outside, found⟩ := scanCells_plain ((plain text List.mem_cons_self).bytes allowed)
      (Or.inl rfl) [] p (delimiter :: (line delimiter (next :: texts) ++ rest))
    obtain ⟨final, others⟩ := ih (fun t listed => plain t (List.mem_cons_of_mem _ listed)) (q.step delimiter)
    refine ⟨final, ?_⟩
    rw [whole, found, scanCells_delimiter allowed outside, others, List.append_nil, List.reverse_reverse]
    rfl

/-! ## Empty lines -/

/-- Empty lines before something else are passed over. -/
theorem skipTerminators_feeds (n : Nat) (p : Position) {b : UInt8} (shows : isTerminator b = false)
    (rest : List UInt8) : ∃ q, skipTerminators p (List.replicate n 10 ++ b :: rest) = (q, b :: rest) := by
  induction n generalizing p with
  | zero => exact ⟨p, by simp [skipTerminators, shows]⟩
  | succ n ih =>
    obtain ⟨q, skipped⟩ := ih (p.step 10)
    refine ⟨q, ?_⟩
    rw [List.replicate_succ, List.cons_append, skipTerminators, if_pos (show isTerminator 10 = true from rfl), skipped]

theorem skipTerminators_only_feeds (n : Nat) (p : Position) :
    ∃ q, skipTerminators p (List.replicate n 10) = (q, []) := by
  induction n generalizing p with
  | zero => exact ⟨p, rfl⟩
  | succ n ih =>
    obtain ⟨q, skipped⟩ := ih (p.step 10)
    refine ⟨q, ?_⟩
    rw [List.replicate_succ, skipTerminators, if_pos (show isTerminator 10 = true from rfl), skipped]

/-! ## Lines that are seen -/

/-- Cells whose line does not begin with a line end. One empty cell makes an empty line, and a carriage
return may be the delimiter. -/
structure Shown (delimiter : UInt8) (cells : List String) : Prop where
  nonempty : cells ≠ []
  notEmptyLine : cells ≠ [""]
  leads : delimiter = 13 → cells.head? ≠ some ""

theorem exists_of_mark {bytes : List UInt8} (mark : byteOrderMark.isPrefixOf bytes = true) :
    ∃ rest, bytes = 0xEF :: 0xBB :: 0xBF :: rest := by
  rcases bytes with _ | ⟨a, _ | ⟨b, _ | ⟨c, rest⟩⟩⟩ <;> simp [byteOrderMark, List.isPrefixOf] at mark
  obtain ⟨rfl, rfl, rfl⟩ := mark
  exact ⟨rest, rfl⟩

/-- A byte order mark is the bytes of one character. -/
theorem eq_of_mark {c : Char} {rest : List UInt8}
    (mark : byteOrderMark.isPrefixOf (String.utf8EncodeChar c ++ rest) = true) : c = '\uFEFF' := by
  obtain ⟨more, same⟩ := exists_of_mark mark
  have read := Text.decodeChar_encode c rest
  have marked : Text.decodeChar (0xEF :: 0xBB :: 0xBF :: more) = some ('\uFEFF', more) :=
    Text.decodeChar_encode '\uFEFF' more
  rw [same, marked] at read
  exact (Prod.mk.inj (Option.some.inj read)).1.symm

/-- The first byte of a line that is seen is no line end, and the line does not begin with a byte order
mark. -/
theorem Shown.first (allowed : Config.allowsDelimiter delimiter = true) {cells : List String}
    (shown : Shown delimiter cells) (plain : ∀ t ∈ cells, Plain delimiter t) :
    ∃ b rest, line delimiter cells = b :: rest ∧ isTerminator b = false ∧
      ∀ more, byteOrderMark.isPrefixOf (b :: rest ++ more) = false := by
  obtain ⟨nonempty, notEmptyLine, leads⟩ := shown
  obtain ⟨ascii, _, noFeed⟩ := allowed_cases allowed
  obtain ⟨text, texts, rfl⟩ := List.exists_cons_of_ne_nil nonempty
  by_cases empty : text = ""
  · subst empty
    obtain ⟨next, texts, rfl⟩ := List.exists_cons_of_ne_nil fun none => notEmptyLine (congrArg _ none)
    refine ⟨delimiter, line delimiter (next :: texts), rfl, ?_, fun more => ?_⟩
    · have noReturn : delimiter ≠ 13 := fun same => leads same rfl
      simp [isTerminator, noReturn, noFeed]
    · rw [← Bool.not_eq_true]
      intro mark
      obtain ⟨_, same⟩ := exists_of_mark mark
      rw [(List.cons.inj same).1] at ascii
      exact absurd ascii (by decide)
  · obtain ⟨c, cs, spelled⟩ := List.exists_cons_of_ne_nil (mt String.toList_eq_nil_iff.mp empty)
    obtain ⟨rest, begins⟩ := exists_line_cons delimiter text texts
    have bytes : Text.bytes text = String.utf8EncodeChar c ++ cs.flatMap String.utf8EncodeChar := by
      rw [Text.bytes_eq, spelled, List.flatMap_cons]
    obtain ⟨b, others, encoded⟩ := List.exists_cons_of_ne_nil (String.utf8EncodeChar_ne_nil (c := c))
    have plainText := plain text List.mem_cons_self
    refine ⟨b, others ++ (cs.flatMap String.utf8EncodeChar ++ rest), ?_, ?_, fun more => ?_⟩
    · rw [begins, bytes, encoded]
      simp
    · refine (plainText.bytes allowed b ?_).2.2
      rw [bytes, encoded]
      exact List.mem_cons_self
    · rw [← Bool.not_eq_true, ← List.cons_append, ← encoded, List.append_assoc]
      intro mark
      refine (plainText c ?_).2.2.2.2 (eq_of_mark mark)
      rw [spelled]
      exact List.mem_cons_self

/-! ## Records of lines -/

namespace Reader

/-- Empty lines are no byte order mark, and hide one that follows them. -/
theorem atMark_feeds {r : Reader} {n : Nat} {rest : List UInt8} (before : r.bytes = List.replicate n 10 ++ rest)
    (unmarked : byteOrderMark.isPrefixOf rest = false) : r.atMark = false := by
  rw [atMark, before, Bool.and_eq_false_iff]
  cases n with
  | zero => exact Or.inr unmarked
  | succ n => exact Or.inr rfl

/-- A line that is seen is the next record, if it has as many cells as the records before it. -/
theorem nextRaw_line (allowed : Config.allowsDelimiter delimiter = true) {cells : List String}
    (shown : Shown delimiter cells) (plain : ∀ t ∈ cells, Plain delimiter t) {r : Reader} {n : Nat}
    {more : List UInt8} (before : r.bytes = List.replicate n 10 ++ (line delimiter cells ++ more))
    (width : r.width.getD cells.length = cells.length) :
    ∃ next, r.nextRaw delimiter = some (.ok (cells.map Text.bytes), next) ∧
      next.width = some cells.length ∧ next.bytes = more ∧ next.fault = r.fault := by
  obtain ⟨b, rest, begins, shows, noMark⟩ := shown.first allowed plain
  have unmarked : r.atMark = false := atMark_feeds before (begins ▸ noMark more)
  obtain ⟨p, skipped⟩ := skipTerminators_feeds n r.position shows (rest ++ more)
  obtain ⟨text, texts, rfl⟩ := List.exists_cons_of_ne_nil shown.nonempty
  obtain ⟨q, found⟩ := scanCells_line allowed plain p more
  have scanned : r.scan delimiter = some ⟨(text :: texts).map Text.bytes, q, more, true⟩ := by
    rw [scan, if_neg (by simp [unmarked]), scanRecord, before, begins, List.cons_append, skipped]
    rw [begins, List.cons_append] at found
    exact congrArg some found
  have same : r.width.getD ((text :: texts).map Text.bytes).length = (text :: texts).length := by
    rw [List.length_map, width]
  have checked : r.check ⟨(text :: texts).map Text.bytes, q, more, true⟩ = .ok ((text :: texts).map Text.bytes) := by
    dsimp only [check]
    rw [same, List.length_map, if_pos rfl]
  refine ⟨r.after ⟨(text :: texts).map Text.bytes, q, more, true⟩, ?_, congrArg some same, rfl, rfl⟩
  rw [nextRaw, scanned]
  dsimp only
  rw [Bool.true_or, if_pos rfl, checked]

/-- Empty lines are no record. -/
theorem nextRaw_blank {r : Reader} {n : Nat} (before : r.bytes = List.replicate n 10) (sound : r.fault = none) :
    r.nextRaw delimiter = none := by
  have unmarked : r.atMark = false := atMark_feeds (before.trans (List.append_nil _).symm) rfl
  obtain ⟨q, skipped⟩ := skipTerminators_only_feeds n r.position
  have scanned : r.scan delimiter = none := by
    rw [scan, if_neg (by simp [unmarked]), scanRecord, before, skipped]
  rw [nextRaw, scanned]
  dsimp only
  rw [atEnd, sound, Option.map_none]

end Reader

/-- The cells of a line are texts again. -/
theorem decodeCells_bytes (start : Position) (index : Nat) (cells : List String) :
    decodeCells start index (cells.map Text.bytes) = .ok cells := by
  induction cells generalizing index with
  | nil => rfl
  | cons text cells ih =>
    rw [List.map_cons, decodeCells, Text.decode_bytes]
    dsimp only
    rw [ih]
    rfl

end Tabular.Delimited
