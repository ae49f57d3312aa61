import Mathlib.Data.List.TakeWhile
import Tabular.Proofs.Numerals
import Tabular.Sql.TypeNames
import Tabular.Statement

/-!
# The tokens of expressions

Expressions whose text says what they are: their names are words that are no keywords, their numbers are
integers, and their strings have no quotes. Such a text is read as the tokens of the expression, one after the
other (`Spelled.scans`).
-/

namespace Tabular

namespace Sql

/-! ## Lexeme by lexeme -/

/-- The tokens of a text. Each lexeme takes a character at least. -/
inductive Scans : List Char → List Token → Prop
  | nil : Scans [] []
  | token {c : Char} {w after : List Char} {t : Token} {ts : List Token}
      (first : scanLexeme c (w ++ after) = some (.token t, after)) (more : Scans after ts) :
      Scans (c :: (w ++ after)) (t :: ts)
  | gap {c : Char} {w after : List Char} {ts : List Token} (first : scanLexeme c (w ++ after) = some (.gap, after))
      (more : Scans after ts) : Scans (c :: (w ++ after)) ts

theorem Scans.scanFrom {cs : List Char} {ts : List Token} (scans : Scans cs ts) :
    ∀ fuel, cs.length ≤ fuel → scanFrom fuel cs = some ts := by
  induction scans with
  | nil =>
    intro fuel _
    cases fuel <;> rfl
  | token first _ ih =>
    intro fuel enough
    cases fuel with
    | zero => exact absurd enough (Nat.not_succ_le_zero _)
    | succ fuel =>
      have left := ih fuel (by simp at enough; omega)
      simp only [Sql.scanFrom, first, Option.bind_eq_bind, Option.bind_some, left]
      rfl
  | gap first _ ih =>
    intro fuel enough
    cases fuel with
    | zero => exact absurd enough (Nat.not_succ_le_zero _)
    | succ fuel =>
      have left := ih fuel (by simp at enough; omega)
      simp only [Sql.scanFrom, first, Option.bind_eq_bind, Option.bind_some, left]
      rfl

theorem Scans.tokens {text : String} {ts : List Token} (scans : Scans text.toList ts) : tokens text = some ts :=
  scans.scanFrom _ String.length_toList.le

/-- A blank before tokens. -/
theorem Scans.blank {rest : List Char} {ts : List Token} (more : Scans rest ts) : Scans (' ' :: rest) ts :=
  .gap (w := []) rfl more

/-! ## Words -/

/-- Whether a character begins a word and nothing else. -/
def beginsName (c : Char) : Bool := Text.isAlphabetic c || c == '_'

/-- Whether a text is a name: a word that is no keyword. -/
def isName (name : List Char) : Bool :=
  match name with
  | [] => false
  | c :: rest => beginsName c && rest.all continuesWord && (keyword? (c :: rest)).isNone

/-- What ends a word: it neither goes on with it nor makes it a literal. -/
def EndsWord (rest : List Char) : Prop := ∀ c ∈ rest.head?, continuesWord c = false ∧ c ≠ '\x27' ∧ c ≠ '"'

theorem isDigit_of_beginsName {c : Char} (begins : beginsName c = true) : c.isDigit = false := by
  cases digit : c.isDigit with
  | false => rfl
  | true =>
    have small : c.toNat < 128 := by
      have range : 48 ≤ c.toNat ∧ c.toNat ≤ 57 := by simpa [Char.isDigit, UInt32.le_iff_toNat_le] using digit
      omega
    have each : ∀ n < 128, beginsName (Char.ofNat n) = true → (Char.ofNat n).isDigit = false := by decide
    have here := each c.toNat small
    rw [Char.ofNat_toNat, digit] at here
    exact here begins

theorem takeWhile_stops {p : Char → Bool} {cs rest : List Char} (each : cs.all p = true)
    (stops : ∀ c ∈ rest.head?, p c = false) : (cs ++ rest).takeWhile p = cs ∧ (cs ++ rest).dropWhile p = rest := by
  rw [List.all_eq_true] at each
  rw [List.takeWhile_append_of_pos each, List.dropWhile_append_of_pos each]
  cases rest with
  | nil => simp
  | cons d rest =>
    have stop : p d = false := stops d rfl
    simp [stop]

theorem scanWord_name {c : Char} {cs rest : List Char} (begins : beginsName c = true)
    (continues : cs.all continuesWord = true) (ends : EndsWord rest) :
    scanWord [c] (cs ++ rest) = (.word (.bare (c :: cs)), rest) := by
  obtain ⟨taken, left⟩ := takeWhile_stops continues fun d listed => (ends d listed).1
  have noPoint : (c == '.') = false := by
    rw [beq_eq_false_iff_ne]
    rintro rfl
    cases begins
  rw [scanWord, taken, left]
  simp [isDigit_of_beginsName begins, noPoint]

/-- A letter that may stand before a quote stands before none. -/
theorem scanLettered_name {c : Char} {cs rest : List Char} (continues : cs.all continuesWord = true)
    (ends : EndsWord rest) : scanLettered c (cs ++ rest) = some (.word (.bare (c :: cs)), rest) := by
  obtain ⟨taken, left⟩ := takeWhile_stops continues fun d listed => (ends d listed).1
  unfold scanLettered
  rw [taken, left]
  cases following : cs ++ rest with
  | nil => rfl
  | cons quote body =>
    have noQuote : quote ≠ '\x27' ∧ quote ≠ '"' := by
      cases cs with
      | nil => exact (ends quote (by rw [List.nil_append] at following; rw [following]; rfl)).2
      | cons d cs =>
        obtain rfl : d = quote := (List.cons.inj following).1
        have goes : continuesWord d = true := (Bool.and_eq_true_iff.mp continues).1
        constructor <;> rintro rfl <;> cases goes
    have plain : letteredKind c quote = none := by
      rw [letteredKind]
      simp only [noQuote.1, noQuote.2]
      split <;> rfl
    simp only [plain]

/-- A word is read whole. -/
theorem scanLexeme_name {c : Char} {cs rest : List Char} (begins : beginsName c = true)
    (continues : cs.all continuesWord = true) (ends : EndsWord rest) :
    scanLexeme c (cs ++ rest) = some (.token (.word (.bare (c :: cs))), rest) := by
  have other {d : Char} (not : beginsName d = false) : c ≠ d := by
    rintro rfl
    rw [begins] at not
    cases not
  have noBacktick : c.toNat ≠ 0x60 := fun code => other (d := Char.ofNat 0x60) rfl (by rw [← code, Char.ofNat_toNat])
  have starts : beginsWord c = true := by
    have either : (Text.isAlphabetic c || c == '_') = true := begins
    rw [beginsWord]
    rcases Bool.or_eq_true_iff.mp either with letter | line
    · rw [letter]
      rfl
    · rw [line]
      simp
  by_cases lettered : literalLetters.contains c = true
  · rw [scanLexeme, if_pos lettered, scanLettered_name continues ends]
    rfl
  · rw [scanLexeme, if_neg lettered]
    simp [other (d := '\x27') rfl, other (d := '"') rfl, other (d := '.') rfl, other (d := '-') rfl,
      other (d := '/') rfl, other (d := '#') rfl, other (d := '@') rfl, other (d := '?') rfl, noBacktick,
      isDigit_of_beginsName begins, starts, scanWord_name begins continues ends]

/-! ## Numbers and strings -/

/-- What ends a literal in the text of an expression. -/
def EndsLiteral (rest : List Char) : Prop := ∀ c ∈ rest.head?, c = ' ' ∨ c = ')'

theorem EndsLiteral.word {rest : List Char} (ends : EndsLiteral rest) : EndsWord rest := by
  intro c listed
  rcases ends c listed with rfl | rfl <;> decide

theorem scanNumber_digits {digits rest : List Char} (each : digits.all Char.isDigit = true) (some : digits ≠ [])
    (ends : EndsLiteral rest) : scanNumber (digits ++ rest) = (.number (String.ofList digits) false, rest) := by
  have stops : ∀ c ∈ rest.head?, c.isDigit = false := by
    intro c listed
    rcases ends c listed with rfl | rfl <;> rfl
  obtain ⟨taken, _⟩ := takeWhile_stops each stops
  have noPoint : digits ≠ ['.'] := by
    rintro rfl
    cases each
  have ended : rest = [] ∨ (∃ more, rest = ' ' :: more) ∨ ∃ more, rest = ')' :: more := by
    cases rest with
    | nil => exact Or.inl rfl
    | cons c more =>
      rcases ends c rfl with rfl | rfl
      · exact Or.inr (Or.inl ⟨more, rfl⟩)
      · exact Or.inr (Or.inr ⟨more, rfl⟩)
  rw [scanNumber]
  simp only [taken, List.drop_left]
  rcases ended with rfl | ⟨more, rfl⟩ | ⟨more, rfl⟩ <;>
    simp [noPoint, powerText]

theorem scanLexeme_digits {d : Char} {digits rest : List Char} (each : (d :: digits).all Char.isDigit = true)
    (ends : EndsLiteral rest) :
    scanLexeme d (digits ++ rest) = some (.token (.number (String.ofList (d :: digits)) false), rest) := by
  have digit : d.isDigit = true := (Bool.and_eq_true_iff.mp each).1
  have other {c : Char} (not : c.isDigit = false) : d ≠ c := by
    rintro rfl
    rw [digit] at not
    cases not
  have noLetter : d ∉ literalLetters := by
    intro listed
    have each : (literalLetters.all fun c => !c.isDigit) = true := rfl
    have here := List.all_eq_true.mp each d listed
    rw [digit] at here
    cases here
  have noBacktick : d.toNat ≠ 0x60 := fun code => other (c := Char.ofNat 0x60) rfl (by rw [← code, Char.ofNat_toNat])
  rw [scanLexeme]
  have number := scanNumber_digits each (List.cons_ne_nil _ _) ends
  rw [List.cons_append] at number
  simp [noLetter, other (c := '\x27') rfl, other (c := '"') rfl, noBacktick, digit, number]

/-- A point before a name stands alone. -/
theorem scanLexeme_point {c : Char} (begins : beginsName c = true) (rest : List Char) :
    scanLexeme '.' (c :: rest) = some (.token (.symbol "."), c :: rest) := by
  have alone : scanNumber ('.' :: c :: rest) = (.symbol ".", c :: rest) := by
    simp [scanNumber, isDigit_of_beginsName begins, List.takeWhile]
  show some (Lexeme.token (scanNumber ('.' :: c :: rest)).1, (scanNumber ('.' :: c :: rest)).2) = _
  rw [alone]

/-- A minus before a digit stands alone. -/
theorem scanLexeme_minus {d : Char} (digit : d.isDigit = true) (rest : List Char) :
    scanLexeme '-' (d :: rest) = some (.token (.symbol "-"), d :: rest) := by
  have noArrow : d ≠ '>' := by
    rintro rfl
    cases digit
  have noMinus : d ≠ '-' := by
    rintro rfl
    cases digit
  have alone : scanSymbol ('-' :: d :: rest) = (.symbol "-", d :: rest) := by
    simp [scanSymbol, longSymbols, List.isPrefixOf, noArrow.symm]
  have noWord : beginsWord '-' = false := rfl
  have noBlank : Text.isBlank '-' = false := rfl
  simp [scanLexeme, literalLetters, noMinus, noWord, noBlank, alone]

theorem quotedText_plain {s rest : List Char} (noQuote : '\x27' ∉ s) (ends : EndsLiteral rest) :
    quotedText '\x27' (s ++ '\x27' :: rest) = some (s, rest) := by
  induction s with
  | nil =>
    cases rest with
    | nil => rfl
    | cons c rest => rcases ends c rfl with rfl | rfl <;> rfl
  | cons c s ih =>
    have here : c ≠ '\x27' := fun same => noQuote (same ▸ List.mem_cons_self)
    rw [List.cons_append, quotedText.eq_def]
    simp only [if_neg here, ih fun listed => noQuote (List.mem_cons_of_mem _ listed)]
    rfl

/-! ## Expressions -/

/-- The token of an operator. -/
def operatorToken : Operator → Token
  | .logical op => .word (.bare op.text.toList)
  | op => .symbol op.text

/-- The digits of an integer. -/
def digitsOf (i : Int64) : List Char := Nat.toDigits 10 i.toInt.natAbs

/-- The tokens of an expression, and the tree that they stand for. -/
inductive Spelled : Tabular.Expr → List Token → Expr → Prop
  | name {name : String} (plain : isName name.toList = true) :
      Spelled (.name name) [.word (.bare name.toList)] (.ident name)
  | qualified {table column : String} (plainTable : isName table.toList = true)
      (plainColumn : isName column.toList = true) :
      Spelled (.qualified table column) [.word (.bare table.toList), .symbol ".", .word (.bare column.toList)]
        (.compound [table, column])
  | number {i : Int64} (positive : 0 ≤ i.toInt) :
      Spelled (.literal (.int i)) [.number (String.ofList (digitsOf i)) false]
        (.value (.number (String.ofList (digitsOf i)) false))
  | negative {i : Int64} (negative : i.toInt < 0) :
      Spelled (.literal (.int i)) [.symbol "-", .number (String.ofList (digitsOf i)) false]
        (.signed .minus (.value (.number (String.ofList (digitsOf i)) false)))
  | string {s : String} (noQuote : '\x27' ∉ s.toList) : Spelled (.literal (.string s)) [.string s] (.value (.string s))
  | bool (b : Bool) :
      Spelled (.literal (.bool b)) [.word (.bare (Tabular.Value.boolText b).toList)] (.value (.bool b))
  | null : Spelled (.literal .null) [.word (.bare "NULL".toList)] (.value .null)
  | binary (op : Operator) {left right : Tabular.Expr} {ls rs : List Token} {l r : Expr} (onLeft : Spelled left ls l)
      (onRight : Spelled right rs r) :
      Spelled (.binary op left right) (.symbol "(" :: (ls ++ operatorToken op :: (rs ++ [.symbol ")"])))
        (.nested (.binary (.known op) l r))
  | cast {inner : Tabular.Expr} {ts : List Token} {tree : Expr} (inside : Spelled inner ts tree) (target : DataType) :
      Spelled (.cast inner target)
        (.word (.bare "CAST".toList) :: .symbol "(" ::
          (ts ++ [.word (.bare "AS".toList), .word (.bare target.text.toList), .symbol ")"]))
        (.cast tree (.plain target.text) false)

theorem Scans.name {name rest : List Char} {more : List Token} (plain : isName name = true) (ends : EndsWord rest)
    (following : Scans rest more) : Scans (name ++ rest) (.word (.bare name) :: more) := by
  cases name with
  | nil => cases plain
  | cons c cs =>
    obtain ⟨starts, _⟩ := Bool.and_eq_true_iff.mp plain
    obtain ⟨begins, continues⟩ := Bool.and_eq_true_iff.mp starts
    exact .token (scanLexeme_name begins continues ends) following

theorem Scans.digits {digits rest : List Char} {more : List Token} (each : digits.all Char.isDigit = true)
    (some : digits ≠ []) (ends : EndsLiteral rest) (following : Scans rest more) :
    Scans (digits ++ rest) (.number (String.ofList digits) false :: more) := by
  cases digits with
  | nil => exact absurd rfl some
  | cons d digits => exact .token (scanLexeme_digits each ends) following

theorem Scans.operator (op : Operator) {rest : List Char} {more : List Token} (following : Scans rest more) :
    Scans (op.text.toList ++ ' ' :: rest) (operatorToken op :: more) := by
  obtain ⟨c, cs, letters, first⟩ : ∃ c cs, op.text.toList = c :: cs ∧
      scanLexeme c (cs ++ ' ' :: rest) = some (.token (operatorToken op), ' ' :: rest) := by
    cases op with
    | arithmetic op => cases op <;> exact ⟨_, _, rfl, rfl⟩
    | comparison op => cases op <;> exact ⟨_, _, rfl, rfl⟩
    | logical op => cases op <;> exact ⟨_, _, rfl, rfl⟩
  rw [letters]
  exact .token first following.blank

theorem Scans.typeName (target : DataType) {rest : List Char} {more : List Token} (following : Scans rest more) :
    Scans (target.text.toList ++ ')' :: rest) (.word (.bare target.text.toList) :: .symbol ")" :: more) := by
  obtain ⟨c, cs, letters, first⟩ : ∃ c cs, target.text.toList = c :: cs ∧
      scanLexeme c (cs ++ ')' :: rest) = some (.token (.word (.bare target.text.toList)), ')' :: rest) := by
    cases target <;> exact ⟨_, _, rfl, rfl⟩
  rw [letters] at first ⊢
  exact .token first (.token (w := []) rfl following)

theorem all_digitsOf (i : Int64) : (digitsOf i).all Char.isDigit = true :=
  List.all_eq_true.mpr fun _ listed => Nat.isDigit_of_mem_toDigits (b := 10) (by decide) (by decide) listed

theorem intText_toList (i : Int64) :
    (Tabular.Value.intText i.toInt).toList = (if i.toInt < 0 then ['-'] else []) ++ digitsOf i := String.toList_ofList

theorem EndsLiteral.nil : EndsLiteral [] := by
  intro c listed
  cases listed

theorem EndsLiteral.blank (rest : List Char) : EndsLiteral (' ' :: rest) := by
  intro c listed
  cases listed
  exact Or.inl rfl

theorem EndsLiteral.closing (rest : List Char) : EndsLiteral (')' :: rest) := by
  intro c listed
  cases listed
  exact Or.inr rfl

/-- The text of an expression is read as its tokens. -/
theorem Spelled.scans {e : Tabular.Expr} {ts : List Token} {tree : Expr} (spelled : Spelled e ts tree) :
    ∀ {rest : List Char} {more : List Token}, EndsLiteral rest → Scans rest more →
      Scans (e.text.toList ++ rest) (ts ++ more) := by
  induction spelled with
  | name plain => exact fun ends following => .name plain ends.word following
  | @qualified table column plainTable plainColumn =>
    intro rest more ends following
    obtain ⟨c, cs, first⟩ : ∃ c cs, column.toList = c :: cs := by
      refine List.exists_cons_of_ne_nil fun none => ?_
      rw [none] at plainColumn
      cases plainColumn
    have begins : beginsName c = true := by
      rw [first] at plainColumn
      exact (Bool.and_eq_true_iff.mp (Bool.and_eq_true_iff.mp plainColumn).1).1
    have point : scanLexeme '.' (column.toList ++ rest) = some (.token (.symbol "."), column.toList ++ rest) := by
      rw [first]
      exact scanLexeme_point begins _
    have after : Scans ('.' :: (column.toList ++ rest)) (.symbol "." :: .word (.bare column.toList) :: more) :=
      .token (w := []) point (.name plainColumn ends.word following)
    have all := Scans.name plainTable (by intro d listed; cases listed; decide) after
    simpa [Tabular.Expr.text, Tabular.Expr.qualifiedText] using all
  | @number i positive =>
    intro rest more ends following
    have text : (Tabular.Expr.text (.literal (.int i))).toList = digitsOf i := by
      have := intText_toList i
      rwa [if_neg (Int.not_lt.mpr positive)] at this
    rw [text]
    exact .digits (all_digitsOf i) Nat.toDigits_ne_nil ends following
  | @negative i negative =>
    intro rest more ends following
    have text : (Tabular.Expr.text (.literal (.int i))).toList = '-' :: digitsOf i := by
      have := intText_toList i
      rwa [if_pos negative] at this
    obtain ⟨d, ds, first⟩ : ∃ d ds, digitsOf i = d :: ds := List.exists_cons_of_ne_nil Nat.toDigits_ne_nil
    have digit : d.isDigit = true := by
      have each := all_digitsOf i
      rw [first] at each
      exact (Bool.and_eq_true_iff.mp each).1
    have minus : scanLexeme '-' (digitsOf i ++ rest) = some (.token (.symbol "-"), digitsOf i ++ rest) := by
      rw [first]
      exact scanLexeme_minus digit _
    rw [text]
    exact .token (w := []) minus (.digits (all_digitsOf i) Nat.toDigits_ne_nil ends following)
  | @string s noQuote =>
    intro rest more ends following
    have text : (Tabular.Expr.text (.literal (.string s))).toList ++ rest =
        '\x27' :: ((s.toList ++ ['\x27']) ++ rest) := by
      simp [Tabular.Expr.text, Literal.text, Tabular.Value.literalText]
    have quoted := quotedText_plain noQuote ends
    rw [text]
    refine .token ?_ following
    rw [List.append_assoc]
    simp [scanLexeme, literalLetters, quoted]
  | bool b =>
    intro rest more ends following
    cases b
    · exact .token (w := ['a', 'l', 's', 'e']) (scanLexeme_name rfl rfl ends.word) following
    · exact .token (w := ['r', 'u', 'e']) (scanLexeme_name rfl rfl ends.word) following
  | null =>
    intro rest more ends following
    exact .token (w := ['U', 'L', 'L']) (scanLexeme_name rfl rfl ends.word) following
  | binary op onLeft onRight ihl ihr =>
    intro rest more ends following
    have close : Scans (')' :: rest) (.symbol ")" :: more) := .token (w := []) rfl following
    have afterLeft := (Scans.operator op (ihr (.closing rest) close)).blank
    have all := Scans.token (c := '(') (w := []) (t := .symbol "(") rfl (ihl (.blank _) afterLeft)
    simpa [Tabular.Expr.text] using all
  | cast inside target ih =>
    intro rest more ends following
    have rename := (Scans.token (c := 'A') (w := ['S']) (t := .word (.bare "AS".toList)) rfl
      (Scans.typeName target following).blank).blank
    have all := Scans.token (c := 'C') (w := ['A', 'S', 'T']) (t := .word (.bare "CAST".toList)) rfl
      (Scans.token (c := '(') (w := []) (t := .symbol "(") rfl (ih (.blank _) rename))
    simpa [Tabular.Expr.text] using all

end Sql

end Tabular
