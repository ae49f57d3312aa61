import Tabular.Proofs.Operands
import Tabular.Proofs.Recorded

/-!
# Expressions read back

What is read in the text of an expression is the expression (`Select.ofSql_text`).
-/

namespace Tabular

namespace Sql

open Parse

/-! ## Statements -/

namespace Parse

theorem phrase_other {k : String} {ts : List Token} (other : keywordOf ts.head? ≠ some k) (ks : List String)
    (levels : Nat) : phrase (k :: ks) levels ts = some (false, ts) := by
  have differs : ¬ (ts.take (k :: ks).length).map (fun t => keywordOf (some t)) = (k :: ks).map some := by
    cases ts with
    | nil => simp
    | cons t ts => exact fun same => other (List.cons.inj same).1
  rw [phrase, if_neg differs]

end Parse

namespace Grammar

variable {g : Grammar} {levels : Nat} {ts : List Token} {e : Tabular.Expr} {tree : Expr} {c : Prop} [Decidable c]

theorem other_keyword {k : String} (begins : keywordOf ts.head? ∈ operandKeywords)
    (none : some k ∉ operandKeywords) : keywordOf ts.head? ≠ some k := fun same => none (same ▸ begins)

theorem starred_eq (spelled : Spelled e ts tree) (inside : g.expr levels ts = if c then some (tree, []) else none) :
    g.starred levels ts = if c then some (.expr tree, []) else none := by
  have run : (do return Starred.expr (← g.expr) : Parse Starred) levels ts =
      if c then some (.expr tree, []) else none :=
    bind_if _ _ inside
  cases spelled with
  | name plain => exact run
  | qualified plainTable plainColumn => exact run
  | number positive => exact run
  | negative negative => exact run
  | string noQuote => exact run
  | bool b => exact run
  | null => exact run
  | binary op onLeft onRight => exact run
  | cast inside target => exact run

theorem selectItem_eq (spelled : Spelled e ts tree) (inside : g.expr levels ts = if c then some (tree, []) else none) :
    g.selectItem levels ts = if c then some (.expr tree none, []) else none := by
  unfold selectItem
  rw [bind_if _ _ (starred_eq spelled inside)]
  rfl

theorem select_eq (spelled : Spelled e ts tree) (inside : g.expr levels ts = if c then some (tree, []) else none) :
    g.select levels ts = if c then some (.plain [.expr tree none] [] none, []) else none := by
  have begins : keywordOf ts.head? ∈ operandKeywords := by
    have head := spelled.keyword_head []
    rwa [List.append_nil] at head
  have distinct : g.optionalDistinct levels ts = some (false, ts) := by
    unfold optionalDistinct keyword
    rw [bind_of _ _ (phrase_other (other_keyword begins (by decide)) [] levels),
      bind_of _ _ (phrase_other (other_keyword begins (by decide)) [] levels)]
    rfl
  have top : clause ["TOP"] g.top levels ts = some (false, ts) := by
    unfold clause
    rw [bind_of _ _ (phrase_other (other_keyword begins (by decide)) [] levels)]
    rfl
  have items : commaSeparated g.selectItem levels ts = if c then some ([.expr tree none], []) else none :=
    commaSeparated_one (selectItem_eq spelled inside) rfl
  unfold select
  rw [bind_of _ _ distinct, bind_of _ _ top, bind_if _ _ items]
  rfl

variable {w : Word}

theorem plainQuery_eq (spelled : Spelled e ts tree) (n : Nat) (selects : w.keyword = some "SELECT")
    (inside : (ofDepth n).expr levels ts = if c then some (tree, []) else none) :
    (ofDepth (n + 1)).plainQuery false levels (.word w :: ts) =
      if c then some (.plain (.plain [.expr tree none] [] none), []) else none := by
  have here : keyword "SELECT" levels (.word w :: ts) = some (true, ts) := by
    unfold keyword phrase
    rw [if_pos]
    · rfl
    · exact congrArg (fun k => [k]) selects
  have plain : (ofDepth n).plainBody levels (.word w :: ts) =
      if c then some (.select (.plain [.expr tree none] [] none), []) else none := by
    unfold plainBody
    rw [bind_of _ _ here]
    exact bind_if _ _ (select_eq spelled inside)
  have body : (ofDepth (n + 1)).queryBody 0 levels (.word w :: ts) =
      if c then some (.select (.plain [.expr tree none] [] none), []) else none := by
    show (ofDepth n).boundedBody 0 levels _ = _
    unfold boundedBody
    rw [bind_if _ _ plain]
    rfl
  unfold plainQuery
  rw [bind_if _ _ body]
  rfl

theorem query_eq (spelled : Spelled e ts tree) (n : Nat) (selects : w.keyword = some "SELECT")
    (inside : (ofDepth n).expr levels ts = if c then some (tree, []) else none) :
    (ofDepth (n + 2)).query (levels + 1) (.word w :: ts) =
      if c then some (.plain (.plain [.expr tree none] [] none), []) else none := by
  have other {k : String} (differs : some "SELECT" ≠ some k) (ks : List String) :
      phrase (k :: ks) levels (.word w :: ts) = some (false, .word w :: ts) := by
    have here : keywordOf (Token.word w :: ts).head? ≠ some k := selects.trans_ne differs
    exact phrase_other here ks levels
  have unnamed {p : Parse Unit} : clause ["WITH"] p levels (.word w :: ts) = some (false, .word w :: ts) := by
    unfold clause
    rw [bind_of _ _ (other (by decide) [])]
    rfl
  show (ofDepth (n + 1)).queryForm levels _ = _
  unfold queryForm keyword
  rw [bind_of _ _ unnamed, bind_of _ _ (other (by decide) [])]
  simp only [Bool.false_eq_true, if_false]
  rw [bind_of _ _ (other (by decide) [])]
  exact plainQuery_eq spelled n selects inside

theorem statement_eq (spelled : Spelled e ts tree) (n : Nat) (selects : w.keyword = some "SELECT")
    (inside : (ofDepth n).expr levels ts = if c then some (tree, []) else none) :
    (ofDepth (n + 3)).statement (levels + 2) (.word w :: ts) =
      if c then some (.query (.plain (.plain [.expr tree none] [] none)), []) else none := by
  have first : peekKeyword (levels + 1) (.word w :: ts) = some (some "SELECT", .word w :: ts) := by
    rw [← selects]
    rfl
  show (ofDepth (n + 2)).statementForm (levels + 1) _ = _
  unfold statementForm
  rw [bind_of false (.word w :: ts) rfl]
  simp only [Bool.false_eq_true, if_false]
  rw [bind_of _ _ first]
  exact bind_if _ _ (query_eq spelled n selects inside)

theorem statements_eq (spelled : Spelled e ts tree) (n : Nat) (selects : w.keyword = some "SELECT")
    (inside : (ofDepth n).expr levels ts = if c then some (tree, []) else none) :
    (ofDepth (n + 3)).statements (levels + 2) (.word w :: ts) =
      if c then some ([.query (.plain (.plain [.expr tree none] [] none))], []) else none := by
  have first : peekKeyword (levels + 2) (.word w :: ts) = some (some "SELECT", .word w :: ts) := by
    rw [← selects]
    rfl
  unfold statements
  rw [bind_of (.word w :: ts) (.word w :: ts) rfl, List.length_cons, statementsUpTo, bind_of false (.word w :: ts) rfl]
  simp only [Bool.false_eq_true, if_false]
  rw [bind_of (.word w :: ts) _ rfl, bind_of _ _ first]
  show (require true >>= _) (levels + 2) (.word w :: ts) = _
  rw [bind_of () (.word w :: ts) rfl, bind_if _ _ (statement_eq spelled n selects inside)]
  rfl

end Grammar

/-! ## Texts -/

theorem keyword_select : (Word.bare "SELECT".toList).keyword = some "SELECT" := by decide +kernel

theorem Spelled.nesting_le {e : Tabular.Expr} {ts : List Token} {tree : Expr} (spelled : Spelled e ts tree) :
    e.nesting ≤ ts.length := by
  induction spelled with
  | binary op onLeft onRight ihl ihr =>
    simp only [Tabular.Expr.nesting, List.length_cons, List.length_append]
    omega
  | cast inside target ih =>
    simp only [Tabular.Expr.nesting, List.length_cons, List.length_append]
    omega
  | _ => exact Nat.zero_le _

/-- The statement of an expression that is selected, if it does not nest more deeply than is allowed. -/
theorem Spelled.statements {e : Tabular.Expr} {ts : List Token} {tree : Expr} (spelled : Spelled e ts tree) :
    statements ("SELECT " ++ e.text) =
      if e.nesting + 3 ≤ maxLevels then some [.query (.plain (.plain [.expr tree none] [] none))] else none := by
  have scans : Scans ("SELECT " ++ e.text).toList (.word (.bare "SELECT".toList) :: ts) := by
    have all := Scans.token (c := 'S') (w := ['E', 'L', 'E', 'C', 'T']) (t := .word (.bare "SELECT".toList)) rfl
      (spelled.scans .nil .nil).blank
    simpa using all
  have short := spelled.nesting_le
  obtain ⟨n, deep⟩ : ∃ n, stepsPerToken * ((Token.word (.bare "SELECT".toList) :: ts).length + 4) = n + 6 :=
    ⟨8 * ts.length + 34, by simp [stepsPerToken]; omega⟩
  have operand (levels : Nat) : (Grammar.ofDepth (n + 1)).operand levels ts =
      if e.nesting ≤ levels then some (tree, []) else none := by
    have enough : 4 * e.nesting + 4 ≤ n + 1 := by
      rw [stepsPerToken, List.length_cons] at deep
      omega
    have read := spelled.operand levels enough .nothing
    rwa [List.append_nil] at read
  -- the statement and the query take a level each
  have inside : (Grammar.ofDepth (n + 3)).expr 48 ts = if e.nesting + 3 ≤ maxLevels then some (tree, []) else none := by
    rw [expr_operand rfl operand]
    exact if_congr (by rw [maxLevels]; omega) rfl rfl
  have read : (Grammar.ofDepth (n + 6)).statements maxLevels (.word (.bare "SELECT".toList) :: ts) =
      if e.nesting + 3 ≤ maxLevels then some ([.query (.plain (.plain [.expr tree none] [] none))], []) else none :=
    Grammar.statements_eq spelled (n + 3) keyword_select inside
  unfold Sql.statements
  rw [scans.tokens, Option.bind_eq_bind, Option.bind_some]
  simp only [deep]
  rw [read]
  split <;> rfl

/-! ## What a tree means -/

/-- A number without a point and a power of ten is an integer or none. -/
theorem numberLiteral_eq {text : String} (each : ∀ c ∈ text.toList, c.isDigit = true ∨ c = '-') :
    numberLiteral text = ((Numeral.readInt text).map .int).mapError fun _ => .invalidNumber text := by
  have noPoint : ¬ (text.toList.any fun c => c = '.' ∨ c = 'e' ∨ c = 'E') = true := by
    simp only [List.any_eq_true, decide_eq_true_eq, not_exists, not_and]
    intro c listed
    rcases each c listed with digit | rfl
    · rintro (rfl | rfl | rfl) <;> cases digit
    · decide
  rw [numberLiteral, if_neg noPoint]
  cases Numeral.readInt text <;> rfl

theorem numberLiteral_intText (i : Int64) : numberLiteral (Tabular.Value.intText i.toInt) = .ok (.int i) := by
  have each : ∀ c ∈ (Tabular.Value.intText i.toInt).toList, c.isDigit = true ∨ c = '-' := by
    intro c listed
    rw [intText_toList] at listed
    rcases List.mem_append.mp listed with sign | digit
    · split at sign
      · exact Or.inr (List.mem_singleton.mp sign)
      · cases sign
    · exact Or.inl (List.all_eq_true.mp (all_digitsOf i) c digit)
  rw [numberLiteral_eq each, Numeral.readInt_intText]
  rfl

theorem dataType_text (target : DataType) : (TypeName.plain target.text).dataType = .ok target := by
  cases target <;> rfl

/-- The tree of an expression means the expression. -/
theorem Spelled.expression {e : Tabular.Expr} {ts : List Token} {tree : Expr} (spelled : Spelled e ts tree) :
    tree.expression = .ok e := by
  induction spelled with
  | name plain => rfl
  | qualified plainTable plainColumn => rfl
  | @number i positive =>
    have text : String.ofList (digitsOf i) = Tabular.Value.intText i.toInt := by
      rw [Tabular.Value.intText, if_neg (Int.not_lt.mpr positive)]
      rfl
    rw [Expr.expression, Value.literal, text, numberLiteral_intText]
    rfl
  | @negative i negative =>
    have text : "-" ++ String.ofList (digitsOf i) = Tabular.Value.intText i.toInt := by
      rw [Tabular.Value.intText, if_pos negative, String.ofList_append]
      rfl
    rw [Expr.expression, text, numberLiteral_intText]
    rfl
  | string noQuote => rfl
  | bool b => rfl
  | null => rfl
  | binary op onLeft onRight ihl ihr =>
    rw [Expr.expression, Expr.expression, ihl, ihr]
    rfl
  | cast inside target ih =>
    rw [Expr.expression, ih, dataType_text]
    rfl

end Sql

/-- Whether the text of an expression says what it is: its names are no keywords, its numbers are integers, and
its strings have no quotes. -/
def Expr.isPlain : Expr → Bool
  | name column => Sql.isName column.toList
  | qualified table column => Sql.isName table.toList && Sql.isName column.toList
  | literal (.float _) => false
  | literal (.string s) => !s.toList.contains '\x27'
  | literal _ => true
  | binary _ left right => left.isPlain && right.isPlain
  | cast inner _ => inner.isPlain

theorem Expr.exists_spelled {e : Expr} (plain : e.isPlain = true) : ∃ ts tree, Sql.Spelled e ts tree := by
  induction e with
  | name column => exact ⟨_, _, .name plain⟩
  | qualified table column =>
    obtain ⟨plainTable, plainColumn⟩ := Bool.and_eq_true_iff.mp plain
    exact ⟨_, _, .qualified plainTable plainColumn⟩
  | literal l =>
    cases l with
    | int i =>
      by_cases negative : i.toInt < 0
      · exact ⟨_, _, .negative negative⟩
      · exact ⟨_, _, .number (Int.not_lt.mp negative)⟩
    | float x => cases plain
    | string s => exact ⟨_, _, .string (by simpa [isPlain] using plain)⟩
    | bool b => exact ⟨_, _, .bool b⟩
    | null => exact ⟨_, _, .null⟩
  | binary op left right ihl ihr =>
    obtain ⟨plainLeft, plainRight⟩ := Bool.and_eq_true_iff.mp plain
    obtain ⟨ls, l, onLeft⟩ := ihl plainLeft
    obtain ⟨rs, r, onRight⟩ := ihr plainRight
    exact ⟨_, _, .binary op onLeft onRight⟩
  | cast inner target ih =>
    obtain ⟨ts, tree, inside⟩ := ih plain
    exact ⟨_, _, .cast inside target⟩

/-- The text of an expression is read as the expression, without an alias, a table or a condition, if it does not
nest more deeply than is allowed. Otherwise it is not read. -/
theorem Select.ofSql_text {e : Expr} (plain : e.isPlain = true) :
    Select.ofSql ("SELECT " ++ e.text) =
      if e.nesting + 3 ≤ Sql.maxLevels then .ok ⟨[.expr e none], none, none⟩ else .error .malformed := by
  obtain ⟨ts, tree, spelled⟩ := e.exists_spelled plain
  unfold Select.ofSql Command.ofSql
  rw [spelled.statements]
  by_cases fits : e.nesting + 3 ≤ Sql.maxLevels
  · rw [if_pos fits, if_pos fits]
    have item : (Sql.SelectItem.expr tree none).item = .ok (.expr e none) := by
      rw [Sql.SelectItem.item, spelled.expression]
      rfl
    have statement : (Sql.Select.plain [.expr tree none] [] none).statement = .ok ⟨[.expr e none], none, none⟩ := by
      rw [Sql.Select.statement_eq]
      show ([Sql.SelectItem.expr tree none].mapM Sql.SelectItem.item >>= _) = _
      rw [List.mapM_cons, item]
      rfl
    have command : (Sql.Statement.query (.plain (.plain [.expr tree none] [] none))).command =
        .ok (.select ⟨[.expr e none], none, none⟩) := by
      rw [Sql.Statement.command, Sql.Query.statement_eq]
      exact congrArg (Except.map Command.select) statement
    simp only [command]
    rfl
  · rw [if_neg fits, if_neg fits]
    rfl

/-- The least integer after a minus, a sign in a string and casts inside operations come back. -/
theorem Select.ofSql_text_signs :
    let difference : Expr := .binary (.arithmetic .sub) (.qualified "t" "a") (.literal (.int Int64.minValue))
    let shown : Expr := .binary (.comparison .eq) (.cast difference .string) (.literal (.string "x - 1"))
    let e : Expr := .binary (.logical .or) (.cast (.literal .null) .bool) shown
    e.text = "(CAST(NULL AS BOOL) OR (CAST((t.a - -9223372036854775808) AS STRING) = 'x - 1'))" ∧
      Select.ofSql ("SELECT " ++ e.text) = .ok ⟨[.expr e none], none, none⟩ := by
  intro difference shown e
  have plain : e.isPlain = true := by decide +kernel
  refine ⟨by decide +kernel, ?_⟩
  rw [Select.ofSql_text plain]
  rfl

end Tabular
