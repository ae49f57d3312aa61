import Mathlib.Data.List.TakeWhile
import Tabular.Proofs.Outcome
import Tabular.Sql.Command

/-!
# What commands record

A tree of a SQL text may hold more than the command that is made of it. `Records` says that a tree
holds what a command says and nothing else. Making a command refuses some of the other clauses and
drops the rest without a word (`ofSql_records`).
-/

namespace Tabular

namespace Sql

/-! ## Trees that hold a command and nothing else -/

inductive Value.Records : Value → Literal → Prop
  | number {text : String} {l : Literal} (read : numberLiteral text = .ok l) : Records (.number text false) l
  | string (text : String) : Records (.string text) (.string text)
  | bool (b : Bool) : Records (.bool b) (.bool b)
  | null : Records .null .null

/-- Whether an expression is a number as it is written. -/
def Expr.isNumber : Expr → Bool
  | .value (.number ..) => true
  | _ => false

/-- An expression without anything that its meaning does not hold. Parentheses and signs are part of
how it is written. -/
inductive Expr.Records : Expr → Tabular.Expr → Prop
  | name (column : String) : Records (.ident column) (.name column)
  | qualified (table column : String) : Records (.compound [table, column]) (.qualified table column)
  | literal {v : Value} {l : Literal} (inside : v.Records l) : Records (.value v) (.literal l)
  | nested {e : Expr} {x : Tabular.Expr} (inside : Records e x) : Records (.nested e) x
  | binary {op : Operator} {left right : Expr} {x y : Tabular.Expr} (onLeft : Records left x)
      (onRight : Records right y) : Records (.binary (.known op) left right) (.binary op x y)
  | plus {e : Expr} {x : Tabular.Expr} (inside : Records e x) : Records (.signed .plus e) x
  | minusNumber {text : String} {l : Literal} (read : numberLiteral ("-" ++ text) = .ok l) :
      Records (.signed .minus (.value (.number text false))) (.literal l)
  | minus {e : Expr} {x y : Tabular.Expr} (form : e.isNumber = false) (inside : Records e x)
      (opposite : negated x = .ok y) : Records (.signed .minus e) y
  | cast {e : Expr} {x : Tabular.Expr} {base : String} {target : DataType} (inside : Records e x)
      (bare : '(' ∉ base.toList) (named : DataType.ofText base = .ok target) :
      Records (.cast e (.plain base) false) (.cast x target)

inductive SelectItem.Records : SelectItem → Tabular.SelectItem → Prop
  | expr {e : Expr} {x : Tabular.Expr} (alias? : Option String) (inside : e.Records x) :
      Records (.expr e alias?) (.expr x alias?)
  | wildcard : Records (.wildcard .none) .wildcard

/-- At most one table, with nothing around its name. -/
inductive SourceRecords : List TableWithJoins → Option String → Prop
  | none : SourceRecords [] none
  | table (name : List String) : SourceRecords [⟨.table name .none false, false⟩] (some (".".intercalate name))

/-- A select without other clauses. -/
def Select.plain (projection : List SelectItem) (tables : List TableWithJoins) (selection : Option Expr) :
    Select where
  distinct := false
  top := false
  projection := projection
  into := false
  tables := tables
  lateralViews := false
  selection := selection
  groupBy := false
  clusterBy := false
  distributeBy := false
  sortBy := false
  having := false
  windows := false
  qualify := false

/-- A query that is a select and nothing around it. -/
def Query.plain (s : Select) : Query := ⟨false, .select s, false, false, false, false, false, false⟩

inductive Select.Records : Select → Tabular.Select → Prop
  | plain {projection : List SelectItem} {tables : List TableWithJoins} {selection : Option Expr}
      {items : List Tabular.SelectItem} {source : Option String} {condition : Option Tabular.Expr}
      (onItems : List.Forall₂ SelectItem.Records projection items) (onTables : SourceRecords tables source)
      (onCondition : Option.Rel Expr.Records selection condition) :
      Records (.plain projection tables selection) ⟨items, source, condition⟩

inductive Query.Records : Query → Tabular.Select → Prop
  | plain {s : Select} {r : Tabular.Select} (inside : s.Records r) : Records (.plain s) r

/-- A statement without anything that its command does not hold. -/
inductive Statement.Records : Statement → Command → Prop
  | select {q : Query} {s : Tabular.Select} (inside : q.Records s) : Records (.query q) (.select s)
  | explain {q : Query} {s : Tabular.Select} (inside : q.Records s) :
      Records (.explain .none (.query q)) (.explain s)

/-! ## What is dropped -/

namespace Value

def drops : Value → Bool
  | number _ long => long
  | _ => false

def erased : Value → Value
  | number text _ => number text false
  | v => v

end Value

namespace TypeName

/-- Arguments of a type are dropped with all that stands after them. -/
def erased (t : TypeName) : TypeName := .plain (String.ofList (t.base.toList.takeWhile (· != '(')))

def drops (t : TypeName) : Bool := t.arguments || t.base.toList.contains '('

end TypeName

namespace Expr

/-- Of an expression the marks of long numbers, the arguments of types and the formats of casts are
dropped. -/
def drops : Expr → Bool
  | value v => v.drops
  | nested e => e.drops
  | binary _ left right => left.drops || right.drops
  | signed _ e => e.drops
  | cast e type format => e.drops || type.drops || format
  | ident _ | compound _ | other => false

def erased : Expr → Expr
  | value v => value v.erased
  | nested e => nested e.erased
  | binary op left right => binary op left.erased right.erased
  | signed sign e => signed sign e.erased
  | cast e type _ => cast e.erased type.erased false
  | e => e

end Expr

namespace SelectItem

/-- Of a star its options are dropped. -/
def drops : SelectItem → Bool
  | expr e _ => e.drops
  | wildcard options => options != .none
  | qualifiedWildcard => false

def erased : SelectItem → SelectItem
  | expr e alias? => expr e.erased alias?
  | wildcard _ => wildcard .none
  | qualifiedWildcard => qualifiedWildcard

end SelectItem

namespace TableWithJoins

/-- Around the name of a table its partitions, arguments and hints are dropped. -/
def drops (t : TableWithJoins) : Bool :=
  match t.relation with
  | .table _ options _ => options != .none
  | _ => false

def erased (t : TableWithJoins) : TableWithJoins :=
  match t.relation with
  | .table name _ aliased => { t with relation := .table name .none aliased }
  | _ => t

end TableWithJoins

namespace Select

/-- The clauses of a select that are dropped. -/
def drops (s : Select) : Bool :=
  s.top || s.into || s.lateralViews || s.clusterBy || s.distributeBy || s.sortBy || s.windows || s.qualify ||
    s.projection.any (·.drops) || s.tables.any (·.drops) || s.selection.any (·.drops)

def erased (s : Select) : Select where
  distinct := s.distinct
  top := false
  projection := s.projection.map (·.erased)
  into := false
  tables := s.tables.map (·.erased)
  lateralViews := false
  selection := s.selection.map (·.erased)
  groupBy := s.groupBy
  clusterBy := false
  distributeBy := false
  sortBy := false
  having := s.having
  windows := false
  qualify := false

end Select

namespace QueryBody

def drops : QueryBody → Bool
  | select s => s.drops
  | other => false

def erased : QueryBody → QueryBody
  | select s => select s.erased
  | other => other

end QueryBody

namespace Query

/-- The clauses around a select that are dropped. -/
def drops (q : Query) : Bool := q.limitBy || q.fetch || q.locks || q.body.drops

def erased (q : Query) : Query := { q with body := q.body.erased, limitBy := false, fetch := false, locks := false }

end Query

namespace Statement

/-- Of an explanation it is dropped how it is wanted. -/
def drops : Statement → Bool
  | query q => q.drops
  | explain options inner => options != .none || inner.drops
  | explainTable | other => false

def erased : Statement → Statement
  | query q => query q.erased
  | explain _ inner => explain .none inner.erased
  | s => s

end Statement

/-! ## Expressions -/

theorem Value.literal_eq_ok {v : Value} {l : Literal} : v.literal = .ok l ↔ v.erased.Records l := by
  constructor
  · intro read
    cases v with
    | number text long => exact .number read
    | string text => cases read; exact .string text
    | bool b => cases read; exact .bool b
    | null => cases read; exact .null
    | other => cases read
  · intro records
    cases v with
    | number text long => cases records with | number read => exact read
    | string text => cases records; rfl
    | bool b => cases records; rfl
    | null => cases records; rfl
    | other => cases records

namespace TypeName

theorem dataType_eq_ok {t : TypeName} {target : DataType} :
    t.dataType = .ok target ↔ DataType.ofText t.erased.base = .ok target := by
  rw [dataType, erased, plain, mapError_eq_ok]

theorem bare_erased (t : TypeName) : '(' ∉ t.erased.base.toList := by
  rw [erased, plain, String.toList_ofList]
  intro listed
  have passes := List.mem_takeWhile_imp listed
  simp at passes

end TypeName

namespace Expr

theorem isNumber_erased (e : Expr) : e.erased.isNumber = e.isNumber := by
  cases e with
  | value v => cases v <;> rfl
  | _ => rfl

theorem exists_of_isNumber {e : Expr} (form : ¬ e.isNumber = false) :
    ∃ text long, e = .value (.number text long) := by
  cases e with
  | value v =>
    cases v with
    | number text long => exact ⟨text, long, rfl⟩
    | _ => exact absurd rfl form
  | _ => exact absurd rfl form

theorem expression_minus {e : Expr} (form : e.isNumber = false) :
    (signed .minus e).expression = e.expression >>= negated := by
  cases e with
  | value v =>
    cases v with
    | number text long => cases form
    | _ => rfl
  | _ => rfl

/-- An expression with a minus is a negative number or the opposite of what stands after it. -/
theorem records_minus {e : Expr} {y : Tabular.Expr} (records : Records (.signed .minus e) y) :
    (∃ text l, e = .value (.number text false) ∧ numberLiteral ("-" ++ text) = .ok l ∧ y = .literal l) ∨
      (e.isNumber = false ∧ ∃ x, Records e x ∧ negated x = .ok y) := by
  cases records with
  | minusNumber read => exact Or.inl ⟨_, _, rfl, read, rfl⟩
  | minus form inside opposite => exact Or.inr ⟨form, _, inside, opposite⟩

/-- The expressions of trees are those that they record once what is dropped is away. -/
theorem expression_eq_ok {e : Expr} {x : Tabular.Expr} : e.expression = .ok x ↔ e.erased.Records x := by
  induction e generalizing x with
  | ident name =>
    constructor
    · rintro ⟨rfl⟩
      exact .name name
    · intro records
      cases records
      rfl
  | compound parts =>
    constructor
    · intro meant
      match parts, meant with
      | [table, column], meant =>
        cases meant
        exact .qualified table column
    · intro records
      cases records
      rfl
  | value v =>
    constructor
    · intro meant
      obtain ⟨l, read, rfl⟩ := map_eq_ok.mp meant
      exact .literal (Value.literal_eq_ok.mp read)
    · intro records
      cases records with
      | literal inside =>
        rw [expression, Value.literal_eq_ok.mpr inside]
        rfl
  | nested e ih =>
    rw [expression, ih]
    constructor
    · exact .nested
    · intro records
      cases records with
      | nested inside => exact inside
  | binary op left right ihl ihr =>
    constructor
    · intro meant
      obtain ⟨o, known, rest⟩ := bind_eq_ok.mp meant
      obtain ⟨x, onLeft, rest⟩ := bind_eq_ok.mp rest
      obtain ⟨y, onRight, same⟩ := bind_eq_ok.mp rest
      cases same
      cases op with
      | known op =>
        cases known
        exact .binary (ihl.mp onLeft) (ihr.mp onRight)
      | other text => cases known
    · intro records
      cases records with
      | binary onLeft onRight =>
        rw [expression, ihl.mpr onLeft, ihr.mpr onRight]
        rfl
  | signed sign e ih =>
    cases sign with
    | plus =>
      rw [expression, ih]
      constructor
      · exact .plus
      · intro records
        cases records with
        | plus inside => exact inside
    | minus =>
      by_cases form : e.isNumber = false
      · rw [expression_minus form]
        constructor
        · intro meant
          obtain ⟨y, inside, opposite⟩ := bind_eq_ok.mp meant
          exact .minus (isNumber_erased e ▸ form) (ih.mp inside) opposite
        · intro records
          rcases records_minus records with ⟨text, l, number, _⟩ | ⟨_, x, inside, opposite⟩
          · rw [← isNumber_erased, number] at form
            cases form
          · exact bind_eq_ok.mpr ⟨x, ih.mpr inside, opposite⟩
      · obtain ⟨text, long, rfl⟩ := exists_of_isNumber form
        constructor
        · intro meant
          obtain ⟨l, read, rfl⟩ := map_eq_ok.mp meant
          exact .minusNumber read
        · intro records
          cases records with
          | minusNumber read =>
            rw [expression, read]
            rfl
          | minus form _ _ => cases form
  | cast e type format ih =>
    constructor
    · intro meant
      obtain ⟨y, inside, rest⟩ := bind_eq_ok.mp meant
      obtain ⟨target, named, same⟩ := bind_eq_ok.mp rest
      cases same
      exact .cast (ih.mp inside) type.bare_erased (TypeName.dataType_eq_ok.mp named)
    · intro records
      cases records with
      | cast inside _ named =>
        rw [expression, ih.mpr inside, TypeName.dataType_eq_ok.mpr named]
        rfl
  | other =>
    constructor
    · intro meant
      cases meant
    · intro records
      cases records

end Expr

/-! ## Queries -/

theorem SelectItem.item_eq_ok {i : SelectItem} {item : Tabular.SelectItem} :
    i.item = .ok item ↔ i.erased.Records item := by
  cases i with
  | expr e alias? =>
    constructor
    · intro meant
      obtain ⟨x, inside, rfl⟩ := map_eq_ok.mp meant
      exact .expr alias? (Expr.expression_eq_ok.mp inside)
    · intro records
      cases records with
      | expr _ inside => exact map_eq_ok.mpr ⟨_, Expr.expression_eq_ok.mpr inside, rfl⟩
  | wildcard options =>
    constructor
    · rintro ⟨rfl⟩
      exact .wildcard
    · intro records
      cases records
      rfl
  | qualifiedWildcard =>
    constructor
    · intro meant
      cases meant
    · intro records
      cases records

theorem sourceName_eq_ok {tables : List TableWithJoins} {source : Option String} :
    sourceName tables = .ok source ↔ SourceRecords (tables.map (·.erased)) source := by
  match tables with
  | [] =>
    constructor
    · rintro ⟨rfl⟩
      exact .none
    · intro records
      cases records
      rfl
  | [⟨.table name options aliased, joined⟩] =>
    cases joined <;> cases aliased
    · constructor
      · rintro ⟨rfl⟩
        exact .table name
      · intro records
        cases records
        rfl
    all_goals
      constructor
      · intro meant
        cases meant
      · intro records
        cases records
  | [⟨.nested aliased, joined⟩] =>
    constructor
    · intro meant
      cases joined <;> cases meant
    · intro records
      cases records
  | [⟨.other aliased, joined⟩] =>
    constructor
    · intro meant
      cases joined <;> cases meant
    · intro records
      cases records
  | t :: u :: ts =>
    constructor
    · intro meant
      cases meant
    · intro records
      rw [List.map_cons, List.map_cons] at records
      generalize t.erased = first at records
      cases records

theorem condition_eq_ok {selection : Option Expr} {condition : Option Tabular.Expr} :
    selection.mapM Expr.expression = .ok condition ↔
      Option.Rel Expr.Records (selection.map (·.erased)) condition := by
  cases selection with
  | none =>
    constructor
    · rintro ⟨rfl⟩
      exact .none
    · intro records
      cases records
      rfl
  | some e =>
    constructor
    · intro meant
      obtain ⟨x, inside, same⟩ := bind_eq_ok.mp meant
      cases same
      exact .some (Expr.expression_eq_ok.mp inside)
    · intro records
      cases records with
      | some inside =>
        rw [Option.mapM_some, Expr.expression_eq_ok.mpr inside]
        rfl

theorem items_eq_ok {projection : List SelectItem} {items : List Tabular.SelectItem} :
    projection.mapM SelectItem.item = .ok items ↔
      List.Forall₂ SelectItem.Records (projection.map (·.erased)) items := by
  rw [mapM_eq_ok_iff_forall₂, List.forall₂_map_left_iff]
  simp only [SelectItem.item_eq_ok]

/-- The clauses of a select that are refused, in the order in which they are looked for. -/
theorem Select.statement_eq (s : Select) :
    s.statement =
      if s.distinct then .error (.unsupported .distinct)
      else if s.having then .error (.unsupported .having)
      else if s.groupBy then .error (.unsupported .grouping)
      else do
        let source ← sourceName s.tables
        let items ← s.projection.mapM SelectItem.item
        let condition ← s.selection.mapM Expr.expression
        return { items, source, condition } := by
  rw [statement]
  cases s.distinct <;> cases s.having <;> cases s.groupBy <;> rfl

/-- A select is accepted if no refused clause is left and its parts are. -/
theorem Select.statement_eq_ok {s : Select} {r : Tabular.Select} :
    s.statement = .ok r ↔ s.erased.Records r := by
  rw [statement_eq]
  by_cases allowed : s.distinct = false ∧ s.having = false ∧ s.groupBy = false
  · obtain ⟨distinct, having, groupBy⟩ := allowed
    have bare : s.erased = .plain (s.projection.map (·.erased)) (s.tables.map (·.erased))
        (s.selection.map (·.erased)) := by
      rw [erased, plain, distinct, having, groupBy]
    rw [bare, distinct, having, groupBy]
    constructor
    · intro meant
      obtain ⟨source, onTables, rest⟩ := bind_eq_ok.mp meant
      obtain ⟨items, onItems, rest⟩ := bind_eq_ok.mp rest
      obtain ⟨condition, onCondition, same⟩ := bind_eq_ok.mp rest
      cases same
      exact .plain (items_eq_ok.mp onItems) (sourceName_eq_ok.mp onTables) (condition_eq_ok.mp onCondition)
    · intro records
      cases records with
      | plain onItems onTables onCondition =>
        show (do
          let source ← sourceName s.tables
          let items ← s.projection.mapM SelectItem.item
          let condition ← s.selection.mapM Expr.expression
          return Tabular.Select.mk items source condition) = _
        rw [sourceName_eq_ok.mpr onTables, items_eq_ok.mpr onItems, condition_eq_ok.mpr onCondition]
        rfl
  · constructor
    · intro meant
      split_ifs at meant with distinct having groupBy
      simp [distinct, having, groupBy] at allowed
    · intro records
      generalize same : s.erased = e at records
      cases records
      exact absurd ⟨congrArg distinct same, congrArg having same, congrArg groupBy same⟩ allowed

/-- The clauses around a select that are refused, in the order in which they are looked for. -/
theorem Query.statement_eq (q : Query) :
    q.statement =
      if q.named then .error (.unsupported .namedQueries)
      else if q.orderBy then .error (.unsupported .order)
      else if q.limit || q.offset then .error (.unsupported .limit)
      else match q.body with
        | .select s => s.statement
        | .other => .error (.unsupported .queryBody) := by
  rw [statement]
  cases q.named <;> cases q.orderBy <;> cases q.limit <;> cases q.offset <;> cases q.body <;> rfl

theorem Query.exists_of_records {q : Query} {r : Tabular.Select} (records : q.Records r) :
    ∃ s, q = .plain s ∧ s.Records r := by
  cases records with
  | plain inside => exact ⟨_, rfl, inside⟩

/-- A query is accepted if no refused clause is left around an accepted select. -/
theorem Query.statement_eq_ok {q : Query} {r : Tabular.Select} :
    q.statement = .ok r ↔ q.erased.Records r := by
  rw [statement_eq]
  obtain ⟨named, body, orderBy, limit, offset, limitBy, fetch, locks⟩ := q
  by_cases allowed : named = false ∧ orderBy = false ∧ limit = false ∧ offset = false
  · obtain ⟨rfl, rfl, rfl, rfl⟩ := allowed
    cases body with
    | select s =>
      show s.statement = .ok r ↔ Records (.plain s.erased) r
      rw [Select.statement_eq_ok]
      constructor
      · exact .plain
      · intro records
        obtain ⟨_, same, inside⟩ := exists_of_records records
        cases same
        exact inside
    | other =>
      constructor
      · intro meant
        cases meant
      · intro records
        obtain ⟨_, same, _⟩ := exists_of_records records
        cases same
  · constructor
    · intro meant
      simp only at meant
      split_ifs at meant with with_ ordered limited
      simp only [Bool.or_eq_true, not_or, Bool.not_eq_true] at with_ ordered limited
      exact absurd ⟨with_, ordered, limited.1, limited.2⟩ allowed
    · intro records
      obtain ⟨_, same, _⟩ := exists_of_records records
      exact absurd ⟨congrArg Query.named same, congrArg Query.orderBy same, congrArg Query.limit same,
        congrArg Query.offset same⟩ allowed

/-- A statement is accepted if it records a command once what is dropped is away. -/
theorem Statement.command_eq_ok {s : Statement} {c : Command} : s.command = .ok c ↔ s.erased.Records c := by
  cases s with
  | query q =>
    constructor
    · intro meant
      obtain ⟨r, inside, rfl⟩ := map_eq_ok.mp meant
      exact .select (Query.statement_eq_ok.mp inside)
    · intro records
      cases records with
      | select inside => exact map_eq_ok.mpr ⟨_, Query.statement_eq_ok.mpr inside, rfl⟩
  | explain options inner =>
    cases inner with
    | query q =>
      constructor
      · intro meant
        obtain ⟨r, inside, rfl⟩ := map_eq_ok.mp meant
        exact .explain (Query.statement_eq_ok.mp inside)
      · intro records
        cases records with
        | explain inside => exact map_eq_ok.mpr ⟨_, Query.statement_eq_ok.mpr inside, rfl⟩
    | explain | explainTable | other =>
      constructor
      · intro meant
        cases meant
      · intro records
        cases records
  | explainTable | other =>
    constructor
    · intro meant
      cases meant
    · intro records
      cases records

/-! ## What is dropped shows -/

theorem TypeName.erased_of_drops {t : TypeName} (whole : t.drops = false) : t.erased = t := by
  obtain ⟨base, arguments⟩ := t
  simp only [drops, Bool.or_eq_false_iff] at whole
  obtain ⟨rfl, bare⟩ := whole
  have same : base.toList.takeWhile (· != '(') = base.toList := by
    refine List.takeWhile_eq_self_iff.mpr fun c listed => ?_
    simp only [bne_iff_ne]
    rintro rfl
    simp [listed] at bare
  simp only [erased, plain, same, String.ofList_toList]

namespace Expr

theorem erased_of_drops {e : Expr} (whole : e.drops = false) : e.erased = e := by
  induction e with
  | value v =>
    cases v with
    | number text long =>
      have short : long = false := whole
      rw [short]
      rfl
    | _ => rfl
  | nested e ih => rw [erased, ih whole]
  | binary op left right ihl ihr =>
    obtain ⟨onLeft, onRight⟩ := Bool.or_eq_false_iff.mp whole
    rw [erased, ihl onLeft, ihr onRight]
  | signed sign e ih => rw [erased, ih whole]
  | cast e type format ih =>
    simp only [drops, Bool.or_eq_false_iff] at whole
    obtain ⟨⟨inside, named⟩, rfl⟩ := whole
    rw [erased, ih inside, TypeName.erased_of_drops named]
  | ident | compound | other => rfl

theorem drops_of_records {e : Expr} {x : Tabular.Expr} (records : e.Records x) : e.drops = false := by
  induction records with
  | name | qualified | minusNumber => rfl
  | literal inside => cases inside <;> rfl
  | nested _ ih | plus _ ih | minus _ _ _ ih => exact ih
  | binary _ _ ihl ihr => rw [drops, ihl, ihr]; rfl
  | cast _ bare _ ih => simp [drops, ih, TypeName.drops, TypeName.plain, bare]

end Expr

namespace SelectItem

theorem erased_of_drops {i : SelectItem} (whole : i.drops = false) : i.erased = i := by
  cases i with
  | expr e alias? => rw [erased, Expr.erased_of_drops whole]
  | wildcard options =>
    have none : options = .none := by simpa [drops] using whole
    rw [erased, none]
  | qualifiedWildcard => rfl

theorem drops_of_records {i : SelectItem} {item : Tabular.SelectItem} (records : i.Records item) :
    i.drops = false := by
  cases records with
  | expr _ inside => exact Expr.drops_of_records inside
  | wildcard => rfl

end SelectItem

namespace TableWithJoins

theorem erased_of_drops {t : TableWithJoins} (whole : t.drops = false) : t.erased = t := by
  obtain ⟨relation, joined⟩ := t
  cases relation with
  | table name options aliased =>
    have none : options = .none := by simpa [drops] using whole
    rw [erased, none]
  | nested | other => rfl

end TableWithJoins

private theorem map_eq_self {α : Type} {f : α → α} {drops : α → Bool} {xs : List α}
    (each : ∀ {x}, drops x = false → f x = x) (whole : xs.any drops = false) : xs.map f = xs := by
  have same : xs.map f = xs.map id :=
    List.map_congr_left fun x listed => each (by simpa using List.any_eq_false.mp whole x listed)
  rw [same, List.map_id]

private theorem any_eq_false {α β : Type} {r : α → β → Prop} {drops : α → Bool} {as : List α} {bs : List β}
    (each : ∀ {a b}, r a b → drops a = false) (records : List.Forall₂ r as bs) : as.any drops = false := by
  induction records with
  | nil => rfl
  | cons first _ ih => rw [List.any_cons, each first, ih]; rfl

namespace Select

theorem erased_of_drops {s : Select} (whole : s.drops = false) : s.erased = s := by
  obtain ⟨distinct, top, projection, into, tables, views, selection, groupBy, cluster, distribute, sort, having,
    windows, qualify⟩ := s
  simp only [drops, Bool.or_eq_false_iff] at whole
  obtain ⟨⟨⟨⟨⟨⟨⟨⟨⟨⟨rfl, rfl⟩, rfl⟩, rfl⟩, rfl⟩, rfl⟩, rfl⟩, rfl⟩, onItems⟩, onTables⟩, onCondition⟩ := whole
  have condition : selection.map (·.erased) = selection := by
    cases selection with
    | none => rfl
    | some e => rw [Option.map_some, Expr.erased_of_drops onCondition]
  simp only [erased, map_eq_self SelectItem.erased_of_drops onItems,
    map_eq_self TableWithJoins.erased_of_drops onTables, condition]

theorem drops_of_records {s : Select} {r : Tabular.Select} (records : s.Records r) : s.drops = false := by
  cases records with
  | @plain projection tables selection _ _ _ onItems onTables onCondition =>
    have items : projection.any (·.drops) = false := any_eq_false SelectItem.drops_of_records onItems
    have source : tables.any (·.drops) = false := by cases onTables <;> rfl
    have condition : selection.any (·.drops) = false := by
      cases onCondition with
      | none => rfl
      | some inside => exact Expr.drops_of_records inside
    simp only [drops, plain, items, source, condition, Bool.or_false]

end Select

namespace Query

theorem erased_of_drops {q : Query} (whole : q.drops = false) : q.erased = q := by
  obtain ⟨named, body, orderBy, limit, offset, limitBy, fetch, locks⟩ := q
  simp only [drops, Bool.or_eq_false_iff] at whole
  obtain ⟨⟨⟨rfl, rfl⟩, rfl⟩, inside⟩ := whole
  cases body with
  | select s => simp only [erased, QueryBody.erased, Select.erased_of_drops inside]
  | other => rfl

theorem drops_of_records {q : Query} {r : Tabular.Select} (records : q.Records r) : q.drops = false := by
  cases records with
  | plain inside => exact Select.drops_of_records inside

end Query

namespace Statement

theorem erased_of_drops {s : Statement} (whole : s.drops = false) : s.erased = s := by
  induction s with
  | query q => rw [erased, Query.erased_of_drops whole]
  | explain options inner ih =>
    obtain ⟨bare, inside⟩ := Bool.or_eq_false_iff.mp whole
    have none : options = .none := by simpa using bare
    rw [erased, ih inside, none]
  | explainTable | other => rfl

theorem drops_of_records {s : Statement} {c : Command} (records : s.Records c) : s.drops = false := by
  cases records with
  | select inside => exact Query.drops_of_records inside
  | explain inside => exact Query.drops_of_records inside

/-- A statement that is accepted holds its command and nothing else exactly if nothing of it is dropped. -/
theorem records_iff {s : Statement} {c : Command} (accepted : s.command = .ok c) :
    s.Records c ↔ s.drops = false := by
  constructor
  · exact drops_of_records
  · intro whole
    rw [← erased_of_drops whole]
    exact command_eq_ok.mp accepted

end Statement

/-! ## What is refused -/

/-- An error that a tree can have: a form that no command has, or a number that is none. -/
def OfTree : ParseError → Prop
  | .unsupported _ | .invalidNumber _ => True
  | .malformed | .statementCount _ => False

variable {fault : ParseError}

theorem ofTree_numberLiteral {text : String} (failed : numberLiteral text = .error fault) : OfTree fault := by
  rw [numberLiteral] at failed
  split_ifs at failed
  · cases read : Numeral.readFloat text <;> rw [read] at failed <;> cases failed
    trivial
  · cases read : Numeral.readInt text <;> rw [read] at failed <;> cases failed
    trivial

theorem ofTree_negated {x : Tabular.Expr} (failed : negated x = .error fault) : OfTree fault := by
  unfold negated at failed
  split at failed
  · split_ifs at failed
    cases failed
    trivial
  · cases failed
  · cases failed

theorem ofTree_expression {e : Expr} (failed : e.expression = .error fault) : OfTree fault := by
  induction e with
  | ident name => cases failed
  | compound parts =>
    match parts, failed with
    | [_, _], failed => cases failed
    | [], failed | [_], failed | _ :: _ :: _ :: _, failed => cases failed; trivial
  | value v =>
    have failed : v.literal = .error fault := error_of_map failed
    cases v with
    | number text long => exact ofTree_numberLiteral failed
    | other => cases failed; trivial
    | string | bool | null => cases failed
  | nested e ih => exact ih failed
  | binary op left right ihl ihr =>
    rcases bind_eq_error.mp failed with failed | ⟨_, _, failed⟩
    · cases op with
      | known op => cases failed
      | other text => cases failed; trivial
    rcases bind_eq_error.mp failed with failed | ⟨_, _, failed⟩
    · exact ihl failed
    rcases bind_eq_error.mp failed with failed | ⟨_, _, failed⟩
    · exact ihr failed
    · cases failed
  | signed sign e ih =>
    cases sign with
    | plus => exact ih failed
    | minus =>
      by_cases form : e.isNumber = false
      · rw [Expr.expression_minus form] at failed
        rcases bind_eq_error.mp failed with failed | ⟨_, _, failed⟩
        · exact ih failed
        · exact ofTree_negated failed
      · obtain ⟨text, long, rfl⟩ := Expr.exists_of_isNumber form
        exact ofTree_numberLiteral (error_of_map failed)
  | cast e type format ih =>
    rcases bind_eq_error.mp failed with failed | ⟨_, _, failed⟩
    · exact ih failed
    rcases bind_eq_error.mp failed with failed | ⟨_, _, failed⟩
    · rw [TypeName.dataType] at failed
      cases named : DataType.ofText (String.ofList (type.base.toList.takeWhile (· != '('))) with
      | error unknown =>
        rw [named] at failed
        cases failed
        trivial
      | ok target =>
        rw [named] at failed
        cases failed
    · cases failed
  | other => cases failed; trivial

theorem ofTree_item {i : SelectItem} (failed : i.item = .error fault) : OfTree fault := by
  cases i with
  | expr e alias? => exact ofTree_expression (error_of_map failed)
  | wildcard options => cases failed
  | qualifiedWildcard => cases failed; trivial

theorem ofTree_sourceName {tables : List TableWithJoins} (failed : sourceName tables = .error fault) :
    OfTree fault := by
  match tables, failed with
  | [], failed => cases failed
  | [⟨relation, joined⟩], failed =>
    cases joined with
    | true => cases failed; trivial
    | false =>
      cases relation with
      | table name options aliased =>
        cases aliased with
        | true => cases failed; trivial
        | false => cases failed
      | nested | other => cases failed; trivial
  | _ :: _ :: _, failed => cases failed; trivial

theorem ofTree_select {s : Select} (failed : s.statement = .error fault) : OfTree fault := by
  rw [Select.statement_eq] at failed
  split_ifs at failed
  · cases failed; trivial
  · cases failed; trivial
  · cases failed; trivial
  rcases bind_eq_error.mp failed with failed | ⟨_, _, failed⟩
  · exact ofTree_sourceName failed
  rcases bind_eq_error.mp failed with failed | ⟨_, _, failed⟩
  · obtain ⟨i, _, failed⟩ := exists_of_mapM_error failed
    exact ofTree_item failed
  rcases bind_eq_error.mp failed with failed | ⟨_, _, failed⟩
  · cases selection : s.selection with
    | none =>
      rw [selection] at failed
      cases failed
    | some e =>
      rw [selection] at failed
      rcases bind_eq_error.mp failed with failed | ⟨_, _, failed⟩
      · exact ofTree_expression failed
      · cases failed
  · cases failed

theorem ofTree_query {q : Query} (failed : q.statement = .error fault) : OfTree fault := by
  rw [Query.statement_eq] at failed
  split_ifs at failed
  · cases failed; trivial
  · cases failed; trivial
  · cases failed; trivial
  cases body : q.body with
  | select s =>
    rw [body] at failed
    exact ofTree_select failed
  | other =>
    rw [body] at failed
    cases failed
    trivial

/-- A tree that has no command is refused for a form of it, or for a number. -/
theorem ofTree_command {s : Statement} (failed : s.command = .error fault) : OfTree fault := by
  cases s with
  | query q => exact ofTree_query (error_of_map failed)
  | explain options inner =>
    cases inner with
    | query q => exact ofTree_query (error_of_map failed)
    | explain | explainTable | other => cases failed; trivial
  | explainTable | other => cases failed; trivial

end Sql

/-! ## Texts -/

/-- A text that is accepted holds its command, apart from clauses that are dropped, and it holds
nothing else exactly if none is. A single statement that holds no command even without these clauses
is refused. -/
theorem Command.ofSql_records (text : String) :
    (∀ c, ofSql text = .ok c → ∃ tree, Sql.statements text = some [tree] ∧ tree.erased.Records c ∧
      (tree.Records c ↔ tree.drops = false)) ∧
    ∀ tree, Sql.statements text = some [tree] → (∀ c, ¬ tree.erased.Records c) →
      (∃ what, ofSql text = .error (.unsupported what)) ∨ ∃ number, ofSql text = .error (.invalidNumber number) := by
  refine ⟨fun c accepted => ?_, fun tree read none => ?_⟩
  · rw [ofSql] at accepted
    split at accepted
    · cases accepted
    · rename_i tree read
      exact ⟨tree, read, Sql.Statement.command_eq_ok.mp accepted, Sql.Statement.records_iff accepted⟩
    · cases accepted
  · have only : ofSql text = tree.command := by rw [ofSql, read]
    rw [only]
    cases made : tree.command with
    | ok c => exact absurd (Sql.Statement.command_eq_ok.mp made) (none c)
    | error fault =>
      have refused := Sql.ofTree_command made
      cases fault with
      | unsupported what => exact Or.inl ⟨what, rfl⟩
      | invalidNumber number => exact Or.inr ⟨number, rfl⟩
      | malformed => exact refused.elim
      | statementCount => exact refused.elim

theorem Command.ofSql_records_star : ∃ tree, Sql.statements "SELECT * FROM t" = some [tree] ∧
    tree.Records (.select ⟨[.wildcard], some "t", none⟩) := by
  let plain : Sql.Query := .plain (.plain [.wildcard .none] [⟨.table ["t"] .none false, false⟩] none)
  have read : Sql.statements "SELECT * FROM t" = some [.query plain] := by decide +kernel
  have accepted : ofSql "SELECT * FROM t" = .ok (.select ⟨[.wildcard], some "t", none⟩) := by
    rw [ofSql, read]
    rfl
  obtain ⟨tree, found, _, whole⟩ := (ofSql_records "SELECT * FROM t").1 _ accepted
  obtain rfl : Sql.Statement.query plain = tree := by
    rw [read] at found
    exact (List.cons.inj (Option.some.inj found)).1
  exact ⟨_, read, whole.mpr rfl⟩

/-- A text that asks for the first row only becomes the command that asks for all of them. -/
theorem Command.ofSql_fetch :
    let text := "SELECT a FROM t FETCH FIRST ROW ONLY"
    let all : Sql.Query := .plain (.plain [.expr (.ident "a") none] [⟨.table ["t"] .none false, false⟩] none)
    Sql.statements text = some [.query { all with fetch := true }] ∧
      ofSql text = .ok (.select ⟨[.expr (.name "a") none], some "t", none⟩) ∧
      ∀ c, ¬ (Sql.Statement.query { all with fetch := true }).Records c := by
  intro text all
  have read : Sql.statements text = some [.query { all with fetch := true }] := by decide +kernel
  refine ⟨read, ?_, fun c records => ?_⟩
  · rw [ofSql, read]
    rfl
  · cases Sql.Statement.drops_of_records records

end Tabular
