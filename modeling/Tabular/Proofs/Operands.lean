import Tabular.Proofs.Scanned
import Tabular.Sql.Script

/-!
# Operands

The tokens of an expression are read as its tree (`Spelled.operand`). Every operation stands in parentheses, so an
operand ends before an operator that binds no tighter than a sign, and one level of nesting is used for each
operation and each cast. What is read is said for all numbers of levels at once: a parser gives its result if there
are enough, else nothing.
-/

namespace Tabular

namespace Sql

open Parse

/-! ## Steps of a parser -/

namespace Parse

variable {α β : Type} {p : Parse α} {f : α → Parse β} {levels : Nat} {ts : List Token}

theorem bind_of (a : α) (rest : List Token) (run : p levels ts = some (a, rest)) :
    (p >>= f) levels ts = f a levels rest := by
  show (p levels ts).bind _ = _
  rw [run]
  rfl

theorem bind_if {c : Prop} [Decidable c] (a : α) (rest : List Token)
    (run : p levels ts = if c then some (a, rest) else none) :
    (p >>= f) levels ts = if c then f a levels rest else none := by
  show (p levels ts).bind _ = _
  rw [run]
  split <;> rfl

theorem bind_none (run : p levels ts = none) : (p >>= f) levels ts = none := by
  show (p levels ts).bind _ = _
  rw [run]
  rfl

theorem extend_stops {f : α → Parse (Option α)} {a : α} (stops : f a levels ts = some (none, ts)) :
    extend f a levels ts = some (a, ts) := by
  show extendUpTo f (ts.length + 1) a levels ts = _
  rw [extendUpTo, bind_of _ _ stops]
  rfl

theorem extend_once {f : α → Parse (Option α)} {a b : α} {t : Token} {rest : List Token} {c : Prop} [Decidable c]
    (goes : f a levels (t :: ts) = if c then some (some b, rest) else none)
    (stops : f b levels rest = some (none, rest)) :
    extend f a levels (t :: ts) = if c then some (b, rest) else none := by
  have once : extendUpTo f (ts.length + 1) b levels rest = some (b, rest) := by
    rw [extendUpTo, bind_of _ _ stops]
    rfl
  show extendUpTo f (ts.length + 1 + 1) a levels (t :: ts) = _
  rw [extendUpTo, bind_if _ _ goes]
  exact congrArg (if c then · else none) once

theorem manyUpTo_stops {p : Parse (Option α)} (stops : p levels ts = some (none, ts)) (n : Nat) :
    manyUpTo p (n + 1) levels ts = some ([], ts) := by
  rw [manyUpTo, bind_of _ _ stops]
  rfl

/-- A list of one element, when no comma follows. -/
theorem commaSeparated_one {a : α} {after : List Token} {c : Prop} [Decidable c]
    (run : p levels ts = if c then some (a, after) else none)
    (noComma : symbol "," levels after = some (false, after)) :
    commaSeparated p levels ts = if c then some ([a], after) else none := by
  have tail : commaTail p (after.length + 1) levels after = some ([], after) := by
    rw [commaTail, bind_of _ _ noComma]
    rfl
  unfold commaSeparated
  rw [bind_if _ _ run, bind_of after after rfl, bind_of _ _ tail]
  rfl

theorem parenthesized_eq {a : α} {rest : List Token} {c : Prop} [Decidable c]
    (run : p levels ts = if c then some (a, .symbol ")" :: rest) else none) :
    parenthesized p levels (.symbol "(" :: ts) = if c then some (a, rest) else none := by
  unfold parenthesized
  rw [bind_of () ts rfl, bind_if _ _ run]
  rfl

end Parse

/-! ## What follows an operand -/

/-- What may follow an operand in the text of an expression. -/
inductive Follows : List Token → Prop
  | nothing : Follows []
  | closing (rest : List Token) : Follows (.symbol ")" :: rest)
  | typed (rest : List Token) : Follows (.word (.bare "AS".toList) :: rest)
  | operator (op : Operator) (rest : List Token) : Follows (operatorToken op :: rest)

/-- How tightly an operator binds. -/
def operatorBinding : Operator → Nat
  | .arithmetic .add => 30
  | .arithmetic .sub => 30
  | .arithmetic .mul => signBinding
  | .arithmetic .div => signBinding
  | .comparison _ => betweenBinding
  | .logical .and => 10
  | .logical .or => 5

theorem precedence_operator (op : Operator) (rest : List Token) :
    precedence (operatorToken op :: rest) = operatorBinding op := by
  rcases op with op | op | op <;> cases op <;> rfl

theorem operatorBinding_pos (op : Operator) : 0 < operatorBinding op := by
  rcases op with op | op | op <;> cases op <;> decide

namespace Follows

variable {rest : List Token}

/-- No operator binds tighter than a sign. -/
theorem precedence_le (follows : Follows rest) : precedence rest ≤ signBinding := by
  cases follows with
  | nothing => exact Nat.zero_le _
  | closing rest => exact Nat.zero_le _
  | typed rest => exact Nat.zero_le _
  | operator op rest =>
    rw [precedence_operator]
    rcases op with op | op | op <;> cases op <;> decide

theorem symbol_of {s : String} (listed : s ∈ ["[", "(", ".", ","]) (follows : Follows rest) (levels : Nat) :
    symbol s levels rest = some (false, rest) := by
  cases follows with
  | nothing => rfl
  | typed rest => rfl
  | closing rest =>
    simp only [List.mem_cons, List.not_mem_nil, or_false] at listed
    rcases listed with rfl | rfl | rfl | rfl <;> rfl
  | operator op rest =>
    simp only [List.mem_cons, List.not_mem_nil, or_false] at listed
    rcases op with op | op | op <;> cases op <;> rcases listed with rfl | rfl | rfl | rfl <;> rfl

theorem no_collation (follows : Follows rest) (levels : Nat) :
    keyword "COLLATE" levels rest = some (false, rest) := by
  cases follows with
  | nothing => rfl
  | closing rest => rfl
  | typed rest => rfl
  | operator op rest => rcases op with op | op | op <;> cases op <;> rfl

/-- A name ends where an operand does. -/
theorem nameForm (g : Grammar) (w : Word) (follows : Follows rest) (levels : Nat) :
    g.nameForm w levels rest = some (.ident w.text, rest) := by
  cases follows with
  | nothing => rfl
  | closing rest => rfl
  | typed rest => rfl
  | operator op rest => rcases op with op | op | op <;> cases op <;> rfl

theorem no_qualifiers (follows : Follows rest) (levels : Nat) : qualifiers levels rest = some ([], rest) := by
  unfold qualifiers many
  rw [bind_of rest rest rfl]
  exact manyUpTo_stops (bind_of _ _ (follows.symbol_of (by decide) levels)) _

theorem one_qualifier (w : Word) (follows : Follows rest) (levels : Nat) :
    qualifiers levels (.symbol "." :: .word w :: rest) = some ([w], rest) := by
  unfold qualifiers many
  rw [bind_of (.symbol "." :: .word w :: rest) _ rfl, manyUpTo, bind_of (some w) rest rfl]
  refine (bind_of [] rest ?_).trans rfl
  exact manyUpTo_stops (bind_of _ _ (follows.symbol_of (by decide) levels)) _

theorem nameForm_qualified (g : Grammar) (w v : Word) (follows : Follows rest) (levels : Nat) :
    g.nameForm w levels (.symbol "." :: .word v :: rest) = some (.compound [w.text, v.text], rest) := by
  cases follows with
  | nothing => rfl
  | closing rest => rfl
  | typed rest => rfl
  | operator op rest => rcases op with op | op | op <;> cases op <;> rfl

end Follows

/-! ## Strings after the name of their type -/

namespace Grammar

variable {g : Grammar} {d : Parse TypeScan} {w : Word} {levels : Nat} {rest ts : List Token}

/-- A type that has no grammar of its own stands before no string. -/
theorem typedString_custom (types : g.dataType = typeScan d) (plain : w.keyword.bind (keywordType d) = none)
    {name : TypeName} (custom : customType levels (.word w :: ts) = some ({ custom := true, name }, rest))
    (follows : Follows rest) : g.typedString levels (.word w :: ts) = none := by
  have scan : typeScan d levels (.word w :: ts) = some ({ custom := true, name }, rest) := by
    unfold typeScan
    rw [bind_of (some (.word w)) (.word w :: ts) rfl]
    simp only [plain]
    rw [bind_of _ _ custom]
    exact extend_stops (bind_of _ _ (follows.symbol_of (by decide) levels))
  have whole : g.wholeType levels (.word w :: ts) = some ({ custom := true, name }, rest) := by
    unfold wholeType
    rw [types, bind_of _ _ scan]
    rfl
  unfold typedString
  rw [bind_of _ _ whole]
  rfl

theorem typedString_none (types : g.dataType = typeScan d) (plain : w.keyword.bind (keywordType d) = none)
    (custom : customType levels (.word w :: ts) = none) : g.typedString levels (.word w :: ts) = none := by
  have scan : typeScan d levels (.word w :: ts) = none := by
    unfold typeScan
    rw [bind_of (some (.word w)) (.word w :: ts) rfl]
    simp only [plain]
    exact bind_none custom
  unfold typedString wholeType
  rw [types]
  exact bind_none (bind_none scan)

theorem customType_of {after : List Token} {names : List Word} {arguments : Bool}
    (named : objectName levels ts = some (names, after))
    (followed : optionalModifiers levels after = some (arguments, rest)) :
    customType levels ts = some ({ custom := true, name := ⟨printedName names, arguments⟩ }, rest) := by
  unfold customType
  rw [bind_of _ _ named, bind_of _ _ followed]
  rfl

theorem objectName_word (w : Word) {after : List Token} {more : List Word}
    (run : Sql.qualifiers levels ts = some (more, after)) :
    objectName levels (.word w :: ts) = some (w :: more, after) := by
  unfold objectName
  rw [bind_of w ts rfl, bind_of _ _ run]
  rfl

theorem optionalModifiers_follows (follows : Follows rest) : optionalModifiers levels rest = some (false, rest) := by
  unfold optionalModifiers
  rw [bind_of _ _ (follows.symbol_of (by decide) levels)]
  rfl

theorem typedString_name (types : g.dataType = typeScan d) (plain : w.keyword.bind (keywordType d) = none)
    (follows : Follows rest) : g.typedString levels (.word w :: rest) = none :=
  typedString_custom types plain
    (customType_of (objectName_word w (follows.no_qualifiers levels)) (optionalModifiers_follows follows)) follows

theorem typedString_qualified (types : g.dataType = typeScan d) (plain : w.keyword.bind (keywordType d) = none)
    (v : Word) (follows : Follows rest) : g.typedString levels (.word w :: .symbol "." :: .word v :: rest) = none :=
  typedString_custom types plain
    (customType_of (objectName_word w (follows.one_qualifier v levels)) (optionalModifiers_follows follows)) follows

/-- What stands in the parentheses of a cast is no argument list, or ends like one. -/
theorem modifiers_cast {e : Tabular.Expr} {tree : Expr} (spelled : Spelled e ts tree) (v w : Word) (levels : Nat)
    (rest : List Token) :
    optionalModifiers levels (.symbol "(" :: (ts ++ .word v :: .word w :: .symbol ")" :: rest)) = none ∨
      optionalModifiers levels (.symbol "(" :: (ts ++ .word v :: .word w :: .symbol ")" :: rest)) =
        some (true, rest) := by
  cases spelled with
  | name plain => exact Or.inr rfl
  | qualified plainTable plainColumn => exact Or.inl rfl
  | number positive => exact Or.inr rfl
  | negative negative => exact Or.inl rfl
  | string noQuote => exact Or.inr rfl
  | bool b => exact Or.inr rfl
  | null => exact Or.inr rfl
  | binary op onLeft onRight => exact Or.inl rfl
  | cast inside target => exact Or.inl rfl

theorem typedString_cast (types : g.dataType = typeScan d) {e : Tabular.Expr} {tree : Expr}
    (spelled : Spelled e ts tree) (u v : Word) (follows : Follows rest) :
    g.typedString levels
      (.word (.bare "CAST".toList) :: .symbol "(" :: (ts ++ .word u :: .word v :: .symbol ")" :: rest)) = none := by
  let after := .symbol "(" :: (ts ++ .word u :: .word v :: .symbol ")" :: rest)
  have unqualified : Sql.qualifiers levels after = some ([], after) := rfl
  have named := objectName_word (.bare "CAST".toList) unqualified
  rcases modifiers_cast spelled u v levels rest with fails | found
  · refine typedString_none types rfl ?_
    unfold customType
    rw [bind_of _ _ named, bind_none fails]
  · exact typedString_custom types rfl (customType_of named found) follows

/-! ## Operands -/

theorem operandForm_eq {c : Prop} [Decidable c] {e : Expr} (untyped : g.typedString levels ts = none)
    (plain : g.plainOperand levels ts = if c then some (e, rest) else none) (follows : Follows rest) :
    g.operandForm levels ts = if c then some (e, rest) else none := by
  have tried : attempt g.typedString levels ts = some (none, ts) := by
    rw [attempt, untyped]
  unfold operandForm
  rw [bind_of _ _ tried]
  show (g.plainOperand >>= _) levels ts = _
  rw [bind_if _ _ plain, bind_of _ _ (follows.no_collation levels)]
  rfl

theorem operandForm_of {e : Expr} (untyped : g.typedString levels ts = none)
    (plain : g.plainOperand levels ts = some (e, rest)) (follows : Follows rest) :
    g.operandForm levels ts = some (e, rest) :=
  (operandForm_eq untyped (plain.trans (if_pos trivial).symm) follows).trans (if_pos trivial)

theorem plainOperand_name (g : Grammar) (noKeyword : w.keyword = none) :
    g.plainOperand levels (.word w :: ts) = g.nameForm w levels ts := by
  unfold plainOperand
  rw [bind_of (.word w :: ts) _ rfl, bind_of (.word w) ts rfl]
  simp only [noKeyword, Option.bind_none]

theorem plainOperand_keyword {k : String} {p : Parse Expr} (keyword : w.keyword = some k)
    (form : g.keywordForm k ts.head? = some p) : g.plainOperand levels (.word w :: ts) = p levels ts := by
  have found : g.keywordForm k ((Token.word w :: ts).drop 1).head? = some p := form
  unfold plainOperand
  rw [bind_of (.word w :: ts) _ rfl, bind_of (.word w) ts rfl]
  simp only [keyword, Option.bind_some, found]

theorem boundedExpr_operand {bound : Nat} {c : Prop} [Decidable c] {e : Expr}
    (operand : g.operand levels ts = if c then some (e, rest) else none) (stops : precedence rest ≤ bound) :
    g.boundedExpr bound levels ts = if c then some (e, rest) else none := by
  unfold boundedExpr
  rw [bind_if _ _ operand, extend_stops]
  rw [bind_of rest rest rfl]
  simp only [if_pos stops]
  rfl

theorem boundedExpr_of {bound : Nat} {e : Expr} (operand : g.operand levels ts = some (e, rest))
    (stops : precedence rest ≤ bound) : g.boundedExpr bound levels ts = some (e, rest) :=
  (boundedExpr_operand (operand.trans (if_pos trivial).symm) stops).trans (if_pos trivial)

theorem operation_operator (op : Operator) (left : Expr) (binding : Nat) :
    g.operation left binding levels (operatorToken op :: ts) = g.rightSide left (.known op) binding levels ts := by
  rcases op with op | op | op <;> cases op <;> rfl

/-- An operator that binds looser than the operands at its sides, with nothing after them. -/
theorem boundedExpr_operator (op : Operator) {c d : Prop} [Decidable c] [Decidable d] {left right : Expr}
    {more : List Token} (operand : g.operand levels ts = if c then some (left, operatorToken op :: more) else none)
    (single : oneOf ["ANY", "ALL"] levels more = some (none, more))
    (tighter : g.tighter (operatorBinding op) levels more = if d then some (right, rest) else none)
    (stops : precedence rest = 0) :
    g.boundedExpr 0 levels ts = if c ∧ d then some (.binary (.known op) left right, rest) else none := by
  have binds : ¬ operatorBinding op ≤ 0 := Nat.not_le.mpr (operatorBinding_pos op)
  have operation : g.operation left (operatorBinding op) levels (operatorToken op :: more) =
      if d then some (.binary (.known op) left right, rest) else none := by
    rw [operation_operator]
    unfold rightSide
    rw [bind_of _ _ single]
    exact bind_if _ _ tighter
  unfold boundedExpr
  rw [bind_if _ _ operand, extend_once (b := .binary (.known op) left right) (c := d), ite_and]
  · rw [bind_of (operatorToken op :: more) _ rfl]
    simp only [precedence_operator, if_neg binds]
    exact bind_if _ _ operation
  · rw [bind_of rest rest rfl]
    simp only [stops]
    rfl

/-! ## Forms with expressions inside -/

variable {c : Prop} [Decidable c]

/-- The keywords with which an operand may begin. -/
def operandKeywords : List (Option String) := [none, some "TRUE", some "FALSE", some "NULL", some "CAST"]

theorem groupForm_eq {e : Expr} (begins : keywordOf ts.head? ∈ operandKeywords)
    (inside : g.expr levels ts = if c then some (e, .symbol ")" :: rest) else none) (follows : Follows rest) :
    g.groupForm levels ts = if c then some (.nested e, rest) else none := by
  have noPoint := follows.symbol_of (s := ".") (by decide) levels
  have exprs : g.exprs levels ts = if c then some ([e], .symbol ")" :: rest) else none :=
    commaSeparated_one inside rfl
  unfold groupForm
  rw [bind_of ts.head? ts rfl]
  generalize keywordOf ts.head? = k at begins
  simp only [operandKeywords, List.mem_cons, List.not_mem_nil, or_false] at begins
  rcases begins with rfl | rfl | rfl | rfl | rfl <;>
  · refine (bind_if [e] (.symbol ")" :: rest) exprs).trans ?_
    show (if c then (symbol "." levels rest).bind _ else none) = _
    rw [noPoint]
    rfl

theorem exists_keywordType (target : DataType) (d : Parse TypeScan) :
    ∃ p, keywordType d target.text = some p ∧ ∀ levels rest,
      p levels (.symbol ")" :: rest) = some ({ name := .plain target.text }, .symbol ")" :: rest) := by
  cases target <;> simp only [DataType.text] <;> exact ⟨_, rfl, fun _ _ => rfl⟩

theorem keyword_type (target : DataType) : (Word.bare target.text.toList).keyword = some target.text := by
  cases target <;> decide +kernel

theorem typeScan_type (target : DataType) (d : Parse TypeScan) (levels : Nat) (rest : List Token) :
    typeScan d levels (.word (.bare target.text.toList) :: .symbol ")" :: rest) =
      some ({ name := .plain target.text }, .symbol ")" :: rest) := by
  obtain ⟨p, found, run⟩ := exists_keywordType target d
  unfold typeScan
  rw [bind_of (some (.word (.bare target.text.toList))) _ rfl]
  simp only [keyword_type, Option.bind_some, found]
  rw [bind_of () (.symbol ")" :: rest) rfl, bind_of _ _ (run levels rest)]
  exact extend_stops (bind_of false _ rfl)

theorem castForm_eq (types : g.dataType = typeScan d) {e : Expr} (target : DataType)
    (inside : g.expr levels ts = if c then
      some (e, .word (.bare "AS".toList) :: .word (.bare target.text.toList) :: .symbol ")" :: rest) else none) :
    g.castForm levels (.symbol "(" :: ts) = if c then some (.cast e (.plain target.text) false, rest) else none := by
  have whole : g.wholeType levels (.word (.bare target.text.toList) :: .symbol ")" :: rest) =
      some ({ name := .plain target.text }, .symbol ")" :: rest) := by
    unfold wholeType
    rw [types, bind_of _ _ (typeScan_type target d levels rest)]
    rfl
  unfold castForm
  refine parenthesized_eq ?_
  rw [bind_if _ _ inside, bind_of () (.word (.bare target.text.toList) :: .symbol ")" :: rest) rfl, bind_of _ _ whole]
  rfl

/-- A minus before a number belongs to it, as no operator binds tighter. -/
theorem plainOperand_minus {e : Expr} (operand : g.tighter signBinding levels ts = some (e, rest)) :
    g.plainOperand levels (.symbol "-" :: ts) = some (.signed .minus e, rest) := by
  show (g.tighter signBinding >>= fun e => pure (Expr.signed .minus e)) levels ts = _
  exact bind_of _ _ operand

end Grammar

/-! ## One level deeper -/

section

variable {n m k : Nat} {ts more rest : List Token} {l r : Expr}

theorem expr_operand (stops : precedence rest = 0)
    (operand : ∀ levels, (Grammar.ofDepth (n + 1)).operand levels ts = if m ≤ levels then some (l, rest) else none)
    (levels : Nat) : (Grammar.ofDepth (n + 3)).expr levels ts = if m + 1 ≤ levels then some (l, rest) else none := by
  cases levels with
  | zero => rfl
  | succ levels =>
    show (Grammar.ofDepth (n + 1)).boundedExpr 0 levels ts = _
    rw [Grammar.boundedExpr_operand (operand levels) stops.le]
    exact if_congr Nat.succ_le_succ_iff.symm rfl rfl

theorem expr_operator (op : Operator) (stops : precedence rest = 0)
    (single : ∀ levels, oneOf ["ANY", "ALL"] levels more = some (none, more))
    (left : ∀ levels, (Grammar.ofDepth (n + 1)).operand levels ts =
      if m ≤ levels then some (l, operatorToken op :: more) else none)
    (right : ∀ levels, (Grammar.ofDepth n).operand levels more = if k ≤ levels then some (r, rest) else none)
    (levels : Nat) :
    (Grammar.ofDepth (n + 3)).expr levels ts =
      if max m k + 1 ≤ levels then some (.binary (.known op) l r, rest) else none := by
  cases levels with
  | zero => rfl
  | succ levels =>
    have tighter : (Grammar.ofDepth (n + 1)).tighter (operatorBinding op) levels more =
        if k ≤ levels then some (r, rest) else none :=
      Grammar.boundedExpr_operand (right levels) (stops.le.trans (Nat.zero_le _))
    show (Grammar.ofDepth (n + 1)).boundedExpr 0 levels ts = _
    rw [Grammar.boundedExpr_operator op (left levels) (single levels) tighter stops]
    exact if_congr (by omega) rfl rfl

end

end Sql

/-- How many operations and casts stand around each other at most. -/
def Expr.nesting : Expr → Nat
  | binary _ left right => max left.nesting right.nesting + 1
  | cast inner _ => inner.nesting + 1
  | name _ | qualified .. | literal _ => 0

namespace Sql

open Parse

/-! ## Expressions -/

theorem keyword_true : (Word.bare "true".toList).keyword = some "TRUE" := by decide +kernel

theorem keyword_false : (Word.bare "false".toList).keyword = some "FALSE" := by decide +kernel

theorem keyword_null : (Word.bare "NULL".toList).keyword = some "NULL" := by decide +kernel

theorem keyword_cast : (Word.bare "CAST".toList).keyword = some "CAST" := by decide +kernel

/-- A name is no keyword. -/
theorem keyword_name {name : String} (plain : isName name.toList = true) : (Word.bare name.toList).keyword = none := by
  show keyword? name.toList = none
  cases letters : name.toList with
  | nil =>
    rw [letters] at plain
    cases plain
  | cons c cs =>
    rw [letters] at plain
    exact Option.isNone_iff_eq_none.mp (Bool.and_eq_true_iff.mp plain).2

theorem begins_of_keyword {w : Word} {k : String} (found : w.keyword = some k)
    (listed : some k ∈ Grammar.operandKeywords) : keywordOf (some (.word w)) ∈ Grammar.operandKeywords := by
  rw [keywordOf, found]
  exact listed

theorem Spelled.keyword_head {e : Tabular.Expr} {ts : List Token} {tree : Expr} (spelled : Spelled e ts tree)
    (rest : List Token) : keywordOf (ts ++ rest).head? ∈ Grammar.operandKeywords := by
  cases spelled with
  | name plain => exact List.mem_cons.mpr (Or.inl (keyword_name plain))
  | qualified plainTable plainColumn => exact List.mem_cons.mpr (Or.inl (keyword_name plainTable))
  | number positive => exact List.mem_cons_self
  | negative negative => exact List.mem_cons_self
  | string noQuote => exact List.mem_cons_self
  | bool b =>
    cases b
    · exact begins_of_keyword keyword_false (by decide)
    · exact begins_of_keyword keyword_true (by decide)
  | null => exact begins_of_keyword keyword_null (by decide)
  | binary op onLeft onRight => exact List.mem_cons_self
  | cast inside target => exact begins_of_keyword keyword_cast (by decide)

/-- An operand is no list of values to compare with. -/
theorem Spelled.single {e : Tabular.Expr} {ts : List Token} {tree : Expr} (spelled : Spelled e ts tree)
    (rest : List Token) (levels : Nat) :
    oneOf ["ANY", "ALL"] levels (ts ++ rest) = some (none, ts ++ rest) := by
  have begins := spelled.keyword_head rest
  rw [oneOf]
  generalize keywordOf (ts ++ rest).head? = k at begins
  simp only [Grammar.operandKeywords, List.mem_cons, List.not_mem_nil, or_false] at begins
  rcases begins with rfl | rfl | rfl | rfl | rfl <;> rfl

theorem operand_number (n : Nat) (text : String) {rest : List Token} (follows : Follows rest) (levels : Nat) :
    (Grammar.ofDepth (n + 1)).operand levels (.number text false :: rest) =
      some (.value (.number text false), rest) := by
  have untyped : (Grammar.ofDepth n).typedString levels (.number text false :: rest) = none := by
    cases n <;> rfl
  exact Grammar.operandForm_of untyped rfl follows

theorem operand_literal {n levels : Nat} {w : Word} {k : String} {v : Value} {rest : List Token}
    (keyword : w.keyword = some k) (noType : keywordType (Grammar.ofDepth n).dataType k = none)
    (form : (Grammar.ofDepth (n + 1)).keywordForm k rest.head? = some (pure (.value v))) (follows : Follows rest) :
    (Grammar.ofDepth (n + 2)).operand levels (.word w :: rest) = some (.value v, rest) :=
  Grammar.operandForm_of (Grammar.typedString_name rfl (by rw [keyword]; exact noType) follows)
    (Grammar.plainOperand_keyword keyword form) follows

/-- The tokens of an expression are read as its tree, if it does not nest more deeply than is allowed. -/
theorem Spelled.operand {e : Tabular.Expr} {ts : List Token} {tree : Expr} (spelled : Spelled e ts tree) :
    ∀ {n : Nat} {rest : List Token} (levels : Nat), 4 * e.nesting + 4 ≤ n → Follows rest →
      (Grammar.ofDepth n).operand levels (ts ++ rest) = if e.nesting ≤ levels then some (tree, rest) else none := by
  induction spelled with
  | @name name plain =>
    intro n rest levels deep follows
    obtain ⟨n, rfl⟩ : ∃ k, n = k + 2 := ⟨n - 2, by omega⟩
    have noKeyword := keyword_name plain
    refine (Grammar.operandForm_of (Grammar.typedString_name rfl (by rw [noKeyword]; rfl) follows) ?_ follows).trans
      (if_pos (Nat.zero_le _)).symm
    rw [Grammar.plainOperand_name _ noKeyword, follows.nameForm]
    simp [Word.bare]
  | @qualified table column plainTable plainColumn =>
    intro n rest levels deep follows
    obtain ⟨n, rfl⟩ : ∃ k, n = k + 2 := ⟨n - 2, by omega⟩
    have noKeyword := keyword_name plainTable
    refine (Grammar.operandForm_of (Grammar.typedString_qualified rfl (by rw [noKeyword]; rfl) _ follows) ?_
      follows).trans (if_pos (Nat.zero_le _)).symm
    rw [Grammar.plainOperand_name _ noKeyword, follows.nameForm_qualified]
    simp [Word.bare]
  | number positive =>
    intro n rest levels deep follows
    obtain ⟨n, rfl⟩ : ∃ k, n = k + 1 := ⟨n - 1, by omega⟩
    exact (operand_number n _ follows levels).trans (if_pos (Nat.zero_le _)).symm
  | negative negative =>
    -- the minus takes an operand that reaches as far as operators bind tighter than a sign: the number alone
    intro n rest levels deep follows
    obtain ⟨n, rfl⟩ : ∃ k, n = k + 3 := ⟨n - 3, by omega⟩
    refine (Grammar.operandForm_of (e := .signed .minus _) rfl (Grammar.plainOperand_minus ?_) follows).trans
      (if_pos (Nat.zero_le _)).symm
    exact Grammar.boundedExpr_of (operand_number n _ follows levels) follows.precedence_le
  | string noQuote =>
    intro n rest levels deep follows
    obtain ⟨n, rfl⟩ : ∃ k, n = k + 2 := ⟨n - 2, by omega⟩
    exact (Grammar.operandForm_of rfl rfl follows).trans (if_pos (Nat.zero_le _)).symm
  | bool b =>
    intro n rest levels deep follows
    obtain ⟨n, rfl⟩ : ∃ k, n = k + 2 := ⟨n - 2, by omega⟩
    refine Eq.trans ?_ (if_pos (Nat.zero_le _)).symm
    cases b
    · exact operand_literal keyword_false rfl rfl follows
    · exact operand_literal keyword_true rfl rfl follows
  | null =>
    intro n rest levels deep follows
    obtain ⟨n, rfl⟩ : ∃ k, n = k + 2 := ⟨n - 2, by omega⟩
    exact (operand_literal keyword_null rfl rfl follows).trans (if_pos (Nat.zero_le _)).symm
  | @binary op left right ls rs l r onLeft onRight ihl ihr =>
    intro n rest levels deep follows
    rw [Tabular.Expr.nesting] at deep
    -- the left operand is read three grammars further in, the right one four
    obtain ⟨n, rfl⟩ : ∃ k, n = k + 4 := ⟨n - 4, by omega⟩
    have inside := expr_operator op rfl (onRight.single (.symbol ")" :: rest))
      (fun levels => ihl (n := n + 1) levels (by omega) (.operator op _))
      (fun levels => ihr (n := n) levels (by omega) (.closing rest)) levels
    have tokens : (.symbol "(" :: (ls ++ operatorToken op :: (rs ++ [.symbol ")"]))) ++ rest =
        .symbol "(" :: (ls ++ operatorToken op :: (rs ++ .symbol ")" :: rest)) := by simp
    rw [tokens]
    exact Grammar.operandForm_eq rfl (Grammar.groupForm_eq (onLeft.keyword_head _) inside follows) follows
  | @cast inner ts tree spelled target ih =>
    intro n rest levels deep follows
    rw [Tabular.Expr.nesting] at deep
    obtain ⟨n, rfl⟩ : ∃ k, n = k + 4 := ⟨n - 4, by omega⟩
    have inside := expr_operand rfl (fun levels => ih (n := n + 1) levels (by omega)
      (.typed (.word (.bare target.text.toList) :: .symbol ")" :: rest))) levels
    have tokens : (.word (.bare "CAST".toList) :: .symbol "(" ::
        (ts ++ [.word (.bare "AS".toList), .word (.bare target.text.toList), .symbol ")"])) ++ rest =
        .word (.bare "CAST".toList) :: .symbol "(" ::
          (ts ++ .word (.bare "AS".toList) :: .word (.bare target.text.toList) :: .symbol ")" :: rest) := by simp
    rw [tokens]
    refine Grammar.operandForm_eq (Grammar.typedString_cast rfl spelled _ _ follows) ?_ follows
    exact (Grammar.plainOperand_keyword keyword_cast rfl).trans (Grammar.castForm_eq rfl target inside)

end Sql

end Tabular
