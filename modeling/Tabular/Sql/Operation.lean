import Tabular.Sql.Grammar

/-!
# Operations

What may follow an operand, and how tightly it binds.
-/

namespace Tabular.Sql

open Parse

/-! ## Binding -/

/-- How tightly the operator of a negation binds. -/
def negationBinding : Nat := 15

/-- How tightly the patterns of texts bind. -/
def likeBinding : Nat := 19

/-- How tightly ranges, lists and comparisons bind. -/
def betweenBinding : Nat := 20

/-- How tightly a sign binds: as tightly as a product. -/
def signBinding : Nat := 40

/-- How tightly an operator that is a symbol binds. -/
def symbolBinding (s : String) : Nat :=
  if ["=", "<", "<=", "<>", "!=", ">", ">=", "==", "~", "~*", "!~", "!~*", "<=>"].contains s then
    betweenBinding
  else if s = "|" then 21
  else if ["^", "#", ">>", "<<"].contains s then 22
  else if s = "&" then 23
  else if ["+", "-"].contains s then 30
  else if ["*", "/", "//", "%", "||"].contains s then signBinding
  else if ["::", ":", "!", "[", "&&", "->", "->>", "#>", "#>>", "@>", "<@", "#-", "@?",
      "@@"].contains s then 50
  else 0

/-- The keywords of patterns. -/
def patternKeywords : List String := ["LIKE", "ILIKE", "RLIKE", "REGEXP", "SIMILAR"]

/-- How tightly an operator that is a keyword binds, before the keywords to come. -/
def keywordBinding (k : String) (second third : Option String) : Nat :=
  if patternKeywords.contains k then likeBinding
  else if ["IN", "BETWEEN", "OPERATOR"].contains k then betweenBinding
  else match k with
    | "OR" => 5
    | "AND" => 10
    | "XOR" => 24
    | "IS" => 17
    | "DIV" => signBinding
    | "AT" => if second = some "TIME" ∧ third = some "ZONE" then betweenBinding else 0
    | "NOT" =>
      match second with
      | some s =>
        if patternKeywords.contains s then likeBinding
        else if ["IN", "BETWEEN"].contains s then betweenBinding
        else 0
      | none => 0
    | _ => 0

/-- How tightly the operator ahead binds; 0 if there is none. -/
def precedence (ts : List Token) : Nat :=
  match ts with
  | .symbol s :: _ => symbolBinding s
  | .word w :: more =>
    match w.keyword with
    | some k => keywordBinding k (keywordOf more.head?) (keywordOf (more.drop 1).head?)
    | none => 0
  | _ => 0

/-! ## Operators -/

/-- The binary operator that a symbol is. -/
def symbolOperator (s : String) : Option BinaryOp :=
  match s with
  | "=" => some (.known (.comparison .eq))
  | "==" => some (.known (.comparison .eq))
  | "<>" => some (.known (.comparison .ne))
  | "!=" => some (.known (.comparison .ne))
  | "<" => some (.known (.comparison .lt))
  | "<=" => some (.known (.comparison .le))
  | ">" => some (.known (.comparison .gt))
  | ">=" => some (.known (.comparison .ge))
  | "+" => some (.known (.arithmetic .add))
  | "-" => some (.known (.arithmetic .sub))
  | "*" => some (.known (.arithmetic .mul))
  | "/" => some (.known (.arithmetic .div))
  | s =>
    if ["<=>", "%", "||", "|", "^", "&", "//", "<<", ">>", "&&", "~", "~*", "!~",
        "!~*"].contains s then some (.other s)
    else none

/-- The text of a literal that is no plain string, as it is printed. -/
def literalText (kind : LiteralKind) (text : String) : String :=
  match kind with
  | .national => "N'" ++ text ++ "'"
  | .escaped => "E'" ++ text ++ "'"
  | .hexadecimal => "X'" ++ text ++ "'"
  | .bytes quote => String.ofList ('B' :: quote :: text.toList ++ [quote])
  | .raw => "R'" ++ text ++ "'"
  | .dollar tag => "$" ++ tag ++ "$" ++ text ++ "$" ++ tag ++ "$"

/-- The text of a token within the name of an operator. Quotes inside it are left as they are. -/
def operatorText : Token → String
  | .word w => w.quote.elim w.text fun q => String.ofList (q :: w.text.toList ++ [q])
  | .number text long => if long then text ++ "L" else text
  | .symbol s => if s = "!=" then "<>" else s
  | .placeholder text => text
  | .string text => "'" ++ text ++ "'"
  | .literal kind text => literalText kind text

/-- The name of an operator in parentheses. -/
def operatorName : Parse BinaryOp :=
  parenthesized do
    let first := operatorText (← next)
    let more ← many do
      if ← symbol "." then return some (operatorText (← next)) else return none
    return .other ("OPERATOR(" ++ ".".intercalate (first :: more) ++ ")")

namespace Grammar

variable (g : Grammar)

/-- What follows a binary operator: its right operand, or all the values of a list to compare
with. -/
def rightSide (left : Expr) (op : BinaryOp) (binding : Nat) : Parse Expr := do
  match ← oneOf ["ANY", "ALL"] with
  | some _ =>
    let _ ← parenthesized (g.tighter binding)
    match op with
    | .known (.comparison _) => return .other
    | _ => failure
  | none => return .binary op left (← g.tighter binding)

/-- What follows `IS`. -/
def isForm : Parse Unit := do
  let _ ← keyword "NOT"
  match ← oneOf ["NULL", "TRUE", "FALSE", "UNKNOWN"] with
  | some _ => return ()
  | none =>
    expectKeywords ["DISTINCT", "FROM"]
    let _ ← g.expr

/-- What follows `IN`. -/
def inForm : Parse Unit := do
  if ← keyword "UNNEST" then
    let _ ← parenthesized g.expr
  else
    parenthesized do
      match keywordOf (← peek) with
      | some "SELECT" =>
        let _ ← g.query
      | some "WITH" =>
        let _ ← g.query
      | _ =>
        let _ ← g.exprs

/-- A pattern, maybe with the character that escapes. -/
def patternForm : Parse Unit := do
  let _ ← g.tighter likeBinding
  optionalEscape

/-- A range, list or pattern, maybe negated. -/
def memberForm : Parse Unit := do
  let _ ← keyword "NOT"
  let regular ← keyword "REGEXP"
  if (← keyword "RLIKE") || regular then
    let _ ← g.tighter likeBinding
  else if ← keyword "IN" then g.inForm
  else if ← keyword "BETWEEN" then
    let _ ← g.tighter betweenBinding
    expectKeyword "AND"
    let _ ← g.tighter betweenBinding
  else if ← keyword "LIKE" then g.patternForm
  else if ← keyword "ILIKE" then g.patternForm
  else
    expectKeywords ["SIMILAR", "TO"]
    g.patternForm

/-- The operation that a keyword begins after an operand. -/
def keywordOperation (left : Expr) (k : String) (binding : Nat) : Parse Expr := do
  match k with
  | "AND" =>
    skip
    g.rightSide left (.known (.logical .and)) binding
  | "OR" =>
    skip
    g.rightSide left (.known (.logical .or)) binding
  | "XOR" =>
    skip
    g.rightSide left (.other k) binding
  | "OPERATOR" =>
    skip
    let op ← operatorName
    g.rightSide left op binding
  | "IS" =>
    skip
    g.isForm
    return .other
  | "AT" =>
    expectKeywords ["AT", "TIME", "ZONE"]
    match ← next with
    | .string _ => return .other
    | _ => failure
  | _ =>
    g.memberForm
    return .other

/-- An index up to its closing bracket. -/
def index : Parse Unit := do
  let _ ← g.expr
  expectSymbol "]"

/-- The operation that a symbol begins after an operand. -/
def symbolOperation (left : Expr) (s : String) (binding : Nat) : Parse Expr := do
  skip
  match symbolOperator s with
  | some op => g.rightSide left op binding
  | none =>
    match s with
    | "::" =>
      let t ← g.wholeType
      return .cast left t.name false
    | "!" => return .other
    | "[" =>
      g.index
      let _ ← many do
        if ← symbol "[" then
          g.index
          return some ()
        else return none
      return .other
    | ":" =>
      let _ ← value
      return .other
    | s =>
      require (["->", "->>", "#>", "#>>", "@>", "<@", "#-", "@?", "@@"].contains s)
      let _ ← g.expr
      return .other

/-- The operation that follows an operand. -/
def operation (left : Expr) (binding : Nat) : Parse Expr := do
  match ← peek with
  | some (.symbol s) => g.symbolOperation left s binding
  | some (.word w) =>
    match w.keyword with
    | some k => g.keywordOperation left k binding
    | none => failure
  | _ => failure

/-- An expression whose operators all bind tighter than a bound. -/
def boundedExpr (bound : Nat) : Parse Expr := do
  let first ← g.operand
  extend (fun e => do
    let binding := precedence (← Parse.rest)
    if binding ≤ bound then return none
    else return some (← g.operation e binding)) first

end Grammar

end Tabular.Sql
