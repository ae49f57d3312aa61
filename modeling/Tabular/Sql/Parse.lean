import Tabular.Sql.Token

/-!
# Parsing

Parsers that take tokens from the front of a list or fail, and the ones that the grammar is built
of. A parser also knows how many more levels of nesting there may be.
-/

namespace Tabular.Sql

/-- A parser: from the levels left and the tokens to come, a result and the tokens after it. -/
abbrev Parse (α : Type) : Type := ReaderT Nat (StateT (List Token) Option) α

namespace Parse

variable {α β : Type}

/-- The tokens to come. -/
def rest : Parse (List Token) := fun _ ts => some (ts, ts)

/-- The next token, which is left where it is. -/
def peek : Parse (Option Token) := fun _ ts => some (ts.head?, ts)

/-- Takes the next token. -/
def next : Parse Token := fun _ ts =>
  match ts with
  | t :: ts => some (t, ts)
  | [] => none

/-- Takes a token if there is one. -/
def skip : Parse Unit := fun _ ts => some ((), ts.drop 1)

/-- Runs a parser one level deeper, which must be allowed. -/
def deeper (p : Parse α) : Parse α := fun levels ts =>
  match levels with
  | 0 => none
  | levels + 1 => p levels ts

/-- Runs a parser, or takes nothing if it fails. -/
def attempt (p : Parse α) : Parse (Option α) := fun levels ts =>
  match p levels ts with
  | some (a, ts) => some (some a, ts)
  | none => some (none, ts)

/-- Fails unless a condition holds. -/
def require (condition : Bool) : Parse Unit := fun _ ts => if condition then some ((), ts) else none

/-! ## Tokens -/

/-- The keyword of a token. -/
def keywordOf : Option Token → Option String
  | some (.word w) => w.keyword
  | _ => none

/-- The next keyword, which is left where it is. -/
def peekKeyword : Parse (Option String) := fun _ ts => some (keywordOf ts.head?, ts)

/-- Takes a symbol if it is next. -/
def symbol (text : String) : Parse Bool := fun _ ts =>
  match ts with
  | .symbol s :: rest => if s = text then some (true, rest) else some (false, ts)
  | ts => some (false, ts)

/-- Takes a symbol. -/
def expectSymbol (text : String) : Parse Unit := do require (← symbol text)

/-- Takes keywords if all of them come next, in their order. -/
def phrase (ks : List String) : Parse Bool := fun _ ts =>
  if (ts.take ks.length).map (fun t => keywordOf (some t)) = ks.map some then
    some (true, ts.drop ks.length)
  else some (false, ts)

/-- Takes a keyword if it is next. -/
def keyword (k : String) : Parse Bool := phrase [k]

/-- Takes a keyword. -/
def expectKeyword (k : String) : Parse Unit := do require (← keyword k)

/-- Takes keywords. -/
def expectKeywords (ks : List String) : Parse Unit := ks.forM expectKeyword

/-- Takes one of some keywords if one is next. -/
def oneOf (ks : List String) : Parse (Option String) := fun _ ts =>
  match keywordOf ts.head? with
  | some k => if ks.contains k then some (some k, ts.drop 1) else some (none, ts)
  | none => some (none, ts)

/-- Takes one of some keywords. -/
def expectOneOf (ks : List String) : Parse String := do
  match ← oneOf ks with
  | some k => return k
  | none => failure

/-- Whether a symbol is next. -/
def atSymbol (text : String) : Parse Bool := fun _ ts =>
  some (ts.head? == some (.symbol text), ts)

/-! ## Repetition -/

/-- More elements, each after a comma. Every one takes a token, so `fuel` tokens bound them. -/
def commaTail (p : Parse α) : (fuel : Nat) → Parse (List α)
  | 0 => return []
  | fuel + 1 => do
    if ← symbol "," then
      let a ← p
      let more ← commaTail p fuel
      return a :: more
    else return []

/-- One or more elements with commas between them. -/
def commaSeparated (p : Parse α) : Parse (List α) := do
  let a ← p
  let more ← commaTail p ((← rest).length + 1)
  return a :: more

/-- Runs a parser for as long as it gives something. -/
def manyUpTo (p : Parse (Option α)) : (fuel : Nat) → Parse (List α)
  | 0 => return []
  | fuel + 1 => do
    match ← p with
    | none => return []
    | some a =>
      let more ← manyUpTo p fuel
      return a :: more

/-- Runs a parser, which takes a token when it gives something, for as long as it does. -/
def many (p : Parse (Option α)) : Parse (List α) := do manyUpTo p ((← rest).length + 1)

/-- Carries a value through a parser for as long as that gives a new one. -/
def extendUpTo (p : α → Parse (Option α)) : (fuel : Nat) → α → Parse α
  | 0, a => return a
  | fuel + 1, a => do
    match ← p a with
    | none => return a
    | some b => extendUpTo p fuel b

/-- Carries a value through a parser, which takes a token when it gives a new one, for as long as it
does. -/
def extend (p : α → Parse (Option α)) (a : α) : Parse α := do
  extendUpTo p ((← rest).length + 1) a

/-- A parser between parentheses. -/
def parenthesized (p : Parse α) : Parse α := do
  expectSymbol "("
  let a ← p
  expectSymbol ")"
  return a

/-- Runs a parser for what it takes, if keywords come next; says whether they did. -/
def clause (ks : List String) (p : Parse α) : Parse Bool := do
  if ← phrase ks then
    let _ ← p
    return true
  else return false

end Parse

end Tabular.Sql
