import Tabular.Sql.Keyword
import Tabular.Text.Blank
import Tabular.Text.Letters

/-!
# Tokens

Splits SQL text into words, numbers, literals and symbols. Blanks and comments are dropped. A text
that ends within a literal or a comment has no tokens.
-/

namespace Tabular.Sql

/-- A word: its text, the quote around it if there is one, and the keyword it is, if it is one. A
word in quotes is no keyword. -/
structure Word where
  text : String
  quote : Option Char
  keyword : Option String
  deriving DecidableEq

/-- A word without quotes. -/
def Word.bare (text : List Char) : Word := ⟨String.ofList text, none, keyword? text⟩

/-- A word in quotes. -/
def Word.quoted (quote : Char) (text : List Char) : Word := ⟨String.ofList text, some quote, none⟩

/-- The kinds of literals that are no plain strings. -/
inductive LiteralKind where
  | national
  | escaped
  | hexadecimal
  | bytes (quote : Char)
  | raw
  /-- Between dollars, maybe with a tag between two of them. -/
  | dollar (tag : String)
  deriving DecidableEq

inductive Token where
  | word (w : Word)
  | number (text : String) (long : Bool)
  | string (text : String)
  | literal (kind : LiteralKind) (text : String)
  | placeholder (text : String)
  | symbol (text : String)
  deriving DecidableEq

/-- One step of reading: a token, or something that is dropped. -/
inductive Lexeme where
  | token (t : Token)
  | gap
  deriving DecidableEq

/-! ## Characters -/

/-- Whether a character can begin a word. -/
def beginsWord (c : Char) : Bool := Text.isAlphabetic c || c == '_' || c == '#' || c == '@'

/-- Whether a character can stand within a word. -/
def continuesWord (c : Char) : Bool :=
  Text.isAlphabetic c || c.isDigit || c == '@' || c == '$' || c == '#' || c == '_'

def isHexDigit (c : Char) : Bool :=
  c.isDigit || ('a' ≤ c && c ≤ 'f') || ('A' ≤ c && c ≤ 'F')

/-! ## Quoted texts -/

/-- The text up to the closing quote, and what follows it. A quote inside is written twice. -/
def quotedText (quote : Char) : List Char → Option (List Char × List Char)
  | [] => none
  | c :: rest =>
    if c = quote then
      match rest with
      | d :: rest' =>
        if d = quote then (quotedText quote rest').map fun t => (c :: t.1, t.2)
        else some ([], rest)
      | [] => some ([], [])
    else (quotedText quote rest).map fun t => (c :: t.1, t.2)

/-- What a character after a backslash stands for. -/
def escapedChar (c : Char) : Char :=
  match c with
  | 'n' => '\n'
  | 'r' => '\r'
  | 't' => '\t'
  | c => c

/-- The text of an escaped string up to its closing quote, and what follows it; `escaped` says
whether a backslash is right before. A backslash that changes nothing is dropped. -/
def escapedText (escaped : Bool) : List Char → Option (List Char × List Char)
  | [] => none
  | c :: rest =>
    if escaped then (escapedText false rest).map fun t => (escapedChar c :: t.1, t.2)
    else if c = '\\' then escapedText true rest
    else if c = '\x27' then
      match rest with
      | d :: rest' =>
        if d = c then (escapedText false rest').map fun t => (c :: t.1, t.2)
        else some ([], rest)
      | [] => some ([], [])
    else (escapedText false rest).map fun t => (c :: t.1, t.2)

/-! ## Comments -/

/-- What follows a comment that is `depth` levels deep; `last` is the character before. -/
def afterComment (depth : Nat) (last : Char) : List Char → Option (List Char)
  | [] => none
  | c :: rest =>
    if last = '/' ∧ c = '*' then afterComment (depth + 1) c rest
    else if last = '*' ∧ c = '/' then
      if depth ≤ 1 then some rest else afterComment (depth - 1) c rest
    else afterComment depth c rest

/-- What follows a comment up to the end of the line. -/
def afterLine (cs : List Char) : List Char := (cs.dropWhile (· != '\n')).drop 1

/-! ## Numbers and dollars -/

/-- The power of ten at the start of a text: `e`, maybe a sign, and digits. -/
def powerText (cs : List Char) : List Char :=
  match cs with
  | e :: rest =>
    if e = 'e' ∨ e = 'E' then
      let sign := (rest.take 1).takeWhile fun c => c = '+' ∨ c = '-'
      let digits := (rest.drop sign.length).takeWhile Char.isDigit
      if digits.isEmpty then [] else e :: sign ++ digits
    else []
  | [] => []

/-- A number, or a lone point. A number may end in an `L`, which says that it is long. -/
def scanNumber (cs : List Char) : Token × List Char :=
  let whole := cs.takeWhile Char.isDigit
  let rest := cs.drop whole.length
  let hexadecimal := match rest with
    | 'x' :: digits => if whole = ['0'] then some digits else none
    | _ => none
  match hexadecimal with
  | some digits =>
    let text := digits.takeWhile isHexDigit
    (.literal .hexadecimal (String.ofList text), digits.drop text.length)
  | none =>
    let point := (rest.take 1).takeWhile (· == '.')
    let fraction := (rest.drop point.length).takeWhile Char.isDigit
    let mantissa := whole ++ point ++ fraction
    let rest := cs.drop mantissa.length
    if mantissa = ['.'] then (.symbol ".", rest)
    else
      let power := powerText rest
      let rest := rest.drop power.length
      let text := String.ofList (mantissa ++ power)
      match rest with
      | 'L' :: rest => (.number text true, rest)
      | rest => (.number text false, rest)

/-- The text before two dollars, and what follows them. -/
def textToDollars : List Char → Option (List Char × List Char)
  | [] => none
  | c :: rest =>
    if c = '$' ∧ rest.head? = some '$' then some ([], rest.drop 1)
    else (textToDollars rest).map fun t => (c :: t.1, t.2)

/-- What a dollar begins: a text between pairs of dollars, with the same tag in both of them, or a
placeholder. After a tag the text goes on to the next dollar. -/
def scanDollar (rest : List Char) : Option (Token × List Char) :=
  let literal (tag text rest : List Char) : Token × List Char :=
    (.literal (.dollar (String.ofList tag)) (String.ofList text), rest)
  match rest with
  | '$' :: body => (textToDollars body).map fun t => literal [] t.1 t.2
  | rest =>
    let tag := rest.takeWhile fun c => Text.isAlphabetic c || Text.isNumeric c || c == '_'
    match rest.drop tag.length with
    | '$' :: body =>
      let text := body.takeWhile (· != '$')
      let closing := '$' :: tag ++ ['$']
      let rest := body.drop text.length
      if closing.isPrefixOf rest then some (literal tag text (rest.drop closing.length)) else none
    | rest => some (.placeholder (String.ofList ('$' :: tag)), rest)

/-! ## Words and symbols -/

/-- A word that begins with some characters. One that turns out to consist of digits and points is a
number. -/
def scanWord (start rest : List Char) : Token × List Char :=
  let body := start ++ rest.takeWhile continuesWord
  let rest := rest.dropWhile continuesWord
  if body.all fun c => c.isDigit || c == '.' then
    let more := rest.takeWhile fun c => c.isDigit || c == '.'
    (.number (String.ofList (body ++ more)) false, rest.drop more.length)
  else (.word (.bare body), rest)

/-- The symbols of more than one character, each before those that it begins with. -/
def longSymbols : List String :=
  ["->>", "->", "||/", "||", "|/", "=>", "==", "!~*", "!~", "!=", "!!", "<=>", "<=", "<>", "<<",
    "<@", ">=", ">>", "::", ":=", "&&", "~*", "#>>", "#>", "#-", "@>", "@?", "//"]

/-- A symbol. Any character that nothing else begins with is one. -/
def scanSymbol (cs : List Char) : Token × List Char :=
  match longSymbols.find? fun s => s.toList.isPrefixOf cs with
  | some s => (.symbol s, cs.drop s.length)
  | none => (.symbol (String.ofList (cs.take 1)), cs.drop 1)

/-- What `#` or `@` begins: a symbol, or a word whose second character may be any. -/
def scanMark (mark : Char) (rest : List Char) : Token × List Char :=
  let spelled := longSymbols.any fun s => s.toList.isPrefixOf (mark :: rest)
  match rest with
  | [] => (.symbol (String.ofList [mark]), [])
  | c :: more =>
    if spelled then scanSymbol (mark :: rest)
    else if mark = '@' ∧ c = '@' then
      match more with
      | [] => (.symbol "@@", [])
      | d :: more' => if d = ' ' then (.symbol "@@", more) else scanWord ['@', '@', d] more'
    else if c = ' ' then (.symbol (String.ofList [mark]), rest)
    else scanWord [mark, c] more

/-- The kind of a literal that has a letter in front of a quote. -/
def letteredKind (letter quote : Char) : Option LiteralKind :=
  let single := quote = '\x27'
  match letter.toLower with
  | 'b' => if single ∨ quote = '"' then some (.bytes quote) else none
  | 'r' => if single ∨ quote = '"' then some .raw else none
  | 'n' => if single then some .national else none
  | 'x' => if single then some .hexadecimal else none
  | 'e' => if single then some .escaped else none
  | _ => none

/-- What a letter begins: a literal if a quote is next that it may stand before, else a word. -/
def scanLettered (letter : Char) (rest : List Char) : Option (Token × List Char) :=
  let word := (.word (.bare (letter :: rest.takeWhile continuesWord)), rest.dropWhile continuesWord)
  match rest with
  | [] => some word
  | quote :: body =>
    match letteredKind letter quote with
    | none => some word
    | some kind =>
      let text? := if kind = .escaped then escapedText false body else quotedText quote body
      text?.map fun t => (.literal kind (String.ofList t.1), t.2)

/-! ## Scanning -/

/-- The letters that change the meaning of quotes right after them. -/
def literalLetters : List Char := ['b', 'B', 'r', 'R', 'n', 'N', 'e', 'E', 'x', 'X']

/-- The first lexeme of a text that begins with `c`, and what follows it. -/
def scanLexeme (c : Char) (rest : List Char) : Option (Lexeme × List Char) :=
  let token (t : Token × List Char) : Lexeme × List Char := (.token t.1, t.2)
  if literalLetters.contains c then (scanLettered c rest).map token
  else if c = '\x27' then
    (quotedText c rest).map fun t => (.token (.string (String.ofList t.1)), t.2)
  else if c = '"' ∨ c.toNat = 0x60 then
    (quotedText c rest).map fun t => (.token (.word (.quoted c t.1)), t.2)
  else if c.isDigit || c == '.' then some (token (scanNumber (c :: rest)))
  else if c = '-' ∧ rest.head? = some '-' then some (.gap, afterLine rest)
  else if c = '/' ∧ rest.head? = some '*' then
    (afterComment 1 ' ' (rest.drop 1)).map (.gap, ·)
  else if c = '#' ∨ c = '@' then some (token (scanMark c rest))
  else if c = '?' then
    let digits := rest.takeWhile Text.isNumeric
    some (.token (.placeholder (String.ofList ('?' :: digits))), rest.drop digits.length)
  else if beginsWord c then some (token (scanWord [c] rest))
  else if c = '$' then (scanDollar rest).map token
  else if Text.isBlank c then some (.gap, rest)
  else some (token (scanSymbol (c :: rest)))

/-- The tokens of a text that takes at most `fuel` lexemes. -/
def scanFrom : (fuel : Nat) → List Char → Option (List Token)
  | _, [] => some []
  | 0, _ :: _ => none
  | fuel + 1, c :: rest => do
    let (lexeme, rest) ← scanLexeme c rest
    let tokens ← scanFrom fuel rest
    match lexeme with
    | .token t => return t :: tokens
    | .gap => return tokens

/-- The tokens of a text. Each lexeme has at least one character. -/
def tokens (text : String) : Option (List Token) := scanFrom text.length text.toList

end Tabular.Sql
