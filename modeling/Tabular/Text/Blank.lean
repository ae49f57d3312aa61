/-!
# Blank characters

White space in the sense of Unicode, what trimming removes, and lower case for ASCII letters.
-/

namespace Tabular.Text

/-- The characters with the Unicode property White_Space. -/
def isBlank (c : Char) : Bool :=
  let n := c.toNat
  (0x09 ≤ n && n ≤ 0x0D) || n == 0x20 || n == 0x85 || n == 0xA0 || n == 0x1680 ||
    (0x2000 ≤ n && n ≤ 0x200A) || n == 0x2028 || n == 0x2029 || n == 0x202F || n == 0x205F ||
    n == 0x3000

/-- A list without the elements at its end that satisfy `p`. -/
def dropEndWhile {α : Type} (p : α → Bool) (xs : List α) : List α :=
  (xs.reverse.dropWhile p).reverse

/-- A text without blanks at either end. -/
def trim (text : String) : String :=
  String.ofList (dropEndWhile isBlank (text.toList.dropWhile isBlank))

/-- ASCII letters in lower case, every other character kept. -/
def lower (text : String) : String :=
  String.ofList (text.toList.map Char.toLower)

/-- ASCII letters in upper case, every other character kept. -/
def upper (text : String) : String :=
  String.ofList (text.toList.map Char.toUpper)

end Tabular.Text
