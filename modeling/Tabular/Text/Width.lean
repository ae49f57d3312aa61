import Tabular.Text.Emoji
import Tabular.Text.Extender

/-!
# Widths

How many columns of a terminal a text takes. East Asian wide characters and pictures take two, those
that belong to the character before them take none, and all others one. Characters that are shown as
one picture or one letter share its columns, so a text is measured from its end: each character is
measured before what was found to begin right after it.
-/

namespace Tabular.Text

/-! ## Single characters -/

/-- The ranges of characters that take two columns. -/
def wideRanges : List (Nat × Nat) := [
  (0x1100, 0x115F), (0x231A, 0x231B), (0x2329, 0x232A), (0x23E9, 0x23EC), (0x23F0, 0x23F0),
  (0x23F3, 0x23F3), (0x25FD, 0x25FE), (0x2614, 0x2615), (0x2630, 0x2637), (0x2648, 0x2653),
  (0x267F, 0x267F), (0x268A, 0x268F), (0x2693, 0x2693), (0x26A1, 0x26A1), (0x26AA, 0x26AB),
  (0x26BD, 0x26BE), (0x26C4, 0x26C5), (0x26CE, 0x26CE), (0x26D4, 0x26D4), (0x26EA, 0x26EA),
  (0x26F2, 0x26F3), (0x26F5, 0x26F5), (0x26FA, 0x26FA), (0x26FD, 0x26FD), (0x2705, 0x2705),
  (0x270A, 0x270B), (0x2728, 0x2728), (0x274C, 0x274C), (0x274E, 0x274E), (0x2753, 0x2755),
  (0x2757, 0x2757), (0x2795, 0x2797), (0x27B0, 0x27B0), (0x27BF, 0x27BF), (0x2B1B, 0x2B1C),
  (0x2B50, 0x2B50), (0x2B55, 0x2B55), (0x2E80, 0x2E99), (0x2E9B, 0x2EF3), (0x2F00, 0x2FD5),
  (0x2FF0, 0x3029), (0x3030, 0x303E), (0x3041, 0x3096), (0x309B, 0x30FF), (0x3105, 0x312F),
  (0x3131, 0x3163), (0x3165, 0x318E), (0x3190, 0x31E5), (0x31EF, 0x321E), (0x3220, 0x3247),
  (0x3250, 0xA48C), (0xA490, 0xA4C6), (0xA960, 0xA97C), (0xAC00, 0xD7A3), (0xF900, 0xFAFF),
  (0xFE10, 0xFE19), (0xFE30, 0xFE52), (0xFE54, 0xFE66), (0xFE68, 0xFE6B), (0xFF01, 0xFF60),
  (0xFFE0, 0xFFE6), (0x16FE0, 0x16FE3), (0x16FF2, 0x16FF6), (0x17000, 0x18CD5), (0x18CFF, 0x18D1E),
  (0x18D80, 0x18DF2), (0x1AFF0, 0x1AFF3), (0x1AFF5, 0x1AFFB), (0x1AFFD, 0x1AFFE),
  (0x1B000, 0x1B122), (0x1B132, 0x1B132), (0x1B150, 0x1B152), (0x1B155, 0x1B155),
  (0x1B164, 0x1B167), (0x1B170, 0x1B2FB), (0x1D300, 0x1D356), (0x1D360, 0x1D376),
  (0x1F004, 0x1F004), (0x1F0CF, 0x1F0CF), (0x1F18E, 0x1F18E), (0x1F191, 0x1F19A),
  (0x1F200, 0x1F202), (0x1F210, 0x1F23B), (0x1F240, 0x1F248), (0x1F250, 0x1F251),
  (0x1F260, 0x1F265), (0x1F300, 0x1F320), (0x1F32D, 0x1F335), (0x1F337, 0x1F37C),
  (0x1F37E, 0x1F393), (0x1F3A0, 0x1F3CA), (0x1F3CF, 0x1F3D3), (0x1F3E0, 0x1F3F0),
  (0x1F3F4, 0x1F3F4), (0x1F3F8, 0x1F43E), (0x1F440, 0x1F440), (0x1F442, 0x1F4FC),
  (0x1F4FF, 0x1F53D), (0x1F54B, 0x1F54E), (0x1F550, 0x1F567), (0x1F57A, 0x1F57A),
  (0x1F595, 0x1F596), (0x1F5A4, 0x1F5A4), (0x1F5FB, 0x1F64F), (0x1F680, 0x1F6C5),
  (0x1F6CC, 0x1F6CC), (0x1F6D0, 0x1F6D2), (0x1F6D5, 0x1F6D8), (0x1F6DC, 0x1F6DF),
  (0x1F6EB, 0x1F6EC), (0x1F6F4, 0x1F6FC), (0x1F7E0, 0x1F7EB), (0x1F7F0, 0x1F7F0),
  (0x1F90C, 0x1F93A), (0x1F93C, 0x1F945), (0x1F947, 0x1F9FF), (0x1FA70, 0x1FA7C),
  (0x1FA80, 0x1FA8A), (0x1FA8E, 0x1FAC6), (0x1FAC8, 0x1FAC8), (0x1FACD, 0x1FADC),
  (0x1FADF, 0x1FAEA), (0x1FAEF, 0x1FAF8), (0x20000, 0x2FFFD), (0x30000, 0x3FFFD)]

/-- The ranges of characters that take no column, though they are shown and extend none. -/
def widthlessRanges : List (Nat × Nat) := [
  (0x605, 0x605), (0x70F, 0x70F), (0x890, 0x891), (0x8E2, 0x8E2), (0x1160, 0x11FF),
  (0xA8FA, 0xA8FA), (0xD7B0, 0xD7C6), (0xD7CB, 0xD7FB)]

/-- The characters whose width no table gives. -/
def ownWidths : List (Char × Nat) :=
  [('\u115F', 2), ('\u17A4', 2), ('\u17D8', 3), ('\u2D7F', 1), ('\uFF9E', 1), ('\uFF9F', 1)]

/-- The columns that a character takes by itself. -/
def charWidth (c : Char) : Nat :=
  if c.toNat ≤ 0xA0 || isRegional c then 1
  else match ownWidths.lookup c with
    | some n => n
    | none =>
      if isIgnorable c || isExtender c || inRanges widthlessRanges c.toNat then 0
      else if inRanges wideRanges c.toNat then 2
      else 1

/-- The ranges of characters that take no column and yet part two Arabic letters. -/
def interruptingRanges : List (Nat × Nat) := [
  (0x605, 0x605), (0x890, 0x891), (0x8E2, 0x8E2), (0x9BE, 0x9BE), (0x9D7, 0x9D7), (0xB3E, 0xB3E),
  (0xB57, 0xB57), (0xBBE, 0xBBE), (0xBD7, 0xBD7), (0xCC0, 0xCC0), (0xCC2, 0xCC2), (0xCC7, 0xCC8),
  (0xCCA, 0xCCB), (0xCD5, 0xCD6), (0xD3E, 0xD3E), (0xD57, 0xD57), (0xDCF, 0xDCF), (0xDDF, 0xDDF),
  (0x1160, 0x11FF), (0x1715, 0x1715), (0x1734, 0x1734), (0x180E, 0x180E), (0x1B35, 0x1B35),
  (0x1B3B, 0x1B3B), (0x1B3D, 0x1B3D), (0x1B43, 0x1B44), (0x1BAA, 0x1BAA), (0x1BF2, 0x1BF3),
  (0x200C, 0x200D), (0x2065, 0x2069), (0x302E, 0x302F), (0x3164, 0x3164), (0xA8FA, 0xA8FA),
  (0xA953, 0xA953), (0xA9C0, 0xA9C0), (0xD7B0, 0xD7C6), (0xD7CB, 0xD7FB), (0xFFA0, 0xFFA0),
  (0xFFF0, 0xFFF8), (0x111C0, 0x111C0), (0x11235, 0x11235), (0x1133E, 0x1133E), (0x1134D, 0x1134D),
  (0x11357, 0x11357), (0x113B8, 0x113B8), (0x113C2, 0x113C2), (0x113C5, 0x113C5),
  (0x113C7, 0x113C9), (0x113CF, 0x113CF), (0x114B0, 0x114B0), (0x114BD, 0x114BD),
  (0x115AF, 0x115AF), (0x116B6, 0x116B6), (0x11930, 0x11930), (0x1193D, 0x1193D),
  (0x11F41, 0x11F41), (0x16FF0, 0x16FF1), (0x1D165, 0x1D166), (0x1D16D, 0x1D172),
  (0xE0000, 0xE0000), (0xE0002, 0xE001F), (0xE0080, 0xE00FF), (0xE01F0, 0xE0FFF)]

/-- Whether a character may stand between the two letters of an Arabic ligature. -/
def isTransparent (c : Char) : Bool :=
  charWidth c = 0 && !inRanges interruptingRanges c.toNat

/-- Whether a character may stand within any other ligature: it is not shown, but belongs to the
character before it. -/
def isUnseenMark (c : Char) : Bool :=
  inRanges [(0x34F, 0x34F), (0x17B4, 0x17B5), (0x180B, 0x180D), (0x180F, 0x180F), (0x200D, 0x200D),
    (0xFE00, 0xFE0F), (0xE0100, 0xE01EF)] c.toNat

/-! ## Letters of ligatures -/

/-- An Arabic letter that an alef after it is written with. -/
def isLam (c : Char) : Bool :=
  inRanges [(0x644, 0x644), (0x6B5, 0x6B8), (0x76A, 0x76A), (0x8A6, 0x8A6), (0x8C7, 0x8C7)] c.toNat

/-- An Arabic alef, in any of its forms. -/
def isAlef (c : Char) : Bool :=
  inRanges [(0x622, 0x623), (0x625, 0x625), (0x627, 0x627), (0x671, 0x673), (0x675, 0x675),
    (0x773, 0x774), (0x870, 0x882)] c.toNat

/-- A Khmer letter that can stand below the one before it. -/
def isCoengLetter (c : Char) : Bool :=
  inRanges [(0x1780, 0x1782), (0x1784, 0x1787), (0x1789, 0x178C), (0x178E, 0x1793),
    (0x1795, 0x1798), (0x179B, 0x179D), (0x17A0, 0x17A0), (0x17A2, 0x17A7), (0x17AB, 0x17AC),
    (0x17AF, 0x17AF)] c.toNat

/-- A Tifinagh consonant. -/
def isTifinagh (c : Char) : Bool := inRanges [(0x2D31, 0x2D65), (0x2D6F, 0x2D6F)] c.toNat

/-! ## What follows a character -/

/-- What begins right after a character, as far as the widths before it depend on it. -/
inductive Onset where
  | other
  | lineFeed
  /-- A tone of skin. -/
  | modifier
  /-- A picture, maybe of several characters. -/
  | emoji
  /-- A joiner before a picture. -/
  | joined
  /-- The frame of a key before a joiner and a picture. -/
  | joinedKey
  /-- Letters of a flag: one, or several. -/
  | regional (several : Bool)
  /-- Letters of a flag before a joiner and a picture: one, or an even or odd number of several. -/
  | joinedRegional (several even : Bool)
  /-- Tags that end before a joiner and a picture: so many letters, or so many digits before any. -/
  | tags (letters digits : Nat)
  | alef
  | lamed (joined : Bool)
  | bugineseYa (joined : Bool)
  | bugineseVowelYa
  | tifinagh (joined : Bool)
  | tifinaghJoiner
  | lisuTone
  | orkhonI (joined : Bool)
  | coengLetter
  | kiratE
  | kiratAi
  deriving DecidableEq

namespace Onset

/-- Whether the onset belongs to a ligature of letters. -/
def isLigature : Onset → Bool
  | alef | lamed _ | bugineseYa _ | bugineseVowelYa | tifinagh _ | tifinaghJoiner | lisuTone
  | orkhonI _ | coengLetter | kiratE | kiratAi => true
  | _ => false

/-- The onset after a joiner, for those letters whose ligature needs one. -/
def afterJoiner : Onset → Onset
  | lamed _ => lamed true
  | bugineseYa _ => bugineseYa true
  | tifinagh _ => tifinagh true
  | orkhonI _ => orkhonI true
  | o => o

end Onset

/-- What follows a character: an onset, and the styles that selectors before it ask for. -/
structure Following where
  onset : Onset := .other
  text : Bool := false
  emoji : Bool := false
  deriving DecidableEq

namespace Following

/-- An onset without selectors. -/
def plain (onset : Onset) : Following := { onset }

/-- A selector of the coloured style in front. It hides what is neither a ligature nor joined. -/
def withEmoji (f : Following) : Following :=
  if f.onset.isLigature then { f with emoji := true }
  else match f.onset with
    | .joined | .joinedKey => ⟨f.onset, false, true⟩
    | _ => ⟨.other, false, true⟩

/-- A selector of the plain style in front. It hides what is no ligature. -/
def withText (f : Following) : Following :=
  if f.onset.isLigature then { f with text := true } else ⟨.other, true, false⟩

/-- Without the selector of the coloured style, after a character that has none. -/
def withoutEmoji (f : Following) : Following :=
  if f.onset.isLigature then { f with emoji := false } else {}

end Following

/-! ## Measuring -/

/-- A character by itself, and the onset that it is. -/
def single (c : Char) : Int × Following :=
  if c = textSelector then (0, ⟨.other, true, false⟩)
  else if c = emojiSelector then (0, ⟨.other, false, true⟩)
  else
    let onset : Onset :=
      if isRegional c then .regional false
      else if isModifier c then .modifier
      else if isEmoji c then .emoji
      else if isAlef c then .alef
      else if isCoengLetter c then .coengLetter
      else if isTifinagh c then .tifinagh false
      else match c.toNat with
        | 0x5DC => .lamed false
        | 0x1A10 => .bugineseYa false
        | 0xA4FC => .lisuTone
        | 0xA4FD => .lisuTone
        | 0x10C03 => .orkhonI false
        | 0x16D67 => .kiratE
        | 0x16D68 => .kiratAi
        | _ => .other
    (charWidth c, .plain onset)

/-- Tags before others that end a flag: letters, then digits, then the flag itself. Six letters or
three digits are the most. -/
def tagged? (letters digits : Nat) (c : Char) : Option (Int × Onset) :=
  let code := c.toNat
  if 0xE0061 ≤ code ∧ code ≤ 0xE007A ∧ digits = 0 ∧ letters < 6 then
    some (0, .tags (letters + 1) 0)
  else if 0xE0030 ≤ code ∧ code ≤ 0xE0039 ∧ digits = 0 ∧ letters ≤ 4 then some (0, .tags 0 1)
  else if 0xE0030 ≤ code ∧ code ≤ 0xE0039 ∧ 0 < digits ∧ digits < 3 then
    some (0, .tags 0 (digits + 1))
  else if code = 0x1F3F4 ∧ (digits = 3 ∨ digits = 0 ∧ 3 ≤ letters) then some (0, .emoji)
  else none

/-- A character before a joiner and a picture, if it becomes a part of the picture. -/
def beforeJoined? (c : Char) : Option (Int × Onset) :=
  if c.toNat = 0x20E3 then some (0, .joinedKey)
  else if isRegional c then some (1, .joinedRegional false false)
  else if isModifier c then some (0, .modifier)
  else if c.toNat = 0xE007F then some (0, .tags 0 0)
  else if isEmoji c then some (0, .emoji)
  else none

/-- A character that is shown together with an onset after it: the columns that it adds, and the
onset that it makes. -/
def combined? (c : Char) (o : Onset) : Option (Int × Onset) :=
  let code := c.toNat
  match o with
  | .alef =>
    if isLam c then some (0, .other) else if isTransparent c then some (0, .alef) else none
  | .lamed true => if code = 0x5D0 then some (0, .other) else none
  | .coengLetter => if code = 0x17D2 then some (-1, .other) else none
  | .bugineseYa true => if code = 0x1A17 then some (0, .bugineseVowelYa) else none
  | .bugineseVowelYa => if code = 0x1A15 then some (0, .other) else none
  | .tifinagh joined =>
    if code = 0x2D7F then some (1, .tifinaghJoiner)
    else if joined && isTifinagh c then some (0, .other)
    else none
  | .tifinaghJoiner => if isTifinagh c then some (-1, .other) else none
  | .lisuTone => if 0xA4F8 ≤ code ∧ code ≤ 0xA4FB then some (0, .other) else none
  | .orkhonI true => if code = 0x10C32 then some (0, .other) else none
  | .modifier =>
    if isModifierBase c then some (0, .emoji)
    else if c = joiner then some (0, .joined)
    else none
  | .emoji => if c = joiner then some (0, .joined) else none
  | .joined => beforeJoined? c
  | .regional several =>
    if isRegional c then some (1, .regional true)
    else if several && c = joiner then some (0, .joined)
    else none
  | .joinedRegional several even =>
    if isRegional c then some (if even then 3 else -1, .joinedRegional true !even)
    else if several && c = joiner then some (0, .joined)
    else none
  | .tags letters digits => tagged? letters digits c
  | .kiratE =>
    match code with
    | 0x16D63 => some (0, .other)
    | 0x16D67 => some (0, .kiratAi)
    | 0x16D68 => some (1, .kiratE)
    | 0x16D69 => some (0, .other)
    | _ => none
  | .kiratAi => if code = 0x16D63 then some (0, .other) else none
  | _ => none

/-- A character beyond the simplest, before an onset without a selector. -/
def unstyled (c : Char) (o : Onset) : Int × Following :=
  if o.isLigature && o ≠ .alef && isUnseenMark c then
    (0, .plain (if c = joiner then o.afterJoiner else o))
  else match combined? c o with
    | some (columns, onset) => (columns, .plain onset)
    | none => single c

/-- The columns that a character adds to what follows it, and what then begins there. -/
def measured (c : Char) (following : Following) : Int × Following :=
  if following.emoji && isStyled c then
    let isPart := following.onset = .joined ∨ following.onset = .joinedKey
    (if isPart then 0 else 2, .plain .emoji)
  else
    let f := if following.emoji then following.withoutEmoji else following
    if c = '\n' then (1, .plain .lineFeed)
    else if c = '\r' ∧ f = .plain .lineFeed then (0, {})
    else if c.toNat ≤ 0xA0 then (1, {})
    else if f = {} then single c
    else if c = emojiSelector then (0, f.withEmoji)
    else if c = textSelector then (0, f.withText)
    else if f.text && isNarrowInText c then (1, {})
    else unstyled c f.onset

/-- The columns that a text takes. -/
def width (text : List Char) : Nat :=
  let total := text.foldr (fun c (sum, following) =>
    let (columns, f) := measured c following
    (sum + columns, f)) ((0 : Int), ({} : Following))
  total.1.toNat

end Tabular.Text
