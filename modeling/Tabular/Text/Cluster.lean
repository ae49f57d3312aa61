import Tabular.Text.Emoji
import Tabular.Text.Extender

/-!
# Clusters

What a reader takes for one character may be written with several: a letter with its accents, a
syllable, a picture. Here texts are split into such clusters, and the lines that are typed in are
read with their backspaces, each of which takes one cluster back. Main statement: the clusters of a
text are the text again.
-/

namespace Tabular.Text

/-! ## Classes -/

/-- The ranges of characters that control a terminal, or stand apart from all text. -/
def controlRanges : List (Nat × Nat) := [
  (0x0, 0x1F), (0x7F, 0x9F), (0xAD, 0xAD), (0x61C, 0x61C), (0x180E, 0x180E), (0x200B, 0x200B),
  (0x200E, 0x200F), (0x2028, 0x202E), (0x2060, 0x206F), (0xFEFF, 0xFEFF), (0xFFF0, 0xFFFB),
  (0x13430, 0x1343F), (0x1BCA0, 0x1BCA3), (0x1D173, 0x1D17A), (0xE0000, 0xE001F),
  (0xE0080, 0xE00FF), (0xE01F0, 0xE0FFF)]

/-- The ranges of vowel signs and the like that belong to the character before them. -/
def spacingRanges : List (Nat × Nat) := [
  (0x903, 0x903), (0x93B, 0x93B), (0x93E, 0x940), (0x949, 0x94C), (0x94E, 0x94F), (0x982, 0x983),
  (0x9BF, 0x9C0), (0x9C7, 0x9C8), (0x9CB, 0x9CC), (0xA03, 0xA03), (0xA3E, 0xA40), (0xA83, 0xA83),
  (0xABE, 0xAC0), (0xAC9, 0xAC9), (0xACB, 0xACC), (0xB02, 0xB03), (0xB40, 0xB40), (0xB47, 0xB48),
  (0xB4B, 0xB4C), (0xBBF, 0xBBF), (0xBC1, 0xBC2), (0xBC6, 0xBC8), (0xBCA, 0xBCC), (0xC01, 0xC03),
  (0xC41, 0xC44), (0xC82, 0xC83), (0xCBE, 0xCBE), (0xCC1, 0xCC1), (0xCC3, 0xCC4), (0xCF3, 0xCF3),
  (0xD02, 0xD03), (0xD3F, 0xD40), (0xD46, 0xD48), (0xD4A, 0xD4C), (0xD82, 0xD83), (0xDD0, 0xDD1),
  (0xDD8, 0xDDE), (0xDF2, 0xDF3), (0xE33, 0xE33), (0xEB3, 0xEB3), (0xF3E, 0xF3F), (0xF7F, 0xF7F),
  (0x1031, 0x1031), (0x103B, 0x103C), (0x1056, 0x1057), (0x1084, 0x1084), (0x17B6, 0x17B6),
  (0x17BE, 0x17C5), (0x17C7, 0x17C8), (0x1923, 0x1926), (0x1929, 0x192B), (0x1930, 0x1931),
  (0x1933, 0x1938), (0x1A19, 0x1A1A), (0x1A55, 0x1A55), (0x1A57, 0x1A57), (0x1A6D, 0x1A72),
  (0x1B04, 0x1B04), (0x1B3E, 0x1B41), (0x1B82, 0x1B82), (0x1BA1, 0x1BA1), (0x1BA6, 0x1BA7),
  (0x1BE7, 0x1BE7), (0x1BEA, 0x1BEC), (0x1BEE, 0x1BEE), (0x1C24, 0x1C2B), (0x1C34, 0x1C35),
  (0x1CE1, 0x1CE1), (0x1CF7, 0x1CF7), (0xA823, 0xA824), (0xA827, 0xA827), (0xA880, 0xA881),
  (0xA8B4, 0xA8C3), (0xA952, 0xA952), (0xA983, 0xA983), (0xA9B4, 0xA9B5), (0xA9BA, 0xA9BB),
  (0xA9BE, 0xA9BF), (0xAA2F, 0xAA30), (0xAA33, 0xAA34), (0xAA4D, 0xAA4D), (0xAAEB, 0xAAEB),
  (0xAAEE, 0xAAEF), (0xAAF5, 0xAAF5), (0xABE3, 0xABE4), (0xABE6, 0xABE7), (0xABE9, 0xABEA),
  (0xABEC, 0xABEC), (0x11000, 0x11000), (0x11002, 0x11002), (0x11082, 0x11082), (0x110B0, 0x110B2),
  (0x110B7, 0x110B8), (0x1112C, 0x1112C), (0x11145, 0x11146), (0x11182, 0x11182),
  (0x111B3, 0x111B5), (0x111BF, 0x111BF), (0x111CE, 0x111CE), (0x1122C, 0x1122E),
  (0x11232, 0x11233), (0x112E0, 0x112E2), (0x11302, 0x11303), (0x1133F, 0x1133F),
  (0x11341, 0x11344), (0x11347, 0x11348), (0x1134B, 0x1134C), (0x11362, 0x11363),
  (0x113B9, 0x113BA), (0x113CA, 0x113CA), (0x113CC, 0x113CD), (0x11435, 0x11437),
  (0x11440, 0x11441), (0x11445, 0x11445), (0x114B1, 0x114B2), (0x114B9, 0x114B9),
  (0x114BB, 0x114BC), (0x114BE, 0x114BE), (0x114C1, 0x114C1), (0x115B0, 0x115B1),
  (0x115B8, 0x115BB), (0x115BE, 0x115BE), (0x11630, 0x11632), (0x1163B, 0x1163C),
  (0x1163E, 0x1163E), (0x116AC, 0x116AC), (0x116AE, 0x116AF), (0x1171E, 0x1171E),
  (0x11726, 0x11726), (0x1182C, 0x1182E), (0x11838, 0x11838), (0x11931, 0x11935),
  (0x11937, 0x11938), (0x11940, 0x11940), (0x11942, 0x11942), (0x119D1, 0x119D3),
  (0x119DC, 0x119DF), (0x119E4, 0x119E4), (0x11A39, 0x11A39), (0x11A57, 0x11A58),
  (0x11A97, 0x11A97), (0x11B61, 0x11B61), (0x11B65, 0x11B65), (0x11B67, 0x11B67),
  (0x11C2F, 0x11C2F), (0x11C3E, 0x11C3E), (0x11CA9, 0x11CA9), (0x11CB1, 0x11CB1),
  (0x11CB4, 0x11CB4), (0x11D8A, 0x11D8E), (0x11D93, 0x11D94), (0x11D96, 0x11D96),
  (0x11EF5, 0x11EF6), (0x11F03, 0x11F03), (0x11F34, 0x11F35), (0x11F3E, 0x11F3F),
  (0x1612A, 0x1612C), (0x16F51, 0x16F87)]

/-- The ranges of characters that belong to the one after them. -/
def prependRanges : List (Nat × Nat) := [
  (0x600, 0x605), (0x6DD, 0x6DD), (0x70F, 0x70F), (0x890, 0x891), (0x8E2, 0x8E2), (0xD4E, 0xD4E),
  (0x110BD, 0x110BD), (0x110CD, 0x110CD), (0x111C2, 0x111C3), (0x113D1, 0x113D1),
  (0x1193F, 0x1193F), (0x11941, 0x11941), (0x11A84, 0x11A89), (0x11D46, 0x11D46),
  (0x11F02, 0x11F02)]

/-- The ranges of signs that link two consonants. -/
def linkerRanges : List (Nat × Nat) := [
  (0x94D, 0x94D), (0x9CD, 0x9CD), (0xACD, 0xACD), (0xB4D, 0xB4D), (0xC4D, 0xC4D), (0xD4D, 0xD4D),
  (0x1039, 0x1039), (0x17D2, 0x17D2), (0x1A60, 0x1A60), (0x1B44, 0x1B44), (0x1BAB, 0x1BAB),
  (0xA9C0, 0xA9C0), (0xAAF6, 0xAAF6), (0x10A3F, 0x10A3F), (0x11133, 0x11133), (0x113D0, 0x113D0),
  (0x1193E, 0x1193E), (0x11A47, 0x11A47), (0x11A99, 0x11A99), (0x11F42, 0x11F42)]

/-- The ranges of consonants that such a sign can link. -/
def consonantRanges : List (Nat × Nat) := [
  (0x915, 0x939), (0x958, 0x95F), (0x978, 0x97F), (0x995, 0x9A8), (0x9AA, 0x9B0), (0x9B2, 0x9B2),
  (0x9B6, 0x9B9), (0x9DC, 0x9DD), (0x9DF, 0x9DF), (0x9F0, 0x9F1), (0xA95, 0xAA8), (0xAAA, 0xAB0),
  (0xAB2, 0xAB3), (0xAB5, 0xAB9), (0xAF9, 0xAF9), (0xB15, 0xB28), (0xB2A, 0xB30), (0xB32, 0xB33),
  (0xB35, 0xB39), (0xB5C, 0xB5D), (0xB5F, 0xB5F), (0xB71, 0xB71), (0xC15, 0xC28), (0xC2A, 0xC39),
  (0xC58, 0xC5A), (0xD15, 0xD3A), (0x1000, 0x102A), (0x103F, 0x103F), (0x1050, 0x1055),
  (0x105A, 0x105D), (0x1061, 0x1061), (0x1065, 0x1066), (0x106E, 0x1070), (0x1075, 0x1081),
  (0x108E, 0x108E), (0x1780, 0x17B3), (0x1A20, 0x1A54), (0x1B0B, 0x1B0C), (0x1B13, 0x1B33),
  (0x1B45, 0x1B4C), (0x1B83, 0x1BA0), (0x1BAE, 0x1BAF), (0x1BBB, 0x1BBD), (0xA989, 0xA98B),
  (0xA98F, 0xA9B2), (0xA9E0, 0xA9E4), (0xA9E7, 0xA9EF), (0xA9FA, 0xA9FE), (0xAA60, 0xAA6F),
  (0xAA71, 0xAA73), (0xAA7A, 0xAA7A), (0xAA7E, 0xAA7F), (0xAAE0, 0xAAEA), (0xABC0, 0xABDA),
  (0x10A00, 0x10A00), (0x10A10, 0x10A13), (0x10A15, 0x10A17), (0x10A19, 0x10A35),
  (0x11103, 0x11126), (0x11144, 0x11144), (0x11147, 0x11147), (0x11380, 0x11389),
  (0x1138B, 0x1138B), (0x1138E, 0x1138E), (0x11390, 0x113B5), (0x11900, 0x11906),
  (0x11909, 0x11909), (0x1190C, 0x11913), (0x11915, 0x11916), (0x11918, 0x1192F),
  (0x11A00, 0x11A00), (0x11A0B, 0x11A32), (0x11A50, 0x11A50), (0x11A5C, 0x11A83),
  (0x11F04, 0x11F10), (0x11F12, 0x11F33)]

/-- Whether a character stands apart from all text. -/
def isControl (c : Char) : Bool := inRanges controlRanges c.toNat

/-- Whether a character links two consonants. -/
def isLinker (c : Char) : Bool := inRanges linkerRanges c.toNat

/-- Whether a character is a consonant that can be linked. -/
def isConsonant (c : Char) : Bool := inRanges consonantRanges c.toNat

/-- Whether a character belongs to the one before it, and may do so within a picture. -/
def extendsCluster (c : Char) : Bool := isExtender c || isModifier c

/-! ## Syllables -/

/-- The parts of Korean syllables: initial, medial and final ones, and syllables without and with a
final one. -/
inductive SyllablePart where
  | initial
  | medial
  | final
  | openSyllable
  | closedSyllable
  deriving DecidableEq

/-- The part of a syllable that a character is. -/
def syllablePart? (c : Char) : Option SyllablePart :=
  let code := c.toNat
  if code < 0x1100 then none
  else if inRanges [(0x1100, 0x115F), (0xA960, 0xA97C)] code then some .initial
  else if inRanges [(0x1160, 0x11A7), (0xD7B0, 0xD7C6), (0x16D63, 0x16D63),
      (0x16D67, 0x16D6A)] code then some .medial
  else if inRanges [(0x11A8, 0x11FF), (0xD7CB, 0xD7FB)] code then some .final
  else if 0xAC00 ≤ code ∧ code ≤ 0xD7A3 then
    some (if (code - 0xAC00) % 28 = 0 then .openSyllable else .closedSyllable)
  else none

/-- Whether a part goes on with the syllable of the part before it. -/
def SyllablePart.continues : SyllablePart → SyllablePart → Bool
  | .initial, .final => false
  | .initial, _ => true
  | .medial, next => next = .medial || next = .final
  | .openSyllable, next => next = .medial || next = .final
  | .final, next => next = .final
  | .closedSyllable, next => next = .final

/-! ## Boundaries -/

/-- Whether a picture goes on with the cluster before it, which is given from its end: it does after
a joiner after a picture. -/
def joinsPicture (cluster : List Char) (c : Char) : Bool :=
  match cluster with
  | last :: before =>
    last = joiner && isPictograph c &&
      (before.dropWhile fun d => extendsCluster d && d ≠ joiner).head?.any isPictograph
  | [] => false

/-- Whether a consonant goes on with the cluster before it, which is given from its end: it does
after marks of which one links, after a consonant. -/
def joinsConsonant (cluster : List Char) (c : Char) : Bool :=
  let isMark (d : Char) : Bool := (extendsCluster d || d = joiner) && d ≠ '\u200C'
  isConsonant c && (cluster.takeWhile isMark).any isLinker &&
    (cluster.dropWhile isMark).head?.any isConsonant

/-- Whether a letter of a flag goes on with the cluster before it, which is given from its end:
every second one does. -/
def joinsFlag (cluster : List Char) (c : Char) : Bool :=
  isRegional c && (cluster.takeWhile isRegional).length % 2 = 1

/-- Whether a character goes on with the cluster before it, which is given from its end. -/
def joins (cluster : List Char) (c : Char) : Bool :=
  match cluster with
  | [] => true
  | last :: _ =>
    if last = '\r' && c = '\n' then true
    else if isControl last || isControl c then false
    else
      let syllable := match syllablePart? last, syllablePart? c with
        | some before, some next => before.continues next
        | _, _ => false
      syllable || extendsCluster c || c = joiner || inRanges spacingRanges c.toNat ||
        inRanges prependRanges last.toNat || joinsPicture cluster c || joinsConsonant cluster c ||
        joinsFlag cluster c

/-! ## Clusters -/

/-- The clusters of a text after the beginning of one, which is given from its end. -/
def clustersFrom (cluster : List Char) : List Char → List (List Char)
  | [] => if cluster.isEmpty then [] else [cluster.reverse]
  | c :: rest =>
    if joins cluster c then clustersFrom (c :: cluster) rest
    else cluster.reverse :: clustersFrom [c] rest

/-- The clusters of a text. -/
def clusters (text : List Char) : List (List Char) := clustersFrom [] text

/-! ## Backspaces -/

/-- The character that takes back what was typed before it. -/
def backspace : Char := '\x08'

/-- A line while it is typed in: its characters, and the sizes in bytes of the clusters that may be
taken back. The last ones come first. -/
structure Typing where
  text : List Char := []
  sizes : List Nat := []

/-- A text, given from its end, without the characters at its end that a number of bytes covers. -/
def withoutBytes (bytes : Nat) : List Char → List Char
  | [] => []
  | c :: before =>
    if c.utf8Size ≤ bytes then withoutBytes (bytes - c.utf8Size) before else c :: before

/-- A line after one more cluster. The size of a cluster is kept in one byte, so of a cluster with
more bytes than that can count, only the rest is taken back. -/
def Typing.push (t : Typing) (cluster : List Char) : Typing :=
  if cluster = [backspace] then
    match t.sizes with
    | [] => t
    | size :: sizes => ⟨withoutBytes size t.text, sizes⟩
  else
    let size := cluster.foldl (fun size c => size + c.utf8Size) 0 % 256
    ⟨cluster.reverse ++ t.text, size :: t.sizes⟩

/-- What is left of a line that was typed in, when each backspace has taken back a cluster. -/
def typed (line : String) : String :=
  String.ofList ((clusters line.toList).foldl Typing.push {}).text.reverse

end Tabular.Text
