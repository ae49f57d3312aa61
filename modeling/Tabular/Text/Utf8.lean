/-!
# UTF-8

Reads text from bytes. A text that is not well formed is refused with the number of bytes before its
first faulty sequence.
-/

namespace Tabular.Text

/-- The low six bits of a byte that continues a sequence. -/
def continuation? (b : UInt8) : Option Nat :=
  if 0x80 ≤ b ∧ b < 0xC0 then some (b.toNat % 64) else none

/-- Reads `count` more bytes of a sequence whose bytes so far have the value `code`. -/
def continueSequence : Nat → Nat → List UInt8 → Option (Nat × List UInt8)
  | 0, code, rest => some (code, rest)
  | _ + 1, _, [] => none
  | count + 1, code, b :: rest =>
    match continuation? b with
    | some bits => continueSequence count (64 * code + bits) rest
    | none => none

/-- The number of further bytes of a sequence, the bits its first byte gives, and the least code
point that needs that many bytes. -/
def lead? (b : UInt8) : Option (Nat × Nat × Nat) :=
  if b < 0x80 then some (0, b.toNat, 0)
  else if 0xC0 ≤ b ∧ b < 0xE0 then some (1, b.toNat % 32, 0x80)
  else if 0xE0 ≤ b ∧ b < 0xF0 then some (2, b.toNat % 16, 0x800)
  else if 0xF0 ≤ b ∧ b < 0xF8 then some (3, b.toNat % 8, 0x10000)
  else none

/-- Reads one character: the shortest sequence of a code point that is no surrogate. -/
def decodeChar : List UInt8 → Option (Char × List UInt8)
  | [] => none
  | b :: rest => do
    let (count, bits, least) ← lead? b
    let (code, rest) ← continueSequence count bits rest
    if h : least ≤ code ∧ code.isValidChar then some (Char.ofNatAux code h.2, rest) else none

/-- Reads characters from at most `fuel` sequences, `done` bytes having been read before. -/
def decodeFrom : Nat → Nat → List UInt8 → Except Nat (List Char)
  | _, _, [] => .ok []
  | 0, done, _ => .error done
  | fuel + 1, done, bytes =>
    match decodeChar bytes with
    | none => .error done
    | some (c, rest) => (decodeFrom fuel (done + (bytes.length - rest.length)) rest).map (c :: ·)

/-- The text of bytes. Each sequence has at least one byte, so there are at most as many as
bytes. -/
def decode (bytes : List UInt8) : Except Nat String :=
  (decodeFrom bytes.length 0 bytes).map String.ofList

end Tabular.Text
