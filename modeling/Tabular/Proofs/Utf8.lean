import Mathlib.Data.List.Basic
import Tabular.Text.Utf8

/-!
# UTF-8

The bytes of a text are read as the text (`decode_bytes`), and the bytes below 128 among them are its
ASCII characters.
-/

namespace Tabular.Text

/-- The bytes of a text in UTF-8. -/
def bytes (text : String) : List UInt8 := text.toUTF8.data.toList

theorem bytes_eq (text : String) : bytes text = text.toList.flatMap String.utf8EncodeChar := by
  rw [bytes, String.toUTF8, ← String.utf8Encode_toList, List.utf8Encode, List.toList_data_toByteArray]

/-! ## Bytes of a character -/

theorem toNat_ofNat_of_lt {n : Nat} (small : n < 256) : (UInt8.ofNat n).toNat = n := by
  rw [UInt8.toNat_ofNat', Nat.mod_eq_of_lt small]

theorem continuation?_ofNat (n : Nat) : continuation? (UInt8.ofNat (n % 64 + 128)) = some (n % 64) := by
  have value : (UInt8.ofNat (n % 64 + 128)).toNat = n % 64 + 128 := toNat_ofNat_of_lt (by omega)
  have inside : 0x80 ≤ UInt8.ofNat (n % 64 + 128) ∧ UInt8.ofNat (n % 64 + 128) < 0xC0 := by
    rw [UInt8.le_iff_toNat_le, UInt8.lt_iff_toNat_lt, value]
    constructor
    · exact Nat.le_add_left _ _
    · show n % 64 + 128 < 192
      omega
  rw [continuation?, if_pos inside, value]
  congr 1
  omega

theorem lead?_ofNat {n : Nat} (small : n < 256) : lead? (UInt8.ofNat n) =
    if n < 0x80 then some (0, n, 0)
    else if 0xC0 ≤ n ∧ n < 0xE0 then some (1, n % 32, 0x80)
    else if 0xE0 ≤ n ∧ n < 0xF0 then some (2, n % 16, 0x800)
    else if 0xF0 ≤ n ∧ n < 0xF8 then some (3, n % 8, 0x10000)
    else none := by
  simp only [lead?, UInt8.lt_iff_toNat_lt, UInt8.le_iff_toNat_le, toNat_ofNat_of_lt small]
  rfl

theorem continueSequence_cons (count code n : Nat) (rest : List UInt8) :
    continueSequence (count + 1) code (UInt8.ofNat (n % 64 + 128) :: rest) =
      continueSequence count (64 * code + n % 64) rest := by
  rw [continueSequence, continuation?_ofNat]

/-- Bytes that give the number of a character and no fewer of which could give it are the character. -/
theorem decodeChar_cons {c : Char} {b : UInt8} {count bits least : Nat} {following rest : List UInt8}
    (leads : lead? b = some (count, bits, least))
    (continues : continueSequence count bits following = some (c.toNat, rest)) (needed : least ≤ c.toNat) :
    decodeChar (b :: following) = some (c, rest) := by
  have valid : c.toNat.isValidChar := c.valid
  rw [decodeChar, leads]
  show (continueSequence count bits following >>= _) = _
  rw [continues]
  exact (dif_pos ⟨needed, valid⟩).trans rfl

/-- A character is read from its bytes. -/
theorem decodeChar_encode (c : Char) (rest : List UInt8) :
    decodeChar (String.utf8EncodeChar c ++ rest) = some (c, rest) := by
  have bound : c.toNat < 0x110000 := by
    rcases c.valid with small | ⟨_, small⟩
    · exact Nat.lt_trans small (by decide)
    · exact small
  have value : c.val.toNat = c.toNat := rfl
  rw [String.utf8EncodeChar]
  simp only [value]
  split_ifs with one two three
  · have leads : lead? (UInt8.ofNat c.toNat) = some (0, c.toNat, 0) := by
      rw [lead?_ofNat (by omega), if_pos (by omega)]
    exact decodeChar_cons leads rfl (Nat.zero_le _)
  · have leads : lead? (UInt8.ofNat (c.toNat / 64 % 32 + 192)) = some (1, c.toNat / 64 % 32, 0x80) := by
      rw [lead?_ofNat (by omega), if_neg (by omega), if_pos (by omega), Nat.add_mod]
      simp
    refine decodeChar_cons leads ?_ (by omega)
    have code : 64 * (c.toNat / 64 % 32) + c.toNat % 64 = c.toNat := by omega
    show continueSequence 1 _ (UInt8.ofNat (c.toNat % 64 + 128) :: rest) = _
    rw [continueSequence_cons, code]
    rfl
  · have leads : lead? (UInt8.ofNat (c.toNat / 4096 % 16 + 224)) = some (2, c.toNat / 4096 % 16, 0x800) := by
      rw [lead?_ofNat (by omega), if_neg (by omega), if_neg (by omega), if_pos (by omega), Nat.add_mod]
      simp
    refine decodeChar_cons leads ?_ (by omega)
    have code : 64 * (64 * (c.toNat / 4096 % 16) + c.toNat / 64 % 64) + c.toNat % 64 = c.toNat := by omega
    show continueSequence 2 _ (UInt8.ofNat (c.toNat / 64 % 64 + 128) :: UInt8.ofNat (c.toNat % 64 + 128) :: rest) = _
    rw [continueSequence_cons, continueSequence_cons, code]
    rfl
  · have leads : lead? (UInt8.ofNat (c.toNat / 262144 % 8 + 240)) = some (3, c.toNat / 262144 % 8, 0x10000) := by
      rw [lead?_ofNat (by omega), if_neg (by omega), if_neg (by omega), if_neg (by omega), if_pos (by omega),
        Nat.add_mod]
      simp
    refine decodeChar_cons leads ?_ (by omega)
    have code : 64 * (64 * (64 * (c.toNat / 262144 % 8) + c.toNat / 4096 % 64) + c.toNat / 64 % 64) +
        c.toNat % 64 = c.toNat := by omega
    show continueSequence 3 _ (UInt8.ofNat (c.toNat / 4096 % 64 + 128) ::
      UInt8.ofNat (c.toNat / 64 % 64 + 128) :: UInt8.ofNat (c.toNat % 64 + 128) :: rest) = _
    rw [continueSequence_cons, continueSequence_cons, continueSequence_cons, code]
    rfl

/-! ## Texts -/

theorem decodeFrom_of_decodeChar {fuel done : Nat} {bytes rest : List UInt8} {c : Char}
    (read : decodeChar bytes = some (c, rest)) : decodeFrom (fuel + 1) done bytes =
      (decodeFrom fuel (done + (bytes.length - rest.length)) rest).map (c :: ·) := by
  cases bytes with
  | nil => cases read
  | cons b bytes => rw [decodeFrom, read]; simp

theorem decodeFrom_encode (cs : List Char) {fuel : Nat} (done : Nat) (enough : cs.length ≤ fuel) :
    decodeFrom fuel done (cs.flatMap String.utf8EncodeChar) = .ok cs := by
  induction cs generalizing fuel done with
  | nil => cases fuel <;> rfl
  | cons c cs ih =>
    cases fuel with
    | zero => cases enough
    | succ fuel =>
      rw [List.flatMap_cons, decodeFrom_of_decodeChar (decodeChar_encode c _),
        ih _ (Nat.le_of_succ_le_succ enough)]
      rfl

theorem length_le_length_encode (cs : List Char) : cs.length ≤ (cs.flatMap String.utf8EncodeChar).length := by
  induction cs with
  | nil => exact Nat.le_refl _
  | cons c cs ih =>
    have first : 0 < (String.utf8EncodeChar c).length := List.length_pos_of_ne_nil String.utf8EncodeChar_ne_nil
    rw [List.flatMap_cons, List.length_append, List.length_cons]
    omega

/-- The bytes of a text are read as the text. -/
@[simp] theorem decode_bytes (text : String) : decode (bytes text) = .ok text := by
  rw [decode, bytes_eq, decodeFrom_encode _ _ (length_le_length_encode _)]
  exact congrArg Except.ok (String.ofList_toList)

/-- The bytes of a character are below 128 only if it is one of ASCII. -/
theorem toNat_of_mem_encode {c : Char} {b : UInt8} (listed : b ∈ String.utf8EncodeChar c)
    (ascii : b.toNat < 128) : c.toNat = b.toNat := by
  have high {n : Nat} (large : 128 ≤ n) (small : n < 256) : b ≠ UInt8.ofNat n := by
    rintro rfl
    rw [toNat_ofNat_of_lt small] at ascii
    omega
  have value : c.val.toNat = c.toNat := rfl
  rw [String.utf8EncodeChar] at listed
  simp only [value] at listed
  split_ifs at listed with one two three
  · obtain rfl := List.mem_singleton.mp listed
    rw [toNat_ofNat_of_lt (by omega)]
  · simp only [List.mem_cons, List.not_mem_nil, or_false] at listed
    rcases listed with same | same <;> exact absurd same (high (by omega) (by omega))
  · simp only [List.mem_cons, List.not_mem_nil, or_false] at listed
    rcases listed with same | same | same <;> exact absurd same (high (by omega) (by omega))
  · simp only [List.mem_cons, List.not_mem_nil, or_false] at listed
    rcases listed with same | same | same | same <;> exact absurd same (high (by omega) (by omega))

/-- A byte below 128 is a character of the text. -/
theorem exists_of_mem_bytes {text : String} {b : UInt8} (listed : b ∈ bytes text) (ascii : b.toNat < 128) :
    ∃ c ∈ text.toList, c.toNat = b.toNat := by
  rw [bytes_eq] at listed
  obtain ⟨c, inside, listed⟩ := List.mem_flatMap.mp listed
  exact ⟨c, inside, toNat_of_mem_encode listed ascii⟩

end Tabular.Text
