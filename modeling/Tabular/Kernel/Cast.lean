import Tabular.Kernel.Binary
import Tabular.Numeral

/-!
# Casts

How values of one type become values of another, and how a whole column does. Nulls stay null.
-/

namespace Tabular.Kernel

/-- The spellings of true in a cast, in lower case. -/
def trueWords : List String := ["t", "tr", "tru", "true", "y", "ye", "yes", "on", "1"]

/-- The spellings of false in a cast, in lower case. -/
def falseWords : List String := ["f", "fa", "fal", "fals", "false", "n", "no", "of", "off", "0"]

/-- The integer of a float that is whole and in range. -/
def intOfDouble (x : Double) : Except CastFault Int64 :=
  match x.toInt? with
  | none => .error (.inexact x)
  | some i => if fits i then .ok (Int64.ofInt i) else .error (.outOfRange x)

/-- The integer written by a text. -/
def intOfString (s : String) : Except CastFault Int64 :=
  (Numeral.readInt s).mapError fun _ => .unreadable s

/-- The float written by a text. -/
def doubleOfString (s : String) : Except CastFault Double :=
  (Numeral.readFloat s).mapError fun _ => .unreadable s

/-- The truth value written by a text. Case and blanks around it do not matter. -/
def boolOfString (s : String) : Except CastFault Bool :=
  let word := Text.lower (Text.trim s)
  if trueWords.contains word then .ok true
  else if falseWords.contains word then .ok false
  else .error (.unreadable s)

/-- How a value of one type becomes one of another, if that is possible at all. -/
def conversion? : (source target : DataType) →
    Option (source.Carrier → Except CastFault target.Carrier)
  | .int64, .int64 => some .ok
  | .float64, .float64 => some .ok
  | .bool, .bool => some .ok
  | .string, .string => some .ok
  | .int64, .float64 => some fun i => .ok (Double.ofInt i.toInt)
  | .float64, .int64 => some intOfDouble
  | .bool, .int64 => some fun b => .ok (if b then 1 else 0)
  | .string, .int64 => some intOfString
  | .string, .float64 => some doubleOfString
  | .string, .bool => some boolOfString
  | .int64, .string => some fun i => .ok (Value.cellText (.sql .int64) i)
  | .float64, .string => some fun x => .ok (Value.cellText (.sql .float64) x)
  | .bool, .string => some fun b => .ok (Value.cellText (.sql .bool) b)
  | .int64, .bool => none
  | .float64, .bool => none
  | .bool, .float64 => none

/-- Conversions exist exactly where casts are allowed. -/
theorem isSome_conversion? (source target : DataType) :
    (conversion? source target).isSome = source.castsTo target := by
  cases source <;> cases target <;> rfl

/-- A conversion carried to cells, the first failing one deciding the fault. -/
def convertCells {α β ε : Type} (f : α → Except ε β) :
    List (Option α) → Except ε (List (Option β))
  | [] => .ok []
  | none :: cells => (convertCells f cells).map (none :: ·)
  | some a :: cells => do
    let b ← f a
    let rest ← convertCells f cells
    return some b :: rest

/-- A fault that is looked for in the whole column before any cell is converted: a float without
an integer comes before one out of range, wherever they stand. -/
def firstLossy? : (source target : DataType) → List (Option source.Carrier) → Option CastFault
  | .float64, .int64, cells =>
    (cells.filterMap id).findSome? fun x => if x.toInt? = none then some (.inexact x) else none
  | _, _, _ => none

/-- A column converted to a type. -/
def cast (column : Column) (target : DataType) : Except KernelError Column :=
  match column with
  | ⟨.sql source, cells⟩ =>
    if source = target then .ok ⟨.sql source, cells⟩
    else match conversion? source target with
      | none => .error (.cast (.sql source) target .unsupported)
      | some f =>
        match firstLossy? source target cells with
        | some fault => .error (.cast (.sql source) target fault)
        | none =>
          match convertCells f cells with
          | .ok converted => .ok ⟨.sql target, converted⟩
          | .error fault => .error (.cast (.sql source) target fault)
  | ⟨.int32, _⟩ => .error (.cast .int32 target .unsupported)

end Tabular.Kernel
