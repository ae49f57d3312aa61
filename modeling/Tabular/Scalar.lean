import Tabular.Value

/-!
# Scalars

A single value with its type. A null keeps its type.
-/

namespace Tabular

/-- A value of a data type, or the null of that type. -/
structure Scalar where
  type : DataType
  value : Option type.Carrier

namespace Scalar

instance : DecidableEq Scalar := fun a b =>
  match a, b with
  | ⟨t, v⟩, ⟨u, w⟩ =>
    if h : t = u then by
      subst h
      exact if k : v = w then .isTrue (k ▸ rfl)
        else .isFalse fun e => k (eq_of_heq (Scalar.mk.inj e).2)
    else .isFalse fun e => h (Scalar.mk.inj e).1

/-- The null of a type. -/
def null (type : DataType) : Scalar := ⟨type, none⟩

def ofInt (i : Int64) : Scalar := ⟨.int64, some i⟩

def ofFloat (x : Double) : Scalar := ⟨.float64, some x⟩

def ofBool (b : Bool) : Scalar := ⟨.bool, some b⟩

def ofString (s : String) : Scalar := ⟨.string, some s⟩

def isNull (s : Scalar) : Bool := s.value.isNone

/-- The text of a scalar as a literal. -/
def text (s : Scalar) : String :=
  match s.value with
  | some v => Value.literalText s.type v
  | none => "NULL"

end Scalar

end Tabular
