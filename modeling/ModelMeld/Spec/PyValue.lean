import Mathlib.Algebra.Order.Round
import Mathlib.Data.Rat.Floor

/-!
# Python values as `json.loads` gives them

A numeral beyond the doubles is read as an infinity, and `NaN` and `Infinity` are
read by their names. The built-in conversions raise on them, so what is loaded
from a feed, or comes from a library, keeps them apart from the other floats. The
sign of a zero is not kept.
-/

namespace ModelMeld

/-- A Python `float`. -/
inductive PyFloat where
  | finite (q : ℚ)
  | infinite (negative : Bool)
  | nan
deriving DecidableEq

namespace PyFloat

/-- The number it is. -/
def finite? : PyFloat → Option ℚ
  | finite q => some q
  | _ => none

end PyFloat

/-- A value of the types JSON has. -/
inductive PyValue where
  | null
  | bool (b : Bool)
  | int (n : ℤ)
  | float (x : PyFloat)
  | str (s : String)
  | arr (items : List PyValue)
  | obj (fields : List (String × PyValue))

/-- A `dict` of such values, in insertion order. -/
abbrev PyDict := List (String × PyValue)

/-- `d.get(key)`. -/
def PyDict.get? (d : PyDict) (key : String) : Option PyValue := d.lookup key

namespace PyValue

mutual

def beq : PyValue → PyValue → Bool
  | null, null => true
  | bool a, bool b => a == b
  | int a, int b => decide (a = b)
  | float a, float b => decide (a = b)
  | str a, str b => decide (a = b)
  | arr a, arr b => beqItems a b
  | obj a, obj b => beqFields a b
  | _, _ => false

def beqItems : List PyValue → List PyValue → Bool
  | [], [] => true
  | a :: as, b :: bs => beq a b && beqItems as bs
  | _, _ => false

def beqFields : List (String × PyValue) → List (String × PyValue) → Bool
  | [], [] => true
  | (k, a) :: as, (k', b) :: bs => decide (k = k') && beq a b && beqFields as bs
  | _, _ => false

end

mutual

theorem beq_iff : ∀ a b : PyValue, beq a b = true ↔ a = b
  | null, b => by cases b <;> simp [beq]
  | bool a, b => by cases b <;> simp [beq]
  | int a, b => by cases b <;> simp [beq]
  | float a, b => by cases b <;> simp [beq]
  | str a, b => by cases b <;> simp [beq]
  | arr a, b => by
    cases b with
    | arr b => simp [beq, beqItems_iff a b]
    | _ => simp [beq]
  | obj a, b => by
    cases b with
    | obj b => simp [beq, beqFields_iff a b]
    | _ => simp [beq]

theorem beqItems_iff : ∀ a b : List PyValue, beqItems a b = true ↔ a = b
  | [], b => by cases b <;> simp [beqItems]
  | x :: a, b => by
    cases b with
    | nil => simp [beqItems]
    | cons y b => simp [beqItems, beq_iff x y, beqItems_iff a b]

theorem beqFields_iff : ∀ a b : List (String × PyValue), beqFields a b = true ↔ a = b
  | [], b => by cases b <;> simp [beqFields]
  | (k, x) :: a, b => by
    cases b with
    | nil => simp [beqFields]
    | cons y b =>
      obtain ⟨k', y⟩ := y
      simp [beqFields, beq_iff x y, beqFields_iff a b, and_assoc]

end

/-- The same value: a NaN is the same as itself here, as the loaders compare none. -/
instance : DecidableEq PyValue := fun a b => decidable_of_iff _ (beq_iff a b)

instance : Inhabited PyValue := ⟨null⟩

end PyValue

end ModelMeld
