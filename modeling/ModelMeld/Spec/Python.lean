import Mathlib.Data.Rat.Floor
import Mathlib.Algebra.Order.Round
import Mathlib.Data.List.Infix
import Mathlib.Data.List.Sort

/-!
# Python values the gateway handles as data

`Json` is a decoded JSON value; numbers with a fraction are rationals. Objects
are their fields in insertion order, as `dict` keeps them.
-/

namespace ModelMeld

/-- A decoded JSON value. -/
inductive Json where
  | null
  | bool (b : Bool)
  | int (n : ℤ)
  | float (q : ℚ)
  | str (s : String)
  | arr (items : List Json)
  | obj (fields : List (String × Json))

/-- A `dict[str, Any]`. -/
abbrev JsonObj := List (String × Json)

namespace Json

mutual

def beq : Json → Json → Bool
  | null, null => true
  | bool a, bool b => a == b
  | int a, int b => decide (a = b)
  | float a, float b => decide (a = b)
  | str a, str b => decide (a = b)
  | arr a, arr b => beqItems a b
  | obj a, obj b => beqFields a b
  | _, _ => false

def beqItems : List Json → List Json → Bool
  | [], [] => true
  | a :: as, b :: bs => beq a b && beqItems as bs
  | _, _ => false

def beqFields : List (String × Json) → List (String × Json) → Bool
  | [], [] => true
  | (k, a) :: as, (k', b) :: bs => decide (k = k') && beq a b && beqFields as bs
  | _, _ => false

end

mutual

theorem beq_iff : ∀ a b : Json, beq a b = true ↔ a = b
  | null, b => by cases b <;> simp [beq]
  | bool a, b => by cases b <;> simp [beq]
  | int a, b => by cases b <;> simp [beq]
  | float a, b => by cases b <;> simp [beq]
  | str a, b => by cases b <;> simp [beq]
  | arr a, b => by
    cases b with
    | arr b => simp [beq, beqItems_iff a b]
    | _ => simp [beq]
  | obj a, b => by
    cases b with
    | obj b => simp [beq, beqFields_iff a b]
    | _ => simp [beq]

theorem beqItems_iff : ∀ a b : List Json, beqItems a b = true ↔ a = b
  | [], b => by cases b <;> simp [beqItems]
  | x :: a, b => by
    cases b with
    | nil => simp [beqItems]
    | cons y b => simp [beqItems, beq_iff x y, beqItems_iff a b]

theorem beqFields_iff : ∀ a b : List (String × Json), beqFields a b = true ↔ a = b
  | [], b => by cases b <;> simp [beqFields]
  | (k, x) :: a, b => by
    cases b with
    | nil => simp [beqFields]
    | cons y b =>
      obtain ⟨k', y⟩ := y
      simp [beqFields, beq_iff x y, beqFields_iff a b, and_assoc]

end

instance : DecidableEq Json := fun a b => decidable_of_iff _ (beq_iff a b)

instance : Inhabited Json := ⟨null⟩

end Json

/-! ### `json.dumps` with sorted keys -/

namespace Json

/-- The order of the keys in the text. -/
def KeyLe (a b : String × Json) : Prop := a.1 ≤ b.1

instance : DecidableRel KeyLe := fun a b => inferInstanceAs (Decidable (a.1 ≤ b.1))

mutual

/-- The value that `json.dumps(…, sort_keys=True)` writes down. -/
def sortKeys : Json → Json
  | null => null
  | bool b => bool b
  | int n => int n
  | float q => float q
  | str s => str s
  | arr items => arr (sortItems items)
  | obj fields => obj (sortFields fields)

def sortItems : List Json → List Json
  | [] => []
  | item :: items => sortKeys item :: sortItems items

def sortFields : List (String × Json) → List (String × Json)
  | [] => []
  | (key, value) :: fields => (sortFields fields).orderedInsert KeyLe (key, sortKeys value)

end

end Json

/-- `d.get(key)` on a `dict[str, Any]`. -/
def JsonObj.get? (d : JsonObj) (key : String) : Option Json := d.lookup key

/-- `sep.join(parts)`. -/
def join (sep : String) : List String → String
  | [] => ""
  | [s] => s
  | s :: ss => s ++ sep ++ join sep ss

theorem length_join (sep : String) : ∀ ss : List String,
    (join sep ss).length = (ss.map String.length).sum + sep.length * (ss.length - 1) := by
  intro ss
  induction ss with
  | nil => rfl
  | cons s ss ih =>
    cases ss with
    | nil => simp [join]
    | cons t ss =>
      have hseps : sep.length * ((s :: t :: ss).length - 1) =
          sep.length * ((t :: ss).length - 1) + sep.length := by
        simp only [List.length_cons, Nat.add_sub_cancel]
        exact Nat.mul_succ _ _
      have hsum : ((s :: t :: ss).map String.length).sum =
          s.length + ((t :: ss).map String.length).sum := List.sum_cons
      have hfirst : join sep (s :: t :: ss) = s ++ sep ++ join sep (t :: ss) := rfl
      rw [hfirst, String.length_append, String.length_append, ih, hsum, hseps]
      omega

/-- The characters `str.isspace` counts as whitespace. -/
def isSpace (c : Char) : Bool :=
  let n := c.toNat
  (9 ≤ n && n ≤ 13) || (28 ≤ n && n ≤ 32) || n == 0x85 || n == 0xa0 || n == 0x1680 ||
    (0x2000 ≤ n && n ≤ 0x200a) || n == 0x2028 || n == 0x2029 || n == 0x202f || n == 0x205f ||
    n == 0x3000

/-- `s.strip()`. -/
def strip (s : String) : String :=
  String.ofList (((s.toList.dropWhile isSpace).reverse.dropWhile isSpace).reverse)

/-- `m in text`. -/
def isSubstring (m text : String) : Bool := decide (m.toList <:+: text.toList)

/-- `text.split(sep, 1)[0]`: what stands before the first occurrence. -/
def beforeFirst (sep : String) (text : String) : String :=
  let rec go : List Char → List Char
    | [] => []
    | c :: cs => if sep.toList.isPrefixOf (c :: cs) then [] else c :: go cs
  String.ofList (go text.toList)

/-- `text.split(sep, 1)[1]`: what stands after the first occurrence; empty when there is none. -/
def afterFirst (sep : String) (text : String) : String :=
  let rec go : List Char → List Char
    | [] => []
    | c :: cs => if sep.toList.isPrefixOf (c :: cs) then (c :: cs).drop sep.length else go cs
  String.ofList (go text.toList)

/-- The digits of `f"{q:.nf}"`: the value scaled by `10 ^ n`, rounded half to even. -/
def scaledHalfEven (q : ℚ) (n : ℕ) : ℤ :=
  let x := q * 10 ^ n
  let f := ⌊x⌋
  if x - f < 1 / 2 then f
  else if 1 / 2 < x - f then f + 1
  else if f % 2 = 0 then f else f + 1

/-- `f"{q:.nf}"` for a number of `n` decimals. -/
def fixed (q : ℚ) (n : ℕ) : String :=
  let m := scaledHalfEven q n
  let digits := toString m.natAbs
  let padded := String.ofList (List.replicate (n + 1 - digits.length) '0') ++ digits
  let whole := String.ofList (padded.toList.take (padded.length - n))
  let frac := String.ofList (padded.toList.drop (padded.length - n))
  (if q < 0 then "-" else "") ++ whole ++ (if n = 0 then "" else "." ++ frac)

end ModelMeld
