import ModelMeld.Spec.Python
import ModelMeld.Lib.JsonTokens
import ModelMeld.Lib.OrderedDict

/-!
# JSON as text

`model_dump_json` as far as the text of a value goes, and `json.loads`. A text
is taken apart into tokens first; what is made of them is a value, or nothing
where `json.loads` raises a `JSONDecodeError`. Texts with `NaN`, `Infinity` or a
surrogate by itself have no value here, as none of their values is a `Json`; the
limits of the interpreter on nesting and on the digits of an integer are left
out.
-/

namespace ModelMeld

open JsonTokens

/-- `float.__repr__`, as JSON numerals have it, and how a numeral with a point or an exponent is
read. -/
structure FloatText where
  print : ℚ → List Char
  read : List Char → Option ℚ
  printed : ∀ q, print q ≠ [] ∧
    ∀ c ∈ print q, c.isDigit = true ∨ c = '+' ∨ c = '-' ∨ c = '.' ∨ c = 'e'
  read_print : ∀ q, read (print q) = some q
  marked : ∀ q, '.' ∈ print q ∨ 'e' ∈ print q

/-! ## Integers -/

/-- `str(n)`. -/
def intText : ℤ → List Char
  | .ofNat n => Nat.toDigits 10 n
  | .negSucc n => '-' :: Nat.toDigits 10 (n + 1)

/-- The value of a sign and digits. -/
def signedDigits : List Char → ℤ
  | '-' :: ds => -(Nat.ofDigitChars 10 ds 0 : ℕ)
  | ds => (Nat.ofDigitChars 10 ds 0 : ℕ)

/-- An integer as JSON has it: without leading zeros, and with a minus for zero as well. -/
def readInt (w : List Char) : Option ℤ :=
  if w = intText (signedDigits w) ∨ w = ['-', '0'] then some (signedDigits w) else none

/-! ## Writing -/

namespace Json

mutual

/-- The tokens of the text of a value. -/
def tokens (F : FloatText) : Json → List Token
  | .null => [.word ['n', 'u', 'l', 'l']]
  | .bool true => [.word ['t', 'r', 'u', 'e']]
  | .bool false => [.word ['f', 'a', 'l', 's', 'e']]
  | .int n => [.word (intText n)]
  | .float q => [.word (F.print q)]
  | .str s => [.text s.toList]
  | .arr items => .punct '[' :: itemTokens F items
  | .obj fields => .punct '\x7b' :: fieldTokens F fields

/-- The rest of an array. -/
def itemTokens (F : FloatText) : List Json → List Token
  | [] => [.punct ']']
  | item :: items => tokens F item ++ moreItems F items

def moreItems (F : FloatText) : List Json → List Token
  | [] => [.punct ']']
  | item :: items => .punct ',' :: (tokens F item ++ moreItems F items)

/-- The rest of an object. -/
def fieldTokens (F : FloatText) : List (String × Json) → List Token
  | [] => [.punct '\x7d']
  | (key, value) :: fields =>
    .text key.toList :: .punct ':' :: (tokens F value ++ moreFields F fields)

def moreFields (F : FloatText) : List (String × Json) → List Token
  | [] => [.punct '\x7d']
  | (key, value) :: fields =>
    .punct ',' :: .text key.toList :: .punct ':' :: (tokens F value ++ moreFields F fields)

end

end Json

/-- The text `model_dump_json` writes for a value. -/
def dumpsJson (F : FloatText) (v : Json) : List Char := render (v.tokens F)

/-! ## Reading -/

/-- The value of a name or a numeral. -/
def wordValue (F : FloatText) (w : List Char) : Option Json :=
  if w = ['n', 'u', 'l', 'l'] then some .null
  else if w = ['t', 'r', 'u', 'e'] then some (.bool true)
  else if w = ['f', 'a', 'l', 's', 'e'] then some (.bool false)
  else
    match readInt w with
    | some n => some (.int n)
    | none => (F.read w).map .float

/-- The rest of an array or an object after its opening bracket, when it is not empty. -/
def readList {α : Type} (read : List Token → Option (α × List Token)) (close : Char) :
    ℕ → List Token → Option (List α × List Token)
  | 0, _ => none
  | fuel + 1, toks =>
    match read toks with
    | some (a, .punct c :: rest) =>
      if c = close then some ([a], rest)
      else if c = ',' then (readList read close fuel rest).map (fun p => (a :: p.1, p.2))
      else none
    | _ => none

/-- A key with its value. -/
def readField (read : List Token → Option (Json × List Token)) :
    List Token → Option ((String × Json) × List Token)
  | .text key :: .punct ':' :: rest => (read rest).map (fun p => ((String.ofList key, p.1), p.2))
  | _ => none

/-- A value, and the tokens after it. In an object the last value of a key counts. -/
def readValue (F : FloatText) : ℕ → List Token → Option (Json × List Token)
  | 0, _ => none
  | _ + 1, .word w :: rest => (wordValue F w).map (fun v => (v, rest))
  | _ + 1, .text s :: rest => some (.str (String.ofList s), rest)
  | _ + 1, .punct '[' :: .punct ']' :: rest => some (.arr [], rest)
  | fuel + 1, .punct '[' :: rest =>
    (readList (readValue F fuel) ']' fuel rest).map (fun p => (.arr p.1, p.2))
  | _ + 1, .punct '\x7b' :: .punct '\x7d' :: rest => some (.obj [], rest)
  | fuel + 1, .punct '\x7b' :: rest =>
    (readList (readField (readValue F fuel)) '\x7d' fuel rest).map
      (fun p => (.obj (OrderedDict.ofPairs p.1).entries, p.2))
  | _, _ => none

/-- `json.loads`. -/
def loadsJson (F : FloatText) (cs : List Char) : Option Json :=
  match lex cs with
  | none => none
  | some toks =>
    match readValue F toks.length toks with
    | some (v, []) => some v
    | _ => none

end ModelMeld
