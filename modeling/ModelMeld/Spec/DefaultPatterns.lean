import ModelMeld.Spec.Privacy
import ModelMeld.Lib.Regex

/-!
# The default patterns

`_PATTERNS` in source order, as expressions. `\d` and `\w` are what `re` takes
from the Unicode tables; here they are two classes that are known on ASCII only, the first part of the
second.
-/

namespace ModelMeld

open Regex Regex.Expr

/-- The classes `\d` and `\w` of `re`. -/
structure UnicodeClasses where
  isDigit : Char → Bool
  isWord : Char → Bool
  isDigit_ascii : ∀ c, c.toNat < 128 → isDigit c = c.isDigit
  isWord_ascii : ∀ c, c.toNat < 128 → isWord c = (c.isAlphanum || c == '_')
  isWord_of_isDigit : ∀ c, isDigit c = true → isWord c = true

/-- The classes of `re.ASCII`. -/
def UnicodeClasses.ascii : UnicodeClasses where
  isDigit := Char.isDigit
  isWord c := c.isAlphanum || c == '_'
  isDigit_ascii _ _ := rfl
  isWord_ascii _ _ := rfl
  isWord_of_isDigit c hc := by
    unfold Char.isAlphanum
    rw [hc, Bool.or_true, Bool.true_or]

namespace DefaultPatterns

/-- `[...]` of single characters. -/
def oneOf (chars : String) (c : Char) : Bool := chars.toList.contains c

/-- `[A-Za-z0-9...]`. -/
def alnumOr (chars : String) (c : Char) : Bool := c.isAlphanum || oneOf chars c

variable (u : UnicodeClasses)

/-- `\d{n}`. -/
def digits (n : ℕ) : Expr := times (cls u.isDigit) n

/-- `\b[A-Za-z0-9._%+-]+@[A-Za-z0-9.-]+\.[A-Za-z]{2,}\b` -/
def email : Expr :=
  seq boundary (seq (run (alnumOr "._%+-") 1) (lit ['@'] (seq (run (alnumOr ".-") 1)
    (lit ['.'] (seq (run Char.isAlpha 2) boundary)))))

/-- `\b\d{3}-\d{2}-\d{4}\b` -/
def ssn : Expr :=
  seq boundary (seq (digits u 3) (lit ['-'] (seq (digits u 2) (lit ['-']
    (seq (digits u 4) boundary)))))

/-- `\b(?:\d{4}[ -]?){3}\d{4}\b` -/
def creditCard : Expr :=
  seq boundary (seq (times (seq (digits u 4) (opt (cls (oneOf " -")))) 3)
    (seq (digits u 4) boundary))

/-- `\bAKIA[0-9A-Z]{16}\b` -/
def awsAccessKey : Expr :=
  seq boundary (lit ['A', 'K', 'I', 'A']
    (seq (times (cls (fun c => c.isDigit || c.isUpper)) 16) boundary))

/-- `\bsk-ant-[A-Za-z0-9_\-]{20,}\b` -/
def anthropicApiKey : Expr :=
  seq boundary (lit ['s', 'k', '-', 'a', 'n', 't', '-'] (seq (run (alnumOr "_-") 20) boundary))

/-- `\bsk-[A-Za-z0-9_\-]{40,}\b` -/
def openaiApiKey : Expr :=
  seq boundary (lit ['s', 'k', '-'] (seq (run (alnumOr "_-") 40) boundary))

/-- `\bghp_[A-Za-z0-9]{36}\b` -/
def githubPat : Expr :=
  seq boundary (lit ['g', 'h', 'p', '_'] (seq (times (cls Char.isAlphanum) 36) boundary))

/-- `\bgithub_pat_[A-Za-z0-9_]{20,}\b` -/
def githubFineGrainedPat : Expr :=
  seq boundary (lit ['g', 'i', 't', 'h', 'u', 'b', '_', 'p', 'a', 't', '_']
    (seq (run (alnumOr "_") 20) boundary))

/-- `(?:\(\d{3}\)\s?|\b\d{3}[ .-])\d{3}[ .-]\d{4}\b` -/
def phoneUs : Expr :=
  seq (alt (lit ['('] (seq (digits u 3) (lit [')'] (opt (cls isSpace)))))
      (seq boundary (seq (digits u 3) (cls (oneOf " .-")))))
    (seq (digits u 3) (seq (cls (oneOf " .-")) (seq (digits u 4) boundary)))

/-- `_PATTERNS`. -/
def patterns : List (String × Expr) :=
  [("EMAIL", email), ("SSN", ssn u), ("CREDIT_CARD", creditCard u),
    ("AWS_ACCESS_KEY", awsAccessKey), ("ANTHROPIC_API_KEY", anthropicApiKey),
    ("OPENAI_API_KEY", openaiApiKey), ("GITHUB_PAT", githubPat),
    ("GITHUB_FINE_GRAINED_PAT", githubFineGrainedPat), ("PHONE_US", phoneUs u)]

/-- What `re.compile` makes of an expression that matches no empty text. -/
def compile (r : Expr) : Pattern where
  sub new text := String.ofList (Regex.sub u.isWord r new.toList text.toList)
  findall text := Regex.count u.isWord r text.toList

end DefaultPatterns

/-- `RegexScrubber()`. -/
def RegexScrubber.default (u : UnicodeClasses) : RegexScrubber :=
  ⟨(DefaultPatterns.patterns u).map (fun p => (p.1, DefaultPatterns.compile u p.2))⟩

end ModelMeld
