import Mathlib.Data.List.Basic

/-!
# Tokens of JSON texts

A text is read into tokens by an automaton that takes one character at a time.
Tokens are written down with the escapes JSON requires and no others: a
character from `0x20` on stands for itself.

* `lex_render`: what was written down is read back;
* `of_mem_render`, `mem_render`: beyond ASCII a text has the characters of its strings;
* `inside_of_wide`: a character that only stands in strings is read inside one;
* `opposite_run`: one text that is read both from inside a string and from
  outside one has no backslash, and the two runs stay opposite;
* `holds_run`: without a backslash, strings hold what the text holds;
* `textsHold_of_isInside`: both together, for a part of a text that starts in a string.
-/

namespace JsonTokens

inductive Token where
  | punct (c : Char)
  /-- A name or a numeral. -/
  | word (w : List Char)
  | text (s : List Char)
deriving DecidableEq

def isBlank (c : Char) : Bool := c = ' ' || c = '\t' || c = '\n' || c = '\r'

def isPunct (c : Char) : Bool :=
  c = '\x7b' || c = '\x7d' || c = '[' || c = ']' || c = ',' || c = ':'

def isWordChar (c : Char) : Bool := c.isAlphanum || c = '+' || c = '-' || c = '.'

/-! ## Reading -/

/-- Where the automaton is: between tokens, in a word, or in a string, with what it has read of it.
In a string it may be in an escape, or behind the first half of a surrogate pair. -/
inductive Mode where
  | outside
  | word (w : List Char)
  | inside (s : List Char)
  | escaped (s : List Char)
  | hex (s : List Char) (high : Option ℕ) (digits : List ℕ)
  | paired (s : List Char) (high : ℕ)
  | pairedEscape (s : List Char) (high : ℕ)

/-- The automaton, with the tokens it has read. -/
structure Lexer where
  mode : Mode := .outside
  out : List Token := []

def hexDigit (c : Char) : Option ℕ :=
  if c.isDigit then some (c.toNat - '0'.toNat)
  else if 'a' ≤ c ∧ c ≤ 'f' then some (c.toNat - 'a'.toNat + 10)
  else if 'A' ≤ c ∧ c ≤ 'F' then some (c.toNat - 'A'.toNat + 10)
  else none

/-- The character behind a backslash. -/
def unescape (c : Char) : Option Char :=
  if c = '"' ∨ c = '\\' ∨ c = '/' then some c
  else if c = 'b' then some '\x08'
  else if c = 'f' then some '\x0c'
  else if c = 'n' then some '\n'
  else if c = 'r' then some '\r'
  else if c = 't' then some '\t'
  else none

/-- After the digits of `\uXXXX`. A surrogate without its other half is no character. -/
def endHex (s : List Char) (high : Option ℕ) (n : ℕ) : Option Mode :=
  match high with
  | some h =>
    if 0xdc00 ≤ n ∧ n ≤ 0xdfff then
      some (.inside (s ++ [Char.ofNat (0x10000 + (h - 0xd800) * 0x400 + (n - 0xdc00))]))
    else none
  | none =>
    if 0xd800 ≤ n ∧ n ≤ 0xdbff then some (.paired s n)
    else if 0xdc00 ≤ n ∧ n ≤ 0xdfff then none
    else some (.inside (s ++ [Char.ofNat n]))

/-- A character between tokens. -/
def stepOutside (out : List Token) (c : Char) : Option Lexer :=
  if isBlank c then some ⟨.outside, out⟩
  else if isPunct c then some ⟨.outside, out ++ [.punct c]⟩
  else if c = '"' then some ⟨.inside [], out⟩
  else if isWordChar c then some ⟨.word [c], out⟩
  else none

def step (l : Lexer) (c : Char) : Option Lexer :=
  match l.mode with
  | .outside => stepOutside l.out c
  | .word w =>
    if isWordChar c then some ⟨.word (w ++ [c]), l.out⟩ else stepOutside (l.out ++ [.word w]) c
  | .inside s =>
    if c = '"' then some ⟨.outside, l.out ++ [.text s]⟩
    else if c = '\\' then some ⟨.escaped s, l.out⟩
    else if c.toNat < 0x20 then none
    else some ⟨.inside (s ++ [c]), l.out⟩
  | .escaped s =>
    if c = 'u' then some ⟨.hex s none [], l.out⟩
    else (unescape c).map (fun e => ⟨.inside (s ++ [e]), l.out⟩)
  | .hex s high digits =>
    match hexDigit c with
    | none => none
    | some d =>
      if digits.length < 3 then some ⟨.hex s high (digits ++ [d]), l.out⟩
      else (endHex s high ((digits ++ [d]).foldl (fun n d => 16 * n + d) 0)).map
        (fun mode => ⟨mode, l.out⟩)
  | .paired s high => if c = '\\' then some ⟨.pairedEscape s high, l.out⟩ else none
  | .pairedEscape s high => if c = 'u' then some ⟨.hex s (some high) [], l.out⟩ else none

def run : Lexer → List Char → Option Lexer
  | l, [] => some l
  | l, c :: cs => (step l c).bind (fun l => run l cs)

/-- The automaton with the word it is in read. -/
def Lexer.settled (l : Lexer) : Lexer :=
  match l.mode with
  | .word w => ⟨.outside, l.out ++ [.word w]⟩
  | _ => l

/-- The tokens of a text that does not end in a string. -/
def lex (cs : List Char) : Option (List Token) :=
  match run {} cs with
  | none => none
  | some l =>
    match l.settled.mode with
    | .outside => some l.settled.out
    | _ => none

/-! ## Writing -/

def hexChar (n : ℕ) : Char := Char.ofNat (if n < 10 then 48 + n else 87 + n)

/-- A character of a string. -/
def escape (c : Char) : List Char :=
  if c = '"' then ['\\', '"']
  else if c = '\\' then ['\\', '\\']
  else if c = '\x08' then ['\\', 'b']
  else if c = '\x0c' then ['\\', 'f']
  else if c = '\n' then ['\\', 'n']
  else if c = '\r' then ['\\', 'r']
  else if c = '\t' then ['\\', 't']
  else if c.toNat < 0x20 then ['\\', 'u', '0', '0', hexChar (c.toNat / 16), hexChar (c.toNat % 16)]
  else [c]

def Token.render : Token → List Char
  | .punct c => [c]
  | .word w => w
  | .text s => '"' :: s.flatMap escape ++ ['"']

def render (toks : List Token) : List Char := toks.flatMap Token.render

/-! ## Reading back what was written -/

variable {l l' : Lexer} {out : List Token}

theorem run_append : ∀ (cs ds : List Char) (l : Lexer),
    run l (cs ++ ds) = (run l cs).bind (fun l => run l ds) := by
  intro cs
  induction cs with
  | nil => intro ds l; rfl
  | cons c cs ih =>
    intro ds l
    simp only [List.cons_append, run]
    cases step l c with
    | none => rfl
    | some l' => exact ih ds l'

/-- A run over two texts goes by way of the first. -/
theorem run_append_some {cs ds : List Char} (h : run l (cs ++ ds) = some l') :
    ∃ m, run l cs = some m ∧ run m ds = some l' := by
  rw [run_append] at h
  exact Option.bind_eq_some_iff.1 h

theorem isWordChar_of_isPunct {c : Char} (h : isPunct c = true) :
    isBlank c = false ∧ isWordChar c = false := by
  simp only [isPunct, Bool.or_eq_true, decide_eq_true_eq] at h
  rcases h with ((((rfl | rfl) | rfl) | rfl) | rfl) | rfl <;> decide

/-- A character of a word does not stand between tokens. -/
theorem stepOutside_word {c : Char} (h : isWordChar c = true) :
    stepOutside out c = some ⟨.word [c], out⟩ := by
  have hblank : isBlank c = false := by
    by_contra hc
    simp only [isBlank, Bool.not_eq_false, Bool.or_eq_true, decide_eq_true_eq] at hc
    rcases hc with ((rfl | rfl) | rfl) | rfl <;> exact absurd h (by decide)
  have hpunct : isPunct c = false := by
    by_contra hc
    rw [Bool.not_eq_false] at hc
    rw [(isWordChar_of_isPunct hc).2] at h
    cases h
  have hquote : c ≠ '"' := by
    rintro rfl
    exact absurd h (by decide)
  unfold stepOutside
  simp [hblank, hpunct, hquote, h]

/-- A punctuation mark ends a word. -/
theorem step_punct {c : Char} (hl : l.settled = ⟨.outside, out⟩) (hc : isPunct c = true) :
    step l c = some ⟨.outside, out ++ [.punct c]⟩ := by
  obtain ⟨hblank, hword⟩ := isWordChar_of_isPunct hc
  have houtside : ∀ out, stepOutside out c = some ⟨.outside, out ++ [.punct c]⟩ := by
    intro out
    unfold stepOutside
    simp [hblank, hc]
  obtain ⟨mode, toks⟩ := l
  cases mode with
  | outside =>
    obtain rfl : toks = out := congrArg Lexer.out hl
    exact houtside _
  | word w =>
    obtain rfl : toks ++ [.word w] = out := congrArg Lexer.out hl
    simp only [step, hword, Bool.false_eq_true, if_false]
    exact houtside _
  | _ => cases congrArg Lexer.mode hl

/-- A word is read up to its end. -/
theorem run_word {w : List Char} (hne : w ≠ []) (hw : ∀ c ∈ w, isWordChar c = true) :
    run ⟨.outside, out⟩ w = some ⟨.word w, out⟩ := by
  have hmore : ∀ (v u : List Char), (∀ c ∈ v, isWordChar c = true) →
      run ⟨.word u, out⟩ v = some ⟨.word (u ++ v), out⟩ := by
    intro v
    induction v with
    | nil => intro u _; simp [run]
    | cons c v ih =>
      intro u hv
      have hc := hv c List.mem_cons_self
      simp only [run, step, hc, if_true, Option.bind_some]
      rw [ih (u ++ [c]) (fun c hc => hv c (List.mem_cons_of_mem _ hc))]
      simp
  cases w with
  | nil => exact absurd rfl hne
  | cons c v =>
    have hc := hw c List.mem_cons_self
    simp only [run, step, stepOutside_word hc, Option.bind_some]
    exact hmore v [c] (fun c hc => hw c (List.mem_cons_of_mem _ hc))

theorem hexDigit_hexChar : ∀ n < 16, hexDigit (hexChar n) = some n := by decide

/-- An escaped character is read back. -/
theorem run_escape (c : Char) (s : List Char) :
    run ⟨.inside s, out⟩ (escape c) = some ⟨.inside (s ++ [c]), out⟩ := by
  unfold escape
  split_ifs with hquote hback hb hf hn hr ht hcontrol
  · rw [hquote]; rfl
  · rw [hback]; rfl
  · rw [hb]; rfl
  · rw [hf]; rfl
  · rw [hn]; rfl
  · rw [hr]; rfl
  · rw [ht]; rfl
  · have hhigh := hexDigit_hexChar (c.toNat / 16) (by omega)
    have hlow := hexDigit_hexChar (c.toNat % 16) (by omega)
    have hzero : hexDigit '0' = some 0 := by decide
    have hcode : 16 * (c.toNat / 16) + c.toNat % 16 = c.toNat := Nat.div_add_mod _ _
    have hnone : ¬ (0xd800 ≤ c.toNat ∧ c.toNat ≤ 0xdbff) ∧
        ¬ (0xdc00 ≤ c.toNat ∧ c.toNat ≤ 0xdfff) := by omega
    simp [run, step, hhigh, hlow, hzero, endHex, hcode, hnone.1, hnone.2, Char.ofNat_toNat]
  · simp [run, step, hquote, hback, hcontrol]

/-- **A string is read back.** -/
theorem run_text (s : List Char) :
    run ⟨.outside, out⟩ (Token.text s).render = some ⟨.outside, out ++ [.text s]⟩ := by
  have hchars : ∀ (t u : List Char),
      run ⟨.inside u, out⟩ (t.flatMap escape) = some ⟨.inside (u ++ t), out⟩ := by
    intro t
    induction t with
    | nil => intro u; simp [run]
    | cons c t ih =>
      intro u
      rw [List.flatMap_cons, run_append, run_escape, Option.bind_some, ih]
      simp
  have hopen : run ⟨.outside, out⟩ (Token.text s).render =
      run ⟨.inside [], out⟩ (s.flatMap escape ++ ['"']) := rfl
  rw [hopen, run_append, hchars s []]
  rfl

/-! ## Lists of tokens -/

/-- Tokens that can be told apart in the text: no two words stand side by side. The flag says
whether a word stands before them. -/
def Separated : Bool → List Token → Prop
  | _, [] => True
  | _, .punct c :: toks => isPunct c = true ∧ Separated false toks
  | _, .text _ :: toks => Separated false toks
  | afterWord, .word w :: toks =>
    afterWord = false ∧ w ≠ [] ∧ (∀ c ∈ w, isWordChar c = true) ∧ Separated true toks

theorem Separated.of_afterWord {toks : List Token} (h : Separated true toks) :
    Separated false toks := by
  cases toks with
  | nil => trivial
  | cons t toks =>
    cases t with
    | punct c => exact h
    | text s => exact h
    | word w => cases h.1

/-- A string after a word ends it. -/
theorem run_text_settled (s : List Char) (hl : l.settled = ⟨.outside, out⟩) :
    run l (Token.text s).render = some ⟨.outside, out ++ [.text s]⟩ := by
  obtain ⟨mode, toks⟩ := l
  cases mode with
  | outside =>
    obtain rfl : toks = out := congrArg Lexer.out hl
    exact run_text s
  | word w =>
    obtain rfl : toks ++ [.word w] = out := congrArg Lexer.out hl
    exact run_text s
  | _ => cases congrArg Lexer.mode hl

/-- From where a token can begin, separated tokens are read one by one. -/
theorem run_render : ∀ (toks : List Token) (afterWord : Bool) (l : Lexer) (out : List Token),
    Separated afterWord toks → l.settled = ⟨.outside, out⟩ →
      (afterWord = false → l.mode = .outside) →
        ∃ l', run l (render toks) = some l' ∧ l'.settled = ⟨.outside, out ++ toks⟩ := by
  intro toks
  induction toks with
  | nil =>
    intro afterWord l out _ hl _
    exact ⟨l, rfl, by rw [hl, List.append_nil]⟩
  | cons t toks ih =>
    intro afterWord l out hsep hl hmode
    have hrender : render (t :: toks) = t.render ++ render toks := List.flatMap_cons
    have happend : out ++ t :: toks = (out ++ [t]) ++ toks := by simp
    rw [hrender, run_append, happend]
    cases t with
    | punct c =>
      have hstep := step_punct hl hsep.1
      have hrun : run l (Token.punct c).render = some ⟨.outside, out ++ [.punct c]⟩ := by
        simp only [Token.render, run, hstep, Option.bind_some]
      rw [hrun]
      exact ih false _ _ hsep.2 rfl (fun _ => rfl)
    | text s =>
      rw [run_text_settled s hl]
      exact ih false _ _ hsep rfl (fun _ => rfl)
    | word w =>
      obtain ⟨hflag, hne, hw, hrest⟩ := hsep
      have hout : l = ⟨.outside, out⟩ := by
        obtain ⟨mode, toks⟩ := l
        obtain rfl : mode = .outside := hmode hflag
        exact hl
      have hrun : run l (Token.word w).render = some ⟨.word w, out⟩ := by
        rw [hout]
        exact run_word hne hw
      rw [hrun]
      exact ih true _ _ hrest rfl (fun h => nomatch h)

/-- **Separated tokens are read back from their text.** -/
theorem lex_render {toks : List Token} (h : Separated false toks) :
    lex (render toks) = some toks := by
  obtain ⟨l, hrun, hl⟩ := run_render toks false {} [] h rfl (fun _ => rfl)
  rw [List.nil_append] at hl
  unfold lex
  simp only [hrun, hl]

/-! ## The characters of a text -/

/-- The strings among some tokens have characters of a kind only. -/
def TextsHold (P : Char → Prop) (toks : List Token) : Prop := ∀ s, .text s ∈ toks → ∀ c ∈ s, P c

@[simp] theorem textsHold_nil {P : Char → Prop} : TextsHold P [] := fun _ h => nomatch h

theorem textsHold_append {P : Char → Prop} {toks toks' : List Token} :
    TextsHold P (toks ++ toks') ↔ TextsHold P toks ∧ TextsHold P toks' := by
  unfold TextsHold
  simp only [List.mem_append]
  exact ⟨fun h => ⟨fun s hs => h s (Or.inl hs), fun s hs => h s (Or.inr hs)⟩,
    fun h s hs => hs.elim (h.1 s) (h.2 s)⟩

@[simp] theorem textsHold_punct {P : Char → Prop} {c : Char} {toks : List Token} :
    TextsHold P (.punct c :: toks) ↔ TextsHold P toks := by
  unfold TextsHold
  simp

@[simp] theorem textsHold_word {P : Char → Prop} {w : List Char} {toks : List Token} :
    TextsHold P (.word w :: toks) ↔ TextsHold P toks := by
  unfold TextsHold
  simp

@[simp] theorem textsHold_text {P : Char → Prop} {s : List Char} {toks : List Token} :
    TextsHold P (.text s :: toks) ↔ (∀ c ∈ s, P c) ∧ TextsHold P toks := by
  unfold TextsHold
  simp only [List.mem_cons, Token.text.injEq]
  constructor
  · intro h
    exact ⟨h s (Or.inl rfl), fun t ht => h t (Or.inr ht)⟩
  · rintro ⟨hs, hrest⟩ t (rfl | ht)
    · exact hs
    · exact hrest t ht

theorem mem_escape {c d : Char} (h : d ∈ escape c) :
    0x20 ≤ d.toNat ∧ (d.toNat < 0x80 ∨ d = c) := by
  have hhex : ∀ n < 16, 0x20 ≤ (hexChar n).toNat ∧ (hexChar n).toNat < 0x80 := by decide
  have hplain : 0x20 ≤ d.toNat ∧ d.toNat < 0x80 → 0x20 ≤ d.toNat ∧ (d.toNat < 0x80 ∨ d = c) := by
    rintro ⟨hlow, hhigh⟩
    exact ⟨hlow, Or.inl hhigh⟩
  unfold escape at h
  split_ifs at h with hquote hback hb hf hn hr ht hcontrol
  all_goals simp only [List.mem_cons, List.not_mem_nil, or_false] at h
  · rcases h with rfl | rfl <;> exact hplain (by decide)
  · rcases h with rfl | rfl <;> exact hplain (by decide)
  · rcases h with rfl | rfl <;> exact hplain (by decide)
  · rcases h with rfl | rfl <;> exact hplain (by decide)
  · rcases h with rfl | rfl <;> exact hplain (by decide)
  · rcases h with rfl | rfl <;> exact hplain (by decide)
  · rcases h with rfl | rfl <;> exact hplain (by decide)
  · have hhigh := hhex (c.toNat / 16) (by omega)
    have hlow := hhex (c.toNat % 16) (by omega)
    rcases h with rfl | rfl | rfl | rfl | rfl | rfl
    · exact hplain (by decide)
    · exact hplain (by decide)
    · exact hplain (by decide)
    · exact hplain (by decide)
    · exact hplain hhigh
    · exact hplain hlow
  · rw [h]
    exact ⟨by omega, Or.inr rfl⟩

theorem ascii_of_isWordChar {c : Char} (h : isWordChar c = true) :
    0x20 ≤ c.toNat ∧ c.toNat < 0x80 := by
  have hbetween : ∀ a b : Char, 0x20 ≤ a.toNat → b.toNat < 0x80 → a.val ≤ c.val → c.val ≤ b.val →
      0x20 ≤ c.toNat ∧ c.toNat < 0x80 := by
    intro a b ha hb hac hcb
    have ha' : a.toNat ≤ c.toNat := hac
    have hb' : c.toNat ≤ b.toNat := hcb
    omega
  simp only [isWordChar, Bool.or_eq_true, decide_eq_true_eq] at h
  rcases h with ((h | rfl) | rfl) | rfl
  · rcases Bool.or_eq_true_iff.1 h with h | h
    · rcases Bool.or_eq_true_iff.1 h with h | h
      · obtain ⟨hlow, hhigh⟩ := of_decide_eq_true h
        exact hbetween 'A' 'Z' (by decide) (by decide) hlow hhigh
      · obtain ⟨hlow, hhigh⟩ := Bool.and_eq_true_iff.1 h
        exact hbetween 'a' 'z' (by decide) (by decide) (of_decide_eq_true hlow)
          (of_decide_eq_true hhigh)
    · obtain ⟨hlow, hhigh⟩ := Bool.and_eq_true_iff.1 h
      exact hbetween '0' '9' (by decide) (by decide) (of_decide_eq_true hlow)
        (of_decide_eq_true hhigh)
  · decide
  · decide
  · decide

theorem ascii_of_isPunct {c : Char} (h : isPunct c = true) : 0x20 ≤ c.toNat ∧ c.toNat < 0x80 := by
  simp only [isPunct, Bool.or_eq_true, decide_eq_true_eq] at h
  rcases h with ((((rfl | rfl) | rfl) | rfl) | rfl) | rfl <;> decide

/-- A text is ASCII without controls but for what stands in its strings. -/
theorem of_mem_render {c : Char} : ∀ {toks : List Token} {afterWord : Bool},
    Separated afterWord toks → c ∈ render toks →
      0x20 ≤ c.toNat ∧ (c.toNat < 0x80 ∨ ∃ s, .text s ∈ toks ∧ c ∈ s) := by
  intro toks
  induction toks with
  | nil => intro _ _ h; cases h
  | cons t toks ih =>
    intro afterWord hsep h
    have hlater : ∀ {flag : Bool}, Separated flag toks → c ∈ render toks →
        0x20 ≤ c.toNat ∧ (c.toNat < 0x80 ∨ ∃ s, .text s ∈ t :: toks ∧ c ∈ s) := by
      intro flag hsep h
      obtain ⟨hlow, hc⟩ := ih hsep h
      refine ⟨hlow, ?_⟩
      rcases hc with hc | ⟨s, hs, hc⟩
      · exact Or.inl hc
      · exact Or.inr ⟨s, List.mem_cons_of_mem _ hs, hc⟩
    have hrender : render (t :: toks) = t.render ++ render toks := List.flatMap_cons
    rw [hrender] at h
    cases t with
    | punct d =>
      rcases List.mem_append.1 h with h | h
      · obtain ⟨hlow, hhigh⟩ := ascii_of_isPunct hsep.1
        rw [List.mem_singleton.1 h]
        exact ⟨hlow, Or.inl hhigh⟩
      · exact hlater hsep.2 h
    | word w =>
      obtain ⟨-, -, hw, hrest⟩ := hsep
      rcases List.mem_append.1 h with h | h
      · obtain ⟨hlow, hhigh⟩ := ascii_of_isWordChar (hw c h)
        exact ⟨hlow, Or.inl hhigh⟩
      · exact hlater hrest h
    | text s =>
      rcases List.mem_append.1 h with h | h
      · rcases List.mem_append.1 h with h | h
        · rcases List.mem_cons.1 h with rfl | h
          · exact ⟨by decide, Or.inl (by decide)⟩
          · obtain ⟨d, hd, hc⟩ := List.mem_flatMap.1 h
            obtain ⟨hlow, hc⟩ := mem_escape hc
            refine ⟨hlow, ?_⟩
            rcases hc with hc | rfl
            · exact Or.inl hc
            · exact Or.inr ⟨s, List.mem_cons_self, hd⟩
        · rw [List.mem_singleton.1 h]
          exact ⟨by decide, Or.inl (by decide)⟩
      · exact hlater hsep h

/-- A character beyond ASCII stands for itself. -/
theorem mem_render {c : Char} {s : List Char} {toks : List Token} (hs : .text s ∈ toks)
    (hmem : c ∈ s) (hc : 0x80 ≤ c.toNat) : c ∈ render toks := by
  have hne : ∀ d : Char, d.toNat < 0x80 → c ≠ d := by
    rintro d hd rfl
    omega
  have hself : escape c = [c] := by
    unfold escape
    rw [if_neg (hne _ (by decide)), if_neg (hne _ (by decide)), if_neg (hne _ (by decide)),
      if_neg (hne _ (by decide)), if_neg (hne _ (by decide)), if_neg (hne _ (by decide)),
      if_neg (hne _ (by decide)), if_neg (by omega)]
  have hchars : c ∈ s.flatMap escape := by
    rw [List.mem_flatMap]
    exact ⟨c, hmem, by rw [hself]; exact List.mem_singleton_self c⟩
  have htext : c ∈ (Token.text s).render :=
    List.mem_append_left _ (List.mem_cons_of_mem _ hchars)
  exact List.mem_flatMap.2 ⟨_, hs, htext⟩

/-! ## Reading a part of a text -/

/-- In the middle of a string, not in an escape. -/
def Lexer.isInside (l : Lexer) : Prop := ∃ s, l.mode = .inside s

/-- Between tokens, or in a word. -/
def Lexer.isOutside (l : Lexer) : Prop := l.mode = .outside ∨ ∃ w, l.mode = .word w

/-- A character beyond ASCII does not stand between tokens, in a word or in an escape. -/
theorem wide_outside {c : Char} (hc : 0x80 ≤ c.toNat) :
    (∀ out, stepOutside out c = none) ∧ isWordChar c = false := by
  have hne : ∀ d : Char, d.toNat < 0x80 → c ≠ d := by
    rintro d hd rfl
    omega
  have hword : isWordChar c = false := by
    rw [Bool.eq_false_iff]
    intro h
    have hlt := (ascii_of_isWordChar h).2
    omega
  refine ⟨?_, hword⟩
  intro out
  unfold stepOutside isBlank isPunct
  simp only [hne ' ' (by decide), hne '\t' (by decide), hne '\n' (by decide), hne '\r' (by decide),
    hne '\x7b' (by decide), hne '\x7d' (by decide), hne '[' (by decide), hne ']' (by decide),
    hne ',' (by decide), hne ':' (by decide), hne '"' (by decide), hword, decide_false,
    Bool.or_self, Bool.false_eq_true, if_false]

/-- **A character beyond ASCII is read inside a string**, and leaves the automaton there. -/
theorem inside_of_wide {c : Char} (hc : 0x80 ≤ c.toNat) (h : step l c = some l') :
    l.isInside ∧ l'.isInside := by
  obtain ⟨houtside, hword⟩ := wide_outside hc
  have hne : ∀ d : Char, d.toNat < 0x80 → c ≠ d := by
    rintro d hd rfl
    omega
  obtain ⟨mode, out⟩ := l
  cases mode with
  | inside s =>
    simp only [step, hne '"' (by decide), hne '\\' (by decide), if_false,
      if_neg (show ¬ c.toNat < 0x20 by omega), Option.some.injEq] at h
    exact ⟨⟨s, rfl⟩, ⟨s ++ [c], by rw [← h]⟩⟩
  | outside =>
    simp only [step, houtside] at h
    cases h
  | word w =>
    simp only [step, hword, Bool.false_eq_true, if_false, houtside] at h
    cases h
  | escaped s =>
    have hunescape : unescape c = none := by
      unfold unescape
      simp [hne '"' (by decide), hne '\\' (by decide), hne '/' (by decide), hne 'b' (by decide),
        hne 'f' (by decide), hne 'n' (by decide), hne 'r' (by decide), hne 't' (by decide)]
    simp only [step, hne 'u' (by decide), if_false, hunescape, Option.map_none] at h
    cases h
  | hex s high digits =>
    have hdigit : hexDigit c = none := by
      have hval : 0x80 ≤ c.val.toNat := hc
      have h9 : c.isDigit = false := by
        simp only [isWordChar, Char.isAlphanum, Bool.or_eq_false_iff] at hword
        exact hword.1.1.1.2
      have hf : ¬ c ≤ 'f' := by
        intro h
        have hle : c.toNat ≤ 102 := h
        omega
      have hF : ¬ c ≤ 'F' := by
        intro h
        have hle : c.toNat ≤ 70 := h
        omega
      simp [hexDigit, h9, hf, hF]
    simp only [step, hdigit] at h
    cases h
  | paired s high =>
    simp only [step, hne '\\' (by decide), if_false] at h
    cases h
  | pairedEscape s high =>
    simp only [step, hne 'u' (by decide), if_false] at h
    cases h

/-- Between tokens and in a word there is no backslash; only a quotation mark opens a string. -/
theorem step_of_isOutside {c : Char} (hl : l.isOutside) (h : step l c = some l') :
    c ≠ '\\' ∧ (if c = '"' then l'.isInside else l'.isOutside) := by
  have houtside : ∀ out, stepOutside out c = some l' →
      c ≠ '\\' ∧ (if c = '"' then l'.isInside else l'.isOutside) := by
    intro out h
    refine ⟨?_, ?_⟩
    · rintro rfl
      cases h
    · rcases eq_or_ne c '"' with rfl | hquote
      · have hopen : some (⟨.inside [], out⟩ : Lexer) = some l' := h
        rw [if_pos rfl, ← Option.some.inj hopen]
        exact ⟨[], rfl⟩
      · rw [if_neg hquote]
        unfold stepOutside at h
        split_ifs at h with hblank hpunct hword
        · rw [← Option.some.inj h]
          exact Or.inl rfl
        · rw [← Option.some.inj h]
          exact Or.inl rfl
        · rw [← Option.some.inj h]
          exact Or.inr ⟨[c], rfl⟩
  rcases hl with hmode | ⟨w, hmode⟩
  · simp only [step, hmode] at h
    exact houtside _ h
  · simp only [step, hmode] at h
    split_ifs at h with hword
    · have hc : c ≠ '\\' ∧ c ≠ '"' := by
        constructor <;>
        · rintro rfl
          exact absurd hword (by decide)
      rw [if_neg hc.2, ← Option.some.inj h]
      exact ⟨hc.1, Or.inr ⟨w ++ [c], rfl⟩⟩
    · exact houtside _ h

/-- In a string, where it holds no backslash, only a quotation mark closes it. -/
theorem step_of_isInside {c : Char} (hl : l.isInside) (hc : c ≠ '\\') (h : step l c = some l') :
    if c = '"' then l'.isOutside else l'.isInside := by
  obtain ⟨s, hs⟩ := hl
  simp only [step, hs, if_neg hc] at h
  split_ifs at h ⊢ with hquote hcontrol
  · rw [← Option.some.inj h]
    exact Or.inl rfl
  · rw [← Option.some.inj h]
    exact ⟨_, rfl⟩

/-- One automaton is in a string exactly when the other is not. -/
def Opposite (l m : Lexer) : Prop := (l.isInside ∧ m.isOutside) ∨ (l.isOutside ∧ m.isInside)

/-- **A text that is read from opposite places has no backslash, and the places stay opposite.** -/
theorem opposite_run : ∀ (cs : List Char) (l m l' m' : Lexer), Opposite l m →
    run l cs = some l' → run m cs = some m' → '\\' ∉ cs ∧ Opposite l' m' := by
  intro cs
  induction cs with
  | nil =>
    intro l m l' m' hopp hl hm
    rw [← Option.some.inj hl, ← Option.some.inj hm]
    exact ⟨List.not_mem_nil, hopp⟩
  | cons c cs ih =>
    intro l m l' m' hopp hl hm
    obtain ⟨l₁, hstepl, hrunl⟩ := Option.bind_eq_some_iff.1 hl
    obtain ⟨m₁, hstepm, hrunm⟩ := Option.bind_eq_some_iff.1 hm
    have hnext : c ≠ '\\' ∧ Opposite l₁ m₁ := by
      rcases hopp with ⟨hin, hout⟩ | ⟨hout, hin⟩
      · obtain ⟨hc, hm₁⟩ := step_of_isOutside hout hstepm
        have hl₁ := step_of_isInside hin hc hstepl
        refine ⟨hc, ?_⟩
        split_ifs at hl₁ hm₁
        · exact Or.inr ⟨hl₁, hm₁⟩
        · exact Or.inl ⟨hl₁, hm₁⟩
      · obtain ⟨hc, hl₁⟩ := step_of_isOutside hout hstepl
        have hm₁ := step_of_isInside hin hc hstepm
        refine ⟨hc, ?_⟩
        split_ifs at hl₁ hm₁
        · exact Or.inl ⟨hl₁, hm₁⟩
        · exact Or.inr ⟨hl₁, hm₁⟩
    obtain ⟨hno, hopp'⟩ := ih l₁ m₁ l' m' hnext.2 hrunl hrunm
    refine ⟨?_, hopp'⟩
    intro hmem
    rcases List.mem_cons.1 hmem with heq | hmem
    · exact hnext.1 heq.symm
    · exact hno hmem

/-- The strings read so far hold characters of a kind only. -/
structure Holds (P : Char → Prop) (l : Lexer) : Prop where
  out : TextsHold P l.out
  inside : ∀ s, l.mode = .inside s → ∀ c ∈ s, P c

theorem holds_stepOutside {P : Char → Prop} {c : Char}
    (hout : TextsHold P out) (h : stepOutside out c = some l') : Holds P l' := by
  unfold stepOutside at h
  split_ifs at h with hblank hpunct hquote hword
  · rw [← Option.some.inj h]
    exact ⟨hout, fun s hs => nomatch hs⟩
  · rw [← Option.some.inj h]
    refine ⟨?_, fun s hs => nomatch hs⟩
    intro s hs
    rcases List.mem_append.1 hs with hs | hs
    · exact hout s hs
    · cases List.mem_singleton.1 hs
  · rw [← Option.some.inj h]
    refine ⟨hout, ?_⟩
    intro s hs c hc
    obtain rfl : [] = s := Mode.inside.inj hs
    cases hc
  · rw [← Option.some.inj h]
    exact ⟨hout, fun s hs => nomatch hs⟩

theorem holds_step {P : Char → Prop} {c : Char} (hplace : l.isInside ∨ l.isOutside)
    (hholds : Holds P l) (hc : c ≠ '\\') (hP : P c) (h : step l c = some l') : Holds P l' := by
  rcases hplace with ⟨s, hmode⟩ | hmode | ⟨w, hmode⟩
  · have hs := hholds.inside s hmode
    simp only [step, hmode, if_neg hc] at h
    split_ifs at h with hquote hcontrol
    · rw [← Option.some.inj h]
      refine ⟨?_, fun s hs => nomatch hs⟩
      intro t ht
      rcases List.mem_append.1 ht with ht | ht
      · exact hholds.out t ht
      · obtain rfl := Token.text.inj (List.mem_singleton.1 ht)
        exact hs
    · rw [← Option.some.inj h]
      refine ⟨hholds.out, ?_⟩
      intro t ht d hd
      obtain rfl : s ++ [c] = t := Mode.inside.inj ht
      rcases List.mem_append.1 hd with hd | hd
      · exact hs d hd
      · rw [List.mem_singleton.1 hd]
        exact hP
  · simp only [step, hmode] at h
    exact holds_stepOutside hholds.out h
  · simp only [step, hmode] at h
    split_ifs at h with hword
    · rw [← Option.some.inj h]
      exact ⟨hholds.out, fun s hs => nomatch hs⟩
    · refine holds_stepOutside ?_ h
      intro s hs
      rcases List.mem_append.1 hs with hs | hs
      · exact hholds.out s hs
      · cases List.mem_singleton.1 hs

/-- **Without a backslash, strings hold what the text holds.** -/
theorem holds_run (P : Char → Prop) : ∀ (cs : List Char) (l l' : Lexer),
    l.isInside ∨ l.isOutside → Holds P l → '\\' ∉ cs → (∀ c ∈ cs, P c) → run l cs = some l' →
      Holds P l' := by
  intro cs
  induction cs with
  | nil =>
    intro l l' _ hholds _ _ h
    rw [← Option.some.inj h]
    exact hholds
  | cons c cs ih =>
    intro l l' hplace hholds hno hP h
    obtain ⟨l₁, hstep, hrun⟩ := Option.bind_eq_some_iff.1 h
    have hc : c ≠ '\\' := fun heq => hno (heq ▸ List.mem_cons_self)
    have hplace' : l₁.isInside ∨ l₁.isOutside := by
      rcases hplace with hin | hout
      · have hnext := step_of_isInside hin hc hstep
        split_ifs at hnext
        · exact Or.inr hnext
        · exact Or.inl hnext
      · have hnext := (step_of_isOutside hout hstep).2
        split_ifs at hnext
        · exact Or.inl hnext
        · exact Or.inr hnext
    have hholds' := holds_step hplace hholds hc (hP c List.mem_cons_self) hstep
    exact ih l₁ l' hplace' hholds' (fun hmem => hno (List.mem_cons_of_mem _ hmem))
      (fun d hd => hP d (List.mem_cons_of_mem _ hd)) hrun

theorem not_isOutside_of_isInside (h : l.isInside) : ¬ l.isOutside := by
  obtain ⟨s, hs⟩ := h
  rintro (hout | ⟨w, hout⟩)
  · rw [hs] at hout
    cases hout
  · rw [hs] at hout
    cases hout

/-- Without a quotation mark no string is opened. -/
theorem isOutside_run : ∀ (cs : List Char) (l l' : Lexer), l.isOutside → '"' ∉ cs →
    run l cs = some l' → l'.isOutside := by
  intro cs
  induction cs with
  | nil =>
    intro l l' hl _ h
    rw [← Option.some.inj h]
    exact hl
  | cons c cs ih =>
    intro l l' hl hno h
    obtain ⟨l₁, hstep, hrun⟩ := Option.bind_eq_some_iff.1 h
    have hc : c ≠ '"' := fun heq => hno (heq ▸ List.mem_cons_self)
    have hnext := (step_of_isOutside hl hstep).2
    rw [if_neg hc] at hnext
    exact ih l₁ l' hnext (fun hmem => hno (List.mem_cons_of_mem _ hmem)) hrun

/-- Without a quotation mark and a backslash no string is closed. -/
theorem isInside_run : ∀ (cs : List Char) (l l' : Lexer), l.isInside → '"' ∉ cs → '\\' ∉ cs →
    run l cs = some l' → l'.isInside := by
  intro cs
  induction cs with
  | nil =>
    intro l l' hl _ _ h
    rw [← Option.some.inj h]
    exact hl
  | cons c cs ih =>
    intro l l' hl hno hback h
    obtain ⟨l₁, hstep, hrun⟩ := Option.bind_eq_some_iff.1 h
    have hc : c ≠ '"' := fun heq => hno (heq ▸ List.mem_cons_self)
    have hnext := step_of_isInside hl (fun heq => hback (heq ▸ List.mem_cons_self)) hstep
    rw [if_neg hc] at hnext
    exact ih l₁ l' hnext (fun hmem => hno (List.mem_cons_of_mem _ hmem))
      (fun hmem => hback (List.mem_cons_of_mem _ hmem)) hrun

/-- The tokens of a text come from a run that does not end in a string. -/
theorem run_of_lex {cs : List Char} {toks : List Token} (h : lex cs = some toks) :
    ∃ l, run {} cs = some l ∧ l.isOutside ∧ l.settled.out = toks := by
  unfold lex at h
  split at h
  · cases h
  · rename_i l hrun
    split at h
    · rename_i hmode
      refine ⟨l, hrun, ?_, Option.some.inj h⟩
      obtain ⟨mode, out⟩ := l
      cases mode with
      | outside => exact Or.inl rfl
      | word w => exact Or.inr ⟨w, rfl⟩
      | _ => cases hmode
    · cases h

/-- **A part of a text that starts in a string and is a text by itself has its strings between the
strings of the whole**: they hold what stands there. -/
theorem textsHold_of_isInside {P : Char → Prop} {cs : List Char} {toks : List Token}
    (hl : l.isInside) (hrun : run l cs = some l') (hlex : lex cs = some toks)
    (hP : ∀ c ∈ cs, P c) : TextsHold P toks := by
  obtain ⟨m, hm, -, hout⟩ := run_of_lex hlex
  have hstart : Lexer.isOutside {} := Or.inl rfl
  obtain ⟨hback, -⟩ := opposite_run cs l {} l' m (Or.inl ⟨hl, hstart⟩) hrun hm
  have hnone : Holds P {} := ⟨textsHold_nil, fun s hs => nomatch hs⟩
  have hholds := holds_run P cs {} m (Or.inr hstart) hnone hback hP hm
  rw [← hout]
  obtain ⟨mode, out⟩ := m
  cases mode with
  | word w => exact textsHold_append.2 ⟨hholds.out, textsHold_word.2 textsHold_nil⟩
  | _ => exact hholds.out

end JsonTokens
