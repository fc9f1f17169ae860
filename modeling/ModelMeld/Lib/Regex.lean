import Mathlib.Data.List.Basic

/-!
# Regular expressions of a backtracking matcher

Expressions over the characters of a text, with greedy runs of one class and
word boundaries. `lens` is the matcher: the lengths it finds at a position, in
the order in which it tries them, so that the first is what a search takes.
`Matches` says the same by what is matched and the characters on either side.

* `mem_lens_iff`: the matcher finds what matches;
* `Avoids`, `Needs`: characters no match has, and characters every match has;
* `EndsAtBoundary`, `StartsApart`: a match stands apart from the word characters
  around it.
-/

namespace Regex

/-- An expression; a run is greedy and has at least `min` characters, and of two alternatives the
left one is tried first. -/
inductive Expr where
  | eps
  | cls (p : Char → Bool)
  | run (p : Char → Bool) (min : ℕ)
  | seq (r s : Expr)
  | alt (r s : Expr)
  | boundary

namespace Expr

/-- `r?`, greedy. -/
def opt (r : Expr) : Expr := alt r eps

/-- `r{n}`. -/
def times (r : Expr) : ℕ → Expr
  | 0 => eps
  | n + 1 => seq r (times r n)

/-- The characters of a text, one after the other, then an expression. -/
def lit (cs : List Char) (r : Expr) : Expr := cs.foldr (fun c r => seq (cls (fun d => d == c)) r) r

end Expr

open Regex.Expr

/-! ## Positions -/

/-- The character before the end of a part that is read from a position. -/
def before (prev : Option Char) (w : List Char) : Option Char := w.getLast?.or prev

/-- The character after a part, when the part after that is `v`. -/
def after (v : List Char) (next : Option Char) : Option Char := v.head?.or next

@[simp] theorem before_nil (prev : Option Char) : before prev [] = prev := rfl

@[simp] theorem after_nil (next : Option Char) : after [] next = next := rfl

@[simp] theorem after_cons (c : Char) (v : List Char) (next : Option Char) :
    after (c :: v) next = some c := rfl

theorem before_append (prev : Option Char) (u v : List Char) :
    before prev (u ++ v) = before (before prev u) v := by
  unfold before
  rw [List.getLast?_append, Option.or_assoc]

theorem after_append (u v : List Char) (next : Option Char) :
    after (u ++ v) next = after u (after v next) := by
  unfold after
  rw [List.head?_append, Option.or_assoc]

theorem before_cons (prev : Option Char) (c : Char) (w : List Char) :
    before prev (c :: w) = before (some c) w := by
  rw [← List.singleton_append, before_append]
  rfl

/-- The character before does not matter once something is read. -/
theorem before_of_ne_nil {w : List Char} (hw : w ≠ []) (prev prev' : Option Char) :
    before prev w = before prev' w := by
  unfold before
  rw [List.getLast?_eq_some_getLast hw]
  rfl

theorem after_of_ne_nil {v : List Char} (hv : v ≠ []) (next next' : Option Char) :
    after v next = after v next' := by
  cases v with
  | nil => exact absurd rfl hv
  | cons c v => rfl

variable (isWord : Char → Bool)

/-- Whether a word character stands there. -/
def wordAt (c : Option Char) : Bool := c.any isWord

/-- `\\b` between two characters. -/
def Boundary (prev next : Option Char) : Prop := wordAt isWord prev ≠ wordAt isWord next

instance (prev next : Option Char) : Decidable (Boundary isWord prev next) :=
  inferInstanceAs (Decidable (_ ≠ _))

/-! ## The matcher -/

/-- The lengths of a greedy run, the longest first. -/
def runLens (p : Char → Bool) : ℕ → List Char → List ℕ
  | min, [] => if min = 0 then [0] else []
  | min, c :: cs =>
    (if p c then (runLens p (min - 1) cs).map (· + 1) else []) ++ (if min = 0 then [0] else [])

/-- The lengths the matcher finds at a position, in the order in which it tries them. -/
def lens : Expr → Option Char → List Char → List ℕ
  | .eps, _, _ => [0]
  | .cls _, _, [] => []
  | .cls p, _, c :: _ => if p c then [1] else []
  | .run p min, _, rest => runLens p min rest
  | .seq r s, prev, rest => (lens r prev rest).flatMap (fun n =>
      (lens s (before prev (rest.take n)) (rest.drop n)).map (n + ·))
  | .alt r s, prev, rest => lens r prev rest ++ lens s prev rest
  | .boundary, prev, rest => if Boundary isWord prev rest.head? then [0] else []

/-- The length of the match at a position, when there is one that is not empty. -/
def matchLen (r : Expr) (prev : Option Char) (rest : List Char) : ℕ :=
  (lens isWord r prev rest).head?.getD 0

/-- `sub` from a position, with as many characters of a match still to be passed over as the first
argument says. -/
def subFrom (r : Expr) (new : List Char) : ℕ → Option Char → List Char → List Char
  | _, _, [] => []
  | skip + 1, _, c :: cs => subFrom r new skip (some c) cs
  | 0, prev, c :: cs =>
    match matchLen isWord r prev (c :: cs) with
    | 0 => c :: subFrom r new 0 (some c) cs
    | n + 1 => new ++ subFrom r new n (some c) cs

/-- `pattern.sub(new, text)`, for a pattern that matches no empty text. -/
def sub (r : Expr) (new text : List Char) : List Char := subFrom isWord r new 0 none text

/-- The number of matches `sub` replaces. -/
def countFrom (r : Expr) : ℕ → Option Char → List Char → ℕ
  | _, _, [] => 0
  | skip + 1, _, c :: cs => countFrom r skip (some c) cs
  | 0, prev, c :: cs =>
    match matchLen isWord r prev (c :: cs) with
    | 0 => countFrom r 0 (some c) cs
    | n + 1 => 1 + countFrom r n (some c) cs

/-- `len(pattern.findall(text))`. -/
def count (r : Expr) (text : List Char) : ℕ := countFrom isWord r 0 none text

/-! ## What matches -/

/-- `w` matches between two characters. -/
def Matches : Expr → Option Char → List Char → Option Char → Prop
  | .eps, _, w, _ => w = []
  | .cls p, _, w, _ => ∃ c, w = [c] ∧ p c = true
  | .run p min, _, w, _ => min ≤ w.length ∧ ∀ c ∈ w, p c = true
  | .seq r s, prev, w, next => ∃ u v, w = u ++ v ∧ Matches r prev u (after v next) ∧
      Matches s (before prev u) v next
  | .alt r s, prev, w, next => Matches r prev w next ∨ Matches s prev w next
  | .boundary, prev, w, next => w = [] ∧ Boundary isWord prev next

theorem mem_runLens_iff {p : Char → Bool} {min n : ℕ} {rest : List Char} :
    n ∈ runLens p min rest ↔ n ≤ rest.length ∧ min ≤ n ∧ ∀ c ∈ rest.take n, p c = true := by
  induction rest generalizing min n with
  | nil =>
    unfold runLens
    split
    · rename_i hmin
      simp only [List.mem_singleton, List.length_nil, List.take_nil, List.not_mem_nil,
        false_implies, implies_true, and_true]
      omega
    · simp only [List.not_mem_nil, List.length_nil, List.take_nil, false_implies, implies_true,
        and_true, false_iff]
      omega
  | cons c cs ih =>
    unfold runLens
    rw [List.mem_append]
    cases n with
    | zero =>
      have hno : 0 ∉ (if p c = true then (runLens p (min - 1) cs).map (· + 1) else []) := by
        split
        · simp
        · exact List.not_mem_nil
      simp only [hno, false_or, List.take_zero, List.not_mem_nil, false_implies, implies_true,
        and_true, Nat.zero_le, true_and, Nat.le_zero]
      split
      · rename_i hmin
        simp [hmin]
      · rename_i hmin
        simp [hmin]
    | succ n =>
      have hno : n + 1 ∉ (if min = 0 then [0] else []) := by
        split
        · simp
        · exact List.not_mem_nil
      simp only [hno, or_false, List.take_succ_cons, List.mem_cons, forall_eq_or_imp,
        List.length_cons, Nat.add_le_add_iff_right]
      split
      · rename_i hc
        rw [List.mem_map]
        simp only [Nat.add_right_cancel_iff, exists_eq_right, ih, hc, true_and]
        constructor
        · rintro ⟨hlen, hmin, hall⟩
          exact ⟨hlen, by omega, hall⟩
        · rintro ⟨hlen, hmin, hall⟩
          exact ⟨hlen, by omega, hall⟩
      · rename_i hc
        simp [hc]

variable {isWord} {r s : Expr} {prev next : Option Char} {w rest : List Char}

theorem head?_eq_after (text : List Char) (n : ℕ) :
    text.head? = after (text.take n) (text.drop n).head? := by
  conv_lhs => rw [← List.take_append_drop n text]
  rw [List.head?_append]
  rfl

/-- **The matcher finds what matches.** -/
theorem mem_lens_iff {n : ℕ} : n ∈ lens isWord r prev rest ↔
    n ≤ rest.length ∧ Matches isWord r prev (rest.take n) (rest.drop n).head? := by
  induction r generalizing prev rest n with
  | eps =>
    simp only [lens, Matches, List.mem_singleton, List.take_eq_nil_iff]
    constructor
    · rintro rfl
      exact ⟨Nat.zero_le _, Or.inl rfl⟩
    · rintro ⟨hlen, h | rfl⟩
      · exact h
      · simpa using hlen
  | cls p =>
    cases rest with
    | nil => simp [lens, Matches]
    | cons c cs =>
      simp only [lens, Matches]
      constructor
      · intro h
        split at h
        · rename_i hc
          obtain rfl := List.mem_singleton.1 h
          exact ⟨by simp, c, by simp, hc⟩
        · exact absurd h List.not_mem_nil
      · rintro ⟨hlen, d, hd, hp⟩
        have hone : n = 1 := by
          have hl := congrArg List.length hd
          rw [List.length_take, List.length_singleton] at hl
          omega
        subst hone
        simp only [List.take_succ_cons, List.take_zero, List.cons.injEq, and_true] at hd
        rw [hd, if_pos hp]
        exact List.mem_singleton_self 1
  | run p min =>
    simp only [lens, Matches]
    rw [mem_runLens_iff]
    constructor
    · rintro ⟨hlen, hmin, hall⟩
      exact ⟨hlen, by rw [List.length_take]; omega, hall⟩
    · rintro ⟨hlen, hmin, hall⟩
      rw [List.length_take] at hmin
      exact ⟨hlen, by omega, hall⟩
  | seq r s ihr ihs =>
    simp only [lens, Matches, List.mem_flatMap, List.mem_map]
    constructor
    · rintro ⟨k, hk, m, hm, rfl⟩
      obtain ⟨hklen, hkr⟩ := ihr.1 hk
      obtain ⟨hmlen, hms⟩ := ihs.1 hm
      rw [List.length_drop] at hmlen
      rw [List.drop_drop] at hms
      rw [head?_eq_after (rest.drop k) m, List.drop_drop] at hkr
      exact ⟨by omega, rest.take k, (rest.drop k).take m, List.take_add, hkr, hms⟩
    · rintro ⟨hlen, u, v, huv, hu, hv⟩
      -- the text is the two parts and what follows
      obtain ⟨tail, rfl, rfl⟩ : ∃ tail, rest = u ++ (v ++ tail) ∧ n = u.length + v.length := by
        refine ⟨rest.drop n, ?_, ?_⟩
        · rw [← List.append_assoc, ← huv, List.take_append_drop]
        · have hl := congrArg List.length huv
          rw [List.length_take, List.length_append] at hl
          omega
      have hdrop : (u ++ (v ++ tail)).drop (u.length + v.length) = tail := by
        rw [← List.drop_drop, List.drop_left, List.drop_left]
      rw [hdrop] at hu hv
      refine ⟨u.length, ihr.2 ⟨by simp, ?_⟩, v.length, ihs.2 ⟨?_, ?_⟩, rfl⟩
      · rw [List.take_left, List.drop_left, List.head?_append]
        exact hu
      · rw [List.drop_left]
        simp
      · rw [List.take_left, List.drop_left, List.take_left, List.drop_left]
        exact hv
  | alt r s ihr ihs =>
    simp only [lens, Matches, List.mem_append, ihr, ihs, and_or_left]
  | boundary =>
    simp only [lens, Matches, List.take_eq_nil_iff]
    constructor
    · intro h
      split at h
      · rename_i hb
        obtain rfl := List.mem_singleton.1 h
        exact ⟨Nat.zero_le _, Or.inl rfl, hb⟩
      · exact absurd h List.not_mem_nil
    · rintro ⟨hlen, hn, hb⟩
      have hzero : n = 0 := by
        rcases hn with rfl | rfl
        · rfl
        · simpa using hlen
      subst hzero
      rw [List.drop_zero] at hb
      rw [if_pos hb]
      exact List.mem_singleton_self 0

/-! ## Characters of a match -/

/-- No class of the expression has the character. -/
def Avoids (c : Char) : Expr → Prop
  | .eps => True
  | .cls p => p c = false
  | .run p _ => p c = false
  | .seq r s => Avoids c r ∧ Avoids c s
  | .alt r s => Avoids c r ∧ Avoids c s
  | .boundary => True

theorem not_mem_of_avoids {c : Char} (havoids : Avoids c r) (h : Matches isWord r prev w next) :
    c ∉ w := by
  induction r generalizing prev w next with
  | eps =>
    have hw : w = [] := h
    rw [hw]
    exact List.not_mem_nil
  | cls p =>
    obtain ⟨d, rfl, hd⟩ := h
    intro hmem
    rw [List.mem_singleton.1 hmem] at havoids
    exact absurd (havoids.symm.trans hd) (by decide)
  | run p min =>
    intro hmem
    exact absurd (Eq.trans (Eq.symm havoids) (h.2 c hmem)) (by decide)
  | seq r s ihr ihs =>
    obtain ⟨u, v, rfl, hu, hv⟩ := h
    rw [List.mem_append, not_or]
    exact ⟨ihr havoids.1 hu, ihs havoids.2 hv⟩
  | alt r s ihr ihs =>
    rcases h with h | h
    · exact ihr havoids.1 h
    · exact ihs havoids.2 h
  | boundary =>
    rw [h.1]
    exact List.not_mem_nil

theorem avoids_lit {c : Char} {cs : List Char} : Avoids c (lit cs r) ↔ c ∉ cs ∧ Avoids c r := by
  induction cs with
  | nil => simp [lit]
  | cons d cs ih =>
    have hcons : Avoids c (lit (d :: cs) r) ↔ (c == d) = false ∧ Avoids c (lit cs r) := Iff.rfl
    rw [hcons, ih, beq_eq_false_iff_ne, List.mem_cons, not_or, and_assoc]

theorem avoids_times {c : Char} (havoids : Avoids c r) (n : ℕ) : Avoids c (times r n) := by
  induction n with
  | zero => trivial
  | succ n ih => exact ⟨havoids, ih⟩

/-- Every match has a character with the property. -/
def Needs (q : Char → Prop) : Expr → Prop
  | .eps => False
  | .cls p => ∀ c, p c = true → q c
  | .run p min => 0 < min ∧ ∀ c, p c = true → q c
  | .seq r s => Needs q r ∨ Needs q s
  | .alt r s => Needs q r ∧ Needs q s
  | .boundary => False

theorem Needs.imp {q q' : Char → Prop} (hq : ∀ c, q c → q' c) (hneeds : Needs q r) :
    Needs q' r := by
  induction r with
  | cls p => exact fun c hc => hq c (hneeds c hc)
  | run p min => exact ⟨hneeds.1, fun c hc => hq c (hneeds.2 c hc)⟩
  | seq r s ihr ihs => exact Or.imp ihr ihs hneeds
  | alt r s ihr ihs => exact ⟨ihr hneeds.1, ihs hneeds.2⟩
  | eps | boundary => exact hneeds

theorem exists_of_needs {q : Char → Prop} (hneeds : Needs q r) (h : Matches isWord r prev w next) :
    ∃ c ∈ w, q c := by
  induction r generalizing prev w next with
  | eps => exact absurd hneeds id
  | cls p =>
    obtain ⟨c, rfl, hc⟩ := h
    exact ⟨c, List.mem_singleton_self c, hneeds c hc⟩
  | run p min =>
    obtain ⟨hlen, hall⟩ := h
    cases w with
    | nil =>
      have hpos := hneeds.1
      rw [List.length_nil] at hlen
      omega
    | cons c w => exact ⟨c, List.mem_cons_self, hneeds.2 c (hall c List.mem_cons_self)⟩
  | seq r s ihr ihs =>
    obtain ⟨u, v, rfl, hu, hv⟩ := h
    rcases hneeds with hneeds | hneeds
    · obtain ⟨c, hc, hq⟩ := ihr hneeds hu
      exact ⟨c, List.mem_append_left _ hc, hq⟩
    · obtain ⟨c, hc, hq⟩ := ihs hneeds hv
      exact ⟨c, List.mem_append_right _ hc, hq⟩
  | alt r s ihr ihs =>
    rcases h with h | h
    · exact ihr hneeds.1 h
    · exact ihs hneeds.2 h
  | boundary => exact absurd hneeds id

/-- The expression ends with a word boundary. -/
def EndsAtBoundary : Expr → Prop
  | .seq _ s => EndsAtBoundary s
  | .boundary => True
  | _ => False

theorem boundary_of_endsAtBoundary (hends : EndsAtBoundary r) (h : Matches isWord r prev w next) :
    Boundary isWord (before prev w) next := by
  induction r generalizing prev w next with
  | seq r s _ ihs =>
    obtain ⟨u, v, rfl, -, hv⟩ := h
    rw [before_append]
    exact ihs hends hv
  | boundary =>
    obtain ⟨rfl, hb⟩ := h
    exact hb
  | eps | cls p | run p min | alt r s _ _ => exact absurd hends id

theorem endsAtBoundary_lit {cs : List Char} (hends : EndsAtBoundary r) :
    EndsAtBoundary (lit cs r) := by
  induction cs with
  | nil => exact hends
  | cons c cs ih => exact ih

/-- After a word character the expression goes on with none. -/
def StartsApart (isWord : Char → Bool) : Expr → Prop
  | .cls p => ∀ c, p c = true → isWord c = false
  | .seq r _ => r = .boundary ∨ StartsApart isWord r
  | .alt r s => StartsApart isWord r ∧ StartsApart isWord s
  | _ => False

theorem wordAt_of_startsApart (hstarts : StartsApart isWord r) (h : Matches isWord r prev w next)
    (hprev : wordAt isWord prev = true) : wordAt isWord (after w next) = false := by
  induction r generalizing prev w next with
  | cls p =>
    obtain ⟨c, rfl, hc⟩ := h
    exact hstarts c hc
  | seq r s ihr _ =>
    obtain ⟨u, v, rfl, hu, -⟩ := h
    rw [after_append]
    rcases hstarts with rfl | hstarts
    · obtain ⟨rfl, hb⟩ := hu
      unfold Boundary at hb
      rw [hprev] at hb
      exact Bool.eq_false_iff.2 (Ne.symm hb)
    · exact ihr hstarts hu hprev
  | alt r s ihr ihs =>
    rcases h with h | h
    · exact ihr hstarts.1 h hprev
    · exact ihs hstarts.2 h hprev
  | eps | run p min | boundary => exact absurd hstarts id

/-- A match of the literal characters and an expression begins with them. -/
theorem exists_of_matches_lit {cs : List Char} (h : Matches isWord (lit cs r) prev w next) :
    ∃ v, w = cs ++ v := by
  induction cs generalizing prev w next with
  | nil => exact ⟨w, rfl⟩
  | cons c cs ih =>
    obtain ⟨u, v, rfl, ⟨d, rfl, hd⟩, hv⟩ := h
    obtain ⟨x, rfl⟩ := ih hv
    exact ⟨x, by rw [beq_iff_eq.1 hd]; rfl⟩

end Regex
