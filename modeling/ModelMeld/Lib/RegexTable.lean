import ModelMeld.Lib.RegexSub

/-!
# A table of expressions over one text

The expressions of a table replace their matches one after the other, so a later
one sees what the earlier ones left: pieces of the text, with replacements between
them. A replacement is closed off by two marks that no expression has, so a scan
reads each piece by itself (`Parted.scan`), and what a rule replaces are the
matches in the pieces (`count_replaceAll`).
-/

namespace Regex

open Regex.Expr

/-- An expression, and what is put in the place of its matches. -/
structure Rule where
  expr : Expr
  new : List Char

variable (isWord : Char → Bool)

/-- A table whose replacements are closed off by two marks that no expression has. -/
structure Lawful (opening closing : Char) (table : List Rule) : Prop where
  opens : ∀ rule ∈ table, Avoids opening rule.expr
  closes : ∀ rule ∈ table, Avoids closing rule.expr
  head : ∀ rule ∈ table, rule.new.head? = some opening
  last : ∀ rule ∈ table, rule.new.getLast? = some closing
  openWord : isWord opening = false
  closeWord : isWord closing = false
  labels : ∀ p ∈ table, ∀ q ∈ table, ∀ w, w <:+: q.new → ∀ x y, ¬ Matches isWord p.expr x w y

/-- The text after the rules of a table, applied in order. -/
def replaceAll (table : List Rule) (text : List Char) : List Char :=
  table.foldl (fun text rule => sub isWord rule.expr rule.new text) text

/-! ## Matches and what they leave -/

/-- The positions and lengths of the matches a scan finds, from a position of the text on. -/
def spansFrom (r : Expr) : ℕ → Option Char → ℕ → List Char → List (ℕ × ℕ)
  | _, _, _, [] => []
  | skip + 1, _, i, c :: cs => spansFrom r skip (some c) (i + 1) cs
  | 0, prev, i, c :: cs =>
    match matchLen isWord r prev (c :: cs) with
    | 0 => spansFrom r 0 (some c) (i + 1) cs
    | n + 1 => (i, n + 1) :: spansFrom r n (some c) (i + 1) cs

/-- The matches `findall` finds in a piece of a text, by their positions in the text. -/
def spans (r : Expr) (piece : ℕ × List Char) : List (ℕ × ℕ) :=
  spansFrom isWord r 0 none piece.1 piece.2

/-- What matches leave of a text that begins at a position: the pieces around them. -/
def between (i : ℕ) (text : List Char) : List (ℕ × ℕ) → List (ℕ × List Char)
  | [] => [(i, text)]
  | (s, n) :: found =>
    (i, text.take (s - i)) :: between (s + n) (text.drop (s - i + n)) found

/-- What the matches of an expression leave of a piece. -/
def leave (r : Expr) (piece : ℕ × List Char) : List (ℕ × List Char) :=
  between piece.1 piece.2 (spans isWord r piece)

/-- The pieces of a piece that expressions leave, one after the other. -/
def pieces (rs : List Expr) (piece : ℕ × List Char) : List (ℕ × List Char) :=
  rs.foldl (fun parts r => parts.flatMap (leave isWord r)) [piece]

variable {isWord} {table : List Rule} {opening closing sep : Char} {prev prev' : Option Char}
  {text rest w new : List Char} {r : Expr} {rule : Rule}

/-! ## One scan -/

theorem countFrom_skip (n : ℕ) (text : List Char) : countFrom isWord r n prev text =
    countFrom isWord r 0 (before prev (text.take n)) (text.drop n) := by
  induction text generalizing n prev with
  | nil =>
    cases n with
    | zero => rfl
    | succ n => simp [countFrom]
  | cons c cs ih =>
    cases n with
    | zero => rfl
    | succ n => rw [countFrom, ih, List.take_succ_cons, List.drop_succ_cons, before_cons]

theorem spansFrom_skip (n i : ℕ) (hn : n ≤ text.length) : spansFrom isWord r n prev i text =
    spansFrom isWord r 0 (before prev (text.take n)) (i + n) (text.drop n) := by
  induction text generalizing n prev i with
  | nil =>
    obtain rfl : n = 0 := by simpa using hn
    rfl
  | cons c cs ih =>
    cases n with
    | zero => rfl
    | succ n =>
      rw [List.length_cons, Nat.add_le_add_iff_right] at hn
      rw [spansFrom, ih n (i + 1) hn, List.take_succ_cons, List.drop_succ_cons, before_cons,
        Nat.add_right_comm, Nat.add_assoc]

theorem countFrom_eq_length (skip : ℕ) (prev : Option Char) (i : ℕ) (text : List Char) :
    countFrom isWord r skip prev text = (spansFrom isWord r skip prev i text).length := by
  induction text generalizing skip prev i with
  | nil =>
    cases skip with
    | zero => rfl
    | succ skip => rfl
  | cons c cs ih =>
    cases skip with
    | succ skip =>
      rw [countFrom, spansFrom]
      exact ih skip (some c) (i + 1)
    | zero =>
      rw [countFrom, spansFrom]
      cases matchLen isWord r prev (c :: cs) with
      | zero => exact ih 0 (some c) (i + 1)
      | succ n =>
        have hrest := ih n (some c) (i + 1)
        change 1 + countFrom isWord r n (some c) cs = _
        rw [hrest, List.length_cons, Nat.add_comm]

theorem count_eq_length (r : Expr) (i : ℕ) (text : List Char) :
    count isWord r text = (spans isWord r (i, text)).length :=
  countFrom_eq_length 0 none i text

theorem le_of_mem_spansFrom {skip i : ℕ} {s : ℕ × ℕ}
    (h : s ∈ spansFrom isWord r skip prev i text) : i ≤ s.1 := by
  induction text generalizing skip prev i with
  | nil => cases skip <;> exact absurd h List.not_mem_nil
  | cons c cs ih =>
    cases skip with
    | succ skip =>
      rw [spansFrom] at h
      have hle := ih h
      omega
    | zero =>
      rw [spansFrom] at h
      split at h
      · have hle := ih h
        omega
      · rcases List.mem_cons.1 h with rfl | h
        · exact Nat.le_refl i
        · have hle := ih h
          omega

/-- A text in which nothing is counted stays. -/
theorem sub_eq_self_of_count (h : count isWord r text = 0) : sub isWord r new text = text := by
  have hfrom : ∀ (text : List Char) (prev : Option Char), countFrom isWord r 0 prev text = 0 →
      subFrom isWord r new 0 prev text = text := by
    intro text
    induction text with
    | nil => exact fun _ _ => rfl
    | cons c cs ih =>
      intro prev hzero
      rw [countFrom] at hzero
      rw [subFrom]
      split at hzero
      · exact congrArg (c :: ·) (ih (some c) hzero)
      · omega
  exact hfrom text none h

theorem matchLen_congr_prev (hword : wordAt isWord prev = wordAt isWord prev')
    (text : List Char) : matchLen isWord r prev text = matchLen isWord r prev' text := by
  unfold matchLen
  rw [lens_congr_prev hword]

/-- A scan depends on what stands before as far as it is a word character. -/
theorem scan_congr_prev (new : List Char) (hword : wordAt isWord prev = wordAt isWord prev')
    (text : List Char) :
    countFrom isWord r 0 prev text = countFrom isWord r 0 prev' text ∧
      subFrom isWord r new 0 prev text = subFrom isWord r new 0 prev' text := by
  cases text with
  | nil => exact ⟨rfl, rfl⟩
  | cons c cs =>
    rw [countFrom, countFrom, subFrom, subFrom, matchLen_congr_prev hword]
    exact ⟨rfl, rfl⟩

/-- A part in which nothing is found is passed over. -/
theorem scan_free (new : List Char) (hfree : ∀ a b, w = a ++ b → b ≠ [] →
      lens isWord r (before prev a) (b ++ rest) = []) :
    countFrom isWord r 0 prev (w ++ rest) = countFrom isWord r 0 (before prev w) rest ∧
      subFrom isWord r new 0 prev (w ++ rest) =
        w ++ subFrom isWord r new 0 (before prev w) rest := by
  induction w generalizing prev with
  | nil => exact ⟨rfl, rfl⟩
  | cons c w ih =>
    have hzero : matchLen isWord r prev (c :: (w ++ rest)) = 0 := by
      have hnone := hfree [] (c :: w) rfl (List.cons_ne_nil c w)
      unfold matchLen
      rw [before_nil, List.cons_append] at hnone
      rw [hnone]
      rfl
    have hrest := @ih (some c) (fun a b hab hb => by
      have hnone := hfree (c :: a) b (by rw [hab]; rfl) hb
      rwa [before_cons] at hnone)
    rw [List.cons_append, countFrom, subFrom, hzero, before_cons]
    exact ⟨hrest.1, congrArg (c :: ·) hrest.2⟩

/-- A match that is found is counted, replaced, and the first of the spans. -/
theorem scan_found (new : List Char) (i : ℕ) (hne : w ≠ [])
    (hfirst : matchLen isWord r prev (w ++ rest) = w.length) :
    subFrom isWord r new 0 prev (w ++ rest) =
        new ++ subFrom isWord r new 0 (before prev w) rest ∧
      spansFrom isWord r 0 prev i (w ++ rest) =
        (i, w.length) :: spansFrom isWord r 0 (before prev w) (i + w.length) rest := by
  cases w with
  | nil => exact absurd rfl hne
  | cons c w =>
    rw [List.length_cons, List.cons_append] at hfirst
    rw [List.cons_append, subFrom, spansFrom, hfirst, before_cons]
    simp only
    rw [subFrom_skip, spansFrom_skip _ _ (by simp), List.take_left, List.drop_left,
      List.length_cons]
    refine ⟨rfl, ?_⟩
    congr 2
    omega

/-! ## A scan across a mark -/

/-- Before a mark the matcher finds what it finds without it. -/
theorem lens_before_mark (havoid : Avoids sep r) (hsep : isWord sep = false) {c : Char}
    {cs b : List Char} :
    lens isWord r prev (c :: cs ++ sep :: b) = lens isWord r prev (c :: cs) := by
  have hedge : Boundary isWord (before prev (c :: cs)) (sep :: b).head? ↔
      Boundary isWord (before prev (c :: cs)) ([] : List Char).head? := by
    unfold Boundary
    rw [List.head?_cons, List.head?_nil,
      show wordAt isWord (some sep) = wordAt isWord none from hsep]
  have hlocal : (lens isWord r prev (c :: cs ++ sep :: b)).filter
        (fun n => decide (n ≤ (c :: cs).length)) =
      (lens isWord r prev (c :: cs ++ [])).filter
        (fun n => decide (n ≤ (c :: cs).length)) := lens_local Iff.rfl hedge
  rw [List.append_nil, filter_lens] at hlocal
  rw [← hlocal, List.filter_eq_self.2]
  intro n hn
  refine decide_eq_true (Nat.not_lt.1 fun hlt => ?_)
  -- a longer match would have the mark
  refine not_mem_of_avoids havoid (mem_lens_iff.1 hn).2 ?_
  rw [List.take_append]
  refine List.mem_append_right _ ?_
  obtain ⟨m, hm⟩ := Nat.exists_eq_succ_of_ne_zero (Nat.sub_ne_zero_of_lt hlt)
  rw [hm, List.take_succ_cons]
  exact List.mem_cons_self

theorem matchLen_mark (havoid : Avoids sep r) (b : List Char) :
    matchLen isWord r prev (sep :: b) = 0 := by
  by_contra hpos
  obtain ⟨n, hn⟩ := Nat.exists_eq_succ_of_ne_zero hpos
  have hmatch := (matches_of_matchLen hn).2
  rw [List.take_succ_cons] at hmatch
  exact not_mem_of_avoids havoid hmatch List.mem_cons_self

variable (prev) in
/-- **A scan reads what stands before a mark, and what stands after it, by themselves.** -/
theorem scan_mark (havoid : Avoids sep r) (hsep : isWord sep = false) (new a b : List Char) :
    countFrom isWord r 0 prev (a ++ sep :: b) =
        countFrom isWord r 0 prev a + countFrom isWord r 0 none b ∧
      subFrom isWord r new 0 prev (a ++ sep :: b) =
        subFrom isWord r new 0 prev a ++ sep :: subFrom isWord r new 0 none b := by
  induction hlen : a.length using Nat.strongRecOn generalizing prev a with
  | ind len ih =>
    subst hlen
    cases a with
    | nil =>
      -- no match begins at the mark, and after it a word may begin as at the start of a text
      have hword : wordAt isWord (some sep) = wordAt isWord none := hsep
      obtain ⟨hcount, hkeep⟩ := scan_congr_prev (r := r) new hword b
      have hzero : matchLen isWord r prev (sep :: b) = 0 := matchLen_mark havoid b
      have hscan : countFrom isWord r 0 prev (sep :: b) = countFrom isWord r 0 (some sep) b := by
        rw [countFrom, hzero]
      have hcopy : subFrom isWord r new 0 prev (sep :: b) =
          sep :: subFrom isWord r new 0 (some sep) b := by
        rw [subFrom, hzero]
      rw [List.nil_append, hscan, hcopy, hcount, hkeep]
      exact ⟨(Nat.zero_add _).symm, rfl⟩
    | cons c cs =>
      have hmatch : matchLen isWord r prev (c :: (cs ++ sep :: b)) =
          matchLen isWord r prev (c :: cs) := by
        unfold matchLen
        rw [← List.cons_append, lens_before_mark havoid hsep]
      rw [List.cons_append, countFrom, countFrom, subFrom, subFrom, hmatch]
      split
      · obtain ⟨hcount, hkeep⟩ := ih cs.length (by rw [List.length_cons]; omega) (some c) cs rfl
        exact ⟨hcount, congrArg (c :: ·) hkeep⟩
      · rename_i n hn
        have hle := (matches_of_matchLen hn).1
        rw [List.length_cons] at hle
        -- the scan goes on after the match
        obtain ⟨hcount, hkeep⟩ := ih (cs.drop n).length
          (by rw [List.length_drop, List.length_cons]; omega) (before (some c) (cs.take n))
          (cs.drop n) rfl
        rw [countFrom_skip, countFrom_skip n cs, subFrom_skip, subFrom_skip n,
          List.take_append_of_le_length (by omega), List.drop_append_of_le_length (by omega),
          hcount, hkeep, Nat.add_assoc, List.append_assoc]
        exact ⟨rfl, rfl⟩

/-- **A scan reads what stands before a replacement, and what stands after it, by themselves.** -/
theorem scan_replacement (hlaw : Lawful isWord opening closing table) {p q : Rule} (hp : p ∈ table)
    (hq : q ∈ table) (new a b : List Char) :
    count isWord p.expr (a ++ q.new ++ b) = count isWord p.expr a + count isWord p.expr b ∧
      sub isWord p.expr new (a ++ q.new ++ b) =
        sub isWord p.expr new a ++ q.new ++ sub isWord p.expr new b := by
  obtain ⟨mid, hmid⟩ : ∃ mid, q.new = opening :: mid := List.head?_eq_some_iff.1 (hlaw.head q hq)
  have hclosed : wordAt isWord (before none mid) = wordAt isWord none := by
    cases mid with
    | nil => rfl
    | cons c cs =>
      have hlast := hlaw.last q hq
      rw [hmid, List.getLast?_cons_cons] at hlast
      unfold before
      rw [hlast]
      exact hlaw.closeWord
  have hfree : ∀ x y, mid = x ++ y → y ≠ [] →
      lens isWord p.expr (before none x) (y ++ b) = [] := by
    intro x y hxy hy
    exact lens_inside (hlaw.closes p hp) (hlaw.last q hq) (hlaw.labels p hp q hq)
      (a := opening :: x) (by rw [hmid, hxy]; rfl) hy _ _
  -- the opening character is the mark, and from there to its end the replacement is passed over
  obtain ⟨hcount, hkeep⟩ := scan_mark none (hlaw.opens p hp) hlaw.openWord new a (mid ++ b)
  obtain ⟨hskip, hcopy⟩ := scan_free new hfree
  obtain ⟨hafter, hrest⟩ := scan_congr_prev (r := p.expr) new hclosed b
  rw [hmid, List.append_assoc, List.cons_append]
  unfold count sub
  rw [hcount, hkeep, hskip, hcopy, hafter, hrest]
  exact ⟨rfl, by simp⟩

/-! ## Pieces -/

/-- A text made up of pieces, with replacements of the table between them. -/
inductive Parted (table : List Rule) : List (ℕ × List Char) → List Char → Prop
  | last (i : ℕ) (g : List Char) : Parted table [(i, g)] g
  | cons (i : ℕ) (g : List Char) {parts : List (ℕ × List Char)} {text : List Char} {rule : Rule}
    (hrule : rule ∈ table) (h : Parted table parts text) :
    Parted table ((i, g) :: parts) (g ++ rule.new ++ text)

theorem Parted.append {parts parts' : List (ℕ × List Char)} (h : Parted table parts text)
    (hrule : rule ∈ table) (h' : Parted table parts' rest) :
    Parted table (parts ++ parts') (text ++ rule.new ++ rest) := by
  induction h with
  | last i g => exact Parted.cons i g hrule h'
  | cons i g hother h ih =>
    rw [List.append_assoc, List.append_assoc, ← List.append_assoc _ rule.new]
    exact Parted.cons i g hother ih

/-- A character before the first piece belongs to it. -/
theorem Parted.keep {i : ℕ} {g : List Char} {parts : List (ℕ × List Char)}
    (h : Parted table ((i + 1, g) :: parts) text) (c : Char) :
    Parted table ((i, c :: g) :: parts) (c :: text) := by
  cases h with
  | last => exact Parted.last i (c :: text)
  | cons _ _ hrule h => exact Parted.cons i (c :: g) hrule h

/-- **What a scan makes of a text is what its matches leave, with replacements in between.** -/
theorem parted_subFrom (hrule : rule ∈ table) (prev : Option Char) (i : ℕ) (text : List Char) :
    Parted table (between i text (spansFrom isWord rule.expr 0 prev i text))
      (subFrom isWord rule.expr rule.new 0 prev text) := by
  induction hlen : text.length using Nat.strongRecOn generalizing prev i text with
  | ind len ih =>
    subst hlen
    cases text with
    | nil => exact Parted.last i []
    | cons c cs =>
      cases hfound : matchLen isWord rule.expr prev (c :: cs) with
      | zero =>
        -- no match here: the character goes to the piece that begins after it
        have hrest := ih cs.length (by rw [List.length_cons]; omega) (some c) (i + 1) cs rfl
        rw [subFrom, spansFrom, hfound]
        simp only
        cases hspans : spansFrom isWord rule.expr 0 (some c) (i + 1) cs with
        | nil =>
          rw [hspans] at hrest
          exact hrest.keep c
        | cons s found =>
          have hle : i + 1 ≤ s.1 :=
            le_of_mem_spansFrom (by rw [hspans]; exact List.mem_cons_self)
          obtain ⟨m, hm⟩ : ∃ m, s.1 = i + 1 + m := ⟨s.1 - (i + 1), by omega⟩
          rw [hspans, between, hm, Nat.add_sub_cancel_left] at hrest
          have hkeep := hrest.keep c
          rw [between, hm, show i + 1 + m - i = m + 1 by omega, List.take_succ_cons,
            show m + 1 + s.2 = m + s.2 + 1 by omega, List.drop_succ_cons]
          exact hkeep
      | succ n =>
        obtain ⟨hle, -⟩ := matches_of_matchLen hfound
        obtain ⟨w, rest, htext, hwlen⟩ : ∃ w rest, c :: cs = w ++ rest ∧ w.length = n + 1 :=
          ⟨(c :: cs).take (n + 1), (c :: cs).drop (n + 1), (List.take_append_drop _ _).symm,
            by rw [List.length_take]; omega⟩
        -- a match here: the piece before it is empty
        have hne : w ≠ [] := List.ne_nil_of_length_eq_add_one hwlen
        have hshorter : rest.length < (c :: cs).length := by
          rw [htext, List.length_append]
          omega
        rw [htext] at hfound ⊢
        obtain ⟨hswap, hspans⟩ := scan_found rule.new i hne (hfound.trans hwlen.symm)
        have hrest := ih rest.length hshorter (before prev w) (i + w.length) rest rfl
        rw [hswap, hspans, between, Nat.sub_self, Nat.zero_add, List.drop_left, List.take_zero]
        exact Parted.cons i [] hrule hrest

/-- **A rule finds what it finds in the pieces, and replacing parts them further.** -/
theorem Parted.scan {parts : List (ℕ × List Char)} (h : Parted table parts text)
    (hlaw : Lawful isWord opening closing table) (hrule : rule ∈ table) :
    count isWord rule.expr text = (parts.flatMap (spans isWord rule.expr)).length ∧
      Parted table (parts.flatMap (leave isWord rule.expr))
        (sub isWord rule.expr rule.new text) := by
  induction h with
  | last i g =>
    rw [List.flatMap_singleton, List.flatMap_singleton]
    exact ⟨count_eq_length rule.expr i g, parted_subFrom hrule none i g⟩
  | cons i g hother h ih =>
    obtain ⟨hcount, hkeep⟩ := scan_replacement hlaw hrule hother rule.new g _
    rw [List.flatMap_cons, List.flatMap_cons, List.length_append, hcount, hkeep, ih.1,
      count_eq_length rule.expr i g]
    exact ⟨rfl, (parted_subFrom hrule none i g).append hother ih.2⟩

/-- **After some rules a text is made up of the pieces their expressions leave.** -/
theorem parted_replaceAll (hlaw : Lawful isWord opening closing table) {rules : List Rule}
    (hrules : rules ⊆ table) (i : ℕ) (text : List Char) :
    Parted table (pieces isWord (rules.map Rule.expr) (i, text))
      (replaceAll isWord rules text) := by
  have hfrom : ∀ (rules : List Rule) (parts : List (ℕ × List Char)) (text : List Char),
      rules ⊆ table → Parted table parts text →
        Parted table ((rules.map Rule.expr).foldl
          (fun parts r => parts.flatMap (leave isWord r)) parts) (replaceAll isWord rules text) := by
    intro rules
    induction rules with
    | nil => exact fun _ _ _ h => h
    | cons rule rules ih =>
      intro parts text hsub h
      rw [List.cons_subset] at hsub
      exact ih _ _ hsub.2 (h.scan hlaw hsub.1).2
  exact hfrom rules _ text hrules (Parted.last i text)

/-- **A rule replaces the matches in the pieces that the rules before it leave.** -/
theorem count_replaceAll (hlaw : Lawful isWord opening closing table) {rules : List Rule}
    (hrules : rules ⊆ table) (hrule : rule ∈ table) (i : ℕ) (text : List Char) :
    count isWord rule.expr (replaceAll isWord rules text) =
      ((pieces isWord (rules.map Rule.expr) (i, text)).flatMap (spans isWord rule.expr)).length :=
  ((parted_replaceAll hlaw hrules i text).scan hlaw hrule).1

end Regex
