import ModelMeld.Lib.RegexLocal

/-!
# Search and replace

What `sub` does to a text, as a relation between the texts: characters kept where
nothing matches, and matches replaced. The replacement is closed off by two
characters no expression has, so that it neither lets a new match in nor joins
the parts on its sides.

* `replaced_sub`: the relation holds of `sub`;
* `Replaced.mirrors`: the result is the text up to a replacement;
* `noMatch_of_replaced`: an expression that does not match in the kept parts does
  not match in the result;
* `sub_eq_self`: where nothing matches the text stays;
* `Replaced.count_le`: a match leaves its mark.
-/

namespace Regex

open Regex.Expr

variable (isWord : Char → Bool)

/-- The expression matches nowhere in a text that follows a character. -/
def NoMatch (r : Expr) (prev : Option Char) (text : List Char) : Prop :=
  ∀ u w v, text = u ++ w ++ v → ¬ Matches isWord r (before prev u) w v.head?

/-- The matches of the expression are not empty, end at a word boundary and do not go on with a
word. -/
structure Separated (r : Expr) : Prop where
  ne_nil : ∀ {prev w next}, Matches isWord r prev w next → w ≠ []
  ends : ∀ {prev w next}, Matches isWord r prev w next → Boundary isWord (before prev w) next
  starts : ∀ {prev w next}, Matches isWord r prev w next → wordAt isWord prev = true →
    wordAt isWord (after w next) = false

/-- A text with matches replaced; where a character is kept nothing matches. -/
inductive Replaced (r : Expr) (new : List Char) : Option Char → List Char → List Char → Prop
  | nil (prev : Option Char) : Replaced r new prev [] []
  | keep {prev : Option Char} {c : Char} {text text' : List Char}
    (hno : ∀ w v, c :: text = w ++ v → ¬ Matches isWord r prev w v.head?)
    (h : Replaced r new (some c) text text') : Replaced r new prev (c :: text) (c :: text')
  | swap {prev : Option Char} {w text text' : List Char}
    (hmatch : Matches isWord r prev w text.head?)
    (h : Replaced r new (before prev w) text text') :
    Replaced r new prev (w ++ text) (new ++ text')

variable {isWord} {p q r : Expr} {prev prev' : Option Char} {new text text' w : List Char}

theorem Separated.of_shape (hneeds : Needs (fun _ => True) r) (hends : EndsAtBoundary r)
    (hstarts : StartsApart isWord r) : Separated isWord r where
  ne_nil h hnil := by
    obtain ⟨c, hc, -⟩ := exists_of_needs hneeds h
    rw [hnil] at hc
    exact absurd hc List.not_mem_nil
  ends h := boundary_of_endsAtBoundary hends h
  starts h hprev := wordAt_of_startsApart hstarts h hprev

/-! ## What `sub` does -/

theorem subFrom_skip (n : ℕ) : subFrom isWord r new n prev text =
    subFrom isWord r new 0 (before prev (text.take n)) (text.drop n) := by
  induction text generalizing n prev with
  | nil =>
    cases n with
    | zero => rfl
    | succ n => simp [subFrom]
  | cons c cs ih =>
    cases n with
    | zero => rfl
    | succ n =>
      rw [subFrom, ih, List.take_succ_cons, List.drop_succ_cons, before_cons]

/-- What the matcher takes at a position matches there. -/
theorem matches_of_matchLen {n : ℕ} (h : matchLen isWord r prev text = n + 1) :
    n + 1 ≤ text.length ∧
      Matches isWord r prev (text.take (n + 1)) (text.drop (n + 1)).head? := by
  unfold matchLen at h
  cases hlens : lens isWord r prev text with
  | nil =>
    rw [hlens] at h
    exact absurd h (by simp)
  | cons m ms =>
    rw [hlens] at h
    have hm : m = n + 1 := h
    have hmem : n + 1 ∈ lens isWord r prev text := by
      rw [hlens, hm]
      exact List.mem_cons_self
    exact mem_lens_iff.1 hmem

/-- Where the matcher takes nothing, it finds nothing. -/
theorem lens_of_matchLen (hne : ∀ {prev w next}, Matches isWord r prev w next → w ≠ [])
    (h : matchLen isWord r prev text = 0) : lens isWord r prev text = [] := by
  unfold matchLen at h
  cases hlens : lens isWord r prev text with
  | nil => rfl
  | cons m ms =>
    -- the first length found is that of an empty match
    rw [hlens] at h
    have hm : m = 0 := h
    have hzero : 0 ∈ lens isWord r prev text := by
      rw [hlens, hm]
      exact List.mem_cons_self
    have hempty := (mem_lens_iff.1 hzero).2
    rw [List.take_zero] at hempty
    exact absurd rfl (hne hempty)

/-- The matcher finds nothing where nothing matches. -/
theorem lens_eq_nil_iff : lens isWord r prev text = [] ↔
    ∀ w v, text = w ++ v → ¬ Matches isWord r prev w v.head? := by
  rw [List.eq_nil_iff_forall_not_mem]
  constructor
  · intro hnone w v htext hmatch
    refine hnone w.length (mem_lens_iff.2 ?_)
    rw [htext, List.take_left, List.drop_left]
    exact ⟨by simp, hmatch⟩
  · intro hno n hn
    obtain ⟨-, hmatch⟩ := mem_lens_iff.1 hn
    exact hno _ _ (List.take_append_drop n text).symm hmatch

theorem replaced_subFrom (hne : ∀ {prev w next}, Matches isWord r prev w next → w ≠ [])
    (new : List Char) (prev : Option Char) (text : List Char) :
    Replaced isWord r new prev text (subFrom isWord r new 0 prev text) := by
  induction hlen : text.length using Nat.strongRecOn generalizing prev text with
  | ind len ih =>
    subst hlen
    cases text with
    | nil => exact Replaced.nil prev
    | cons c cs =>
      rw [subFrom]
      split
      · rename_i hzero
        have hnone := lens_of_matchLen hne hzero
        refine Replaced.keep (lens_eq_nil_iff.1 hnone) ?_
        exact ih cs.length (by rw [List.length_cons]; omega) (some c) cs rfl
      · rename_i n hn
        obtain ⟨hlen, hmatch⟩ := matches_of_matchLen hn
        rw [subFrom_skip]
        have hrest := ih (cs.drop n).length (by rw [List.length_drop, List.length_cons]; omega)
          (before (some c) (cs.take n)) (cs.drop n) rfl
        rw [← before_cons prev] at hrest
        have hswap := Replaced.swap hmatch hrest
        rw [List.take_succ_cons, List.drop_succ_cons, List.cons_append,
          List.take_append_drop, before_cons] at hswap
        exact hswap

/-- **`sub` replaces.** -/
theorem replaced_sub (hne : ∀ {prev w next}, Matches isWord r prev w next → w ≠ [])
    (new text : List Char) : Replaced isWord r new none text (sub isWord r new text) :=
  replaced_subFrom hne new none text

/-! ## What `sub` leaves -/

theorem NoMatch.tail {c : Char} (h : NoMatch isWord r prev (c :: text)) :
    NoMatch isWord r (some c) text := by
  intro u w v htext hmatch
  refine h (c :: u) w v (by rw [htext]; rfl) ?_
  rw [before_cons]
  exact hmatch

theorem NoMatch.drop (h : NoMatch isWord r prev (w ++ text)) :
    NoMatch isWord r (before prev w) text := by
  intro u x v htext hmatch
  refine h (w ++ u) x v (by rw [htext]; simp) ?_
  rw [before_append]
  exact hmatch

theorem NoMatch.cons {c : Char}
    (hno : ∀ w v, c :: text = w ++ v → ¬ Matches isWord r prev w v.head?)
    (h : NoMatch isWord r (some c) text) : NoMatch isWord r prev (c :: text) := by
  intro u w v htext hmatch
  cases u with
  | nil => exact hno w v htext hmatch
  | cons d u =>
    rw [List.cons_append, List.cons_append, List.cons.injEq] at htext
    obtain ⟨rfl, htail⟩ := htext
    rw [before_cons] at hmatch
    exact h u w v htail hmatch

theorem noMatch_iff : NoMatch isWord r prev text ↔
    ∀ u v, text = u ++ v → lens isWord r (before prev u) v = [] := by
  constructor
  · intro h u v htext
    refine lens_eq_nil_iff.2 (fun w x hv => h u w x ?_)
    rw [htext, hv, List.append_assoc]
  · intro h u w v htext
    rw [List.append_assoc] at htext
    exact lens_eq_nil_iff.1 (h u (w ++ v) htext) w v rfl

/-- Where a mark stands for a match, a boundary before the mark was one before the match. -/
theorem Separated.edge (hsep : Separated isWord q) {next : Option Char}
    (hmatch : Matches isWord q prev w next) {mark : Char} (hmark : isWord mark = false)
    (haligned : prev' = prev ∨ Boundary isWord prev (after w next))
    (hb : Boundary isWord prev' (some mark)) : Boundary isWord prev (after w next) := by
  rcases haligned with rfl | hb0
  · have hword : wordAt isWord prev' = true := by
      unfold Boundary at hb
      rw [show wordAt isWord (some mark) = false from hmark] at hb
      exact Bool.ne_false_iff.1 hb
    have hstart := hsep.starts hmatch hword
    unfold Boundary
    rw [hword]
    exact fun heq => absurd (heq.trans hstart) (by decide)
  · exact hb0

/-- **A text with matches replaced mirrors the text**, up to the character that opens a
replacement. -/
theorem Replaced.mirrors (hrep : Replaced isWord q new prev text text')
    (hsep : Separated isWord q) {opening : Char} (hopening : new.head? = some opening)
    (hopenWord : isWord opening = false)
    (haligned : prev' = prev ∨ Boundary isWord prev text.head?) :
    Mirrors isWord opening prev text prev' text' := by
  induction hrep generalizing prev' with
  | nil prev => exact Mirrors.stop (boundary_of_aligned haligned) (Or.inl rfl)
  | keep hno h ih => exact Mirrors.step (boundary_of_aligned haligned) (ih (Or.inl rfl))
  | @swap prev x text text' hmatch h ih =>
    have hhead : (new ++ text').head? = some opening := by
      rw [List.head?_append, hopening]
      rfl
    refine Mirrors.stop (fun hb => ?_) (Or.inr hhead)
    rw [hhead] at hb
    rw [List.head?_append] at haligned ⊢
    exact hsep.edge hmatch hopenWord haligned hb

/-- Nothing is found from inside a replacement on that ends with a character no match has. -/
theorem lens_inside {closing : Char} (havoid : Avoids closing r)
    (hclosing : new.getLast? = some closing)
    (hnew : ∀ w, w <:+: new → ∀ x y, ¬ Matches isWord r x w y) {a b : List Char}
    (hab : new = a ++ b) (hb : b ≠ []) (prev : Option Char) (rest : List Char) :
    lens isWord r prev (b ++ rest) = [] := by
  rw [List.eq_nil_iff_forall_not_mem]
  intro n hn
  obtain ⟨-, hmatch⟩ := mem_lens_iff.1 hn
  rcases Nat.lt_or_ge b.length n with hlt | hle
  · -- the match would have the closing character
    refine not_mem_of_avoids havoid hmatch ?_
    rw [hab, List.getLast?_append_of_ne_nil _ hb] at hclosing
    rw [List.take_append]
    refine List.mem_append_left _ ?_
    rw [List.take_of_length_le (by omega)]
    exact List.mem_of_getLast? hclosing
  · rw [List.take_append_of_le_length hle] at hmatch
    refine hnew _ ?_ _ _ hmatch
    rw [hab]
    exact (List.take_prefix n b).isInfix.trans (List.suffix_append a b).isInfix

/-- **Replacing lets no match in**: what matches neither in the replacement nor where a character
is kept matches nowhere in the result. -/
theorem noMatch_of_replaced (hrep : Replaced isWord q new prev text text')
    (hsepq : Separated isWord q) (hsepp : Separated isWord p) {opening closing : Char}
    (hopening : new.head? = some opening) (hclosing : new.getLast? = some closing)
    (hopenWord : isWord opening = false) (havoidOpen : Avoids opening p)
    (havoidClose : Avoids closing p)
    (hnew : ∀ w, w <:+: new → ∀ x y, ¬ Matches isWord p x w y)
    (hfree : p = q ∨ NoMatch isWord p prev text)
    (haligned : prev' = prev ∨ Boundary isWord prev text.head?) :
    NoMatch isWord p prev' text' := by
  induction hrep generalizing prev' with
  | nil prev =>
    intro u w v htext hmatch
    obtain ⟨huw, -⟩ := List.append_eq_nil_iff.1 htext.symm
    exact hsepp.ne_nil hmatch (List.append_eq_nil_iff.1 huw).2
  | @keep prev c text text' hno h ih =>
    have hmirrors := (Replaced.keep hno h).mirrors hsepq hopening hopenWord haligned
    have hnone : lens isWord p prev (c :: text) = [] := by
      rcases hfree with rfl | hfree
      · exact lens_eq_nil_iff.2 hno
      · exact noMatch_iff.1 hfree [] _ rfl
    have hhere : lens isWord p prev' (c :: text') = [] := by
      have hsub := hmirrors.lens_sublist havoidOpen
      rw [hnone] at hsub
      exact List.eq_nil_of_sublist_nil hsub
    exact NoMatch.cons (lens_eq_nil_iff.1 hhere) (ih (hfree.imp_right NoMatch.tail) (Or.inl rfl))
  | @swap prev x text text' hmatchx h ih =>
    have hafter : NoMatch isWord p (some closing) text' :=
      ih (hfree.imp_right NoMatch.drop) (Or.inr (hsepq.ends hmatchx))
    have hlast : before prev' new = some closing := by
      unfold before
      rw [hclosing]
      rfl
    refine noMatch_iff.2 (fun u v htext => ?_)
    rcases List.append_eq_append_iff.1 htext with ⟨b, rfl, htail⟩ | ⟨a, hsplit, htail⟩
    · rw [before_append, hlast]
      exact noMatch_iff.1 hafter b v htail
    · by_cases ha : a = []
      · rw [ha, List.append_nil] at hsplit
        rw [ha, List.nil_append] at htail
        rw [← hsplit, hlast]
        exact noMatch_iff.1 hafter [] v htail.symm
      · -- the match would begin inside the replacement
        rw [htail]
        exact lens_inside havoidClose hclosing hnew hsplit ha _ _

/-- Where nothing matches the text stays. -/
theorem Replaced.eq_self (hrep : Replaced isWord r new prev text text')
    (hfree : NoMatch isWord r prev text) : text' = text := by
  induction hrep with
  | nil prev => rfl
  | keep hno h ih => rw [ih hfree.tail]
  | swap hmatch h ih => exact absurd hmatch (hfree [] _ _ rfl)

/-- A replacement with a character no match has leaves more of it, or there was no match. -/
theorem Replaced.count_le (hrep : Replaced isWord r new prev text text')
    (hne : ∀ {prev w next}, Matches isWord r prev w next → w ≠ []) {mark : Char}
    (havoid : Avoids mark r) (hnew : mark ∈ new) :
    text.count mark ≤ text'.count mark ∧
      (text'.count mark ≤ text.count mark → NoMatch isWord r prev text) := by
  induction hrep with
  | nil prev =>
    refine ⟨Nat.le_refl _, fun _ u w v htext hmatch => hne hmatch ?_⟩
    exact (List.append_eq_nil_iff.1 (List.append_eq_nil_iff.1 htext.symm).1).2
  | @keep prev c text text' hno h ih =>
    obtain ⟨hle, hfree⟩ := ih
    rw [List.count_cons, List.count_cons]
    refine ⟨by omega, fun hge => NoMatch.cons hno (hfree (by omega))⟩
  | @swap prev w text text' hmatch h ih =>
    have hzero : w.count mark = 0 := List.count_eq_zero.2 (not_mem_of_avoids havoid hmatch)
    have hpos : 0 < new.count mark := List.count_pos_iff.2 hnew
    rw [List.count_append, List.count_append]
    obtain ⟨hle, -⟩ := ih
    refine ⟨by omega, fun hge => ?_⟩
    omega

theorem sub_eq_self (new : List Char)
    (hne : ∀ {prev w next}, Matches isWord r prev w next → w ≠ [])
    (hfree : NoMatch isWord r none text) : sub isWord r new text = text :=
  (replaced_sub hne new text).eq_self hfree

end Regex
