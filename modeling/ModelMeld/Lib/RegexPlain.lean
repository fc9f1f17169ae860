import ModelMeld.Lib.RegexSub

/-!
# Expressions without boundaries

An expression without word boundaries matches or not whatever stands around it, so
whether it matches in a text is a matter of the parts of the text alone.

* `clear_iff_noMatch`: no part of a text matches iff nothing is found in it;
* `clear_of_part`, `clear_append`: parts of a clear text are clear, and so are clear texts
  put together with a character between that no match has;
* `clear_of_replaced`: replacing the matches of one expression lets no match of another in,
  and leaves none of its own.
-/

namespace Regex

open Regex.Expr

/-- The expression has no word boundary. -/
def Unanchored : Expr → Prop
  | .eps | .cls _ | .run _ _ => True
  | .seq r s | .alt r s => Unanchored r ∧ Unanchored s
  | .boundary => False

variable {isWord : Char → Bool} {p r : Expr} {prev next : Option Char}
  {new text text' w : List Char}

theorem unanchored_lit {cs : List Char} (h : Unanchored r) : Unanchored (lit cs r) := by
  induction cs with
  | nil => exact h
  | cons c cs ih => exact ⟨trivial, ih⟩

theorem unanchored_times (h : Unanchored r) (n : ℕ) : Unanchored (times r n) := by
  induction n with
  | zero => trivial
  | succ n ih => exact ⟨h, ih⟩

/-- What matches somewhere matches anywhere. -/
theorem Unanchored.matches (hplain : Unanchored r) (h : Matches isWord r prev w next)
    (prev' next' : Option Char) : Matches isWord r prev' w next' := by
  induction r generalizing prev w next prev' next' with
  | eps => exact h
  | cls q => exact h
  | run q min => exact h
  | seq r s ihr ihs =>
    obtain ⟨u, v, rfl, hu, hv⟩ := h
    exact ⟨u, v, rfl, ihr hplain.1 hu _ _, ihs hplain.2 hv _ _⟩
  | alt r s ihr ihs => exact h.imp (fun h => ihr hplain.1 h _ _) (fun h => ihs hplain.2 h _ _)
  | boundary => exact absurd hplain id

variable (isWord) in
/-- No part of the text matches. -/
def Clear (r : Expr) (text : List Char) : Prop :=
  ∀ w, w <:+: text → ¬ Matches isWord r none w none

theorem clear_iff_noMatch (hplain : Unanchored r) :
    Clear isWord r text ↔ NoMatch isWord r prev text := by
  constructor
  · intro hclear u w v htext hmatch
    exact hclear w ⟨u, v, htext.symm⟩ (hplain.matches hmatch none none)
  · rintro hno w ⟨u, v, rfl⟩ hmatch
    exact hno u w v rfl (hplain.matches hmatch _ _)

theorem clear_of_part (h : Clear isWord r text) (hpart : text' <:+: text) :
    Clear isWord r text' :=
  fun w hw => h w (hw.trans hpart)

/-- A part without a character is on one side of it. -/
theorem infix_of_not_mem {c : Char} {a b : List Char} (hw : w <:+: a ++ c :: b) (hc : c ∉ w) :
    w <:+: a ∨ w <:+: b := by
  obtain ⟨u, v, heq⟩ := hw
  rw [List.append_assoc] at heq
  rcases List.append_eq_append_iff.1 heq with ⟨x, rfl, hright⟩ | ⟨x, rfl, hright⟩
  · -- `w` begins before the character
    rcases List.append_eq_append_iff.1 hright with ⟨y, rfl, -⟩ | ⟨y, rfl, htail⟩
    · exact .inl ⟨u, y, by simp⟩
    · cases y with
      | nil => exact .inl ⟨u, [], by simp⟩
      | cons d y =>
        obtain ⟨rfl, -⟩ := List.cons.inj htail
        exact absurd (List.mem_append_right _ List.mem_cons_self) hc
  · cases x with
    | nil =>
      rw [List.nil_append] at hright
      cases w with
      | nil => exact .inl (List.nil_infix)
      | cons d w =>
        obtain ⟨rfl, -⟩ := List.cons.inj hright
        exact absurd List.mem_cons_self hc
    | cons d x =>
      obtain ⟨rfl, hrest⟩ := List.cons.inj hright
      exact .inr ⟨x, v, (List.append_assoc x w v).trans hrest.symm⟩

/-- Clear texts with a character between that no match has. -/
theorem clear_append {c : Char} {a b : List Char} (havoid : Avoids c r)
    (ha : Clear isWord r a) (hb : Clear isWord r b) : Clear isWord r (a ++ c :: b) := by
  intro w hw hmatch
  rcases infix_of_not_mem hw (not_mem_of_avoids havoid hmatch) with hleft | hright
  · exact ha w hleft hmatch
  · exact hb w hright hmatch

/-- What comes before the first replacement comes from the text. -/
theorem Replaced.prefix_of_not_mem (hrep : Replaced isWord r new prev text text')
    {opening : Char} (hopening : new.head? = some opening) (hw : w <+: text')
    (hmem : opening ∉ w) : w <+: text := by
  induction hrep generalizing w with
  | nil prev => exact hw
  | keep hno h ih =>
    cases w with
    | nil => exact List.nil_prefix
    | cons d w =>
      obtain ⟨rfl, hrest⟩ := List.cons_prefix_cons.1 hw
      have htail := ih hrest (fun hin => hmem (List.mem_cons_of_mem _ hin))
      exact List.cons_prefix_cons.2 ⟨rfl, htail⟩
  | swap hmatch h ih =>
    cases w with
    | nil => exact List.nil_prefix
    | cons d w =>
      obtain ⟨first, rfl⟩ := List.head?_eq_some_iff.1 hopening
      obtain ⟨rfl, -⟩ := List.cons_prefix_cons.1 hw
      exact absurd List.mem_cons_self hmem

/-- **Replacing lets no match in**, nor leaves one of its own. -/
theorem clear_of_replaced (hrep : Replaced isWord r new prev text text')
    (hr : Unanchored r) (hneeds : Needs (fun _ => True) p) {opening closing : Char}
    (hopening : new.head? = some opening) (hclosing : new.getLast? = some closing)
    (havoidOpen : Avoids opening p) (havoidClose : Avoids closing p)
    (hnew : Clear isWord p new) (hfree : p = r ∨ Clear isWord p text) :
    Clear isWord p text' := by
  induction hrep with
  | nil prev =>
    intro w hw hmatch
    obtain ⟨c, hc, -⟩ := exists_of_needs hneeds hmatch
    exact absurd (hw.subset hc) List.not_mem_nil
  | @keep prev c text text' hno h ih =>
    have hrest : Clear isWord p text' :=
      ih (hfree.imp_right (fun hclear => clear_of_part hclear (List.suffix_cons c text).isInfix))
    intro w hw hmatch
    rcases List.infix_cons_iff.1 hw with hbegins | hinside
    · -- the match would be one in the text, where the character was kept
      have hsame := (Replaced.keep hno h).prefix_of_not_mem hopening hbegins
        (not_mem_of_avoids havoidOpen hmatch)
      rcases hfree with rfl | hclear
      · obtain ⟨v, hv⟩ := hsame
        exact hno w v hv.symm (hr.matches hmatch _ _)
      · exact hclear w hsame.isInfix hmatch
    · exact hrest w hinside hmatch
  | @swap prev x text text' hmatch h ih =>
    have hrest : Clear isWord p text' :=
      ih (hfree.imp_right (fun hclear => clear_of_part hclear (List.suffix_append x text).isInfix))
    obtain ⟨front, rfl⟩ := List.getLast?_eq_some_iff.1 hclosing
    rw [List.append_assoc, List.singleton_append]
    exact clear_append havoidClose
      (clear_of_part hnew (List.prefix_append front [closing]).isInfix) hrest

end Regex
