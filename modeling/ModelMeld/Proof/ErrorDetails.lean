import ModelMeld.Spec.SafeErrorDetail
import ModelMeld.Lib.RegexPlain
import Mathlib.Data.List.Infix

/-!
# What error details say

`error_details_safe`: no key of the known shapes is left in what `redact_sensitive` returns, in the
detail a client is sent of an upstream error, or in the detail that joins two; the detail is bounded,
also where a long text is cut, and making it safe again changes nothing.
-/

namespace ModelMeld

open Regex Regex.Expr SafeErrorDetail

/-- What the keys begin with. -/
def keyBeginnings : List (List Char) :=
  ["sk-".toList, "gws_".toList, "AKIA".toList, "ghp_".toList, "github_pat_".toList]

/-- A pattern of keys: its matches begin like a key, and have no bracket, period, semicolon or blank. -/
structure Sensitive (p : Expr) : Prop where
  unanchored : Unanchored p
  needs : Needs (fun _ => True) p
  avoids : ∀ c ∈ ['[', ']', '.', ';', ' '], Avoids c p
  begins : ∃ key ∈ keyBeginnings, ∀ prev w next, Matches isWord p prev w next → key <:+: w

theorem Sensitive.ne_nil {p : Expr} (hp : Sensitive p) {prev next : Option Char} {w : List Char}
    (hmatch : Matches isWord p prev w next) : w ≠ [] := by
  intro hnil
  obtain ⟨c, hc, -⟩ := exists_of_needs hp.needs hmatch
  rw [hnil] at hc
  exact List.not_mem_nil hc

theorem Sensitive.of_lit (key more : List Char) {tail : Expr} (hkey : key ∈ keyBeginnings)
    (hchars : (key ++ more).all keyChar = true) (htail : Unanchored tail)
    (hneeds : Needs (fun _ => True) tail)
    (havoids : ∀ c ∈ ['[', ']', '.', ';', ' '], Avoids c tail) :
    Sensitive (lit (key ++ more) tail) where
  unanchored := unanchored_lit htail
  needs := by
    induction key ++ more with
    | nil => exact hneeds
    | cons c cs ih => exact .inl (fun _ _ => trivial)
  avoids := by
    have hnone : (['[', ']', '.', ';', ' '].all fun c => !keyChar c) = true := by decide
    intro c hc
    refine avoids_lit.2 ⟨?_, havoids c hc⟩
    intro hmem
    have hyes := List.all_eq_true.1 hchars c hmem
    have hno := List.all_eq_true.1 hnone c hc
    rw [hyes] at hno
    cases hno
  begins := by
    refine ⟨key, hkey, ?_⟩
    intro prev w next hmatch
    obtain ⟨v, rfl⟩ := exists_of_matches_lit hmatch
    rw [List.append_assoc]
    exact (List.prefix_append key _).isInfix

theorem sensitive_patterns : ∀ p ∈ sensitivePatterns, Sensitive p := by
  have hrun : ∀ (q : Char → Bool), (['[', ']', '.', ';', ' '].all fun c => !q c) = true →
      ∀ min, ∀ c ∈ ['[', ']', '.', ';', ' '], Avoids c (run q min) := by
    intro q hall min c hc
    have hno := List.all_eq_true.1 hall c hc
    simpa [Avoids] using hno
  have htimes : ∀ (q : Char → Bool), (['[', ']', '.', ';', ' '].all fun c => !q c) = true →
      ∀ n, ∀ c ∈ ['[', ']', '.', ';', ' '], Avoids c (times (cls q) n) := by
    intro q hall n c hc
    have hno := List.all_eq_true.1 hall c hc
    have hcls : Avoids c (cls q) := by simpa [Avoids] using hno
    exact avoids_times hcls n
  have hpos : ∀ q : Char → Bool, ∀ n, 0 < n → Needs (fun _ => True) (run q n) :=
    fun q n hn => ⟨hn, fun _ _ => trivial⟩
  have hmany : ∀ q : Char → Bool, ∀ n, Needs (fun _ => True) (times (cls q) (n + 1)) :=
    fun q n => .inl (fun _ _ => trivial)
  have hplain : ∀ (q : Char → Bool) n, Unanchored (times (cls q) n) :=
    fun q n => unanchored_times (r := cls q) trivial n
  have hkey := hrun keyChar (by decide)
  unfold sensitivePatterns
  simp only [List.forall_mem_cons, List.not_mem_nil, false_implies, implies_true, and_true]
  refine ⟨?_, ?_, ?_, ?_, ?_, ?_, ?_, ?_⟩
  · exact Sensitive.of_lit "sk-".toList ['a', 'n', 't', '-']
      (by decide) (by decide) trivial (hpos _ 20 (by decide)) (hkey 20)
  · exact Sensitive.of_lit "sk-".toList ['p', 'r', 'o', 'j', '-']
      (by decide) (by decide) trivial (hpos _ 40 (by decide)) (hkey 40)
  · exact Sensitive.of_lit "sk-".toList ['s', 'v', 'c', 'a', 'c', 'c', 't', '-']
      (by decide) (by decide) trivial (hpos _ 40 (by decide)) (hkey 40)
  · exact Sensitive.of_lit "sk-".toList []
      (by decide) (by decide) trivial (hpos _ 40 (by decide)) (hkey 40)
  · exact Sensitive.of_lit "gws_".toList []
      (by decide) (by decide) trivial (hpos _ 20 (by decide)) (hkey 20)
  · exact Sensitive.of_lit "AKIA".toList []
      (by decide) (by decide) (hplain _ 16) (hmany _ 15) (htimes _ (by decide) 16)
  · exact Sensitive.of_lit "ghp_".toList []
      (by decide) (by decide) (hplain _ 36) (hmany _ 35) (htimes _ (by decide) 36)
  · exact Sensitive.of_lit "github_pat_".toList []
      (by decide) (by decide) trivial (hpos _ 20 (by decide)) (hrun _ (by decide) 20)

/-! ## One text -/

/-- No pattern matches in the text. -/
def Redacted (text : List Char) : Prop := ∀ p ∈ sensitivePatterns, Clear isWord p text

/-- A text with no beginning of a key. -/
theorem redacted_of_not_infix {text : List Char}
    (h : (keyBeginnings.all fun key => !decide (key <:+: text)) = true) : Redacted text := by
  intro p hp w hw hmatch
  obtain ⟨key, hkey, hbegins⟩ := (sensitive_patterns p hp).begins
  have hno := List.all_eq_true.1 h key hkey
  rw [Bool.not_eq_true', decide_eq_false_iff_not] at hno
  exact hno ((hbegins _ w _ hmatch).trans hw)

theorem redacted_append {c : Char} (hc : c ∈ ['[', ']', '.', ';', ' ']) {a b : List Char}
    (ha : Redacted a) (hb : Redacted b) : Redacted (a ++ c :: b) :=
  fun p hp => clear_append ((sensitive_patterns p hp).avoids c hc) (ha p hp) (hb p hp)

theorem Redacted.take {text : List Char} (h : Redacted text) (n : ℕ) : Redacted (text.take n) :=
  fun p hp => clear_of_part (h p hp) (List.take_prefix n text).isInfix

theorem redacted_mark : Redacted "[REDACTED]".toList :=
  redacted_of_not_infix (by decide)

/-- One pattern after the other. -/
theorem clear_foldl {ps qs : List Expr} {text : String} (hps : ∀ p ∈ ps, p ∈ sensitivePatterns)
    (hqs : ∀ q ∈ qs, q ∈ sensitivePatterns) (hclear : ∀ p ∈ ps, Clear isWord p text.toList) :
    ∀ p ∈ ps ++ qs, Clear isWord p (qs.foldl redact text).toList := by
  induction qs generalizing ps text with
  | nil =>
    rw [List.append_nil]
    exact hclear
  | cons q qs ih =>
    have hq := sensitive_patterns q (hqs q List.mem_cons_self)
    have hrep := replaced_sub hq.ne_nil "[REDACTED]".toList text.toList
    have hone : ∀ p ∈ sensitivePatterns, (p = q ∨ Clear isWord p text.toList) →
        Clear isWord p (redact text q).toList := by
      intro p hp hfree
      have hsensitive := sensitive_patterns p hp
      unfold redact
      rw [String.toList_ofList]
      exact clear_of_replaced hrep hq.unanchored hsensitive.needs rfl rfl
        (hsensitive.avoids '[' (by decide)) (hsensitive.avoids ']' (by decide))
        (redacted_mark p hp) hfree
    rw [List.append_cons, List.foldl_cons]
    refine ih ?_ (fun q' hq' => hqs q' (List.mem_cons_of_mem q hq')) ?_
    · rw [List.forall_mem_append, List.forall_mem_singleton]
      exact ⟨hps, hqs q List.mem_cons_self⟩
    · rw [List.forall_mem_append, List.forall_mem_singleton]
      exact ⟨fun p hp => hone p (hps p hp) (.inr (hclear p hp)),
        hone q (hqs q List.mem_cons_self) (.inl rfl)⟩

theorem redacted_redactSensitive (text : String) : Redacted (redactSensitive text).toList :=
  clear_foldl (List.forall_mem_nil _) (fun _ h => h) (List.forall_mem_nil _)

/-- Where nothing is left to redact the text stays. -/
theorem redactSensitive_of_redacted {text : String} (h : Redacted text.toList) :
    redactSensitive text = text := by
  have hall : ∀ qs : List Expr, (∀ q ∈ qs, q ∈ sensitivePatterns) →
      qs.foldl redact text = text := by
    intro qs
    induction qs with
    | nil => exact fun _ => rfl
    | cons q qs ih =>
      intro hqs
      have hmem := hqs q List.mem_cons_self
      have hq := sensitive_patterns q hmem
      have hsame : redact text q = text := by
        have hself := sub_eq_self "[REDACTED]".toList hq.ne_nil
          ((clear_iff_noMatch hq.unanchored).1 (h q hmem))
        unfold redact
        rw [hself, String.ofList_toList]
      rw [List.foldl_cons, hsame]
      exact ih (fun q' hq' => hqs q' (List.mem_cons_of_mem q hq'))
  exact hall sensitivePatterns (fun _ h => h)

/-- Redacting empties no text. -/
theorem redact_ne_empty {q : Expr} (hq : Sensitive q) {text : String} (htext : text ≠ "") :
    redact text q ≠ "" := by
  have hrep := replaced_sub hq.ne_nil "[REDACTED]".toList text.toList
  intro hempty
  have hnil : Regex.sub isWord q "[REDACTED]".toList text.toList = [] := by
    have hlist := congrArg String.toList hempty
    unfold redact at hlist
    rwa [String.toList_ofList] at hlist
  rw [hnil] at hrep
  apply htext
  generalize htoList : text.toList = cs at hrep
  generalize hout : ([] : List Char) = out at hrep
  cases hrep with
  | nil => exact String.toList_eq_nil_iff.1 htoList
  | keep => cases hout
  | swap => cases hout

theorem redactSensitive_ne_empty {text : String} (htext : text ≠ "") :
    redactSensitive text ≠ "" := by
  have hall : ∀ qs : List Expr, (∀ q ∈ qs, q ∈ sensitivePatterns) → ∀ text : String, text ≠ "" →
      qs.foldl redact text ≠ "" := by
    intro qs
    induction qs with
    | nil => exact fun _ _ htext => htext
    | cons q qs ih =>
      intro hqs text htext
      rw [List.foldl_cons]
      refine ih (fun q' hq' => hqs q' (List.mem_cons_of_mem q hq')) _ ?_
      exact redact_ne_empty (sensitive_patterns q (hqs q List.mem_cons_self)) htext
  exact hall sensitivePatterns (fun _ h => h) text htext

/-! ## The details -/

theorem redacted_safeErrorDetail (error : Option String) :
    Redacted (safeErrorDetail error).toList := by
  unfold safeErrorDetail
  dsimp only
  split
  · exact redacted_of_not_infix (by decide)
  · split
    · -- the text that is left, a period, and the rest of the mark
      have hrest : Redacted "..[truncated]".toList := redacted_of_not_infix (by decide)
      rw [String.toList_append, String.toList_ofList]
      exact redacted_append (by decide) ((redacted_redactSensitive _).take _)
        hrest
    · exact redacted_redactSensitive _

theorem redacted_failoverDetail (primary secondary : String) :
    Redacted (failoverDetail primary secondary).toList := by
  have hfirst := redacted_safeErrorDetail (some primary)
  have hsecond := redacted_safeErrorDetail (some secondary)
  have hbefore : Redacted "primary failed:".toList :=
    redacted_of_not_infix (by decide)
  have hbetween : Redacted " fallback failed:".toList :=
    redacted_of_not_infix (by decide)
  -- neither the semicolon nor the blanks are in a match
  have hjoined := redacted_append (c := ' ') (by decide) hbefore
    (redacted_append (c := ';') (by decide) hfirst
      (redacted_append (c := ' ') (by decide) hbetween hsecond))
  have hlist : (failoverDetail primary secondary).toList =
      "primary failed:".toList ++ ' ' :: ((safeErrorDetail (some primary)).toList ++
        ';' :: (" fallback failed:".toList ++ ' ' ::
          (safeErrorDetail (some secondary)).toList)) := by
    unfold failoverDetail
    simp only [String.toList_append, List.append_assoc]
    rfl
  rwa [hlist]

theorem length_safeErrorDetail (error : Option String) :
    (safeErrorDetail error).length ≤ maxDetailLen := by
  unfold safeErrorDetail
  dsimp only
  split
  · decide
  · split
    · rw [String.length_append, String.length_ofList, List.length_take]
      have hmark : "...[truncated]".length = 14 := by decide
      unfold maxDetailLen
      omega
    · omega

theorem safeErrorDetail_ne_empty (error : Option String) : safeErrorDetail error ≠ "" := by
  unfold safeErrorDetail
  dsimp only
  split
  · decide
  · split
    · intro hempty
      have hlength := congrArg String.length hempty
      rw [String.length_append] at hlength
      have hmark : "...[truncated]".length = 14 := by decide
      have hnone : "".length = 0 := rfl
      omega
    next hne hshort => exact redactSensitive_ne_empty hne

/-- **Error details are safe.** Whatever the text of an upstream error, no pattern of a key matches
anywhere in what `redact_sensitive` returns, in the detail sent of it or in one that joins two; a
detail is at most 240 characters long; and making it safe again changes nothing. -/
theorem error_details_safe (error : Option String) (primary secondary : String) :
    (∀ p ∈ sensitivePatterns,
      Clear isWord p (redactSensitive primary).toList ∧
      Clear isWord p (safeErrorDetail error).toList ∧
      Clear isWord p (failoverDetail primary secondary).toList) ∧
    (safeErrorDetail error).length ≤ maxDetailLen ∧
    safeErrorDetail (some (safeErrorDetail error)) = safeErrorDetail error ∧
    redactSensitive (redactSensitive primary) = redactSensitive primary := by
  have hfailover := redacted_failoverDetail primary secondary
  refine ⟨fun p hp => ⟨redacted_redactSensitive primary p hp, redacted_safeErrorDetail error p hp,
    hfailover p hp⟩, length_safeErrorDetail error, ?_,
    redactSensitive_of_redacted (redacted_redactSensitive primary)⟩
  have hsame := redactSensitive_of_redacted (redacted_safeErrorDetail error)
  have hne := safeErrorDetail_ne_empty error
  have hlength := length_safeErrorDetail error
  generalize safeErrorDetail error = detail at hsame hne hlength ⊢
  unfold safeErrorDetail
  simp only [Option.getD_some, if_neg hne, hsame]
  rw [if_neg (by omega)]

end ModelMeld
