import ModelMeld.Spec.DefaultPatterns
import ModelMeld.Lib.RegexSub

/-!
# What the default scrubber leaves

A placeholder has capital letters, `_` and `:` between angle brackets. No default
pattern has a bracket or matches inside one, and every default pattern stands
apart from the words around it (`redactable_patterns`). So a replacement neither
makes nor completes a match, and no pattern matches in the scrubbed text
(`scrub_complete`).
-/

namespace ModelMeld

open Regex Regex.Expr DefaultPatterns
open RegexScrubber (redactLabel)

/-- The labels of `_PATTERNS`. -/
def patternLabels : List String :=
  ["EMAIL", "SSN", "CREDIT_CARD", "AWS_ACCESS_KEY", "ANTHROPIC_API_KEY", "OPENAI_API_KEY",
    "GITHUB_PAT", "GITHUB_FINE_GRAINED_PAT", "PHONE_US"]

/-- The characters of a placeholder. -/
def placeholderChar (c : Char) : Bool := oneOf "ABCDEFGHIJKLMNOPQRSTUVWXYZ_:<>" c

variable (u : UnicodeClasses)

theorem label_mem {p : String × Expr} (hp : p ∈ patterns u) : p.1 ∈ patternLabels := by
  have hlabels : (patterns u).map Prod.fst = patternLabels := rfl
  rw [← hlabels]
  exact List.mem_map_of_mem hp

theorem toList_redactLabel (label : String) : (redactLabel label).toList =
    "<REDACTED:".toList ++ label.toList ++ ">".toList := by
  unfold redactLabel
  rw [String.toList_append, String.toList_append]

theorem placeholderChar_of_mem {label : String} (hlabel : label ∈ patternLabels) {c : Char}
    (hc : c ∈ (redactLabel label).toList) : placeholderChar c = true := by
  have hopen : "<REDACTED:".toList.all placeholderChar = true := by decide
  have hlabels : (patternLabels.all fun label => label.toList.all placeholderChar) = true := by
    decide
  have hclose : ">".toList.all placeholderChar = true := by decide
  rw [toList_redactLabel, List.mem_append, List.mem_append] at hc
  rcases hc with (hc | hc) | hc
  · exact List.all_eq_true.1 hopen c hc
  · exact List.all_eq_true.1 (List.all_eq_true.1 hlabels label hlabel) c hc
  · exact List.all_eq_true.1 hclose c hc

theorem head_redactLabel (label : String) : (redactLabel label).toList.head? = some '<' := by
  rw [toList_redactLabel]
  rfl

theorem getLast_redactLabel (label : String) : (redactLabel label).toList.getLast? = some '>' := by
  rw [toList_redactLabel, List.getLast?_append]
  rfl

/-- What the keys begin with. -/
def keyStarts : List (List Char) :=
  ["AKIA".toList, "sk-ant-".toList, "sk-".toList, "ghp_".toList, "github_pat_".toList]

theorem not_infix_redactLabel {key : List Char} (hkey : key ∈ keyStarts) {label : String}
    (hlabel : label ∈ patternLabels) : ¬ key <:+: (redactLabel label).toList := by
  have hall : (patternLabels.all fun label => keyStarts.all fun key =>
      !decide (key <:+: (redactLabel label).toList)) = true := by decide
  have hno := List.all_eq_true.1 (List.all_eq_true.1 hall label hlabel) key hkey
  rwa [Bool.not_eq_true', decide_eq_false_iff_not] at hno

/-! ## The nine patterns -/

/-- A pattern whose matches stand apart, have no bracket, and are not found in a placeholder. -/
structure Redactable (r : Expr) : Prop where
  separated : Separated u.isWord r
  opens : Avoids '<' r
  closes : Avoids '>' r
  labels : ∀ {label}, label ∈ patternLabels → ∀ w, w <:+: (redactLabel label).toList →
    ∀ x y, ¬ Matches u.isWord r x w y

variable {u}

/-- A pattern that needs a character no placeholder has. -/
theorem Redactable.of_needs {r : Expr} (hneeds : Needs (fun c => placeholderChar c = false) r)
    (hends : EndsAtBoundary r) (hstarts : StartsApart u.isWord r) (hopens : Avoids '<' r)
    (hcloses : Avoids '>' r) : Redactable u r where
  separated := Separated.of_shape (hneeds.imp (fun _ _ => trivial)) hends hstarts
  opens := hopens
  closes := hcloses
  labels hlabel w hw x y hmatch := by
    obtain ⟨c, hc, hno⟩ := exists_of_needs hneeds hmatch
    have hyes := placeholderChar_of_mem hlabel (hw.subset hc)
    rw [hno] at hyes
    exact absurd hyes (by decide)

theorem of_oneOf {chars : String} {q : Char → Bool} (hall : chars.toList.all q = true) {c : Char}
    (hc : oneOf chars c = true) : q c = true :=
  List.all_eq_true.1 hall c (List.contains_iff_mem.1 hc)

/-- A digit is not in a placeholder. -/
theorem placeholderChar_of_isDigit {c : Char} (hc : u.isDigit c = true) :
    placeholderChar c = false := by
  rw [Bool.eq_false_iff]
  intro hplace
  have hascii : decide (c.toNat < 128) = true :=
    of_oneOf (q := fun c => decide (c.toNat < 128)) (by decide) hplace
  have hno : (!c.isDigit) = true := of_oneOf (q := fun c => !c.isDigit) (by decide) hplace
  rw [u.isDigit_ascii c (of_decide_eq_true hascii)] at hc
  rw [hc] at hno
  exact absurd hno (by decide)

theorem needs_digits (n : ℕ) : Needs (fun c => placeholderChar c = false) (digits u (n + 1)) :=
  Or.inl (fun _ hc => placeholderChar_of_isDigit hc)

theorem avoids_digits {c : Char} (hascii : c.toNat < 128) (hc : c.isDigit = false) (n : ℕ) :
    Avoids c (digits u n) := by
  have hcls : Avoids c (cls u.isDigit) := by
    have hdigit := u.isDigit_ascii c hascii
    rw [hc] at hdigit
    exact hdigit
  exact avoids_times hcls n

/-- A key that begins with characters no placeholder has in a row. -/
theorem Redactable.of_lit {c : Char} {cs : List Char} {tail : Expr} (hkey : c :: cs ∈ keyStarts)
    (hopen : '<' ∉ c :: cs) (hclose : '>' ∉ c :: cs) (htailOpen : Avoids '<' tail)
    (htailClose : Avoids '>' tail) :
    Redactable u (seq boundary (lit (c :: cs) (seq tail boundary))) where
  separated := by
    refine Separated.of_shape (Or.inr (Or.inl fun _ _ => trivial)) ?_ (Or.inl rfl)
    have htail : EndsAtBoundary (seq tail boundary) := trivial
    exact endsAtBoundary_lit htail
  opens := ⟨trivial, avoids_lit.2 ⟨hopen, htailOpen, trivial⟩⟩
  closes := ⟨trivial, avoids_lit.2 ⟨hclose, htailClose, trivial⟩⟩
  labels hlabel w hw x y hmatch := by
    obtain ⟨b, v, rfl, ⟨rfl, -⟩, hv⟩ := hmatch
    obtain ⟨v, rfl⟩ := exists_of_matches_lit hv
    exact not_infix_redactLabel hkey hlabel ((List.prefix_append (c :: cs) v).isInfix.trans hw)

theorem redactable_email : Redactable u email := by
  refine Redactable.of_needs (Or.inr (Or.inr (Or.inl ?_))) trivial (Or.inl rfl) ?_ ?_
  · intro c hc
    rw [beq_iff_eq.1 hc]
    decide
  · simp only [email, Avoids, avoids_lit, true_and, and_true]
    decide
  · simp only [email, Avoids, avoids_lit, true_and, and_true]
    decide

theorem redactable_ssn : Redactable u (ssn u) := by
  have havoids : ∀ c : Char, c.toNat < 128 → c.isDigit = false → c ∉ ['-'] →
      Avoids c (ssn u) := by
    intro c hascii hc hdash
    have hdigits := avoids_digits (u := u) hascii hc
    exact ⟨trivial, hdigits 3, avoids_lit.2 ⟨hdash, hdigits 2, avoids_lit.2 ⟨hdash, hdigits 4,
      trivial⟩⟩⟩
  refine Redactable.of_needs (Or.inr (Or.inl (needs_digits 2))) trivial (Or.inl rfl) ?_ ?_
  · exact havoids '<' (by decide) (by decide) (by decide)
  · exact havoids '>' (by decide) (by decide) (by decide)

theorem redactable_creditCard : Redactable u (creditCard u) := by
  have havoids : ∀ c : Char, c.toNat < 128 → c.isDigit = false → oneOf " -" c = false →
      Avoids c (creditCard u) := by
    intro c hascii hc hsep
    have hdigits := avoids_digits (u := u) hascii hc
    have hgroup : Avoids c (seq (digits u 4) (opt (cls (oneOf " -")))) :=
      ⟨hdigits 4, hsep, trivial⟩
    exact ⟨trivial, avoids_times hgroup 3, hdigits 4, trivial⟩
  refine Redactable.of_needs (Or.inr (Or.inr (Or.inl (needs_digits 3)))) trivial (Or.inl rfl) ?_ ?_
  · exact havoids '<' (by decide) (by decide) (by decide)
  · exact havoids '>' (by decide) (by decide) (by decide)

theorem redactable_phoneUs : Redactable u (phoneUs u) := by
  have havoids : ∀ c : Char, c.toNat < 128 → c.isDigit = false → c ∉ ['('] → c ∉ [')'] →
      isSpace c = false → oneOf " .-" c = false → Avoids c (phoneUs u) := by
    intro c hascii hc hopen hclose hspace hsep
    have hdigits := avoids_digits (u := u) hascii hc
    exact ⟨⟨avoids_lit.2 ⟨hopen, hdigits 3, avoids_lit.2 ⟨hclose, hspace, trivial⟩⟩, trivial,
      hdigits 3, hsep⟩, hdigits 3, hsep, hdigits 4, trivial⟩
  -- the parenthesis of the first form is no word character
  have hparen : ∀ c, (c == '(') = true → u.isWord c = false := by
    intro c hc
    rw [beq_iff_eq.1 hc, u.isWord_ascii '(' (by decide)]
    decide
  refine Redactable.of_needs (Or.inr (Or.inl (needs_digits 2))) trivial
    (Or.inr ⟨Or.inr hparen, Or.inl rfl⟩) ?_ ?_
  · exact havoids '<' (by decide) (by decide) (by decide) (by decide) (by decide)
      (by decide)
  · exact havoids '>' (by decide) (by decide) (by decide) (by decide) (by decide)
      (by decide)

theorem redactable_patterns : ∀ p ∈ patterns u, Redactable u p.2 := by
  unfold patterns
  simp only [List.forall_mem_cons, List.not_mem_nil, false_implies, implies_true, and_true]
  have htimes : ∀ (q : Char → Bool) (c : Char) (n : ℕ), q c = false → Avoids c (times (cls q) n) :=
    fun q c n hq => avoids_times (show Avoids c (cls q) from hq) n
  refine ⟨redactable_email, redactable_ssn, redactable_creditCard, ?aws, ?anthropic, ?openai,
    ?github, ?fineGrained, redactable_phoneUs⟩
  case aws =>
    exact Redactable.of_lit (by decide) (by decide) (by decide)
      (htimes _ _ _ (by decide)) (htimes _ _ _ (by decide))
  case anthropic =>
    exact Redactable.of_lit (by decide) (by decide) (by decide)
      (show alnumOr "_-" '<' = false by decide) (show alnumOr "_-" '>' = false by decide)
  case openai =>
    exact Redactable.of_lit (by decide) (by decide) (by decide)
      (show alnumOr "_-" '<' = false by decide) (show alnumOr "_-" '>' = false by decide)
  case github =>
    exact Redactable.of_lit (by decide) (by decide) (by decide)
      (htimes _ _ _ (by decide)) (htimes _ _ _ (by decide))
  case fineGrained =>
    exact Redactable.of_lit (by decide) (by decide) (by decide)
      (show alnumOr "_" '<' = false by decide) (show alnumOr "_" '>' = false by decide)

/-! ## The scrubbed text -/

/-- The patterns of a table, one after the other. -/
theorem noMatch_foldl {ps qs : List (String × Expr)} {text : String}
    (hps : ∀ p ∈ ps, Redactable u p.2) (hqs : ∀ q ∈ qs, Redactable u q.2 ∧ q.1 ∈ patternLabels)
    (hno : ∀ p ∈ ps, NoMatch u.isWord p.2 none text.toList) :
    ∀ p ∈ ps ++ qs, NoMatch u.isWord p.2 none
      (qs.foldl (fun text q => (compile u q.2).sub (redactLabel q.1) text) text).toList := by
  induction qs generalizing ps text with
  | nil =>
    rw [List.append_nil]
    exact hno
  | cons q qs ih =>
    obtain ⟨hq, hlabel⟩ := hqs q List.mem_cons_self
    have hrep := replaced_sub hq.separated.ne_nil (redactLabel q.1).toList text.toList
    -- one pattern's replacement lets no match of another in
    have hone : ∀ p : String × Expr, Redactable u p.2 →
        (p.2 = q.2 ∨ NoMatch u.isWord p.2 none text.toList) →
        NoMatch u.isWord p.2 none ((compile u q.2).sub (redactLabel q.1) text).toList := by
      intro p hp hfree
      rw [compile, String.toList_ofList]
      exact noMatch_of_replaced hrep hq.separated hp.separated (head_redactLabel q.1)
        (getLast_redactLabel q.1) (u.isWord_ascii '<' (by decide)) hp.opens hp.closes
        (hp.labels hlabel) hfree (Or.inl rfl)
    rw [List.append_cons]
    refine ih ?_ (fun q' hq' => hqs q' (List.mem_cons_of_mem q hq')) ?_
    · rw [List.forall_mem_append, List.forall_mem_singleton]
      exact ⟨hps, hq⟩
    · rw [List.forall_mem_append, List.forall_mem_singleton]
      exact ⟨fun p hp => hone p (hps p hp) (Or.inr (hno p hp)), hone q hq (Or.inl rfl)⟩

theorem subAll_default (text : String) : (RegexScrubber.default u).subAll text =
    (patterns u).foldl (fun text q => (compile u q.2).sub (redactLabel q.1) text) text := by
  unfold RegexScrubber.subAll RegexScrubber.default
  rw [List.foldl_map]

theorem noMatch_subAll (text : String) : ∀ p ∈ patterns u,
    NoMatch u.isWord p.2 none ((RegexScrubber.default u).subAll text).toList := by
  rw [subAll_default]
  have hnone : ∀ p ∈ ([] : List (String × Expr)),
      Redactable u p.2 ∧ NoMatch u.isWord p.2 none text.toList := List.forall_mem_nil _
  exact noMatch_foldl (fun p hp => (hnone p hp).1)
    (fun q hq => ⟨redactable_patterns q hq, label_mem u hq⟩) (fun p hp => (hnone p hp).2)

/-- Where no pattern matches, the text stays. -/
theorem subAll_eq_self {text : String}
    (hno : ∀ p ∈ patterns u, NoMatch u.isWord p.2 none text.toList) :
    (RegexScrubber.default u).subAll text = text := by
  rw [subAll_default]
  have hall : ∀ p ∈ patterns u, Redactable u p.2 := redactable_patterns
  generalize patterns u = ps at hno hall
  induction ps with
  | nil => rfl
  | cons p ps ih =>
    rw [List.foldl_cons]
    have hsub : (compile u p.2).sub (redactLabel p.1) text = text := by
      have hself := sub_eq_self (redactLabel p.1).toList
        (hall p List.mem_cons_self).separated.ne_nil (hno p List.mem_cons_self)
      exact (congrArg String.ofList hself).trans String.ofList_toList
    rw [hsub]
    exact ih (fun q hq => hno q (List.mem_cons_of_mem p hq))
      (fun q hq => hall q (List.mem_cons_of_mem p hq))

/-- **No default pattern matches in a scrubbed text of bounded length, and scrubbing it again
changes nothing.** -/
theorem scrub_complete (u : UnicodeClasses) (text : String) (hlen : text.length ≤ maxScrubLength) :
    (∀ p ∈ patterns u, NoMatch u.isWord p.2 none
      ((RegexScrubber.default u).scrubText text).toList) ∧
    (((RegexScrubber.default u).scrubText text).length ≤ maxScrubLength →
      (RegexScrubber.default u).scrubText ((RegexScrubber.default u).scrubText text) =
        (RegexScrubber.default u).scrubText text) := by
  have hscrub : (RegexScrubber.default u).scrubText text = (RegexScrubber.default u).subAll text :=
    if_neg (by omega)
  have hno := noMatch_subAll (u := u) text
  rw [hscrub]
  refine ⟨hno, fun hout => ?_⟩
  have hagain : (RegexScrubber.default u).scrubText ((RegexScrubber.default u).subAll text) =
      (RegexScrubber.default u).subAll ((RegexScrubber.default u).subAll text) :=
    if_neg (by omega)
  rw [hagain, subAll_eq_self hno]

/-- An address beside a dash. -/
theorem scrub_complete_address :
    (∀ p ∈ patterns UnicodeClasses.ascii, NoMatch UnicodeClasses.ascii.isWord p.2 none
      ((RegexScrubber.default UnicodeClasses.ascii).scrubText "x@b..co-m").toList) ∧
    (RegexScrubber.default UnicodeClasses.ascii).scrubText
        ((RegexScrubber.default UnicodeClasses.ascii).scrubText "x@b..co-m") =
      (RegexScrubber.default UnicodeClasses.ascii).scrubText "x@b..co-m" :=
  ⟨(scrub_complete UnicodeClasses.ascii "x@b..co-m" (by decide)).1,
    (scrub_complete UnicodeClasses.ascii "x@b..co-m" (by decide +kernel)).2 (by decide +kernel)⟩

end ModelMeld
