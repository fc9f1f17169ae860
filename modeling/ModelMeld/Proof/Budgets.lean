import ModelMeld.Proof.ContextReads

/-!
# Budgets

`_enforce_budget` and `_enforce_token_budget` shrink a context in the same three
phases under two measures.

* `bestPrefix_fits`, `bestPrefix_greatest`: what the binary search finds, with
  and without monotonicity;
* `Measure`: what the phases need to know of a measure;
* `Measure.pack_packs`: the phases, under any measure and any cut that fits;
* `budgets_enforced`: the two functions.
-/

namespace ModelMeld

/-! ## What a packed context is -/

/-- The summary is kept, cut to a prefix of its text, or dropped. -/
def SummaryKept (summary kept : Option Summary) : Prop :=
  kept = none ∨ ∃ s text, summary = some s ∧ text.toList <+: s.text.toList ∧
    kept = some { s with text := text }

/-- `out` packs a context under a budget, sizes being measured by `total`. -/
structure Packs (total : List Fact → Option Summary → List LoggedTurn → ℤ) (budget : ℤ)
    (facts : List Fact) (summary : Option Summary) (recent : List LoggedTurn)
    (out : AssembledContext) : Prop where
  fits : total out.facts out.summary out.recentTurns ≤ budget
  turns_suffix : out.recentTurns <:+ recent
  facts_suffix : out.facts <:+ facts
  summary_kept : SummaryKept summary out.summary
  summary_after_turns : out.summary ≠ summary → out.recentTurns = []
  facts_last : out.facts ≠ facts →
    out.recentTurns = [] ∧ ∀ s, out.summary = some s → s.text = ""
  intact : total facts summary recent ≤ budget → out = ⟨facts, summary, recent, false⟩
  truncated : out.truncated = true ↔
    (out.facts ≠ facts ∨ out.summary ≠ summary ∨ out.recentTurns ≠ recent)

/-- A summary that is kept is the longest prefix that fits beside the facts. -/
def KeepsLongest (total : List Fact → Option Summary → List LoggedTurn → ℤ) (budget : ℤ)
    (facts : List Fact) (summary : Option Summary) (out : AssembledContext) : Prop :=
  ∀ s kept, summary = some s → out.summary = some kept →
    ∀ text : String, text.toList <+: s.text.toList →
      total facts (some { s with text := text }) [] ≤ budget → text.length ≤ kept.text.length

/-! ## The binary search -/

theorem bestPrefix_fits (fits : ℕ → Bool) (lo hi : ℤ) (best : ℕ) :
    bestPrefix fits lo hi best = best ∨ fits (bestPrefix fits lo hi best) = true := by
  induction lo, hi, best using bestPrefix.induct fits with
  | case1 lo hi best hle mid hfits ih =>
    rw [bestPrefix, if_pos hle]
    simp only
    rw [if_pos hfits]
    rcases ih with h | h
    · rw [h]
      exact Or.inr hfits
    · exact Or.inr h
  | case2 lo hi best hle mid hfits ih =>
    rw [bestPrefix, if_pos hle]
    simp only
    rw [if_neg hfits]
    exact ih
  | case3 lo hi best hle =>
    rw [bestPrefix, if_neg hle]
    exact Or.inl rfl

/-- Where what fits is closed downwards, nothing longer than the result fits. -/
theorem bestPrefix_greatest (fits : ℕ → Bool)
    (hdown : ∀ m n, m ≤ n → fits n = true → fits m = true) (lo hi : ℤ) (best : ℕ) (hlo : 0 ≤ lo)
    (hbelow : ∀ n : ℕ, (n : ℤ) < lo → n ≤ best)
    (habove : ∀ n : ℕ, fits n = true → (n : ℤ) ≤ hi) (n : ℕ) (hn : fits n = true) :
    n ≤ bestPrefix fits lo hi best := by
  induction lo, hi, best using bestPrefix.induct fits with
  | case1 lo hi best hle mid hfits ih =>
    rw [bestPrefix, if_pos hle]
    simp only
    rw [if_pos hfits]
    apply ih (by omega) _ habove
    intro m hm
    omega
  | case2 lo hi best hle mid hfits ih =>
    rw [bestPrefix, if_pos hle]
    simp only
    rw [if_neg hfits]
    apply ih hlo hbelow
    intro m hm
    by_contra hlt
    exact hfits (hdown mid.toNat m (by omega) hm)
  | case3 lo hi best hle =>
    rw [bestPrefix, if_neg hle]
    have hhi := habove n hn
    apply hbelow
    omega

/-! ## Prefixes -/

theorem prefix_sliceTo (text : String) (n : ℕ) : (sliceTo text n).toList <+: text.toList := by
  unfold sliceTo
  rw [if_pos (by omega), String.toList_ofList]
  exact List.take_prefix _ _

theorem sliceTo_length (text : String) (n : ℕ) : (sliceTo text n).length = min n text.length := by
  unfold sliceTo
  rw [if_pos (by omega), String.length_ofList, List.length_take, Int.toNat_natCast,
    String.length_toList]

/-- A prefix is the slice of its length. -/
theorem eq_sliceTo {text whole : String} (h : text.toList <+: whole.toList) :
    text = sliceTo whole text.length := by
  unfold sliceTo
  rw [if_pos (by omega), Int.toNat_natCast]
  apply String.toList_injective
  rw [String.toList_ofList, List.prefix_iff_eq_take.1 h, String.length_toList]

/-! ## Three phases -/

/-- What the phases need to know of a measure. -/
structure Measure where
  total : List Fact → Option Summary → List LoggedTurn → ℤ
  factsSize : List Fact → ℤ
  textSize : String → ℤ
  total_nil : ∀ facts summary,
    total facts summary [] = factsSize facts + (summary.elim 0 (fun s => textSize s.text))
  factsSize_nil : factsSize [] = 0
  textSize_empty : textSize "" = 0

namespace Measure

variable (m : Measure) (budget : ℤ) (cut : ℤ → String → String) (facts : List Fact)
  (summary : Option Summary) (recent : List LoggedTurn)

/-- The text of a summary that is too long for the room is cut to something that fits. -/
def CutFits : Prop :=
  ∀ room text, 0 < room → room < m.textSize text →
    (cut room text).toList <+: text.toList ∧ m.textSize (cut room text) ≤ room

/-- Turns from the front, then the summary, then facts from the front. -/
def pack : AssembledContext :=
  if m.total facts summary recent ≤ budget then ⟨facts, summary, recent, false⟩
  else
    let kept := popWhile (fun recent => decide (budget < m.total facts summary recent)) recent
    if m.total facts summary kept ≤ budget then ⟨facts, summary, kept, true⟩
    else
      let room := budget - m.factsSize facts
      let cut := cutSummary room (cut room) summary
      let left := popWhile (fun facts => decide (budget < m.total facts cut.1 kept)) facts
      ⟨left, cut.1, kept,
        decide (kept.length < recent.length) || cut.2 || decide (left.length < facts.length)⟩

end Measure

/-- What `popWhile` leaves is not over, or empty. -/
theorem popWhile_stops {A : Type} (exceeds : List A → Bool) : ∀ xs : List A,
    popWhile exceeds xs = [] ∨ exceeds (popWhile exceeds xs) = false := by
  intro xs
  induction xs with
  | nil => exact Or.inl rfl
  | cons x xs ih =>
    unfold popWhile
    split
    · exact ih
    · rename_i h
      exact Or.inr (Bool.not_eq_true _ ▸ h)

theorem popWhile_of_not {A : Type} {exceeds : List A → Bool} {xs : List A}
    (h : exceeds xs = false) : popWhile exceeds xs = xs := by
  cases xs with
  | nil => rfl
  | cons x xs =>
    unfold popWhile
    rw [h, if_neg (by decide)]

theorem summaryKept_refl (summary : Option Summary) : SummaryKept summary summary := by
  cases summary with
  | none => exact Or.inl rfl
  | some s => exact Or.inr ⟨s, s.text, rfl, List.prefix_refl _, rfl⟩

theorem length_lt_iff_ne {A : Type} {xs ys : List A} (h : xs <:+ ys) :
    xs.length < ys.length ↔ xs ≠ ys := by
  constructor
  · rintro hlt rfl
    exact lt_irrefl _ hlt
  · intro hne
    exact lt_of_le_of_ne h.length_le (fun heq => hne (h.eq_of_length heq))

namespace Measure

variable {m : Measure} {budget : ℤ} {cut : ℤ → String → String} {facts : List Fact}
  {summary : Option Summary} {recent : List LoggedTurn}

/-- The size of a summary. -/
def summarySize (m : Measure) (summary : Option Summary) : ℤ :=
  summary.elim 0 (fun s => m.textSize s.text)

/-- The second phase: what it leaves of a summary that is too long, and that it says so. -/
theorem cutSummary_spec {room : ℤ} (hcut : m.CutFits cut) (hover : room < m.summarySize summary) :
    SummaryKept summary (cutSummary room (cut room) summary).1 ∧
      ((cutSummary room (cut room) summary).2 = true ↔
        (cutSummary room (cut room) summary).1 ≠ summary) ∧
      (m.summarySize (cutSummary room (cut room) summary).1 ≤ room ∨
        ∀ s, (cutSummary room (cut room) summary).1 = some s → s.text = "") := by
  unfold summarySize at hover ⊢
  cases summary with
  | none =>
    refine ⟨Or.inl rfl, by simp [cutSummary], ?_⟩
    right
    intro s hs
    cases hs
  | some s =>
    unfold cutSummary
    simp only [Option.elim_some] at hover ⊢
    by_cases htext : s.text = ""
    · rw [if_pos htext]
      refine ⟨Or.inr ⟨s, s.text, rfl, List.prefix_refl _, rfl⟩, by simp, ?_⟩
      right
      intro s' hs'
      cases hs'
      exact htext
    · rw [if_neg htext]
      by_cases hroom : 0 < room
      · rw [if_pos hroom]
        obtain ⟨hpre, hfits⟩ := hcut _ _ hroom hover
        refine ⟨Or.inr ⟨s, _, rfl, hpre, rfl⟩, ?_, Or.inl hfits⟩
        simp only [ne_eq, true_iff, Option.some.injEq]
        -- what fits the room is not the whole text
        intro heq
        have htext' := congrArg Summary.text heq
        simp only at htext'
        rw [htext'] at hfits
        omega
      · rw [if_neg hroom]
        refine ⟨Or.inl rfl, by simp, ?_⟩
        right
        intro s' hs'
        cases hs'

/-- What is left when the turns are gone and it is still too much. -/
theorem overfull {kept : List LoggedTurn} (hkept : kept = [])
    (hover : ¬ m.total facts summary kept ≤ budget) :
    budget - m.factsSize facts < m.summarySize summary := by
  rw [hkept, m.total_nil] at hover
  unfold summarySize
  omega

/-- The third phase: the facts fit beside what is left of the summary, or they go until they do. -/
theorem popFacts_spec (hbudget : 0 ≤ budget) {left : Option Summary}
    (hroom : m.summarySize left ≤ budget - m.factsSize facts ∨ ∀ s, left = some s → s.text = "") :
    m.total (popWhile (fun facts => decide (budget < m.total facts left [])) facts) left [] ≤ budget ∧
      (popWhile (fun facts => decide (budget < m.total facts left [])) facts ≠ facts →
        ∀ s, left = some s → s.text = "") := by
  have htotal : ∀ facts, m.total facts left [] = m.factsSize facts + m.summarySize left :=
    fun facts => m.total_nil facts left
  rcases hroom with hroom | hempty
  · have hle : m.total facts left [] ≤ budget := by
      rw [htotal]
      omega
    have hall : popWhile (fun facts => decide (budget < m.total facts left [])) facts = facts :=
      popWhile_of_not (decide_eq_false (not_lt.2 hle))
    rw [hall]
    exact ⟨hle, fun hne => absurd rfl hne⟩
  · refine ⟨?_, fun _ => hempty⟩
    have hsize : m.summarySize left = 0 := by
      unfold summarySize
      cases left with
      | none => rfl
      | some s => rw [Option.elim_some, hempty s rfl, m.textSize_empty]
    rcases popWhile_stops (fun facts => decide (budget < m.total facts left [])) facts with h | h
    · rw [h, htotal, m.factsSize_nil, hsize]
      omega
    · rw [decide_eq_false_iff_not, not_lt] at h
      exact h

/-- **The three phases pack a context**, whatever is measured. -/
theorem pack_packs (hcut : m.CutFits cut) (hbudget : 0 ≤ budget) :
    Packs m.total budget facts summary recent (m.pack budget cut facts summary recent) := by
  unfold pack
  by_cases hfits : m.total facts summary recent ≤ budget
  · rw [if_pos hfits]
    refine ⟨hfits, List.suffix_refl _, List.suffix_refl _, summaryKept_refl summary, ?_, ?_,
      fun _ => rfl, by simp⟩
    · intro hne
      exact absurd rfl hne
    · intro hne
      exact absurd rfl hne
  · rw [if_neg hfits]
    simp only
    set kept := popWhile (fun recent => decide (budget < m.total facts summary recent)) recent
    have hsuffix : kept <:+ recent := popWhile_suffix _ recent
    by_cases hkept : m.total facts summary kept ≤ budget
    · rw [if_pos hkept]
      have hdropped : kept ≠ recent := by
        intro heq
        rw [heq] at hkept
        exact hfits hkept
      refine ⟨hkept, hsuffix, List.suffix_refl _, summaryKept_refl summary, ?_, ?_,
        fun h => absurd h hfits, ?_⟩
      · intro hne
        exact absurd rfl hne
      · intro hne
        exact absurd rfl hne
      · simp [hdropped]
    · rw [if_neg hkept]
      -- the turns ran out
      have hnil : kept = [] := by
        rcases popWhile_stops (fun recent => decide (budget < m.total facts summary recent)) recent
          with h | h
        · exact h
        · rw [decide_eq_false_iff_not, not_lt] at h
          exact absurd h hkept
      obtain ⟨hsummary, hsaid, hroom⟩ := cutSummary_spec hcut (overfull hnil hkept)
      set room := budget - m.factsSize facts
      set left := cutSummary room (cut room) summary
      obtain ⟨hle, hgone⟩ := popFacts_spec hbudget hroom
      rw [← hnil] at hle hgone
      have hfacts := popWhile_suffix
        (fun facts => decide (budget < m.total facts left.1 kept)) facts
      refine ⟨hle, hsuffix, hfacts, hsummary, fun _ => hnil, fun hne => ⟨hnil, hgone hne⟩,
        fun h => absurd h hfits, ?_⟩
      simp only [Bool.or_eq_true, decide_eq_true_eq]
      rw [length_lt_iff_ne hsuffix, length_lt_iff_ne hfacts, hsaid]
      tauto

/-- When the kept prefix is the longest: the cut leaves the longest prefix that fits the room. -/
theorem pack_keepsLongest
    (hlongest : ∀ room whole, 0 < room → room < m.textSize whole →
      ∀ text : String, text.toList <+: whole.toList → m.textSize text ≤ room →
        text.length ≤ (cut room whole).length) :
    KeepsLongest m.total budget facts summary (m.pack budget cut facts summary recent) := by
  have hwhole : ∀ {s kept : Summary} {text : String}, some kept = some s →
      text.toList <+: s.text.toList → text.length ≤ kept.text.length := by
    intro s kept text heq hpre
    rw [Option.some.inj heq, ← String.length_toList, ← String.length_toList]
    exact hpre.length_le
  intro s kept hs hkept text hpre hfits
  subst hs
  unfold pack at hkept
  split at hkept
  · exact hwhole hkept.symm hpre
  · simp only at hkept
    split at hkept
    · exact hwhole hkept.symm hpre
    · rename_i hturns
      unfold cutSummary at hkept
      simp only at hkept
      by_cases htext : s.text = ""
      · rw [if_pos htext] at hkept
        exact hwhole hkept.symm hpre
      · rw [if_neg htext] at hkept
        by_cases hroom : 0 < budget - m.factsSize facts
        · rw [if_pos hroom] at hkept
          have hkept' := congrArg Summary.text (Option.some.inj hkept)
          simp only at hkept'
          rw [← hkept']
          have hnil : popWhile
              (fun recent => decide (budget < m.total facts (some s) recent)) recent = [] := by
            rcases popWhile_stops
              (fun recent => decide (budget < m.total facts (some s) recent)) recent with h | h
            · exact h
            · rw [decide_eq_false_iff_not, not_lt] at h
              exact absurd h hturns
          have hover := overfull hnil hturns
          rw [m.total_nil, Option.elim_some] at hfits
          simp only at hfits
          exact hlongest _ s.text hroom hover text hpre (by omega)
        · rw [if_neg hroom] at hkept
          cases hkept

end Measure

/-! ## The two measures -/

def charMeasure : Measure where
  total := estimateChars
  factsSize := factChars
  textSize text := text.length
  total_nil facts summary := by
    cases summary with
    | none => simp [estimateChars]
    | some s => simp [estimateChars]
  factsSize_nil := rfl
  textSize_empty := rfl

def tokenMeasure (countText : String → ℤ) : Measure where
  total := currentTotal countText
  factsSize := factTokens countText
  textSize text := if text = "" then 0 else countText text
  total_nil facts summary := by
    cases summary with
    | none => simp [currentTotal]
    | some s => simp [currentTotal]
  factsSize_nil := rfl
  textSize_empty := by simp

/-- The cut of `_enforce_budget`. -/
def charCut (room : ℤ) (text : String) : String := sliceTo text (max 0 room)

/-- The cut of `_enforce_token_budget`. -/
def tokenCut (countText : String → ℤ) (room : ℤ) (text : String) : String :=
  sliceTo text (bestPrefix (fun n => decide (countText (sliceTo text n) ≤ room)) 0 text.length 0)

theorem enforceBudget_eq (maxChars : ℤ) (facts : List Fact) (summary : Option Summary)
    (recent : List LoggedTurn) :
    enforceBudget maxChars facts summary recent =
      charMeasure.pack maxChars charCut facts summary recent := rfl

theorem enforceTokenBudget_eq (maxTokens : ℤ) (countText : String → ℤ) (facts : List Fact)
    (summary : Option Summary) (recent : List LoggedTurn) :
    enforceTokenBudget maxTokens countText facts summary recent =
      (tokenMeasure countText).pack maxTokens (tokenCut countText) facts summary recent := rfl

theorem charCut_length {room : ℤ} {text : String} (hroom : 0 < room) (hlong : room < text.length) :
    ((charCut room text).length : ℤ) = room := by
  unfold charCut
  have hnat : max 0 room = (room.toNat : ℤ) := by omega
  rw [hnat, sliceTo_length]
  omega

theorem charCut_fits : charMeasure.CutFits charCut := by
  intro room text hroom hlong
  constructor
  · unfold charCut
    have hnat : max 0 room = (room.toNat : ℤ) := by omega
    rw [hnat]
    exact prefix_sliceTo text room.toNat
  · exact (charCut_length hroom hlong).le

variable {countText : String → ℤ}

theorem tokenCut_fits : (tokenMeasure countText).CutFits (tokenCut countText) := by
  intro room text hroom hlong
  refine ⟨prefix_sliceTo text _, ?_⟩
  change (if tokenCut countText room text = "" then 0 else countText (tokenCut countText room text))
    ≤ room
  split
  · exact hroom.le
  · rename_i hne
    rcases bestPrefix_fits (fun n => decide (countText (sliceTo text n) ≤ room)) 0 text.length 0
      with h | h
    · -- nothing was found to fit: the text is empty
      exfalso
      apply hne
      unfold tokenCut
      rw [h]
      unfold sliceTo
      simp
    · exact of_decide_eq_true h

/-- A counter that counts no less for a longer prefix. -/
def PrefixMonotone (countText : String → ℤ) : Prop :=
  ∀ text whole : String, text.toList <+: whole.toList → countText text ≤ countText whole

theorem tokenCut_longest (hmono : PrefixMonotone countText) {room : ℤ} {whole : String}
    (hroom : 0 < room) (hlong : room < (tokenMeasure countText).textSize whole) {text : String}
    (hpre : text.toList <+: whole.toList)
    (hfits : (tokenMeasure countText).textSize text ≤ room) :
    text.length ≤ (tokenCut countText room whole).length := by
  have hwhole : room < countText whole := by
    change room < (if whole = "" then 0 else countText whole) at hlong
    split at hlong
    · omega
    · exact hlong
  change (if text = "" then 0 else countText text) ≤ room at hfits
  unfold tokenCut
  rw [sliceTo_length]
  have hlen : text.length ≤ whole.length := by
    rw [← String.length_toList, ← String.length_toList]
    exact hpre.length_le
  by_cases hempty : text = ""
  · rw [hempty]
    exact Nat.zero_le _
  · rw [if_neg hempty] at hfits
    have hslice := eq_sliceTo hpre
    rw [hslice] at hfits
    have hle := bestPrefix_greatest (fun n => decide (countText (sliceTo whole n) ≤ room)) ?_ 0
      whole.length 0 le_rfl ?_ ?_ text.length (decide_eq_true hfits)
    · exact le_min hle hlen
    · -- a shorter slice is a prefix of a longer one
      intro k n hkn hn
      apply decide_eq_true
      refine le_trans (hmono _ _ ?_) (of_decide_eq_true hn)
      unfold sliceTo
      rw [if_pos (by omega), if_pos (by omega), String.toList_ofList, String.toList_ofList,
        Int.toNat_natCast, Int.toNat_natCast]
      exact List.take_prefix_take_left hkn
    · intro n hn
      omega
    · intro n hn
      by_contra hlt
      have hfit := of_decide_eq_true hn
      have hall : sliceTo whole n = whole := by
        unfold sliceTo
        rw [if_pos (by omega), Int.toNat_natCast, List.take_of_length_le, String.ofList_toList]
        rw [String.length_toList]
        omega
      rw [hall] at hfit
      omega

/-! ## The two functions -/

/-- **Both functions pack every context under every budget, and keep the longest prefix of the
summary that fits**, the token variant when its counter is monotone. -/
theorem budgets_enforced (facts : List Fact) (summary : Option Summary)
    (recent : List LoggedTurn) (budget : ℤ) (hbudget : 0 ≤ budget) :
    (Packs estimateChars budget facts summary recent
        (enforceBudget budget facts summary recent) ∧
      KeepsLongest estimateChars budget facts summary
        (enforceBudget budget facts summary recent)) ∧
    ∀ countText : String → ℤ,
      Packs (currentTotal countText) budget facts summary recent
        (enforceTokenBudget budget countText facts summary recent) ∧
      (PrefixMonotone countText → KeepsLongest (currentTotal countText) budget facts summary
        (enforceTokenBudget budget countText facts summary recent)) := by
  refine ⟨⟨?_, ?_⟩, fun countText => ⟨?_, ?_⟩⟩
  · rw [enforceBudget_eq]
    exact Measure.pack_packs charCut_fits hbudget
  · rw [enforceBudget_eq]
    apply Measure.pack_keepsLongest
    intro room whole hroom hlong text _ hfits
    have hlength := charCut_length hroom hlong
    have hfits' : (text.length : ℤ) ≤ room := hfits
    omega
  · rw [enforceTokenBudget_eq]
    exact Measure.pack_packs tokenCut_fits hbudget
  · intro hmono
    rw [enforceTokenBudget_eq]
    apply Measure.pack_keepsLongest
    intro room whole hroom hlong text hpre hfits
    exact tokenCut_longest hmono hroom hlong hpre hfits

theorem prefixMonotone_length : PrefixMonotone (fun text => (text.length : ℤ)) := by
  intro text whole h
  have hle := h.length_le
  rw [String.length_toList, String.length_toList] at hle
  simp only
  exact_mod_cast hle

/-- A token for each character: one turn goes, and the summary is cut to five. -/
theorem budgets_enforced_letters :
    Packs (currentTotal (fun text => (text.length : ℤ))) 12 [⟨"k", "v"⟩]
      (some ⟨"s", "a long text", none, 1, none, []⟩) [⟨"t", .user, "hi", 0, none⟩]
      (enforceTokenBudget 12 (fun text => (text.length : ℤ)) [⟨"k", "v"⟩]
        (some ⟨"s", "a long text", none, 1, none, []⟩) [⟨"t", .user, "hi", 0, none⟩]) ∧
    KeepsLongest (currentTotal (fun text => (text.length : ℤ))) 12 [⟨"k", "v"⟩]
      (some ⟨"s", "a long text", none, 1, none, []⟩)
      (enforceTokenBudget 12 (fun text => (text.length : ℤ)) [⟨"k", "v"⟩]
        (some ⟨"s", "a long text", none, 1, none, []⟩) [⟨"t", .user, "hi", 0, none⟩]) := by
  obtain ⟨hpacks, hlongest⟩ := (budgets_enforced [⟨"k", "v"⟩]
    (some ⟨"s", "a long text", none, 1, none, []⟩) [⟨"t", .user, "hi", 0, none⟩] 12
    (by decide)).2 (fun text => (text.length : ℤ))
  exact ⟨hpacks, hlongest prefixMonotone_length⟩

end ModelMeld
