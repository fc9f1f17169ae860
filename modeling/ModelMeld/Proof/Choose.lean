import ModelMeld.Proof.Registry

/-!
# Which provider tier a policy alias reaches

When the chosen provider stays inside the tier its alias names, and outside the
providers a request excludes.

* `saver_oss_iff`: SAVER and the OSS ceiling;
* `auto_oss_iff`: AUTO without an escalation signal;
* `excluded_iff`: exclusions under every alias.
-/

namespace ModelMeld

open Ranking

namespace CapabilityScout

variable {s : CapabilityScout} {request : ChatCompletionRequest} {hints : Option RoutingHints}
  {availableFrontier eligible : Option (Finset String)}

theorem preferred_toLex_zero (key : ModelEntry → ℚ) (l : List ModelEntry) (a b : ModelEntry) :
    Preferred (fun e => toLex (key e, (0 : ℚ))) l a b ↔ Preferred key l a b := by
  unfold Preferred
  simp [Prod.Lex.toLex_lt_toLex]

theorem provider_of_mem_pool {e : ModelEntry} (h : e ∈ s.pool request hints eligible) :
    providerEligible eligible e.provider = true := by
  have hp := (ModelRegistry.mem_candidates.1 h).2
  unfold ModelEntry.passes at hp
  simp only [Bool.and_eq_true] at hp
  exact hp.1.1.1.2

theorem mem_pool_of_mem_finalPool {e : ModelEntry}
    (h : e ∈ s.finalPool request hints eligible) : e ∈ s.pool request hints eligible := by
  unfold finalPool at h
  simp only at h
  split at h
  · exact List.mem_of_mem_filter h
  · exact h

theorem finalPool_eq_pool (h : ¬ floorApplies s request hints) :
    s.finalPool request hints eligible = s.pool request hints eligible := by
  unfold finalPool
  simp [h]

theorem preferenceKey_eq (h : ¬ capabilityFirst s request hints) :
    s.preferenceKey request hints eligible =
      fun e => toLex (s.registry.rankKey (s.rankArgs request hints eligible) e, (0 : ℚ)) := by
  funext e
  exact if_neg h

theorem not_floorApplies {p : ModelMeldPolicy} (hpol : resolvePolicy request.model = some p)
    (hp : p ≠ .auto) : ¬ floorApplies s request hints := by
  rintro ⟨h, -⟩
  rw [hpol, Option.some.injEq] at h
  exact hp h

theorem not_capabilityFirst {p : ModelMeldPolicy} (hpol : resolvePolicy request.model = some p)
    (hp : p ≠ .quality) : ¬ capabilityFirst s request hints := by
  rintro ⟨h, -⟩
  rw [hpol, Option.some.injEq] at h
  exact hp h

theorem ok_of_provider {ε : Type} {x : Except ε CapabilityDecision} {p : String}
    (h : x.toOption.map CapabilityDecision.chosenProvider = some p) :
    ∃ d, x = .ok d ∧ d.chosenProvider = p := by
  cases x with
  | error e => cases h
  | ok d => exact ⟨d, rfl, Option.some.inj h⟩

/-! ## A small configuration, for concrete runs -/

/-- The scout's parts as they answer for a one-word prompt, with or without tools that take no
parameters. -/
def plainParts : ScoutParts where
  classify r :=
    if r.hasTools then
      { category := "tool_use", confidence := 1, rationale := "tools_declared"
        perCategoryScores := [("tool_use", 1)] }
    else
      { category := "simple_qa", confidence := 0, rationale := "no_signals"
        perCategoryScores := [("coding", 0), ("reasoning", 0), ("simple_qa", 0),
          ("summarization", 0), ("tool_use", 0)] }
  identify _ := { tool := .unknown, confidence := 0 }
  difficulty _ category :=
    { escalate := false, rationale := "category=" ++ category ++ ":not_escalatable" }
  lower s := String.ofList (s.toList.map Char.toLower)
  reprFloat q := if (q * 10).isInt then fixed q 1 else fixed q 2
  reprStr s := "'" ++ s ++ "'"
  parametersChars
    | none => 4
    | some _ => 2

/-- A row with one price for input and output, a score for simple questions and a slug. -/
def qaRow (modelId provider slug : String) (cost score : ℚ) : ModelEntry where
  modelId := modelId
  provider := provider
  contextWindow := 128000
  costPerMInput := cost
  costPerMOutput := cost
  taskScores := .ofPairs [("simple_qa", score)]
  providerModelId := slug

/-- A scout over the rows of a multi-provider registry. -/
def plainScout (rows : List ModelEntry) : CapabilityScout where
  registry := { entries := rows, multiProvider := true }
  parts := plainParts

/-- A scout over an OSS row of the given cost between two frontier rows, of cost 1 and 3. -/
def mixedScout (ossCost : ℚ) : CapabilityScout :=
  plainScout [qaRow "gpt-5-mini" "openai" "" 1 (9 / 10),
    qaRow "qwen3-coder" "vllm" "" ossCost (8 / 10),
    qaRow "claude-haiku" "anthropic" "" 3 (9 / 10)]

/-- A one-word request for a model or an alias. -/
def plainRequest (model : String) : ChatCompletionRequest where
  model := model
  messages := [.user { content := .str "hi" }]

/-! ## SAVER -/

theorem saver_rankKey (hpol : resolvePolicy request.model = some .saver) :
    s.registry.rankKey (s.rankArgs request hints eligible) = ModelEntry.blendedCostPerM := by
  apply ModelRegistry.rankKey_eq_cost
  simp [rankArgs, usesLatency, hpol]

/-- With no threshold hint, SAVER ranks rows of OSS providers only. -/
theorem saver_pool_oss (hpol : resolvePolicy request.model = some .saver)
    (hth : noThresholdHint hints = true) {e : ModelEntry}
    (h : e ∈ s.pool request hints (s.finalEligible request hints availableFrontier eligible)) :
    e.provider ∈ ossProviders := by
  have hp := provider_of_mem_pool h
  unfold finalEligible policyEligible applyPolicy at hp
  rw [if_pos hth, hpol] at hp
  cases eligible with
  | none => simpa [providerEligible] using hp
  | some ps =>
    simp only [providerEligible, decide_eq_true_eq, Finset.mem_inter] at hp
    exact hp.2

/-- **SAVER keeps to OSS providers exactly when no threshold hint is given, or every admitted row
of another provider is beaten on cost by an admitted OSS row.** -/
theorem saver_oss_iff (s : CapabilityScout) (request : ChatCompletionRequest)
    (hints : Option RoutingHints) (availableFrontier : Option (Finset String))
    (hpol : resolvePolicy request.model = some .saver) (hpin : pin hints = none) :
    (∀ d, s.choose request hints availableFrontier = .ok d → d.chosenProvider ∈ ossProviders) ↔
      (noThresholdHint hints = true ∨
        ∀ eligible, s.hintedEligible hints = some eligible →
          ∀ b ∈ s.pool request hints eligible, b.provider ∉ ossProviders →
            ∃ a ∈ s.pool request hints eligible, a.provider ∈ ossProviders ∧
              Preferred ModelEntry.blendedCostPerM (s.pool request hints eligible) a b) := by
  rw [choose_provider_iff s request availableFrontier hpin (· ∈ ossProviders)]
  by_cases hth : noThresholdHint hints = true
  · simp only [hth, true_or, iff_true]
    intro eligible _ b hb hnot
    exact absurd (saver_pool_oss hpol hth (mem_pool_of_mem_finalPool hb)) hnot
  · -- the alias filter is skipped: the pool is the one the hints left
    have helig : ∀ eligible, s.finalEligible request hints availableFrontier eligible = eligible := by
      intro eligible
      unfold finalEligible policyEligible
      rw [if_neg hth]
    simp only [hth, Bool.false_eq_true, false_or, helig,
      finalPool_eq_pool (not_floorApplies hpol (by decide)),
      preferenceKey_eq (not_capabilityFirst hpol (by decide)), preferred_toLex_zero,
      saver_rankKey hpol]

theorem saver_oss_without_hints : ∃ d,
    (mixedScout 2).choose (plainRequest "anthropic/modelmeld-saver") none (some ∅) = .ok d ∧
      d.chosenProvider ∈ ossProviders := by
  obtain ⟨d, hd, -⟩ := ok_of_provider (x := (mixedScout 2).choose
    (plainRequest "anthropic/modelmeld-saver") none (some ∅)) (p := "vllm") (by decide +kernel)
  exact ⟨d, hd, (saver_oss_iff (mixedScout 2) _ none (some ∅) (by decide) rfl).2 (Or.inl rfl) d hd⟩

/-- A threshold hint lifts SAVER's ceiling: the cheaper frontier row is chosen. -/
theorem saver_not_oss_with_threshold_hint :
    resolvePolicy (plainRequest "anthropic/modelmeld-saver").model = some .saver ∧
      pin (some { qualityThreshold := some (7 / 10) }) = none ∧
      ¬ ∀ d, (mixedScout 2).choose (plainRequest "anthropic/modelmeld-saver")
        (some { qualityThreshold := some (7 / 10) }) (some {"openai"}) = .ok d →
          d.chosenProvider ∈ ossProviders := by
  refine ⟨by decide, rfl, ?_⟩
  intro h
  obtain ⟨d, hd, hprov⟩ := ok_of_provider (x := (mixedScout 2).choose
    (plainRequest "anthropic/modelmeld-saver") (some { qualityThreshold := some (7 / 10) })
    (some {"openai"})) (p := "openai") (by decide +kernel)
  have hoss := h d hd
  rw [hprov] at hoss
  exact absurd hoss (by decide)

/-! ## AUTO -/

/-- No escalation signal, spelled out: the detector in use says no, and the input is below the
large-context threshold, when there is one. -/
structure NoEscalationSignal (s : CapabilityScout) (request : ChatCompletionRequest)
    (category : String) : Prop where
  difficulty : s.settings.difficultyRoutingEnabled = true →
    (s.parts.difficulty request category).escalate = false
  markers : s.settings.difficultyRoutingEnabled = false →
    detectReasoningMarkers s.parts.lower s.settings.reasoningMarkers (extractUserText request) < 2
  context : 0 < s.settings.largeContextThreshold →
    estimatedInputTokens s.parts request < s.settings.largeContextThreshold

theorem autoEscalation_eq_false {category : String} (h : NoEscalationSignal s request category) :
    (s.autoEscalation request category).1 = false := by
  have hctx : ¬ (0 < s.settings.largeContextThreshold ∧
      s.settings.largeContextThreshold ≤ estimatedInputTokens s.parts request) := by
    rintro ⟨hpos, hle⟩
    exact absurd (h.context hpos) (not_lt.2 hle)
  unfold autoEscalation
  simp only
  rw [if_neg hctx]
  cases hd : s.settings.difficultyRoutingEnabled with
  | true => simpa using h.difficulty hd
  | false =>
    have hm := h.markers hd
    exact decide_eq_false (not_le.2 hm)

/-- Without a signal AUTO leaves the operator's provider set as it is. -/
theorem auto_finalEligible (hpol : resolvePolicy request.model = some .auto)
    (hsig : NoEscalationSignal s request (s.resolveCategory request hints).1) :
    s.finalEligible request hints availableFrontier eligible = eligible := by
  unfold finalEligible policyEligible applyPolicy
  rw [hpol]
  by_cases hth : noThresholdHint hints = true
  · simp [hth, autoEscalation_eq_false hsig]
  · simp [hth]

/-- A row of an eligible OSS provider that meets the category threshold, the context and the tool
requirement. -/
structure OssRowMeets (s : CapabilityScout) (request : ChatCompletionRequest) (e : ModelEntry) :
    Prop where
  oss : e.provider ∈ ossProviders
  eligible : providerEligible s.eligibleProviders e.provider = true
  threshold : e.meetsThreshold (s.resolveCategory request none).1
    (s.biasedThreshold request none).1 = true
  context : requiredContextWindow s.parts request ≤ e.contextWindow
  tools : request.hasTools = true → e.supportsTools = true

/-- **An AUTO request without an escalation signal and without hints, for which some OSS row
qualifies, is served by an OSS provider exactly when the rows left to rank are not all gone and
every one of another provider is beaten on latency-adjusted cost by an OSS row.** -/
theorem auto_oss_iff (s : CapabilityScout) (request : ChatCompletionRequest)
    (availableFrontier : Option (Finset String))
    (hpol : resolvePolicy request.model = some .auto)
    (hsig : NoEscalationSignal s request (s.resolveCategory request none).1) :
    ((∃ e ∈ s.registry.rows, OssRowMeets s request e) →
        ∃ d, s.choose request none availableFrontier = .ok d ∧ d.chosenProvider ∈ ossProviders) ↔
      ((∃ e ∈ s.registry.rows, OssRowMeets s request e) →
        s.finalPool request none s.eligibleProviders ≠ [] ∧
        ∀ b ∈ s.finalPool request none s.eligibleProviders, b.provider ∉ ossProviders →
          ∃ a ∈ s.finalPool request none s.eligibleProviders, a.provider ∈ ossProviders ∧
            Preferred (s.registry.rankKey (s.rankArgs request none s.eligibleProviders))
              (s.finalPool request none s.eligibleProviders) a b) := by
  have hel : s.hintedEligible none = some s.eligibleProviders := rfl
  have hok := choose_isOk_iff request availableFrontier (rfl : pin none = none) hel
  have hQ := choose_provider_iff s request availableFrontier (rfl : pin none = none)
    (· ∈ ossProviders)
  -- without an escalation the policy leaves the providers as they are
  rw [auto_finalEligible hpol hsig] at hok
  simp only [hel, Option.some.injEq, forall_eq', auto_finalEligible hpol hsig,
    preferenceKey_eq (not_capabilityFirst hpol (by decide)), preferred_toLex_zero] at hQ
  refine imp_congr_right (fun _ => ?_)
  rw [← hok, ← hQ]
  constructor
  · rintro ⟨d, hd, hoss⟩
    refine ⟨⟨d, hd⟩, ?_⟩
    intro d' hd'
    rw [hd] at hd'
    cases hd'
    exact hoss
  · rintro ⟨⟨d, hd⟩, hall⟩
    exact ⟨d, hd, hall d hd⟩

theorem plainRequest_noEscalation (ossCost : ℚ) :
    NoEscalationSignal (mixedScout ossCost) (plainRequest "anthropic/modelmeld-auto")
      ((mixedScout ossCost).resolveCategory (plainRequest "anthropic/modelmeld-auto") none).1 where
  difficulty h := by cases h
  markers _ := by
    change detectReasoningMarkers plainParts.lower ({} : PolicySettings).reasoningMarkers
      (extractUserText (plainRequest "anthropic/modelmeld-auto")) < 2
    decide
  context _ := by
    change estimatedInputTokens plainParts (plainRequest "anthropic/modelmeld-auto") <
      ({} : PolicySettings).largeContextThreshold
    decide

theorem auto_oss_when_cheapest :
    ∃ d, (mixedScout (1 / 2)).choose (plainRequest "anthropic/modelmeld-auto") none
      (some {"openai"}) = .ok d ∧ d.chosenProvider ∈ ossProviders := by
  refine (auto_oss_iff (mixedScout (1 / 2)) _ _ (by decide) (plainRequest_noEscalation _)).2 ?_ ?_
  · intro _
    decide +kernel
  · exact ⟨qaRow "qwen3-coder" "vllm" "" (1 / 2) (8 / 10), by decide +kernel, by decide, rfl,
      by decide +kernel, by decide +kernel, by decide⟩

/-- AUTO without any signal goes to the cheaper frontier row although an OSS row qualifies. -/
theorem auto_not_oss_when_dearer :
    resolvePolicy (plainRequest "anthropic/modelmeld-auto").model = some .auto ∧
      NoEscalationSignal (mixedScout 2) (plainRequest "anthropic/modelmeld-auto")
        ((mixedScout 2).resolveCategory (plainRequest "anthropic/modelmeld-auto") none).1 ∧
      ¬ ((∃ e ∈ (mixedScout 2).registry.rows,
          OssRowMeets (mixedScout 2) (plainRequest "anthropic/modelmeld-auto") e) →
        ∃ d, (mixedScout 2).choose (plainRequest "anthropic/modelmeld-auto") none
          (some {"openai"}) = .ok d ∧ d.chosenProvider ∈ ossProviders) := by
  refine ⟨by decide, plainRequest_noEscalation 2, ?_⟩
  intro h
  obtain ⟨d, hd, hoss⟩ := h ⟨qaRow "qwen3-coder" "vllm" "" 2 (8 / 10), by decide +kernel,
    by decide, rfl, by decide +kernel, by decide +kernel, by decide⟩
  obtain ⟨d', hd', hprov⟩ := ok_of_provider (x := (mixedScout 2).choose
    (plainRequest "anthropic/modelmeld-auto") none (some {"openai"})) (p := "openai")
    (by decide +kernel)
  rw [hd] at hd'
  cases hd'
  rw [hprov] at hoss
  exact absurd hoss (by decide)

/-! ## Exclusions -/

/-- The alias policy replaces the eligible set by the reachable frontier providers. -/
def ReplacesEligible (s : CapabilityScout) (request : ChatCompletionRequest)
    (hints : Option RoutingHints) (availableFrontier : Option (Finset String)) : Prop :=
  noThresholdHint hints = true ∧
    ((resolvePolicy request.model = some .auto ∧
        (s.autoEscalation request (s.resolveCategory request hints).1).1 = true ∧
        reachableFrontier availableFrontier ≠ ∅) ∨
      (resolvePolicy request.model = some .quality ∧ isAutocompleteShape request = false))

/-- A set that is not replaced only shrinks. -/
theorem finalEligible_sub (h : ¬ ReplacesEligible s request hints availableFrontier)
    {provider : String}
    (hp : providerEligible (s.finalEligible request hints availableFrontier eligible) provider = true) :
    providerEligible eligible provider = true := by
  unfold finalEligible policyEligible at hp
  by_cases hth : noThresholdHint hints = true
  · rw [if_pos hth] at hp
    unfold applyPolicy at hp
    cases hpol : resolvePolicy request.model with
    | none => rw [hpol] at hp; exact hp
    | some p =>
      rw [hpol] at hp
      cases p with
      | saver =>
        cases eligible with
        | none => rfl
        | some ps =>
          simp only [providerEligible, decide_eq_true_eq, Finset.mem_inter] at hp ⊢
          exact hp.1
      | auto =>
        simp only at hp
        by_cases hesc : (s.autoEscalation request (s.resolveCategory request hints).1).1 = true
        · -- an escalation that reaches a frontier provider replaces them
          by_cases hfr : reachableFrontier availableFrontier = ∅
          · simpa [hesc, hfr] using hp
          · exact absurd ⟨hth, Or.inl ⟨hpol, hesc, hfr⟩⟩ h
        · simpa [hesc] using hp
      | quality =>
        simp only at hp
        by_cases hshape : isAutocompleteShape request = true
        · simpa [hshape] using hp
        · exact absurd ⟨hth, Or.inr ⟨hpol, by simpa using hshape⟩⟩ h
  · rwa [if_neg hth] at hp

/-- The set after the hints has no excluded provider. -/
theorem hintedEligible_not_excluded (he : s.hintedEligible hints = some eligible)
    {provider : String} (hp : providerEligible eligible provider = true)
    (hex : provider ∈ excludedProviders hints) : False := by
  unfold hintedEligible at he
  simp only at he
  by_cases h0 : excludedProviders hints = ∅
  · rw [h0] at hex; simp at hex
  · rw [if_neg h0] at he
    split at he
    · cases he
    · cases he
      simp only [providerEligible, decide_eq_true_eq, Finset.mem_sdiff] at hp
      exact hp.2 hex

/-- **Excluded providers stay excluded exactly when the alias policy does not replace the eligible
set, or every excluded row of the frontier set it puts there is beaten by one that is not
excluded.** -/
theorem excluded_iff (s : CapabilityScout) (request : ChatCompletionRequest)
    (hints : Option RoutingHints) (availableFrontier : Option (Finset String))
    (hpin : pin hints = none) :
    (∀ d, s.choose request hints availableFrontier = .ok d →
        d.chosenProvider ∉ excludedProviders hints) ↔
      (ReplacesEligible s request hints availableFrontier →
        s.hintedEligible hints ≠ none →
        let frontier := some (reachableFrontier availableFrontier)
        let pool := s.finalPool request hints frontier
        ∀ b ∈ pool, b.provider ∈ excludedProviders hints →
          ∃ a ∈ pool, a.provider ∉ excludedProviders hints ∧
            Preferred (s.preferenceKey request hints frontier) pool a b) := by
  rw [choose_provider_iff s request availableFrontier hpin (· ∉ excludedProviders hints)]
  by_cases hrep : ReplacesEligible s request hints availableFrontier
  · have hfin : ∀ eligible, s.finalEligible request hints availableFrontier eligible =
        some (reachableFrontier availableFrontier) := by
      intro eligible
      -- auto that escalates, or quality on a request that is no autocomplete
      obtain ⟨hth, ⟨hpol, hesc, hfr⟩ | ⟨hpol, hshape⟩⟩ := hrep
      · simp [finalEligible, policyEligible, applyPolicy, hth, hpol, hesc, hfr]
      · simp [finalEligible, policyEligible, applyPolicy, hth, hpol, hshape]
    simp only [hfin, not_not, hrep, true_implies]
    constructor
    · intro h hne
      cases he : s.hintedEligible hints with
      | none => exact absurd he hne
      | some eligible => exact h eligible he
    · intro h eligible he
      exact h (by rw [he]; simp)
  · simp only [hrep, false_implies, iff_true]
    -- the providers that are left are among those the hints allow
    intro eligible he b hb hnot
    have hp := finalEligible_sub hrep (provider_of_mem_pool (mem_pool_of_mem_finalPool hb))
    exact absurd (hintedEligible_not_excluded he hp (not_not.1 hnot)) id

theorem excluded_under_saver : ∃ d,
    (mixedScout 2).choose (plainRequest "anthropic/modelmeld-saver")
        (some { excludedProviders := some {"openai"} }) (some {"openai"}) = .ok d ∧
      d.chosenProvider ∉ excludedProviders (some { excludedProviders := some {"openai"} }) := by
  obtain ⟨d, hd, -⟩ := ok_of_provider (x := (mixedScout 2).choose
    (plainRequest "anthropic/modelmeld-saver") (some { excludedProviders := some {"openai"} })
    (some {"openai"})) (p := "vllm") (by decide +kernel)
  refine ⟨d, hd, (excluded_iff (mixedScout 2) _ _ (some {"openai"}) rfl).2 ?_ d hd⟩
  rintro ⟨-, ⟨hpol, -⟩ | ⟨hpol, -⟩⟩
  · exact absurd hpol (by decide)
  · exact absurd hpol (by decide)

/-- QUALITY brings an excluded frontier provider back. -/
theorem quality_chooses_excluded :
    pin (some { excludedProviders := some {"openai"} }) = none ∧
      ¬ ∀ d, (mixedScout 2).choose (plainRequest "anthropic/modelmeld-quality")
        (some { excludedProviders := some {"openai"} }) (some {"openai", "anthropic"}) = .ok d →
          d.chosenProvider ∉ excludedProviders (some { excludedProviders := some {"openai"} }) := by
  refine ⟨rfl, ?_⟩
  intro h
  obtain ⟨d, hd, hprov⟩ := ok_of_provider (x := (mixedScout 2).choose
    (plainRequest "anthropic/modelmeld-quality")
    (some { excludedProviders := some {"openai"} }) (some {"openai", "anthropic"}))
    (p := "openai") (by decide +kernel)
  refine h d hd ?_
  rw [hprov]
  decide

end CapabilityScout

end ModelMeld
