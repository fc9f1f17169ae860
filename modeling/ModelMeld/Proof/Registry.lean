import ModelMeld.Spec.Scout

/-!
# What `rank` and `choose` return

`rank_eq`: the ranking is the passing rows, stably sorted by one key.
`head?_rankedCandidates`: the first row after the QUALITY re-rank and the AUTO
restriction is the leftmost minimiser of `preferenceKey` in `finalPool`.
`choose_provider_iff`: when the chosen provider has a given property.
-/

namespace ModelMeld

open Ranking

/-! ## `rank` -/

/-- The key `_sort_latency_adjusted` sorts by, in all its branches. -/
def latencyKey (result : List (ModelEntry × ℚ)) (latencyWeight : ℚ)
    (refInputTokens refOutputTokens : ℤ) (pair : ModelEntry × ℚ) : ℚ :=
  let measured := measuredLatencies result refInputTokens refOutputTokens
  if latencyWeight ≤ 0 ∨ measured = [] then pair.2
  else effectiveCost latencyWeight (median measured) refInputTokens refOutputTokens pair

theorem sortLatencyAdjusted_eq (result : List (ModelEntry × ℚ)) (w : ℚ) (i o : ℤ) :
    sortLatencyAdjusted result w i o = sortedBy (latencyKey result w i o) result := by
  unfold sortLatencyAdjusted latencyKey
  by_cases hw : w ≤ 0
  · simp [hw]
  · by_cases hr : result = []
    · subst hr; simp [sortedBy]
    · by_cases hm : measuredLatencies result i o = []
      · simp [hw, hr, hm]
      · simp [hw, hr, hm]

namespace ModelRegistry

/-- The candidates of `rank` with their blended costs, in registry order. -/
def priced (r : ModelRegistry) (args : RankArgs) : List (ModelEntry × ℚ) :=
  (r.candidates args).map (fun e => (e, e.blendedCostPerM))

/-- The key of a row in `rank`. -/
def rankKey (r : ModelRegistry) (args : RankArgs) (e : ModelEntry) : ℚ :=
  latencyKey (r.priced args) args.latencyWeight args.latencyRefInputTokens
    args.latencyRefOutputTokens (e, e.blendedCostPerM)

/-- **The ranking is the passing rows, stably sorted by one key, with their costs.** -/
theorem rank_eq (r : ModelRegistry) (args : RankArgs) :
    r.rank args =
      (sortedBy (r.rankKey args) (r.candidates args)).map (fun e => (e, e.blendedCostPerM)) := by
  unfold rank
  rw [sortLatencyAdjusted_eq, sortedBy_map]
  rfl

theorem rankKey_eq_cost (r : ModelRegistry) {args : RankArgs} (h : args.latencyWeight = 0) :
    r.rankKey args = ModelEntry.blendedCostPerM := by
  funext e
  unfold rankKey latencyKey
  simp [h]

theorem mem_candidates {r : ModelRegistry} {args : RankArgs} {e : ModelEntry} :
    e ∈ r.candidates args ↔ e ∈ r.rows ∧ e.passes args = true :=
  List.mem_filter

/-- `get` answers with a row of the id asked for. -/
theorem modelId_of_get {r : ModelRegistry} {m : String} {e : ModelEntry} (h : r.get m = some e) :
    e.modelId = m ∧ e ∈ r.entries := by
  rw [get, byId, OrderedDict.get?_ofPairs] at h
  have hm := OrderedDict.mem_of_lookup h
  rw [List.mem_reverse, List.mem_map] at hm
  obtain ⟨e', he', heq⟩ := hm
  cases heq; exact ⟨rfl, he'⟩

/-- Every row's id resolves. -/
theorem get_isSome {r : ModelRegistry} {e : ModelEntry} (h : e ∈ r.entries) :
    ∃ e', r.get e.modelId = some e' := by
  cases hg : r.get e.modelId with
  | some e' => exact ⟨e', rfl⟩
  | none =>
    rw [get, byId, OrderedDict.get?_ofPairs, List.lookup_eq_none_iff] at hg
    have := hg (e.modelId, e) (List.mem_reverse.2 (List.mem_map_of_mem h))
    simp at this

end ModelRegistry

/-! ## The ranked candidates of a request -/

namespace CapabilityScout

variable {s : CapabilityScout} {request : ChatCompletionRequest} {hints : Option RoutingHints}
  {eligible : Option (Finset String)}

/-- The rows `rank` returns for a request, in registry order. -/
def pool (s : CapabilityScout) (request : ChatCompletionRequest) (hints : Option RoutingHints)
    (eligible : Option (Finset String)) : List ModelEntry :=
  s.registry.candidates (s.rankArgs request hints eligible)

/-- AUTO's reliability floor applies to this request. -/
def floorApplies (s : CapabilityScout) (request : ChatCompletionRequest)
    (hints : Option RoutingHints) : Prop :=
  resolvePolicy request.model = some .auto ∧
    isAgenticRoute (s.resolveCategory request hints).1 = true ∧
    0 < s.settings.agenticReliabilityFloor

instance : Decidable (floorApplies s request hints) := by unfold floorApplies; infer_instance

/-- The rows left after AUTO's restriction to measured-reliable rows, in registry order. -/
def finalPool (s : CapabilityScout) (request : ChatCompletionRequest)
    (hints : Option RoutingHints) (eligible : Option (Finset String)) : List ModelEntry :=
  let pool := s.pool request hints eligible
  let kept := pool.filter (reliable s.settings.agenticReliabilityFloor)
  if floorApplies s request hints ∧ kept ≠ [] then kept else pool

/-- The QUALITY re-rank applies to this request. -/
def capabilityFirst (s : CapabilityScout) (request : ChatCompletionRequest)
    (hints : Option RoutingHints) : Prop :=
  resolvePolicy request.model = some .quality ∧
    isAgenticRoute (s.resolveCategory request hints).1 = true

instance : Decidable (capabilityFirst s request hints) := by
  unfold capabilityFirst; infer_instance

/-- The key the chosen row minimises: capability then cost for QUALITY on agentic work, the key
of `rank` otherwise. -/
def preferenceKey (s : CapabilityScout) (request : ChatCompletionRequest)
    (hints : Option RoutingHints) (eligible : Option (Finset String)) (e : ModelEntry) :
    ℚ ×ₗ ℚ :=
  if capabilityFirst s request hints then
    toLex (-capability (s.resolveCategory request hints).1 e, e.blendedCostPerM)
  else toLex (s.registry.rankKey (s.rankArgs request hints eligible) e, 0)

theorem sortedBy_toLex_zero (key : ModelEntry → ℚ) (l : List ModelEntry) :
    sortedBy (fun e => toLex (key e, (0 : ℚ))) l = sortedBy key l := by
  unfold sortedBy
  congr 1
  funext a b
  simp [Prod.Lex.toLex_le_toLex, le_iff_lt_or_eq (a := key a)]

theorem qualityRerank_rows (policy : Option ModelMeldPolicy) (category : String)
    (ranked : List (ModelEntry × ℚ)) :
    (qualityRerank policy category ranked).1 =
      if policy = some .quality ∧ isAgenticRoute category = true then
        sortedBy (fun pair => toLex (-capability category pair.1, pair.2)) ranked
      else ranked := by
  unfold qualityRerank
  split <;> rfl

theorem reliabilityRestrict_rows (policy : Option ModelMeldPolicy) (category : String)
    (ranked : List (ModelEntry × ℚ)) :
    (s.reliabilityRestrict policy category ranked).1 =
      if (policy = some .auto ∧ isAgenticRoute category = true ∧
          0 < s.settings.agenticReliabilityFloor) ∧
          ranked.filter (fun pair => reliable s.settings.agenticReliabilityFloor pair.1) ≠ [] then
        ranked.filter (fun pair => reliable s.settings.agenticReliabilityFloor pair.1)
      else ranked := by
  unfold reliabilityRestrict
  by_cases hp : policy = some .auto ∧ isAgenticRoute category = true ∧
      0 < s.settings.agenticReliabilityFloor
  · simp only [hp, and_self, if_true, true_and]
    by_cases hk : ranked.filter (fun pair => reliable s.settings.agenticReliabilityFloor pair.1) = []
    · simp [hk]
    · by_cases hl : (ranked.filter
          (fun pair => reliable s.settings.agenticReliabilityFloor pair.1)).length < ranked.length
      · simp [hk, hl]
      · -- nothing is dropped: the filter is the whole list
        have hall : ranked.filter
            (fun pair => reliable s.settings.agenticReliabilityFloor pair.1) = ranked :=
          List.filter_sublist.eq_of_length_le (not_lt.1 hl)
        simp [hall]
  · simp [hp]

/-- **The final ranked list is `finalPool` stably sorted by `preferenceKey`, with costs.** -/
theorem rankedCandidates_rows :
    (s.rankedCandidates request hints eligible).rows =
      (sortedBy (s.preferenceKey request hints eligible) (s.finalPool request hints eligible)).map
        (fun e => (e, e.blendedCostPerM)) := by
  have hrank := s.registry.rank_eq (s.rankArgs request hints eligible)
  have hrows : (s.rankedCandidates request hints eligible).rows =
      (s.reliabilityRestrict (resolvePolicy request.model) (s.resolveCategory request hints).1
        (qualityRerank (resolvePolicy request.model) (s.resolveCategory request hints).1
          (s.registry.rank (s.rankArgs request hints eligible))).1).1 := rfl
  rw [hrows, reliabilityRestrict_rows, qualityRerank_rows, hrank]
  by_cases hq : resolvePolicy request.model = some .quality ∧
      isAgenticRoute (s.resolveCategory request hints).1 = true
  · -- QUALITY on agentic work: no latency term, and no reliability floor
    have hpol := hq.1
    have hkey : s.preferenceKey request hints eligible = fun e =>
        toLex (-capability (s.resolveCategory request hints).1 e, e.blendedCostPerM) := by
      funext e; exact if_pos hq
    have hpool : s.finalPool request hints eligible = s.pool request hints eligible := by
      unfold finalPool floorApplies; simp [hpol]
    have hcost : s.registry.rankKey (s.rankArgs request hints eligible) =
        ModelEntry.blendedCostPerM := by
      apply ModelRegistry.rankKey_eq_cost
      simp [rankArgs, usesLatency, hpol]
    rw [if_neg (by simp [hpol]), if_pos hq, hkey, hpool, hcost, sortedBy_map]
    congr 1
    apply sortedBy_sortedBy
    intro a b hab
    exact congrArg (fun x => (ofLex x).2) hab
  · -- elsewhere the rank is by cost and latency, over the reliable rows if there are any
    have hkey : s.preferenceKey request hints eligible = fun e =>
        toLex (s.registry.rankKey (s.rankArgs request hints eligible) e, (0 : ℚ)) := by
      funext e; exact if_neg hq
    rw [if_neg hq, hkey, sortedBy_toLex_zero, List.filter_map]
    have hfilter := filter_sortedBy (s.registry.rankKey (s.rankArgs request hints eligible))
      (reliable s.settings.agenticReliabilityFloor) (s.pool request hints eligible)
    change (if floorApplies s request hints ∧
      ((sortedBy _ (s.pool request hints eligible)).filter
        (reliable s.settings.agenticReliabilityFloor)).map _ ≠ [] then _ else _) = _
    unfold finalPool
    by_cases hf : floorApplies s request hints ∧
        (s.pool request hints eligible).filter (reliable s.settings.agenticReliabilityFloor) ≠ []
    · rw [if_pos hf, if_pos]
      · exact congrArg _ hfilter
      · refine ⟨hf.1, ?_⟩
        rw [hfilter, ne_eq, List.map_eq_nil_iff, sortedBy_eq_nil_iff]
        exact hf.2
    · rw [if_neg hf, if_neg]
      · rfl
      · rw [hfilter, ne_eq, List.map_eq_nil_iff, sortedBy_eq_nil_iff]
        exact hf

/-! ## The decision -/

/-- The eligible set `rank` is called with, from the set after the hints. -/
def finalEligible (s : CapabilityScout) (request : ChatCompletionRequest)
    (hints : Option RoutingHints) (availableFrontier eligible : Option (Finset String)) :
    Option (Finset String) :=
  (s.policyEligible request hints availableFrontier eligible).1

variable {availableFrontier : Option (Finset String)}

variable (s request hints eligible) in
/-- The first ranked row is the leftmost minimiser of `preferenceKey` in `finalPool`. -/
theorem head?_rankedCandidates :
    (s.rankedCandidates request hints eligible).rows.head? =
      ((s.finalPool request hints eligible).argmin (s.preferenceKey request hints eligible)).map
        (fun e => (e, e.blendedCostPerM)) := by
  rw [rankedCandidates_rows, List.head?_map, head?_sortedBy]

/-- What an unpinned `choose` returns, by its ranked rows. -/
theorem choose_ok (hpin : pin hints = none) {d : CapabilityDecision}
    (h : s.choose request hints availableFrontier = .ok d) :
    ∃ eligible chosen rest, s.hintedEligible hints = some eligible ∧
      (s.rankedCandidates request hints
        (s.finalEligible request hints availableFrontier eligible)).rows = chosen :: rest ∧
      d.chosenModelId = chosen.1.modelId ∧ d.chosenProvider = chosen.1.provider ∧
      d.providerModelId = chosen.1.providerModelId ∧
      d.fallbackModelIds = (rest.take s.fallbackDepth).map (fun pair => pair.1.modelId) := by
  unfold choose at h
  rw [hpin] at h
  simp only at h
  cases he : s.hintedEligible hints with
  | none => rw [he] at h; cases h
  | some eligible =>
    rw [he] at h
    simp only at h
    cases hr : (s.rankedCandidates request hints
        (s.policyEligible request hints availableFrontier eligible).1).rows with
    | nil => rw [hr] at h; cases h
    | cons chosen rest =>
      rw [hr] at h
      cases h
      exact ⟨eligible, chosen, rest, rfl, hr, rfl, rfl, rfl, rfl⟩

theorem choose_of_rows (hpin : pin hints = none) {eligible : Option (Finset String)}
    (he : s.hintedEligible hints = some eligible) {chosen : ModelEntry × ℚ}
    {rest : List (ModelEntry × ℚ)}
    (hr : (s.rankedCandidates request hints
      (s.finalEligible request hints availableFrontier eligible)).rows = chosen :: rest) :
    ∃ d, s.choose request hints availableFrontier = .ok d ∧
      d.chosenModelId = chosen.1.modelId ∧ d.chosenProvider = chosen.1.provider := by
  have hr' : (s.rankedCandidates request hints
      (s.policyEligible request hints availableFrontier eligible).1).rows = chosen :: rest := hr
  refine ⟨s.decisionOf request hints (s.policyEligible request hints availableFrontier eligible).2
    (s.rankedCandidates request hints
      (s.policyEligible request hints availableFrontier eligible).1).notes chosen rest, ?_, rfl, rfl⟩
  unfold choose
  rw [hpin, he]
  simp only [hr']

/-- **The chosen row is the leftmost minimiser of the preference key in the final pool.** -/
theorem choose_argmin (hpin : pin hints = none) {d : CapabilityDecision}
    (h : s.choose request hints availableFrontier = .ok d) :
    ∃ eligible e, s.hintedEligible hints = some eligible ∧
      (s.finalPool request hints
        (s.finalEligible request hints availableFrontier eligible)).argmin
        (s.preferenceKey request hints
          (s.finalEligible request hints availableFrontier eligible)) = some e ∧
      d.chosenModelId = e.modelId ∧ d.chosenProvider = e.provider := by
  obtain ⟨eligible, chosen, rest, he, hr, hid, hprov, -⟩ := choose_ok hpin h
  have hhead := head?_rankedCandidates s request hints
    (s.finalEligible request hints availableFrontier eligible)
  rw [hr, List.head?_cons] at hhead
  obtain ⟨e, he', hpair⟩ := Option.map_eq_some_iff.1 hhead.symm
  subst hpair
  exact ⟨eligible, e, he, he', hid, hprov⟩

theorem choose_of_argmin (hpin : pin hints = none) {eligible : Option (Finset String)}
    (he : s.hintedEligible hints = some eligible) {e : ModelEntry}
    (hm : (s.finalPool request hints
      (s.finalEligible request hints availableFrontier eligible)).argmin
      (s.preferenceKey request hints
        (s.finalEligible request hints availableFrontier eligible)) = some e) :
    ∃ d, s.choose request hints availableFrontier = .ok d ∧
      d.chosenModelId = e.modelId ∧ d.chosenProvider = e.provider := by
  have hhead := head?_rankedCandidates s request hints
    (s.finalEligible request hints availableFrontier eligible)
  rw [hm, Option.map_some] at hhead
  cases hr : (s.rankedCandidates request hints
      (s.finalEligible request hints availableFrontier eligible)).rows with
  | nil => rw [hr] at hhead; cases hhead
  | cons chosen rest =>
    rw [hr, List.head?_cons, Option.some.injEq] at hhead
    subst hhead
    exact choose_of_rows hpin he hr

variable (request availableFrontier) in
/-- `choose` returns a decision exactly when the final pool is not empty. -/
theorem choose_isOk_iff (hpin : pin hints = none) {eligible : Option (Finset String)}
    (he : s.hintedEligible hints = some eligible) :
    (∃ d, s.choose request hints availableFrontier = .ok d) ↔
      s.finalPool request hints (s.finalEligible request hints availableFrontier eligible) ≠ [] := by
  constructor
  · rintro ⟨d, hd⟩ hnil
    obtain ⟨eligible', e, he', hm, -⟩ := choose_argmin hpin hd
    rw [he] at he'
    cases he'
    rw [hnil] at hm
    cases hm
  · intro hne
    cases hm : (s.finalPool request hints
        (s.finalEligible request hints availableFrontier eligible)).argmin
        (s.preferenceKey request hints
          (s.finalEligible request hints availableFrontier eligible)) with
    | none => exact absurd (List.argmin_eq_none.1 hm) hne
    | some e =>
      obtain ⟨d, hd, -⟩ := choose_of_argmin hpin he hm
      exact ⟨d, hd⟩

variable (s request availableFrontier) in
/-- **A property of the chosen provider holds exactly when every candidate without it is beaten
by a candidate with it.** -/
theorem choose_provider_iff (hpin : pin hints = none) (Q : String → Prop) :
    (∀ d, s.choose request hints availableFrontier = .ok d → Q d.chosenProvider) ↔
      ∀ eligible, s.hintedEligible hints = some eligible →
        let pool := s.finalPool request hints
          (s.finalEligible request hints availableFrontier eligible)
        ∀ b ∈ pool, ¬ Q b.provider → ∃ a ∈ pool, Q a.provider ∧
          Preferred (s.preferenceKey request hints
            (s.finalEligible request hints availableFrontier eligible)) pool a b := by
  constructor
  · intro h eligible he
    refine (argmin_all_iff _ _ (fun e : ModelEntry => Q e.provider)).1 ?_
    intro m hm
    obtain ⟨d, hd, -, hprov⟩ := choose_of_argmin hpin he hm
    rw [← hprov]
    exact h d hd
  · intro h d hd
    obtain ⟨eligible, e, he, hm, -, hprov⟩ := choose_argmin hpin hd
    rw [hprov]
    exact (argmin_all_iff _ _ (fun e : ModelEntry => Q e.provider)).2 (h eligible he) e hm

end CapabilityScout

end ModelMeld
