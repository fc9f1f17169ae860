import ModelMeld.Proof.Registry

/-!
# What `rank` and `pick` select

Both registry classes index their rows by a key, the last row of a key standing
for it at the place where the key came first. `selection_exact` says which rows
`rank` returns and in which order, that a latency weight only reorders them, and
which of them `pick` takes.
-/

namespace ModelMeld

open Ranking

/-- A row that passes the filters of `rank`. -/
structure Admissible (e : ModelEntry) (args : RankArgs) : Prop where
  enabled : e.enabled = true
  provider : ∀ providers, args.eligibleProviders = some providers → e.provider ∈ providers
  window : args.minContextWindow ≤ e.contextWindow
  tools : args.requireToolSupport = true → e.supportsTools = true
  /-- At or above the threshold, or not scored and at or above the agentic floor. -/
  score : args.qualityThreshold ≤ e.taskScores.getD args.taskCategory 0 ∨
    (e.taskScores.get? args.taskCategory = none ∧ ∃ floor, args.agenticAdmitFloor = some floor ∧
      floor ≤ e.taskScores.getD agenticCapabilityCategory 0)

theorem providerEligible_iff {eligible : Option (Finset String)} {provider : String} :
    providerEligible eligible provider = true ↔ ∀ ps, eligible = some ps → provider ∈ ps := by
  cases eligible <;> simp [providerEligible]

theorem admitted_iff {e : ModelEntry} {args : RankArgs} :
    e.admitted args = true ↔
      args.qualityThreshold ≤ e.taskScores.getD args.taskCategory 0 ∨
        (e.taskScores.get? args.taskCategory = none ∧ ∃ floor,
          args.agenticAdmitFloor = some floor ∧
            floor ≤ e.taskScores.getD agenticCapabilityCategory 0) := by
  unfold ModelEntry.admitted ModelEntry.meetsThreshold OrderedDict.contains
  cases args.agenticAdmitFloor <;> simp

theorem passes_iff {e : ModelEntry} {args : RankArgs} :
    e.passes args = true ↔ Admissible e args := by
  unfold ModelEntry.passes
  simp only [Bool.and_eq_true, providerEligible_iff, decide_eq_true_eq, admitted_iff, Bool.or_eq_true,
    Bool.not_eq_true']
  constructor
  · rintro ⟨⟨⟨⟨henabled, hprovider⟩, hwindow⟩, htools⟩, hscore⟩
    refine ⟨henabled, hprovider, hwindow, fun hrequired => ?_, hscore⟩
    rcases htools with h | h
    · rw [h] at hrequired
      cases hrequired
    · exact h
  · intro h
    refine ⟨⟨⟨⟨h.enabled, h.provider⟩, h.window⟩, ?_⟩, h.score⟩
    cases hrequired : args.requireToolSupport with
    | false => exact .inl rfl
    | true => exact .inr (h.tools hrequired)

namespace ModelRegistry

variable (r : ModelRegistry)

/-! ## The rows of a registry -/

/-- Two rows have one key: the model id, with the provider where the registry keeps providers
apart. -/
def SameKey (a b : ModelEntry) : Prop :=
  a.modelId = b.modelId ∧ (r.multiProvider = true → a.provider = b.provider)

instance (a b : ModelEntry) : Decidable (r.SameKey a b) :=
  inferInstanceAs (Decidable (_ ∧ (_ → _)))

/-- The last row of its key. -/
def LastRow (e : ModelEntry) : Prop :=
  ∃ before after, r.entries = before ++ e :: after ∧ ∀ later ∈ after, ¬ r.SameKey later e

/-- Where the key of a row came first. -/
def keyPosition (e : ModelEntry) : ℕ := r.entries.findIdx (fun x => decide (r.SameKey x e))

variable {r}

theorem rows_of_multi (h : r.multiProvider = true) :
    r.rows = (OrderedDict.indexBy (fun e => (e.modelId, e.provider)) r.entries).values := by
  unfold rows
  rw [if_pos h]
  rfl

theorem rows_of_single (h : r.multiProvider = false) :
    r.rows = (OrderedDict.indexBy ModelEntry.modelId r.entries).values := by
  unfold rows
  rw [h]
  rfl

theorem sameKey_of_multi (h : r.multiProvider = true) {a b : ModelEntry} :
    r.SameKey a b ↔ (a.modelId, a.provider) = (b.modelId, b.provider) := by
  simp [SameKey, h]

theorem sameKey_of_single (h : r.multiProvider = false) {a b : ModelEntry} :
    r.SameKey a b ↔ a.modelId = b.modelId := by
  simp [SameKey, h]

theorem keyPosition_eq {K : Type} [DecidableEq K] {key : ModelEntry → K}
    (hkey : ∀ a b, r.SameKey a b ↔ key a = key b) (e : ModelEntry) :
    (r.entries.map key).idxOf (key e) = r.keyPosition e := by
  unfold keyPosition List.idxOf
  rw [List.findIdx_map]
  congr 1
  funext x
  rw [Bool.eq_iff_iff]
  simp [hkey]

/-- **The rows are the last of their keys, in the order in which the keys came first.** -/
theorem rows_spec :
    (∀ e, e ∈ r.rows ↔ r.LastRow e) ∧
      r.rows.Pairwise (fun a b => r.keyPosition a < r.keyPosition b) := by
  have hall : ∀ {K : Type} [DecidableEq K] (key : ModelEntry → K),
      (∀ a b, r.SameKey a b ↔ key a = key b) →
      r.rows = (OrderedDict.indexBy key r.entries).values →
      (∀ e, e ∈ r.rows ↔ r.LastRow e) ∧
        r.rows.Pairwise (fun a b => r.keyPosition a < r.keyPosition b) := by
    intro K _ key hkey hrows
    rw [hrows]
    constructor
    · intro e
      rw [OrderedDict.mem_values_indexBy]
      unfold OrderedDict.LastOf LastRow
      simp only [hkey, ne_eq]
    · refine (OrderedDict.pairwise_values_indexBy key r.entries).imp fun {a b} hab => ?_
      rwa [keyPosition_eq hkey, keyPosition_eq hkey] at hab
  cases hmulti : r.multiProvider with
  | true => exact hall _ (fun a b => sameKey_of_multi hmulti) (rows_of_multi hmulti)
  | false => exact hall _ (fun a b => sameKey_of_single hmulti) (rows_of_single hmulti)

theorem mem_candidates_iff {args : RankArgs} {e : ModelEntry} :
    e ∈ r.candidates args ↔ r.LastRow e ∧ Admissible e args := by
  rw [mem_candidates, rows_spec.1, passes_iff]

theorem candidates_pairwise (args : RankArgs) :
    (r.candidates args).Pairwise (fun a b => r.keyPosition a < r.keyPosition b) :=
  List.Pairwise.sublist List.filter_sublist rows_spec.2

end ModelRegistry

/-! ## Ranking and picking -/

/-- The arguments without the latency term. -/
def RankArgs.byCost (args : RankArgs) : RankArgs := { args with latencyWeight := 0 }

theorem admissible_byCost {e : ModelEntry} {args : RankArgs} :
    Admissible e args.byCost ↔ Admissible e args := by
  rw [← passes_iff, ← passes_iff]
  rfl

/-- The arguments without the agentic floor, as `pick` filters. -/
def RankArgs.thresholdOnly (args : RankArgs) : RankArgs :=
  { args with latencyWeight := 0, agenticAdmitFloor := none }

/-- Cheaper, or as cheap and of a key that came earlier. -/
def Before (r : ModelRegistry) (p q : ModelEntry × ℚ) : Prop :=
  p.2 < q.2 ∨ (p.2 = q.2 ∧ r.keyPosition p.1 < r.keyPosition q.1)

/-- What a registry selects for the arguments of a filter. -/
structure SelectsExactly (r : ModelRegistry) (args : RankArgs) : Prop where
  ranked : ∀ p, p ∈ r.rank args.byCost ↔
    p.2 = p.1.blendedCostPerM ∧ r.LastRow p.1 ∧ Admissible p.1 args
  ordered : (r.rank args.byCost).Pairwise (Before r)
  once : (r.rank args.byCost).Nodup
  reweighted : ∀ w, (r.rank { args with latencyWeight := w }).Perm (r.rank args.byCost)
  picks : ∀ inputWeight outputWeight, (∃ e, r.pick args inputWeight outputWeight = some e) ↔
    ∃ e, r.LastRow e ∧ Admissible e args.thresholdOnly
  least : ∀ inputWeight outputWeight e, r.pick args inputWeight outputWeight = some e →
    r.LastRow e ∧ Admissible e args.thresholdOnly ∧
      ∀ x, r.LastRow x → Admissible x args.thresholdOnly →
        e.blendedCostPerMWith inputWeight outputWeight ≤
            x.blendedCostPerMWith inputWeight outputWeight ∧
          (x.blendedCostPerMWith inputWeight outputWeight =
              e.blendedCostPerMWith inputWeight outputWeight →
            x.contextWindow ≤ e.contextWindow)
  cheapest : ∀ e, r.pick args defaultInputWeight defaultOutputWeight = some e →
    (r.rank args.thresholdOnly).head?.map Prod.snd = some e.blendedCostPerM

namespace ModelRegistry

variable {r : ModelRegistry} {args : RankArgs}

theorem rank_byCost (h : args.latencyWeight = 0) :
    r.rank args = (sortedBy ModelEntry.blendedCostPerM (r.candidates args)).map
      (fun e => (e, e.blendedCostPerM)) := by
  rw [rank_eq, rankKey_eq_cost r h]

theorem mem_rank {p : ModelEntry × ℚ} :
    p ∈ r.rank args ↔ p.2 = p.1.blendedCostPerM ∧ r.LastRow p.1 ∧ Admissible p.1 args := by
  rw [rank_eq, List.mem_map]
  constructor
  · rintro ⟨e, he, rfl⟩
    exact ⟨rfl, mem_candidates_iff.1 (mem_sortedBy.1 he)⟩
  · rintro ⟨hcost, hrow⟩
    exact ⟨p.1, mem_sortedBy.2 (mem_candidates_iff.2 hrow), Prod.ext rfl hcost.symm⟩

theorem rank_ordered (h : args.latencyWeight = 0) : (r.rank args).Pairwise (Before r) := by
  rw [rank_byCost h, List.pairwise_map]
  exact pairwise_sortedBy_stable _ (r.candidates_pairwise args)

/-- A latency weight only reorders. -/
theorem rank_reweighted (w : ℚ) :
    (r.rank { args with latencyWeight := w }).Perm (r.rank args.byCost) := by
  rw [rank_eq, rank_eq]
  exact ((sortedBy_perm _ _).trans (sortedBy_perm _ _).symm).map _

/-- The key `pick` minimises. -/
def pickKey (inputWeight outputWeight : ℚ) (e : ModelEntry) : ℚ ×ₗ ℚ :=
  toLex (e.blendedCostPerMWith inputWeight outputWeight, -(e.contextWindow : ℚ))

variable {inputWeight outputWeight : ℚ} {e x : ModelEntry}

theorem pick_eq :
    r.pick args inputWeight outputWeight =
      (r.candidates args.thresholdOnly).argmin (pickKey inputWeight outputWeight) := rfl

theorem pick_picks :
    (∃ e, r.pick args inputWeight outputWeight = some e) ↔
      ∃ e, r.LastRow e ∧ Admissible e args.thresholdOnly := by
  rw [pick_eq]
  constructor
  · rintro ⟨e, he⟩
    exact ⟨e, mem_candidates_iff.1 (List.argmin_mem (Option.mem_def.2 he))⟩
  · rintro ⟨e, he⟩
    have hne : r.candidates args.thresholdOnly ≠ [] :=
      List.ne_nil_of_mem (mem_candidates_iff.2 he)
    exact Option.ne_none_iff_exists'.1 (mt List.argmin_eq_none.1 hne)

theorem pickKey_le {a b : ModelEntry} :
    pickKey inputWeight outputWeight a ≤ pickKey inputWeight outputWeight b ↔
      a.blendedCostPerMWith inputWeight outputWeight <
          b.blendedCostPerMWith inputWeight outputWeight ∨
        (a.blendedCostPerMWith inputWeight outputWeight =
            b.blendedCostPerMWith inputWeight outputWeight ∧
          b.contextWindow ≤ a.contextWindow) := by
  unfold pickKey
  rw [Prod.Lex.toLex_le_toLex, neg_le_neg_iff, Int.cast_le]

/-- What is picked has the least key of all candidates. -/
theorem pick_least (he : r.pick args inputWeight outputWeight = some e) :
    e ∈ r.candidates args.thresholdOnly ∧ ∀ x ∈ r.candidates args.thresholdOnly,
      e.blendedCostPerMWith inputWeight outputWeight ≤
          x.blendedCostPerMWith inputWeight outputWeight ∧
        (x.blendedCostPerMWith inputWeight outputWeight =
            e.blendedCostPerMWith inputWeight outputWeight →
          x.contextWindow ≤ e.contextWindow) := by
  rw [pick_eq] at he
  refine ⟨List.argmin_mem (Option.mem_def.2 he), fun x hx => ?_⟩
  rcases pickKey_le.1 (List.le_of_mem_argmin hx (Option.mem_def.2 he)) with h | ⟨heq, hwindow⟩
  · exact ⟨h.le, fun hcost => absurd hcost h.ne'⟩
  · exact ⟨heq.le, fun _ => hwindow⟩

theorem pick_cheapest (he : r.pick args defaultInputWeight defaultOutputWeight = some e) :
    (r.rank args.thresholdOnly).head?.map Prod.snd = some e.blendedCostPerM := by
  obtain ⟨hmem, hleast⟩ := pick_least he
  rw [rank_byCost rfl, List.head?_map, head?_sortedBy, Option.map_map]
  cases hmin : (r.candidates args.thresholdOnly).argmin ModelEntry.blendedCostPerM with
  | none =>
    rw [List.argmin_eq_none.1 hmin] at hmem
    cases hmem
  | some m =>
    have hle : m.blendedCostPerM ≤ e.blendedCostPerM :=
      List.le_of_mem_argmin hmem (Option.mem_def.2 hmin)
    have hge : e.blendedCostPerM ≤ m.blendedCostPerM :=
      (hleast m (List.argmin_mem (Option.mem_def.2 hmin))).1
    exact congrArg some (le_antisymm hle hge)

/-- Rows of distinct models are the rows of either registry class. -/
theorem rows_of_nodup (h : (r.entries.map ModelEntry.modelId).Nodup) : r.rows = r.entries := by
  cases hmulti : r.multiProvider with
  | false => rw [rows_of_single hmulti, OrderedDict.values_indexBy_of_nodup _ h]
  | true =>
    rw [rows_of_multi hmulti]
    apply OrderedDict.values_indexBy_of_nodup
    apply List.Nodup.of_map Prod.fst
    rwa [List.map_map]

end ModelRegistry

/-- **Selection is exact**: for both registry classes, and the classes agree on rows of distinct
models. -/
theorem selection_exact (entries : List ModelEntry) (args : RankArgs) :
    (∀ multiProvider, SelectsExactly ⟨entries, multiProvider⟩ args) ∧
      ((entries.map ModelEntry.modelId).Nodup → ∀ inputWeight outputWeight,
        (ModelRegistry.mk entries true).rank args = (ModelRegistry.mk entries false).rank args ∧
          (ModelRegistry.mk entries true).pick args inputWeight outputWeight =
            (ModelRegistry.mk entries false).pick args inputWeight outputWeight) := by
  constructor
  · intro multiProvider
    constructor
    · intro p
      rw [ModelRegistry.mem_rank, admissible_byCost]
    · exact ModelRegistry.rank_ordered rfl
    · refine (ModelRegistry.rank_ordered rfl).imp fun {p q} hpq => ?_
      rintro rfl
      rcases hpq with h | ⟨-, h⟩
      · exact lt_irrefl _ h
      · exact lt_irrefl _ h
    · exact ModelRegistry.rank_reweighted
    · exact fun _ _ => ModelRegistry.pick_picks
    · intro inputWeight outputWeight e he
      obtain ⟨hmem, hleast⟩ := ModelRegistry.pick_least he
      obtain ⟨hrow, hadmissible⟩ := ModelRegistry.mem_candidates_iff.1 hmem
      exact ⟨hrow, hadmissible, fun x hx hpasses =>
        hleast x (ModelRegistry.mem_candidates_iff.2 ⟨hx, hpasses⟩)⟩
    · exact fun e => ModelRegistry.pick_cheapest
  · intro hnodup inputWeight outputWeight
    have hrows : ∀ multiProvider args, (ModelRegistry.mk entries multiProvider).candidates args =
        entries.filter (fun e => e.passes args) := by
      intro multiProvider args
      unfold ModelRegistry.candidates
      rw [ModelRegistry.rows_of_nodup hnodup]
    unfold ModelRegistry.rank ModelRegistry.pick
    simp only [hrows, and_self]

end ModelMeld
