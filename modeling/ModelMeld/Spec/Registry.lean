import ModelMeld.Lib.OrderedDict
import ModelMeld.Lib.Ranking
import Mathlib.Data.Finset.Basic
import Mathlib.Algebra.Order.Field.Rat
import Mathlib.Data.Rat.Lemmas
import Mathlib.Data.Prod.Lex

/-!
# The model registry

`ModelRegistry` (one row per model id) and `MultiProviderModelRegistry` (one row
per model id and provider) with `rank` and `pick`. Costs, scores, latencies and
weights are exact rationals.
-/

namespace ModelMeld

/-- One row of the registry. -/
structure ModelEntry where
  modelId : String
  provider : String
  contextWindow : ℤ
  costPerMInput : ℚ
  costPerMOutput : ℚ
  taskScores : OrderedDict String ℚ := .empty
  lastUpdated : String := ""
  source : String := ""
  /-- The provider's own slug; empty means "send `modelId` verbatim". -/
  providerModelId : String := ""
  supportsTools : Bool := true
  enabled : Bool := true
  reasoningInterface : String := "none"
  maxOutputTokens : Option ℤ := none
  supportedBetas : List String := []
  medianTtftS : Option ℚ := none
  medianOutputTps : Option ℚ := none
  latencySource : String := ""
deriving DecidableEq

def defaultInputWeight : ℚ := 6 / 10

def defaultOutputWeight : ℚ := 4 / 10

namespace ModelEntry

def blendedCostPerMWith (e : ModelEntry) (inputWeight outputWeight : ℚ) : ℚ :=
  e.costPerMInput * inputWeight + e.costPerMOutput * outputWeight

/-- `blended_cost_per_m()` at the default weights. -/
def blendedCostPerM (e : ModelEntry) : ℚ :=
  e.blendedCostPerMWith defaultInputWeight defaultOutputWeight

def meetsThreshold (e : ModelEntry) (task : String) (threshold : ℚ) : Bool :=
  threshold ≤ e.taskScores.getD task 0

/-- `input_tokens` is accepted and not used, as in the source. -/
def estimatedTurnLatencyS (e : ModelEntry) (_inputTokens outputTokens : ℤ) : Option ℚ :=
  match e.medianOutputTps with
  | none => none
  | some tps => if tps ≤ 0 then none else some (e.medianTtftS.getD 0 + outputTokens / tps)

end ModelEntry

/-! ## Ordering -/

/-- `statistics.median`, of a non-empty list. -/
def median (l : List ℚ) : ℚ :=
  let s := Ranking.sortedBy id l
  let n := s.length
  if n % 2 = 1 then s.getD (n / 2) 0 else (s.getD (n / 2 - 1) 0 + s.getD (n / 2) 0) / 2

/-- The latencies of the candidates that have one. -/
def measuredLatencies (result : List (ModelEntry × ℚ)) (refInputTokens refOutputTokens : ℤ) :
    List ℚ :=
  result.filterMap (fun p => p.1.estimatedTurnLatencyS refInputTokens refOutputTokens)

/-- `_effective`: the cost with the latency factor, an unmeasured row taking the median. -/
def effectiveCost (latencyWeight medianLat : ℚ) (refInputTokens refOutputTokens : ℤ)
    (pair : ModelEntry × ℚ) : ℚ :=
  let lat := (pair.1.estimatedTurnLatencyS refInputTokens refOutputTokens).getD medianLat
  pair.2 * (1 + latencyWeight * lat)

/-- `_sort_latency_adjusted`. -/
def sortLatencyAdjusted (result : List (ModelEntry × ℚ)) (latencyWeight : ℚ)
    (refInputTokens refOutputTokens : ℤ) : List (ModelEntry × ℚ) :=
  if latencyWeight ≤ 0 ∨ result = [] then Ranking.sortedBy Prod.snd result
  else
    let measured := measuredLatencies result refInputTokens refOutputTokens
    if measured = [] then Ranking.sortedBy Prod.snd result
    else Ranking.sortedBy
      (effectiveCost latencyWeight (median measured) refInputTokens refOutputTokens) result

/-! ## The registry -/

/-- The rows a registry was built from, in order, and which class indexes them. -/
structure ModelRegistry where
  entries : List ModelEntry
  /-- `MultiProviderModelRegistry` rather than `ModelRegistry`. -/
  multiProvider : Bool
deriving DecidableEq

/-- The arguments of `rank`. -/
structure RankArgs where
  taskCategory : String
  qualityThreshold : ℚ
  eligibleProviders : Option (Finset String)
  minContextWindow : ℤ
  requireToolSupport : Bool
  latencyWeight : ℚ
  latencyRefInputTokens : ℤ
  latencyRefOutputTokens : ℤ
  agenticAdmitFloor : Option ℚ

def agenticCapabilityCategory : String := "agentic_coding"

/-- The score gate of `rank`: the category threshold, or the agentic floor for a row the
category has no score for. -/
def ModelEntry.admitted (e : ModelEntry) (args : RankArgs) : Bool :=
  e.meetsThreshold args.taskCategory args.qualityThreshold ||
    match args.agenticAdmitFloor with
    | none => false
    | some floor => !e.taskScores.contains args.taskCategory &&
        decide (floor ≤ e.taskScores.getD agenticCapabilityCategory 0)

/-- `eligible_providers is None or entry.provider in eligible_providers`. -/
def providerEligible (eligible : Option (Finset String)) (provider : String) : Bool :=
  match eligible with
  | none => true
  | some ps => decide (provider ∈ ps)

/-- The filter in the loop of `rank`. -/
def ModelEntry.passes (e : ModelEntry) (args : RankArgs) : Bool :=
  e.enabled && providerEligible args.eligibleProviders e.provider &&
    decide (args.minContextWindow ≤ e.contextWindow) &&
    (!args.requireToolSupport || e.supportsTools) && e.admitted args

namespace ModelRegistry

/-- `_by_id`: one row per model id, the last one given. -/
def byId (r : ModelRegistry) : OrderedDict String ModelEntry :=
  .ofPairs (r.entries.map (fun e => (e.modelId, e)))

/-- `_by_key`: one row per model id and provider, the last one given. -/
def byKey (r : ModelRegistry) : OrderedDict (String × String) ModelEntry :=
  .ofPairs (r.entries.map (fun e => ((e.modelId, e.provider), e)))

/-- The rows `rank` and `pick` iterate over. -/
def rows (r : ModelRegistry) : List ModelEntry :=
  if r.multiProvider then r.byKey.values else r.byId.values

/-- `get`: any row of the model, whichever class the registry has. -/
def get (r : ModelRegistry) (modelId : String) : Option ModelEntry := r.byId.get? modelId

def allEntries (r : ModelRegistry) : List ModelEntry := r.byId.values

/-- The rows that pass every filter of `rank`, in registry order. -/
def candidates (r : ModelRegistry) (args : RankArgs) : List ModelEntry :=
  r.rows.filter (fun e => e.passes args)

def rank (r : ModelRegistry) (args : RankArgs) : List (ModelEntry × ℚ) :=
  let result := (r.candidates args).map (fun e => (e, e.blendedCostPerM))
  sortLatencyAdjusted result args.latencyWeight args.latencyRefInputTokens
    args.latencyRefOutputTokens

/-- `pick`: the cheapest row at the given weights, a larger window breaking ties. -/
def pick (r : ModelRegistry) (args : RankArgs) (inputWeight outputWeight : ℚ) : Option ModelEntry :=
  (r.candidates { args with agenticAdmitFloor := none }).argmin
    (fun e => toLex (e.blendedCostPerMWith inputWeight outputWeight, -(e.contextWindow : ℚ)))

end ModelRegistry

end ModelMeld
