import ModelMeld.Spec.Outcomes

/-!
# The metrics collector

`MetricsCollector` with `record` and `snapshot`, and a run of requests that
record into the collector of the app. Costs are exact rationals. The run keeps,
as a ghost, the completions its requests obtained from upstream.
-/

namespace ModelMeld

/-- `WIRE_FORMATS`. -/
def wireFormats : List String := ["chat_completions", "messages", "responses"]

/-- The list `[count, input_tokens, output_tokens, cost_usd]` of a model. -/
structure ModelStats where
  requestCount : ℕ := 0
  inputTokens : ℤ := 0
  outputTokens : ℤ := 0
  costUsd : ℚ := 0
deriving DecidableEq

structure MetricsCollector where
  createdAt : ℚ := 0
  wireCounts : OrderedDict String ℕ := .ofPairs (wireFormats.map (fun fmt => (fmt, 0)))
  inputTokens : ℤ := 0
  outputTokens : ℤ := 0
  costUsd : ℚ := 0
  modelStats : OrderedDict String ModelStats := .empty

/-- `ModelMetrics`. -/
structure ModelMetrics where
  requestCount : ℕ
  inputTokens : ℤ
  outputTokens : ℤ
  totalTokens : ℤ
  costUsd : ℚ
deriving DecidableEq

structure MetricsSnapshot where
  chatCompletionsCount : ℕ
  messagesCount : ℕ
  responsesCount : ℕ
  totalRequestCount : ℕ
  totalInputTokens : ℤ
  totalOutputTokens : ℤ
  totalTokens : ℤ
  totalCostUsd : ℚ
  uptimeSeconds : ℚ
  perModel : List (String × ModelMetrics)

/-- A model's list after one more request. -/
def ModelStats.add (s : ModelStats) (r : MetricsRecord) : ModelStats where
  requestCount := s.requestCount + 1
  inputTokens := s.inputTokens + r.inputTokens
  outputTokens := s.outputTokens + r.outputTokens
  costUsd := s.costUsd + r.costUsd

namespace MetricsCollector

/-- `record`. -/
def record (c : MetricsCollector) (r : MetricsRecord) : MetricsCollector :=
  let key := if r.modelId = "" then "unknown" else r.modelId
  { c with
    wireCounts := c.wireCounts.insert r.wireFormat (c.wireCounts.getD r.wireFormat 0 + 1)
    inputTokens := c.inputTokens + r.inputTokens
    outputTokens := c.outputTokens + r.outputTokens
    costUsd := c.costUsd + r.costUsd
    modelStats := c.modelStats.insert key ((c.modelStats.getD key {}).add r) }

/-- The `ModelMetrics` of a model. -/
def modelMetrics (s : ModelStats) : ModelMetrics where
  requestCount := s.requestCount
  inputTokens := s.inputTokens
  outputTokens := s.outputTokens
  totalTokens := s.inputTokens + s.outputTokens
  costUsd := s.costUsd

/-- `snapshot`. -/
def snapshot (c : MetricsCollector) (now : ℚ) : MetricsSnapshot where
  chatCompletionsCount := c.wireCounts.getD "chat_completions" 0
  messagesCount := c.wireCounts.getD "messages" 0
  responsesCount := c.wireCounts.getD "responses" 0
  totalRequestCount := c.wireCounts.values.sum
  totalInputTokens := c.inputTokens
  totalOutputTokens := c.outputTokens
  totalTokens := c.inputTokens + c.outputTokens
  totalCostUsd := c.costUsd
  uptimeSeconds := now - c.createdAt
  perModel := c.modelStats.entries.map (fun e => (e.1, modelMetrics e.2))

end MetricsCollector

end ModelMeld
