import ModelMeld.Spec.FeedLoading

/-!
# The multi-provider default registry

`MultiProviderModelRegistry.load_default`: the rows of an overlay payload, each
with what it inherits from the base entry of its model, after the base entries.
-/

namespace ModelMeld

/-- `ModelEntry`, as `load_default` builds it of an overlay row. The fields with a default are
those it leaves to the dataclass. -/
structure OverlayRow where
  modelId : PyValue
  provider : PyValue
  contextWindow : ℤ
  costPerMInput : PyFloat
  costPerMOutput : PyFloat
  taskScores : List (PyValue × PyValue)
  lastUpdated : PyValue
  source : PyValue
  providerModelId : PyValue
  supportsTools : Bool
  enabled : Bool := true
  reasoningInterface : PyValue
  maxOutputTokens : Option ℤ
  supportedBetas : List PyValue
  medianTtftS : Option PyFloat := none
  medianOutputTps : Option PyFloat := none
  latencySource : PyValue := .str ""
deriving DecidableEq

/-! ## Inheritance -/

/-- The entry a row of the model inherits a field from: the first base entry that has it. -/
def inheritsFrom (base : List ModelEntry) (modelId : PyValue) (has : ModelEntry → Bool) :
    Option ModelEntry :=
  base.find? (fun e => decide (modelId = .str e.modelId) && has e)

/-- `scores_by_model.get(model_id, {})`. -/
def baseScores (base : List ModelEntry) (modelId : PyValue) : List (PyValue × PyValue) :=
  match inheritsFrom base modelId (fun e => decide (e.taskScores.entries ≠ [])) with
  | none => []
  | some e => e.taskScores.entries.map (fun p => (.str p.1, .float (.finite p.2)))

/-- `supports_tools_by_model.get(model_id, True)`. -/
def baseSupportsTools (base : List ModelEntry) (modelId : PyValue) : Bool :=
  ((inheritsFrom base modelId (fun _ => true)).map ModelEntry.supportsTools).getD true

/-- `reasoning_by_model.get(model_id, "none")`. -/
def baseReasoning (base : List ModelEntry) (modelId : PyValue) : String :=
  ((inheritsFrom base modelId (fun e => decide (e.reasoningInterface ≠ "none"))).map
    ModelEntry.reasoningInterface).getD "none"

/-- `max_output_by_model.get(model_id)`. -/
def baseMaxOutput (base : List ModelEntry) (modelId : PyValue) : Option ℤ :=
  (inheritsFrom base modelId (fun e => e.maxOutputTokens.isSome)).bind ModelEntry.maxOutputTokens

/-- `betas_by_model.get(model_id, ())`. -/
def baseBetas (base : List ModelEntry) (modelId : PyValue) : List PyValue :=
  match inheritsFrom base modelId (fun e => decide (e.supportedBetas ≠ [])) with
  | none => []
  | some e => e.supportedBetas.map .str

/-! ## Overlay rows -/

/-- `model_id`, looked up in the tables of the base entries. -/
def lookedUp (modelId : PyValue) : Except PyError Unit :=
  if hashable modelId then .ok () else .error .typeError

/-- One row of the overlay. -/
def overlayRow (c : Conversions) (base : List ModelEntry) (row : PyValue) :
    Except PyError OverlayRow := do
  let modelId ← subscript row "model_id"
  lookedUp modelId
  let rowScores ← dictOf (← getOr row "task_scores" (.obj []))
  let rowSupportsTools ← truthy <$> getOr row "supports_tools" (.bool true)
  let reasoning ← getOr row "reasoning_interface" .null
  let maxOutput ← optionally row "max_output_tokens" c.int
  let betas ← optionally row "supported_betas" iterate
  let provider ← subscript row "provider"
  let contextWindow ← c.int (← subscript row "context_window")
  let costPerMInput ← c.float (← subscript row "cost_per_m_input")
  let costPerMOutput ← c.float (← subscript row "cost_per_m_output")
  let lastUpdated ← getOr row "last_updated" (.str "")
  let source ← getOr row "source" (.str "default_overlay")
  let providerModelId ← getOr row "provider_model_id" (.str "")
  return {
    modelId := modelId, provider := provider, contextWindow := contextWindow,
    costPerMInput := costPerMInput, costPerMOutput := costPerMOutput,
    -- the row's own scores override those of the base, key by key
    taskScores := baseScores base modelId ++ rowScores, lastUpdated := lastUpdated,
    source := source, providerModelId := providerModelId,
    supportsTools := rowSupportsTools && baseSupportsTools base modelId,
    reasoningInterface :=
      if truthy reasoning then reasoning else .str (baseReasoning base modelId),
    maxOutputTokens := maxOutput.or (baseMaxOutput base modelId),
    supportedBetas := betas.getD (baseBetas base modelId) }

/-- `overlay_payload.get("models", [])`. -/
def overlayRows (payload : PyValue) : Except PyError (List PyValue) := do
  iterate (← getOr payload "models" (.arr []))

/-- The rows `load_default` builds its registry from. -/
structure MergedRows where
  base : List ModelEntry
  overlay : List OverlayRow
deriving DecidableEq

/-- `MultiProviderModelRegistry.load_default`; no overlay file is an overlay without rows. -/
def loadDefault (c : Conversions) (base : ModelRegistry) (overlay : Option PyValue) :
    Except PyError MergedRows := do
  let rows ← overlayRows (overlay.getD (.obj [("models", .arr [])]))
  let entries ← rows.mapM (overlayRow c base.allEntries)
  -- the rows are indexed by their model ids and providers
  if entries.all (fun e => hashable e.modelId && hashable e.provider) then
    .ok ⟨base.allEntries, entries⟩
  else .error .typeError

/-! ## As a registry -/

/-- The entry of an overlay row whose fields have the types their annotations say, and whose numbers
are numbers. -/
def OverlayRow.entry? (row : OverlayRow) : Option ModelEntry := do
  let modelId ← row.modelId.text?
  let provider ← row.provider.text?
  let costPerMInput ← row.costPerMInput.finite?
  let costPerMOutput ← row.costPerMOutput.finite?
  let taskScores ← row.taskScores.mapM scorePair?
  let lastUpdated ← row.lastUpdated.text?
  let source ← row.source.text?
  let providerModelId ← row.providerModelId.text?
  let reasoningInterface ← row.reasoningInterface.text?
  let supportedBetas ← row.supportedBetas.mapM PyValue.text?
  let medianTtftS ← finiteOrNone row.medianTtftS
  let medianOutputTps ← finiteOrNone row.medianOutputTps
  let latencySource ← row.latencySource.text?
  return {
    modelId := modelId, provider := provider, contextWindow := row.contextWindow,
    costPerMInput := costPerMInput, costPerMOutput := costPerMOutput,
    taskScores := .ofPairs taskScores, lastUpdated := lastUpdated, source := source,
    providerModelId := providerModelId, supportsTools := row.supportsTools,
    enabled := row.enabled, reasoningInterface := reasoningInterface,
    maxOutputTokens := row.maxOutputTokens, supportedBetas := supportedBetas,
    medianTtftS := medianTtftS, medianOutputTps := medianOutputTps,
    latencySource := latencySource }

/-- The registry of the merged rows: base entries first. -/
def MergedRows.view (rows : MergedRows) : Option ModelRegistry :=
  (rows.overlay.mapM OverlayRow.entry?).map (fun entries => ⟨rows.base ++ entries, true⟩)

end ModelMeld
