import ModelMeld.Spec.Feed
import ModelMeld.Spec.Registry

/-!
# Loading the registry feed at startup

`_maybe_load_registry_feed`: on a fetch that is not the bundled seed, the fetched
registry takes the place of the one the application routes on.
-/

namespace ModelMeld

/-! ## Rows as entries -/

/-- A text. -/
def PyValue.text? : PyValue → Option String
  | .str s => some s
  | _ => none

/-- What compares as a number. -/
def PyValue.number? : PyValue → Option ℚ
  | .int n => some n
  | .float x => x.finite?
  | .bool b => some (if b then 1 else 0)
  | _ => none

/-- A category and its score. -/
def scorePair? (p : PyValue × PyValue) : Option (String × ℚ) := do
  return (← p.1.text?, ← p.2.number?)

/-- A number that a row may lack. -/
def finiteOrNone : Option PyFloat → Option (Option ℚ)
  | none => some none
  | some x => x.finite?.map some

/-- The entry of a row whose fields have the types their annotations say, and whose numbers are
numbers. -/
def RegistryRow.entry? (row : RegistryRow) : Option ModelEntry := do
  let modelId ← row.modelId.text?
  let provider ← row.provider.text?
  let costPerMInput ← row.costPerMInput.finite?
  let costPerMOutput ← row.costPerMOutput.finite?
  let taskScores ← row.taskScores.mapM scorePair?
  let lastUpdated ← row.lastUpdated.text?
  let source ← row.source.text?
  let providerModelId ← row.providerModelId.text?
  let supportedBetas ← row.supportedBetas.mapM PyValue.text?
  let medianTtftS ← finiteOrNone row.medianTtftS
  let medianOutputTps ← finiteOrNone row.medianOutputTps
  let latencySource ← row.latencySource.text?
  return {
    modelId := modelId, provider := provider, contextWindow := row.contextWindow,
    costPerMInput := costPerMInput, costPerMOutput := costPerMOutput,
    taskScores := .ofPairs taskScores, lastUpdated := lastUpdated, source := source,
    providerModelId := providerModelId, supportsTools := row.supportsTools,
    enabled := row.enabled, reasoningInterface := row.reasoningInterface,
    maxOutputTokens := row.maxOutputTokens, supportedBetas := supportedBetas,
    medianTtftS := medianTtftS, medianOutputTps := medianOutputTps,
    latencySource := latencySource }

/-- A registry that `from_json` built is a `ModelRegistry`, whatever it was read from. -/
def LoadedRegistry.view (registry : LoadedRegistry) : Option ModelRegistry :=
  (registry.rows.mapM RegistryRow.entry?).map (fun entries => ⟨entries, false⟩)

/-! ## The application -/

/-- A registry an application holds. -/
inductive HeldRegistry where
  /-- The one it was started with. -/
  | started (registry : ModelRegistry)
  | fetched (registry : LoadedRegistry)
deriving DecidableEq

def HeldRegistry.view : HeldRegistry → Option ModelRegistry
  | .started registry => some registry
  | .fetched registry => registry.view

/-- What `app.state` holds of registries. -/
structure RegistryState where
  modelRegistry : HeldRegistry
  /-- The registry the router was built on. -/
  routerRegistry : HeldRegistry
  /-- `_router_owned`: the gateway built the router itself. -/
  routerOwned : Bool
deriving DecidableEq

variable {K : Type} (lib : FeedLibrary K)

/-- `_maybe_load_registry_feed`, with the cache file it leaves. -/
def maybeLoadRegistryFeed (client : RegistryFeedClient K) (file : Option CacheFile) (call : FeedCall)
    (state : RegistryState) : Except PyError RegistryState × Option CacheFile :=
  if client.feedUrl.getD "" = "" then (.ok state, file)
  else match fetch lib client file call with
    | (.error e, file') => (.error e, file')
    | (.ok result, file') =>
      if result.source = .seed then (.ok state, file')
      else
        (.ok { state with
          modelRegistry := .fetched result.registry
          routerRegistry :=
            if state.routerOwned then .fetched result.registry else state.routerRegistry }, file')

end ModelMeld
