import ModelMeld.Spec.PyValue
import ModelMeld.Spec.Scout

/-!
# Registry payloads

`ModelRegistry.from_json` on any decoded value, with the exceptions the built-in
conversions raise. The conversions of texts, and `float` of an integer, are
parameters; a field the loader does not convert is kept as it was decoded.
-/

namespace ModelMeld

/-- The exceptions that loading and reading a payload can end in. -/
inductive PyError where
  | keyError | valueError | typeError | attributeError | overflowError
  | jsonDecodeError | unicodeDecodeError | recursionError | osError
deriving DecidableEq

/-- `except (KeyError, ValueError)`; the decoding errors are `ValueError`s. -/
def PyError.isKeyOrValue : PyError → Bool
  | .keyError | .valueError | .jsonDecodeError | .unicodeDecodeError => true
  | _ => false

/-- Conversions of the built-in types. -/
structure Conversions where
  /-- `int(text)`. -/
  intOfStr : String → Option ℤ
  /-- `float(text)`. -/
  floatOfStr : String → Option PyFloat
  /-- `float(n)`; `none` where it overflows. -/
  floatOfInt : ℤ → Option ℚ
  /-- `str(value)` of a value that is no text. -/
  str : PyValue → String

namespace Conversions

variable (c : Conversions)

/-- `int(value)`. -/
def int : PyValue → Except PyError ℤ
  | .int n => .ok n
  | .bool b => .ok (if b then 1 else 0)
  | .float (.finite q) => .ok (truncate q)
  | .float (.infinite _) => .error .overflowError
  | .float .nan => .error .valueError
  | .str s => (c.intOfStr s).elim (.error .valueError) .ok
  | _ => .error .typeError

/-- `float(value)`. -/
def float : PyValue → Except PyError PyFloat
  | .int n => (c.floatOfInt n).elim (.error .overflowError) (fun q => .ok (.finite q))
  | .bool b => .ok (.finite (if b then 1 else 0))
  | .float x => .ok x
  | .str s => (c.floatOfStr s).elim (.error .valueError) .ok
  | _ => .error .typeError

/-- `str(value)`. -/
def text : PyValue → String
  | .str s => s
  | v => c.str v

end Conversions

/-! ## Reading decoded values -/

/-- `value[key]` with a text for a key. -/
def subscript (value : PyValue) (key : String) : Except PyError PyValue :=
  match value with
  | .obj d => (PyDict.get? d key).elim (.error .keyError) .ok
  | _ => .error .typeError

/-- `value.get(key, default)`. -/
def getOr (value : PyValue) (key : String) (default : PyValue) : Except PyError PyValue :=
  match value with
  | .obj d => .ok ((PyDict.get? d key).getD default)
  | _ => .error .attributeError

/-- `bool(value)`. -/
def truthy : PyValue → Bool
  | .null => false
  | .bool b => b
  | .int n => n ≠ 0
  | .float x => x ≠ .finite 0
  | .str s => s ≠ ""
  | .arr items => items ≠ []
  | .obj fields => fields ≠ []

/-- `value == 1`. -/
def equalsOne : PyValue → Bool
  | .bool b => b
  | .int n => n = 1
  | .float x => x = .finite 1
  | _ => false

/-- Whether a value may be a key of a `dict` or an element of a `set`. -/
def hashable : PyValue → Bool
  | .arr _ | .obj _ => false
  | _ => true

/-- `iter(value)`. -/
def iterate : PyValue → Except PyError (List PyValue)
  | .arr items => .ok items
  | .obj fields => .ok (fields.map (fun p => .str p.1))
  | .str s => .ok (s.toList.map (fun c => .str (String.singleton c)))
  | _ => .error .typeError

/-- A pair of `dict(pairs)`: anything of two elements whose first is hashable. -/
def pairOf (item : PyValue) : Except PyError (PyValue × PyValue) := do
  match ← iterate item with
  | [key, value] => if hashable key then .ok (key, value) else .error .typeError
  | _ => .error .valueError

/-- `dict(value)`, by its pairs. -/
def dictOf : PyValue → Except PyError (List (PyValue × PyValue))
  | .obj fields => .ok (fields.map (fun p => (.str p.1, p.2)))
  | value => do (← iterate value).mapM pairOf

/-! ## Rows -/

/-- `ModelEntry`, as `from_json` builds it. -/
structure RegistryRow where
  modelId : PyValue
  provider : PyValue
  contextWindow : ℤ
  costPerMInput : PyFloat
  costPerMOutput : PyFloat
  taskScores : List (PyValue × PyValue)
  lastUpdated : PyValue
  source : PyValue
  providerModelId : PyValue
  supportsTools : Bool
  enabled : Bool
  reasoningInterface : String
  maxOutputTokens : Option ℤ
  supportedBetas : List PyValue
  medianTtftS : Option PyFloat
  medianOutputTps : Option PyFloat
  latencySource : PyValue
deriving DecidableEq

/-- `convert(row[key]) if row.get(key) is not None else None`. -/
def optionally {A : Type} (row : PyValue) (key : String) (convert : PyValue → Except PyError A) :
    Except PyError (Option A) := do
  match ← getOr row key .null with
  | .null => .ok none
  | value => some <$> convert value

/-- One row of `from_json`. -/
def rowFromJson (c : Conversions) (row : PyValue) : Except PyError RegistryRow := do
  let modelId ← subscript row "model_id"
  let provider ← subscript row "provider"
  let contextWindow ← c.int (← subscript row "context_window")
  let costPerMInput ← c.float (← subscript row "cost_per_m_input")
  let costPerMOutput ← c.float (← subscript row "cost_per_m_output")
  let taskScores ← dictOf (← getOr row "task_scores" (.obj []))
  let lastUpdated ← getOr row "last_updated" (.str "")
  let source ← getOr row "source" (.str "")
  let providerModelId ← getOr row "provider_model_id" (.str "")
  let supportsTools ← truthy <$> getOr row "supports_tools" (.bool true)
  let enabled ← truthy <$> getOr row "enabled" (.bool true)
  let reasoningInterface ← c.text <$> getOr row "reasoning_interface" (.str "none")
  let maxOutputTokens ← optionally row "max_output_tokens" c.int
  let supportedBetas ← iterate (← getOr row "supported_betas" (.arr []))
  let medianTtftS ← optionally row "median_ttft_s" c.float
  let medianOutputTps ← optionally row "median_output_tps" c.float
  let latencySource ← getOr row "latency_source" (.str "")
  return {
    modelId := modelId, provider := provider, contextWindow := contextWindow,
    costPerMInput := costPerMInput, costPerMOutput := costPerMOutput, taskScores := taskScores,
    lastUpdated := lastUpdated, source := source, providerModelId := providerModelId,
    supportsTools := supportsTools, enabled := enabled, reasoningInterface := reasoningInterface,
    maxOutputTokens := maxOutputTokens, supportedBetas := supportedBetas,
    medianTtftS := medianTtftS, medianOutputTps := medianOutputTps, latencySource := latencySource }

/-- A registry as it was loaded: its rows, in the order of the payload. -/
structure LoadedRegistry where
  rows : List RegistryRow
deriving DecidableEq

/-- `ModelRegistry.from_json`, less the notice it logs of a snapshot. -/
def fromJson (c : Conversions) (payload : PyValue) : Except PyError LoadedRegistry := do
  let version ← getOr payload "version" (.int 1)
  if equalsOne version then
    let rows ← (← iterate (← getOr payload "models" (.arr []))).mapM (rowFromJson c)
    -- the rows are indexed by their model ids
    if rows.all (fun r => hashable r.modelId) then .ok ⟨rows⟩ else .error .typeError
  else .error .valueError

end ModelMeld
