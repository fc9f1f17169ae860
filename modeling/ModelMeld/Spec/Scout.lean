import ModelMeld.Spec.Registry
import ModelMeld.Spec.Policy

/-!
# The capability scout

`CapabilityScout.choose` in the order of the source: category, threshold and
provider hints, alias policy, shape bias, `rank`, the QUALITY re-rank and the
AUTO reliability floor, and the decision with its fallbacks. The task
classifier, the dev-tool fingerprinter, the difficulty detector, `str.lower`
and the texts Python prints for a float or a tool schema are parameters.
-/

namespace ModelMeld

inductive DevTool where
  | cursor | claudeCode | codex | aider | cline | opencode | githubCopilot
  | openaiSdk | anthropicSdk | unknown
deriving DecidableEq, Inhabited

/-- `DevTool.value`. -/
def DevTool.value : DevTool → String
  | .cursor => "cursor"
  | .claudeCode => "claude_code"
  | .codex => "codex"
  | .aider => "aider"
  | .cline => "cline"
  | .opencode => "opencode"
  | .githubCopilot => "github_copilot"
  | .openaiSdk => "openai_sdk"
  | .anthropicSdk => "anthropic_sdk"
  | .unknown => "unknown"

structure Fingerprint where
  tool : DevTool
  confidence : ℚ
  matchedSignals : List String := []
deriving DecidableEq, Inhabited

structure TaskCategoryDecision where
  category : String
  confidence : ℚ
  rationale : String
  perCategoryScores : List (String × ℚ)
deriving DecidableEq, Inhabited

structure DifficultyDecision where
  escalate : Bool
  rationale : String
deriving DecidableEq, Inhabited

structure CapabilityDecision where
  chosenModelId : String
  chosenProvider : String
  taskCategory : String
  taskScore : ℚ
  qualityThreshold : ℚ
  fallbackModelIds : List String := []
  categoryDecision : Option TaskCategoryDecision := none
  devtoolFingerprint : Option Fingerprint := none
  rationale : String := ""
  providerModelId : String := ""
deriving DecidableEq

/-- `with_model`: the decision after a failover to another model. -/
def CapabilityDecision.withModel (d : CapabilityDecision) (modelId provider : String)
    (taskScore : ℚ) (providerModelId : String) : CapabilityDecision :=
  { chosenModelId := modelId
    chosenProvider := provider
    taskCategory := d.taskCategory
    taskScore := taskScore
    qualityThreshold := d.qualityThreshold
    fallbackModelIds := d.fallbackModelIds
    categoryDecision := d.categoryDecision
    devtoolFingerprint := d.devtoolFingerprint
    rationale := d.rationale ++ ";failover=" ++ modelId
    providerModelId := providerModelId }

/-- `NoEligibleModelError`, with its structured fields. -/
structure NoEligibleModelError where
  taskCategory : String
  qualityThreshold : ℚ
  eligibleProviders : Option (Finset String)
deriving DecidableEq

/-- `str` of the error; `reprFloat` is `str` of a float. -/
def NoEligibleModelError.text (reprFloat : ℚ → String) (e : NoEligibleModelError) : String :=
  "No model in registry meets threshold " ++ reprFloat e.qualityThreshold ++ " for task '" ++
    e.taskCategory ++ "'"

/-- What the scout takes from elsewhere: the classifiers and Python's text of values. -/
structure ScoutParts where
  /-- `TaskCategoryClassifier.classify`. -/
  classify : ChatCompletionRequest → TaskCategoryDecision
  /-- `Fingerprinter.identify`. -/
  identify : ChatCompletionRequest → Fingerprint
  /-- `DifficultyClassifier.classify`. -/
  difficulty : ChatCompletionRequest → String → DifficultyDecision
  /-- `str.lower`. -/
  lower : String → String
  /-- `str` of a float. -/
  reprFloat : ℚ → String
  /-- `repr` of a string. -/
  reprStr : String → String
  /-- `len(str(tool.function.parameters))`. -/
  parametersChars : Option JsonObj → ℕ

/-- `CapabilityScout`: its registry, settings and parts. The constructor refuses a threshold
outside `[0, 1]` and a negative depth. -/
structure CapabilityScout where
  registry : ModelRegistry
  qualityThreshold : ℚ := 70 / 100
  eligibleProviders : Option (Finset String) := none
  fallbackDepth : ℕ := 5
  settings : PolicySettings := {}
  parts : ScoutParts
  threshold_range : 0 ≤ qualityThreshold ∧ qualityThreshold ≤ 1 := by norm_num

/-! ## Request shape -/

/-- `_CONTEXT_WINDOW_HEADROOM_MULT`. -/
def contextWindowHeadroomMult : ℚ := 12 / 10

def charsPerTokenEstimate : ℕ := 4

def autocompleteMaxTokens : ℤ := 256

def autocompleteMaxInputChars : ℕ := 4000

def autocompleteQualityThreshold : ℚ := 55 / 100

/-- `_AUTO_LATENCY_WEIGHT`. -/
def autoLatencyWeight : ℚ := 2 / 100

def agenticRefOutputTokens : ℤ := 128

/-- `_AGENTIC_ROUTE_CATEGORIES`. -/
def agenticRouteCategories : List String := ["coding", "tool_use"]

/-- The characters of all message texts. -/
def messageChars (request : ChatCompletionRequest) : ℕ :=
  (request.messages.map Message.contentChars).sum

def isAutocompleteShape (request : ChatCompletionRequest) : Bool :=
  if request.hasTools then false
  else match request.maxTokens with
    | none => false
    | some m =>
      if autocompleteMaxTokens < m then false
      else decide (messageChars request ≤ autocompleteMaxInputChars)

/-- The characters a tool definition counts for. -/
def toolChars (parts : ScoutParts) (tool : Tool) : ℕ :=
  parts.parametersChars tool.function.parameters + (tool.function.description.getD "").length

def estimatedInputTokens (parts : ScoutParts) (request : ChatCompletionRequest) : ℕ :=
  (messageChars request + ((request.tools.getD []).map (toolChars parts)).sum)
    / charsPerTokenEstimate

/-- `int(q)`: truncation towards zero. -/
def truncate (q : ℚ) : ℤ := if 0 ≤ q then ⌊q⌋ else ⌈q⌉

def requiredContextWindow (parts : ScoutParts) (request : ChatCompletionRequest) : ℤ :=
  -- `request.max_tokens or 1024`: an explicit zero also takes the default
  let responseBudget : ℤ := match request.maxTokens with
    | some m => if m = 0 then 1024 else m
    | none => 1024
  truncate (((estimatedInputTokens parts request : ℤ) + responseBudget : ℚ)
    * contextWindowHeadroomMult)

/-- `_apply_shape_bias`: the lowered threshold and its rationale, when the shape is
autocomplete and the bias lowers. -/
def applyShapeBias (request : ChatCompletionRequest) (fingerprint : Fingerprint)
    (currentThreshold : ℚ) : Option (ℚ × String) :=
  if isAutocompleteShape request then
    if currentThreshold ≤ autocompleteQualityThreshold then none
    else some (autocompleteQualityThreshold,
      "bias=autocomplete_shape(tool=" ++ fingerprint.tool.value ++ ";threshold:" ++
        fixed currentThreshold 2 ++ "→" ++ fixed autocompleteQualityThreshold 2 ++ ")")
  else none

/-! ## The steps of `choose` -/

namespace CapabilityScout

/-- The category, where it came from, and the classifier's decision when it ran. -/
def resolveCategory (s : CapabilityScout) (request : ChatCompletionRequest)
    (hints : Option RoutingHints) : String × String × Option TaskCategoryDecision :=
  let classified := s.parts.classify request
  match hints with
  | none => (classified.category, "classifier", some classified)
  | some h => match h.effectiveCategory with
    | some category =>
      (category, if h.taskCategory.getD "" ≠ "" then "hint:task_category" else "hint:agent_role",
        none)
    | none => (classified.category, "classifier", some classified)

/-- `_all_registry_providers`. -/
def allRegistryProviders (s : CapabilityScout) : Finset String :=
  (s.registry.allEntries.map ModelEntry.provider).toFinset

/-- The threshold after the hints. -/
def hintedThreshold (s : CapabilityScout) (hints : Option RoutingHints) : ℚ :=
  match hints with
  | none => s.qualityThreshold
  | some h => h.qualityThreshold.getD s.qualityThreshold

/-- The providers a request excludes; an absent or empty set excludes none. -/
def excludedProviders (hints : Option RoutingHints) : Finset String :=
  match hints with
  | none => ∅
  | some h => h.excludedProviders.getD ∅

/-- `hints is None or hints.quality_threshold is None`: the guard of the alias policy and of the
shape bias. -/
def noThresholdHint (hints : Option RoutingHints) : Bool :=
  match hints with
  | none => true
  | some h => h.qualityThreshold.isNone

/-- The eligible set after the exclusions, before the alias policy. `none` in the outer option
is the `NoEligibleModelError` of an emptied set. -/
def hintedEligible (s : CapabilityScout) (hints : Option RoutingHints) :
    Option (Option (Finset String)) :=
  let excluded := excludedProviders hints
  if excluded = ∅ then some s.eligibleProviders
  else
    let eligible := (s.eligibleProviders.getD s.allRegistryProviders) \ excluded
    if eligible = ∅ then none else some (some eligible)

/-- AUTO's escalation signal: the difficulty detector or the reasoning markers, then the
large-context prior. -/
def autoEscalation (s : CapabilityScout) (request : ChatCompletionRequest) (category : String) :
    Bool × String :=
  let signal : Bool × String :=
    if s.settings.difficultyRoutingEnabled then
      let diff := s.parts.difficulty request category
      (diff.escalate, diff.rationale)
    else
      let r := shouldEscalateToFrontier s.parts.lower s.settings request
      (r.1, "markers=" ++ toString r.2)
  let ctxTokens := estimatedInputTokens s.parts request
  if 0 < s.settings.largeContextThreshold ∧ s.settings.largeContextThreshold ≤ ctxTokens then
    (true, signal.2 ++ ";large_context(" ++ toString ctxTokens ++ "tok)")
  else signal

/-- The frontier providers the gateway can dispatch to. -/
def reachableFrontier (availableFrontier : Option (Finset String)) : Finset String :=
  match availableFrontier with
  | none => frontierProviders
  | some a => frontierProviders ∩ a

/-- The alias policy's effect on the eligible set, and its rationale. SAVER intersects, an
escalated AUTO and a QUALITY that is not downgraded replace. -/
def applyPolicy (s : CapabilityScout) (request : ChatCompletionRequest)
    (policy : Option ModelMeldPolicy) (category : String)
    (availableFrontier : Option (Finset String)) (eligible : Option (Finset String)) :
    Option (Finset String) × String :=
  match policy with
  | none => (eligible, "")
  | some .saver =>
    (some (match eligible with
      | some e => e ∩ ossProviders
      | none => ossProviders), "policy=saver(tier=oss_only)")
  | some .auto =>
    let esc := s.autoEscalation request category
    if esc.1 then
      let fr := reachableFrontier availableFrontier
      if fr = ∅ then
        (eligible, "policy=auto(escalation_requested;no_frontier_adapter;fallback=oss_reasoner;"
          ++ esc.2 ++ ")")
      else (some fr, "policy=auto(escalated=frontier;" ++ esc.2 ++ ")")
    else (eligible, "policy=auto(escalated=no;" ++ esc.2 ++ ")")
  | some .quality =>
    if isAutocompleteShape request then (eligible, "policy=quality(downgrade=autocomplete_shape)")
    else (some (reachableFrontier availableFrontier), "policy=quality(tier=frontier_first)")

/-- The eligible set `rank` is called with, and the policy's rationale. -/
def policyEligible (s : CapabilityScout) (request : ChatCompletionRequest)
    (hints : Option RoutingHints) (availableFrontier : Option (Finset String))
    (eligible : Option (Finset String)) : Option (Finset String) × String :=
  if noThresholdHint hints then
    s.applyPolicy request (resolvePolicy request.model) (s.resolveCategory request hints).1
      availableFrontier eligible
  else (eligible, "")

/-- The threshold `rank` is called with, and the bias's rationale. -/
def biasedThreshold (s : CapabilityScout) (request : ChatCompletionRequest)
    (hints : Option RoutingHints) : ℚ × String :=
  let threshold := s.hintedThreshold hints
  if noThresholdHint hints then
    (applyShapeBias request (s.parts.identify request) threshold).getD (threshold, "")
  else (threshold, "")

/-- `category in _AGENTIC_ROUTE_CATEGORIES`. -/
def isAgenticRoute (category : String) : Bool := decide (category ∈ agenticRouteCategories)

/-- Only AUTO requests that carry tools are ranked with the latency term. -/
def usesLatency (request : ChatCompletionRequest) : Bool :=
  resolvePolicy request.model = some .auto && request.hasTools

/-- The arguments `choose` calls `rank` with. -/
def rankArgs (s : CapabilityScout) (request : ChatCompletionRequest)
    (hints : Option RoutingHints) (eligible : Option (Finset String)) : RankArgs :=
  let category := (s.resolveCategory request hints).1
  { taskCategory := category
    qualityThreshold := (s.biasedThreshold request hints).1
    eligibleProviders := eligible
    minContextWindow := requiredContextWindow s.parts request
    requireToolSupport := request.hasTools
    latencyWeight := if usesLatency request then autoLatencyWeight else 0
    latencyRefInputTokens :=
      if usesLatency request then (estimatedInputTokens s.parts request : ℤ) else 0
    latencyRefOutputTokens := agenticRefOutputTokens
    agenticAdmitFloor :=
      if isAgenticRoute category then some s.settings.agenticReliabilityFloor else none }

/-- `_capability`: the agentic score, else the category score. -/
def capability (category : String) (e : ModelEntry) : ℚ :=
  e.taskScores.getD agenticCapabilityCategory (e.taskScores.getD category 0)

/-- The QUALITY re-rank on agentic work: capability descending, then cost. -/
def qualityRerank (policy : Option ModelMeldPolicy) (category : String)
    (ranked : List (ModelEntry × ℚ)) : List (ModelEntry × ℚ) × String :=
  if policy = some .quality ∧ isAgenticRoute category then
    (Ranking.sortedBy (fun pair => toLex (-capability category pair.1, pair.2)) ranked,
      "quality_agentic=capability_first(by=" ++
        (if ranked.any (fun pair => pair.1.taskScores.contains agenticCapabilityCategory)
          then agenticCapabilityCategory else category) ++ ")")
  else (ranked, "")

/-- A row with a measured agentic score at least the floor. -/
def reliable (floor : ℚ) (e : ModelEntry) : Bool :=
  match e.taskScores.get? agenticCapabilityCategory with
  | none => false
  | some score => decide (floor ≤ score)

/-- The AUTO restriction on agentic work to rows of measured reliability, when there is one and
it drops something. -/
def reliabilityRestrict (s : CapabilityScout) (policy : Option ModelMeldPolicy)
    (category : String) (ranked : List (ModelEntry × ℚ)) : List (ModelEntry × ℚ) × String :=
  let floor := s.settings.agenticReliabilityFloor
  if policy = some .auto ∧ isAgenticRoute category ∧ 0 < floor then
    let kept := ranked.filter (fun pair => reliable floor pair.1)
    if kept ≠ [] ∧ kept.length < ranked.length then
      (kept, "auto_reliability=measured_floor(" ++ s.parts.reprFloat floor ++ ";dropped=" ++
        toString (ranked.length - kept.length) ++ ")")
    else (ranked, "")
  else (ranked, "")

/-- What `choose` ranks a request's rows into, with the texts the steps leave. -/
structure Ranked where
  rows : List (ModelEntry × ℚ)
  notes : List String

/-- The final ranked candidate list, from the eligible set after hints and policy. -/
def rankedCandidates (s : CapabilityScout) (request : ChatCompletionRequest)
    (hints : Option RoutingHints) (eligible : Option (Finset String)) : Ranked :=
  let policy := resolvePolicy request.model
  let category := (s.resolveCategory request hints).1
  let ranked := s.registry.rank (s.rankArgs request hints eligible)
  let q := qualityRerank policy category ranked
  let r := s.reliabilityRestrict policy category q.1
  { rows := r.1, notes := [q.2, r.2] }

/-- `d1=latency(…)`. -/
def latencyRationale (s : CapabilityScout) (request : ChatCompletionRequest) : String :=
  if usesLatency request then
    "d1=latency(w=" ++ s.parts.reprFloat autoLatencyWeight ++ ";ref_in=" ++
      toString (estimatedInputTokens s.parts request) ++ ")"
  else ""

/-- `_pinned_decision`. -/
def pinnedDecision (s : CapabilityScout) (request : ChatCompletionRequest) (modelId : String) :
    Except NoEligibleModelError CapabilityDecision :=
  match s.registry.get modelId with
  | none => .error { taskCategory := "pinned", qualityThreshold := 0, eligibleProviders := none }
  | some entry => .ok
    { chosenModelId := entry.modelId
      chosenProvider := entry.provider
      taskCategory := "pinned"
      taskScore := 0
      qualityThreshold := 0
      fallbackModelIds := []
      categoryDecision := none
      devtoolFingerprint := some (s.parts.identify request)
      rationale := "PIN: model=" ++ entry.modelId ++ ";scout_bypassed(MODELMELD_ALLOW_MODEL_PIN)"
      providerModelId := entry.providerModelId }

/-- `hints.pin_model if hints is not None else None`, an empty pin counting as none. -/
def pin (hints : Option RoutingHints) : Option String :=
  match hints with
  | none => none
  | some h => h.pinModel.bind (fun m => if m = "" then none else some m)

/-- The decision made of the first row of the ranked list. -/
def decisionOf (s : CapabilityScout) (request : ChatCompletionRequest)
    (hints : Option RoutingHints) (policyRationale : String) (notes : List String)
    (chosen : ModelEntry × ℚ) (rest : List (ModelEntry × ℚ)) : CapabilityDecision :=
  let cat := s.resolveCategory request hints
  let bias := s.biasedThreshold request hints
  let score := chosen.1.taskScores.getD cat.1 0
  let base := "category=" ++ cat.1 ++ "(src=" ++ cat.2.1 ++ ");score=" ++ fixed score 2 ++
    ";chose=" ++ chosen.1.modelId ++ ";cost=$" ++ fixed chosen.2 3 ++ "/Mblended"
  { chosenModelId := chosen.1.modelId
    chosenProvider := chosen.1.provider
    taskCategory := cat.1
    taskScore := score
    qualityThreshold := bias.1
    fallbackModelIds := (rest.take s.fallbackDepth).map (fun pair => pair.1.modelId)
    categoryDecision := cat.2.2
    devtoolFingerprint := some (s.parts.identify request)
    rationale := join ";" (base ::
      ([policyRationale, bias.2, s.latencyRationale request] ++ notes).filter (· ≠ ""))
    providerModelId := chosen.1.providerModelId }

/-- `choose`. -/
def choose (s : CapabilityScout) (request : ChatCompletionRequest)
    (hints : Option RoutingHints) (availableFrontier : Option (Finset String)) :
    Except NoEligibleModelError CapabilityDecision :=
  match pin hints with
  | some modelId => s.pinnedDecision request modelId
  | none =>
    let category := (s.resolveCategory request hints).1
    match s.hintedEligible hints with
    | none => .error
      { taskCategory := category
        qualityThreshold := s.hintedThreshold hints
        eligibleProviders := some ∅ }
    | some eligible =>
      let pol := s.policyEligible request hints availableFrontier eligible
      let ranked := s.rankedCandidates request hints pol.1
      match ranked.rows with
      | [] => .error
        { taskCategory := category
          qualityThreshold := (s.biasedThreshold request hints).1
          eligibleProviders := pol.1 }
      | chosen :: rest => .ok (s.decisionOf request hints pol.2 ranked.notes chosen rest)

/-- `lookup_fallback`. -/
def lookupFallback (s : CapabilityScout) (modelId : String) : Option ModelEntry :=
  s.registry.get modelId

end CapabilityScout

end ModelMeld
