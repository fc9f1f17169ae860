import ModelMeld.Spec.Router
import ModelMeld.Spec.Privacy

/-!
# Response headers and error details

The `x-modelmeld-*` headers a routing decision is reported with, and how a
`RouterError` is turned into a status.
-/

namespace ModelMeld

abbrev Headers := List (String × String)

/-- `_canonical_model_id_for_header`: the id of the row of this provider that has the served id as
its own id or as its slug. -/
def canonicalModelIdForHeader (servedModelId : Option String) (adapterName : String)
    (modelRegistry : Option ModelRegistry) : Option String :=
  match servedModelId, modelRegistry with
  | some served, some registry =>
    match registry.rows.find? (fun entry =>
        decide (adapterName = "" ∨ entry.provider = adapterName) &&
          decide (entry.modelId = served ∨ entry.providerModelId = served)) with
    | some entry => some entry.modelId
    | none => some served
  | served, _ => served

/-- `_latin1_safe`. -/
def latin1Safe (value : String) : String :=
  String.ofList (value.toList.map (fun c => if c.toNat < 256 then c else '?'))

/-- The model named in the `x-modelmeld-routed-model` header, before it is made latin-1; none
without an override. -/
def routedModel (decision : RoutingDecision) (modelRegistry : Option ModelRegistry) :
    Option String :=
  match decision.modelIdOverride with
  | none => none
  | some modelId =>
    if modelId = "" then none
    else
      let canonical := (canonicalModelIdForHeader (some modelId) decision.adapter.name
        modelRegistry).getD ""
      some (if canonical = "" then modelId else canonical)

/-- Where the category came from, read off the rationale. -/
def categorySource (rationale : String) : Headers :=
  if isSubstring "src=hint:task_category" rationale then
    [("x-modelmeld-category-source", "hint:task_category")]
  else if isSubstring "src=hint:agent_role" rationale then
    [("x-modelmeld-category-source", "hint:agent_role")]
  else if isSubstring "src=classifier" rationale then
    [("x-modelmeld-category-source", "classifier")]
  else []

/-- The name of the shape bias, read off the rationale. -/
def biasHeader (rationale : String) : Headers :=
  if isSubstring "bias=" rationale then
    let name := beforeFirst ";" (beforeFirst "(" (afterFirst "bias=" rationale))
    if name = "" then [] else [("x-modelmeld-bias", name)]
  else []

/-- The headers a capability decision adds. -/
def capabilityHeaders (exposeRationale : Bool) (cap : CapabilityDecision) : Headers :=
  [("x-modelmeld-task-category", cap.taskCategory),
   ("x-modelmeld-task-score", fixed cap.taskScore 2),
   ("x-modelmeld-quality-threshold", fixed cap.qualityThreshold 2)] ++
  categorySource cap.rationale ++
  (match cap.devtoolFingerprint with
    | none => []
    | some fp => if fp.tool.value = "unknown" then [] else
      [("x-modelmeld-devtool", fp.tool.value ++ ":" ++ fixed fp.confidence 2)]) ++
  biasHeader cap.rationale ++
  (if cap.rationale ≠ "" ∧ exposeRationale then
    [("x-modelmeld-routing-rationale", String.ofList (cap.rationale.toList.take 480))] else [])

/-- `_routing_headers`; `exposeRationale` is the environment flag. -/
def routingHeaders (exposeRationale : Bool) (decision : RoutingDecision)
    (redactions : List Redaction) (failoverFrom : Option Tier) (hints : Option RoutingHints)
    (modelRegistry : Option ModelRegistry) : Headers :=
  ([("x-modelmeld-routed-to", decision.adapter.name),
    ("x-modelmeld-tier", decision.tier.value)] ++
  (match routedModel decision modelRegistry with
    | none => []
    | some m => [("x-modelmeld-routed-model", m)]) ++
  (match hints.bind RoutingHints.agentRole with
    | none => []
    | some role => if role = "" then [] else [("x-modelmeld-agent-role", role)]) ++
  (match decision.capabilityDecision with
    | none => []
    | some cap => capabilityHeaders exposeRationale cap) ++
  (if redactions = [] then [] else
    [("x-modelmeld-redactions",
      join "," (redactions.map (fun r => r.label ++ ":" ++ toString r.count)))]) ++
  (match failoverFrom with
    | none => []
    | some tier => [("x-modelmeld-failover-from", tier.value)])).map
    (fun p => (p.1, latin1Safe p.2))

/-! ## Errors -/

inductive ErrorDetail where
  | text (s : String)
  /-- `_byok_required_detail`. -/
  | byokRequired
  /-- `_no_eligible_model_detail`. -/
  | noEligibleModel
deriving DecidableEq

/-- `HTTPException`. -/
structure HttpError where
  status : ℕ
  detail : ErrorDetail
deriving DecidableEq

/-- `_is_byok_required_error`; `supplied` are the providers the client sent a key for. -/
def isByokRequiredError (error : RouterError) (supplied : Finset String) : Bool :=
  let msg := error.message
  let missing (p : String) : Bool := decide (p ∉ supplied)
  isSubstring "No healthy adapter available" msg &&
    (["anthropic", "openai"].any (fun p => isSubstring (p ++ ":not_configured") msg && missing p) ||
      (["anthropic", "openai"].any (fun p => isSubstring ("primary=" ++ p) msg) &&
        ["anthropic", "openai"].any (fun p => ["claude-", "gpt-"].any (fun start =>
          isSubstring start msg && isSubstring ":all_providers_blocked" msg && missing p))))

/-- `_is_no_eligible_model_error`. -/
def isNoEligibleModelError (error : RouterError) : Bool :=
  isSubstring "capability_scout:" error.message && isSubstring "meets threshold" error.message

/-- How a handler answers a `RouterError`. -/
def routerHttpError (safeErrorDetail : String → String) (error : RouterError)
    (supplied : Finset String) : HttpError :=
  if isByokRequiredError error supplied then ⟨400, .byokRequired⟩
  else if isNoEligibleModelError error then ⟨400, .noEligibleModel⟩
  else ⟨503, .text (safeErrorDetail error.message)⟩

end ModelMeld
