import ModelMeld.Spec.Context
import ModelMeld.Spec.Headers
import ModelMeld.Spec.Postgres
import ModelMeld.Spec.Stall

/-!
# Request headers

What a handler reads off the headers of a request: the memory identity, the
routing hints, the client's own provider keys, the shape of its bearer token,
and the headers forwarded to Anthropic. `str.lower`, `repr` and `float` are
parameters. Header names come in lower case, and a name may come twice.
-/

namespace ModelMeld

/-! ## Python strings -/

/-- `s.startswith(start)`. -/
def startsWith (start s : String) : Bool := start.toList.isPrefixOf s.toList

/-- `s[n:]`. -/
def textFrom (n : ℕ) (s : String) : String := String.ofList (s.toList.drop n)

/-- `s.lstrip()`. -/
def lstrip (s : String) : String := String.ofList (s.toList.dropWhile isSpace)

/-- `s or None`. -/
def orNone (s : String) : Option String := if s = "" then none else some s

/-- `s.split(",")`. -/
def splitCommas (s : String) : List String := (s.toList.splitOn ',').map String.ofList

/-- A letter or a hyphen that `str.lower` leaves as it is. -/
def isPlain (c : Char) : Bool := c.isLower || c == '-'

/-- What reading a header takes from elsewhere. -/
structure HeaderParts where
  /-- `str.lower`. -/
  lower : String → String
  lower_plain : ∀ s : String, s.toList.all isPlain = true → lower s = s
  /-- `repr` of a string. -/
  reprStr : String → String
  /-- `float` of a text: `none` is a `ValueError`, and `some none` a NaN or an infinity. -/
  float : String → Option (Option ℚ)
  env : Environ

/-- `{k.lower(): v for k, v in headers.items()}`: the last of a name. -/
def loweredHeaders (lower : String → String) (headers : Headers) : OrderedDict String String :=
  OrderedDict.ofPairs (headers.map (fun h => (lower h.1, h.2)))

/-- `request.headers.get(name)`: the first of a name. -/
def headerValue (headers : Headers) (name : String) : Option String := headers.lookup name

/-! ## Memory identity -/

/-- What the auth middleware leaves on `request.state`. -/
structure AuthState where
  tenantId : Option String := none
  userId : Option String := none
  apiKeyModelAllowlist : Option (List String) := none

/-- `_auth_identity`: the tenant with its user. -/
def authIdentity (auth : AuthState) : Option (String × Option String) :=
  auth.tenantId.map (fun tenantId => (tenantId, auth.userId))

def anonymousTenantId : String := "__anonymous__"

/-- `_parse_memory_mode`; an error is the text of the `MemoryHeaderError`. -/
def parseMemoryMode (parts : HeaderParts) : Option String → Except String MemoryMode
  | none => .ok .augment
  | some raw =>
    let value := parts.lower (strip raw)
    if value = "" then .ok .augment
    else if value = "augment" then .ok .augment
    else if value = "full" then .ok .full
    else if value = "off" then .ok .off
    else .error ("'x-modelmeld-memory-mode': '" ++ raw ++ "' not in ['augment', 'full', 'off']")

/-- `extract_memory_identity`. -/
def extractMemoryIdentity (parts : HeaderParts) (headers : Headers)
    (authTenantId authUserId : Option String) : Except String MemoryIdentity :=
  let lower := loweredHeaders parts.lower headers
  let sessionId := orNone (strip (lower.getD "x-modelmeld-session-id" ""))
  let tenantId := if authTenantId.getD "" = "" then anonymousTenantId else authTenantId.getD ""
  if validTenantId tenantId then
    let userIdOverride := orNone (strip (lower.getD "x-modelmeld-user-id" ""))
    match parseMemoryMode parts (lower.get? "x-modelmeld-memory-mode") with
    | .error e => .error e
    | .ok mode => .ok
      { tenantId := tenantId
        sessionId := sessionId
        userId := userIdOverride.or authUserId
        mode := mode }
  else .error ("invalid_tenant_id: tenant_id " ++ parts.reprStr tenantId ++
    " fails validation; must match \\A[A-Za-z0-9_.-]\x7b1,128\x7d\\Z")

/-! ## Routing hints -/

/-- `TASK_CATEGORIES`. -/
def taskCategories : List String :=
  ["coding", "reasoning", "simple_qa", "summarization", "tool_use"]

/-- `_model_pin_enabled`. -/
def modelPinEnabled (parts : HeaderParts) : Bool :=
  decide (parts.lower (strip ((parts.env.get "MODELMELD_ALLOW_MODEL_PIN").getD "")) ∈
    ["1", "true", "yes", "on"])

/-- `_parse_task_category`; an error is the text of the `RoutingHintError`. -/
def parseTaskCategory (parts : HeaderParts) : Option String → Except String (Option String)
  | none => .ok none
  | some raw =>
    let value := parts.lower (strip raw)
    if value = "" then .ok none
    else if value ∈ taskCategories then .ok (some value)
    else .error ("'x-modelmeld-task-category': '" ++ raw ++
      "' not in ['coding', 'reasoning', 'simple_qa', 'summarization', 'tool_use']")

/-- `_parse_agent_role`. -/
def parseAgentRole (parts : HeaderParts) : Option String → Except String (Option String)
  | none => .ok none
  | some raw =>
    let lowered := parts.lower (strip raw)
    let value := String.ofList (lowered.toList.map (fun c => if c = '-' then '_' else c))
    if value = "" then .ok none
    else if value ∈ agentRoleToCategory.map Prod.fst then .ok (some value)
    else .error ("'x-modelmeld-agent-role': '" ++ raw ++
      "' unknown; see AGENT_ROLE_TO_CATEGORY")

/-- `_parse_quality_threshold`. -/
def parseQualityThreshold (parts : HeaderParts) : Option String → Except String (Option ℚ)
  | none => .ok none
  | some raw =>
    let raw := strip raw
    if raw = "" then .ok none
    else match parts.float raw with
      | none => .error ("'x-modelmeld-quality-threshold': '" ++ raw ++ "' is not a number")
      | some (some value) =>
        if 0 ≤ value ∧ value ≤ 1 then .ok (some value)
        else .error ("'x-modelmeld-quality-threshold': '" ++ raw ++ "' must be in [0, 1]")
      -- no comparison with a NaN holds
      | some none => .error ("'x-modelmeld-quality-threshold': '" ++ raw ++ "' must be in [0, 1]")

/-- `_parse_excluded_providers`. -/
def parseExcludedProviders (parts : HeaderParts) : Option String → Option (Finset String)
  | none => none
  | some raw =>
    let pieces := ((splitCommas raw).map strip).filter (· ≠ "")
    if pieces = [] then none else some (pieces.map parts.lower).toFinset

/-- `extract_hints_from_headers`. -/
def extractHintsFromHeaders (parts : HeaderParts) (headers : Headers) :
    Except String RoutingHints := do
  let h := loweredHeaders parts.lower headers
  let taskCategory ← parseTaskCategory parts (h.get? "x-modelmeld-task-category")
  let agentRole ← parseAgentRole parts (h.get? "x-modelmeld-agent-role")
  let qualityThreshold ← parseQualityThreshold parts (h.get? "x-modelmeld-quality-threshold")
  let excludedProviders := parseExcludedProviders parts (h.get? "x-modelmeld-exclude-providers")
  let pinModel := if modelPinEnabled parts then
    (h.get? "x-modelmeld-pin-model").bind (fun raw => orNone (strip raw)) else none
  return { taskCategory, agentRole, qualityThreshold, excludedProviders, pinModel }

/-! ## Keys the client brings -/

/-- `_HEADER_PREFIX`. -/
def byokHeaderPrefix : String := "x-modelmeld-byok-"

/-- `BYOKCredentials`: the keys by provider. -/
abbrev ByokCredentials := OrderedDict String String

namespace ByokCredentials

/-- `providers`. -/
def providers (creds : ByokCredentials) : Finset String := creds.keys.toFinset

/-- `is_empty`. -/
def isEmpty (creds : ByokCredentials) : Bool := creds.entries.isEmpty

/-- The loop of `extract_byok_credentials`, for one header. -/
def read (lower : String → String) (creds : ByokCredentials) (h : String × String) :
    ByokCredentials :=
  let nameLower := lower h.1
  if startsWith byokHeaderPrefix nameLower then
    let provider := strip (textFrom byokHeaderPrefix.length nameLower)
    if provider ∈ byokEligibleProviders ∧ strip h.2 ≠ "" then creds.insert provider (strip h.2)
    else creds
  else creds

end ByokCredentials

/-- `extract_byok_credentials`. -/
def extractByokCredentials (lower : String → String) (headers : Headers) : ByokCredentials :=
  headers.foldl (ByokCredentials.read lower) .empty

/-- The adapter of a client's key; only these two providers are eligible. -/
def byokAdapter (provider key : String) : Option ProviderAdapter :=
  if provider = "anthropic" then some { cls := .anthropic, credential := key }
  else if provider = "openai" then some { cls := .openai, credential := key }
  else none

/-- What `logger.error` is told of a key whose adapter cannot be built. -/
def byokFailureLine (provider : String) : String :=
  "BYOK adapter construction failed for provider=" ++ provider ++
    " (optional dependency missing or invalid key shape?); request will route as if no BYOK key " ++
    "was provided"

/-- The loop of `build_byok_adapters`, for one key; `installed` are the providers whose optional
package can be imported. -/
def buildByokAdapter (installed : String → Bool) (built : AdapterMap × List String)
    (e : String × String) : AdapterMap × List String :=
  match byokAdapter e.1 e.2 with
  | none => built
  | some adapter =>
    if installed e.1 then (built.1.add adapter, built.2)
    else (built.1, built.2 ++ [byokFailureLine e.1])

/-- `build_byok_adapters`, with the lines it logs. -/
def buildByokAdapters (installed : String → Bool) (creds : ByokCredentials) :
    AdapterMap × List String :=
  creds.entries.foldl (buildByokAdapter installed) (.empty, [])

/-! ## The shape of the bearer token -/

inductive AuthKind where
  | anthropicApiKey | openaiApiKey | modelmeldLicense | oauthBearer | unknown | missing
deriving DecidableEq

structure AuthClassification where
  kind : AuthKind
  token : String
  display : String
deriving DecidableEq

/-- What a log line shows of a key. -/
def redactionMark (key : String) : String :=
  if key = "" then "***[empty]"
  else
    (if 7 ≤ key.length then String.ofList (key.toList.take 7) else "") ++
      "***[len=" ++ toString key.length ++ "]"

/-- `_redact`. -/
def redactToken (token : String) : String := redactionMark token

/-- The header value without its `Bearer`. -/
def bearerToken (lower : String → String) (header : String) : String :=
  let raw := strip header
  if startsWith "bearer" (lower raw) then lstrip (textFrom 6 raw) else raw

/-- The kind of a token, by how it starts. -/
def tokenKind (token : String) : AuthKind :=
  if startsWith "sk-ant-" token then .anthropicApiKey
  else if startsWith "sk-" token then .openaiApiKey
  else if startsWith "gws_" token then .modelmeldLicense
  else if startsWith "eyJ" token then .oauthBearer
  else .unknown

/-- `classify_authorization`. -/
def classifyAuthorization (lower : String → String) : Option String → AuthClassification
  | none => ⟨.missing, "", "***[missing]"⟩
  | some header =>
    if header = "" then ⟨.missing, "", "***[missing]"⟩
    else
      let raw := bearerToken lower header
      if raw = "" then ⟨.missing, "", "***[empty]"⟩
      else ⟨tokenKind raw, raw, redactToken raw⟩

/-! ## Subscription passthrough -/

inductive PassthroughVendor where
  | codex | anthropic
deriving DecidableEq

/-- `PassthroughVendor.value`. -/
def PassthroughVendor.value : PassthroughVendor → String
  | .codex => "codex"
  | .anthropic => "anthropic"

/-- `_DEFAULT_SERVED_MODEL` of the Codex adapter. -/
def codexServedModel : String := "gpt-5.4"

/-- `_build_passthrough_adapter`: the Codex adapter needs the `openai` package, the Anthropic one
speaks HTTP itself. -/
def buildPassthroughAdapter (installed : String → Bool) (auth : AuthClassification) :
    PassthroughVendor → Option ProviderAdapter
  | .codex =>
    if installed "openai" then
      some { cls := .codexPassthrough, servedModel := some codexServedModel, credential := auth.token }
    else none
  | .anthropic => some { cls := .anthropic, credential := auth.token }

def passthroughDisabled : HttpError :=
  ⟨403, .text ("subscription_passthrough_disabled: An OAuth bearer token was supplied (auth shape " ++
    "suggests a Codex CLI or Claude Max subscription token) but this gateway has " ++
    "MODELMELD_ALLOW_SUBSCRIPTION_PASSTHROUGH=False. Operator must explicitly enable subscription " ++
    "passthrough; see docs/subscription-passthrough.md.")⟩

def passthroughUnavailable (vendor : PassthroughVendor) : HttpError :=
  ⟨500, .text ("subscription_passthrough_unavailable: vendor=" ++ vendor.value ++ " adapter could " ++
    "not be constructed. Verify that the gateway has the optional provider extras installed (pip " ++
    "install 'modelmeld[openai,anthropic]').")⟩

/-- `resolve_passthrough_router`: the adapter of the router it returns, and the lines it logs. -/
def resolvePassthroughRouter (installed : String → Bool) (auth : AuthClassification)
    (vendor : PassthroughVendor) (allowPassthrough : Bool) :
    Except HttpError (Option ProviderAdapter) × List String :=
  if auth.kind ≠ .oauthBearer then (.ok none, [])
  else if !allowPassthrough then (.error passthroughDisabled, [])
  else match buildPassthroughAdapter installed auth vendor with
    | none => (.error (passthroughUnavailable vendor),
        ["subscription_passthrough adapter construction failed vendor=" ++ vendor.value])
    | some adapter => (.ok (some adapter),
        ["subscription_passthrough engaged: vendor=" ++ vendor.value ++ " auth=" ++ auth.display])

/-! ## Headers forwarded to Anthropic -/

/-- `_FORWARDED_ANTHROPIC_HEADERS`. -/
def forwardedAnthropicHeaders : List String := ["anthropic-beta", "anthropic-version"]

/-- `_FORWARDED_OAUTH_CAMOUFLAGE_HEADERS`. -/
def forwardedOauthCamouflageHeaders : List String :=
  ["user-agent", "x-stainless-arch", "x-stainless-async", "x-stainless-lang", "x-stainless-os",
   "x-stainless-package-version", "x-stainless-retry-count", "x-stainless-runtime",
   "x-stainless-runtime-version", "x-stainless-timeout"]

/-- The loop of both collectors. -/
def collectHeaders (names : List String) (headers : Headers) : Headers :=
  names.filterMap (fun name => (headerValue headers name).map (fun value => (name, value)))

/-- `_collect_anthropic_extra_headers`. -/
def collectAnthropicExtraHeaders (headers : Headers) : Headers :=
  collectHeaders forwardedAnthropicHeaders headers

/-- `_collect_oauth_camouflage_headers`. -/
def collectOauthCamouflageHeaders (headers : Headers) : Headers :=
  collectHeaders forwardedOauthCamouflageHeaders headers

end ModelMeld
