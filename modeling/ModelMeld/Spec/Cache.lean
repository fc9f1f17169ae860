import ModelMeld.Spec.Schemas
import ModelMeld.Lib.OrderedDict

/-!
# Completion caches

`cache_key_for_request`, the in-memory exact-match cache, and a semantic cache
as the routes see it: a store that may answer a search with any completion kept
in the bucket of the tenant and the served model.
-/

namespace ModelMeld

/-! ## `model_dump(exclude_none=True)` -/

/-- A field, unless it is `None`. -/
def field (key : String) (value : Option Json) : JsonObj :=
  match value with
  | none => []
  | some v => [(key, v)]

/-- The fields a client added, less the null ones. -/
def dumpExtra (extra : JsonObj) : JsonObj := extra.filter (fun p => p.2 ≠ .null)

def TextPart.dump (p : TextPart) : Json :=
  .obj ([("type", .str "text"), ("text", .str p.text)] ++
    field "cache_control" (p.cacheControl.map .obj))

def ImageDetail.value : ImageDetail → String
  | .auto => "auto"
  | .low => "low"
  | .high => "high"

def AudioFormat.value : AudioFormat → String
  | .wav => "wav"
  | .mp3 => "mp3"

def ContentPart.dump : ContentPart → Json
  | .text p => p.dump
  | .image url => .obj [("type", .str "image_url"), ("image_url", .obj (("url", .str url.url) ::
      field "detail" (url.detail.map (fun d => .str d.value))))]
  | .audio input => .obj [("type", .str "input_audio"), ("input_audio",
      .obj [("data", .str input.data), ("format", .str input.format.value)])]

def Content.dump {P : Type} (part : P → Json) : Content P → Json
  | .str s => .str s
  | .parts ps => .arr (ps.map part)

def FunctionCall.dump (f : FunctionCall) : Json :=
  .obj [("name", .str f.name), ("arguments", .str f.arguments)]

def ToolCall.dump (c : ToolCall) : Json :=
  .obj [("id", .str c.id), ("type", .str "function"), ("function", c.function.dump)]

def FunctionDef.dump (f : FunctionDef) : Json :=
  .obj ([("name", .str f.name)] ++ field "description" (f.description.map .str) ++
    field "parameters" (f.parameters.map .obj) ++ field "strict" (f.strict.map .bool))

def Tool.dump (t : Tool) : Json :=
  .obj [("type", .str "function"), ("function", t.function.dump)]

def Message.dump : Message → Json
  | .system m => .obj ([("role", .str "system"), ("content", m.content.dump TextPart.dump)] ++
      field "name" (m.name.map .str) ++ dumpExtra m.extra)
  | .user m => .obj ([("role", .str "user"), ("content", m.content.dump ContentPart.dump)] ++
      field "name" (m.name.map .str) ++ dumpExtra m.extra)
  | .assistant m => .obj ([("role", .str "assistant")] ++
      field "content" (m.content.map (fun c => c.dump TextPart.dump)) ++
      field "name" (m.name.map .str) ++
      field "tool_calls" (m.toolCalls.map (fun cs => .arr (cs.map ToolCall.dump))) ++
      field "refusal" (m.refusal.map .str) ++ dumpExtra m.extra)
  | .tool m => .obj ([("role", .str "tool"), ("content", m.content.dump TextPart.dump),
      ("tool_call_id", .str m.toolCallId)] ++ dumpExtra m.extra)

def ResponseFormatType.value : ResponseFormatType → String
  | .text => "text"
  | .jsonObject => "json_object"
  | .jsonSchema => "json_schema"

def ResponseFormat.dump (f : ResponseFormat) : Json :=
  .obj (("type", .str f.type.value) :: field "json_schema" (f.jsonSchema.map .obj))

def Stop.dump : Stop → Json
  | .one s => .str s
  | .many ss => .arr (ss.map .str)

def ToolChoice.dump : ToolChoice → Json
  | .mode s => .str s
  | .named choice => .obj choice

def ReasoningEffort.value : ReasoningEffort → String
  | .low => "low"
  | .medium => "medium"
  | .high => "high"

def StreamOptions.dump (o : StreamOptions) : Json :=
  .obj (field "include_usage" (o.includeUsage.map .bool))

/-- The request as the dictionary `model_dump(exclude_none=True)` makes of it. -/
def ChatCompletionRequest.dump (r : ChatCompletionRequest) : JsonObj :=
  [("model", .str r.model), ("messages", .arr (r.messages.map Message.dump))] ++
    field "frequency_penalty" (r.frequencyPenalty.map .float) ++
    field "logit_bias" (r.logitBias.map (fun b => .obj (b.map (fun p => (p.1, .int p.2))))) ++
    field "logprobs" (r.logprobs.map .bool) ++
    field "top_logprobs" (r.topLogprobs.map .int) ++
    field "max_tokens" (r.maxTokens.map .int) ++
    field "max_completion_tokens" (r.maxCompletionTokens.map .int) ++
    field "n" (r.n.map .int) ++
    field "presence_penalty" (r.presencePenalty.map .float) ++
    field "response_format" (r.responseFormat.map ResponseFormat.dump) ++
    field "seed" (r.seed.map .int) ++
    field "stop" (r.stop.map Stop.dump) ++
    field "stream" (r.stream.map .bool) ++
    field "stream_options" (r.streamOptions.map StreamOptions.dump) ++
    field "temperature" (r.temperature.map .float) ++
    field "top_p" (r.topP.map .float) ++
    field "tools" (r.tools.map (fun ts => .arr (ts.map Tool.dump))) ++
    field "tool_choice" (r.toolChoice.map ToolChoice.dump) ++
    field "parallel_tool_calls" (r.parallelToolCalls.map .bool) ++
    field "user" (r.user.map .str) ++
    field "reasoning_effort" (r.reasoningEffort.map (fun e => .str e.value)) ++
    dumpExtra r.extra

/-! ## Keys -/

/-- `_NON_SEMANTIC_FIELDS`. -/
def nonSemanticFields : List String := ["stream", "stream_options", "user", "metadata"]

/-- `_canonicalize`. -/
def canonicalize (request : ChatCompletionRequest) (servedModel : Option String) : JsonObj :=
  let raw := request.dump.filter (fun p => p.1 ∉ nonSemanticFields)
  match servedModel with
  | none => raw
  | some m =>
    if m = "" then raw
    else raw.map (fun p => if p.1 = "model" then ("model", .str m) else p)

/-- `n is not None and n > 1`. -/
def manyChoices (request : ChatCompletionRequest) : Bool :=
  match request.n with
  | none => false
  | some n => decide (1 < n)

/-- `is_request_semantically_cacheable`. -/
def isRequestSemanticallyCacheable (request : ChatCompletionRequest) : Bool :=
  if request.streaming then false
  else if request.hasTools then false
  else !manyChoices request

/-- A key, which the source writes `gateway:cache:v1:<bucket>:<digest>`. -/
structure CacheKey (D : Type) where
  bucket : String
  digest : D
deriving DecidableEq

/-- `cache_key_for_request`; `digest` is SHA-256 of the sorted JSON text. -/
def cacheKeyForRequest {D : Type} (digest : JsonObj → D) (request : ChatCompletionRequest)
    (tenantId : Option String) (servedModel : Option String) : Option (CacheKey D) :=
  if request.streaming then none
  else if request.hasTools then none
  else if manyChoices request then none
  else some
    { bucket := if tenantId.getD "" = "" then "__anon__" else tenantId.getD ""
      digest := digest (canonicalize request servedModel) }

/-! ## The exact-match cache -/

/-- `InMemoryCompletionCache`: values with their expiry, oldest first. -/
structure InMemoryCompletionCache (K V : Type) where
  maxEntries : ℕ
  store : OrderedDict K (V × ℚ)

namespace InMemoryCompletionCache

variable {K V : Type} [DecidableEq K]

/-- Drops entries from the front until at most `n` are left. -/
def evict (n : ℕ) (d : OrderedDict K (V × ℚ)) : OrderedDict K (V × ℚ) :=
  ⟨d.entries.drop (d.size - n), by
    rw [List.map_drop]
    exact (List.drop_sublist _ _).nodup d.nodup⟩

/-- `get`: an expired entry is dropped, a live one moves to the end. -/
def get (c : InMemoryCompletionCache K V) (key : K) (now : ℚ) :
    Option V × InMemoryCompletionCache K V :=
  match c.store.get? key with
  | none => (none, c)
  | some (value, expiresAt) =>
    if expiresAt ≤ now then (none, { c with store := c.store.erase key })
    else (some value, { c with store := (c.store.erase key).insert key (value, expiresAt) })

/-- `set`. -/
def set (c : InMemoryCompletionCache K V) (key : K) (value : V) (ttlSeconds : ℤ) (now : ℚ) :
    InMemoryCompletionCache K V :=
  if ttlSeconds ≤ 0 then c
  else { c with
    store := evict c.maxEntries ((c.store.erase key).insert key (value, now + ttlSeconds)) }

end InMemoryCompletionCache

/-! ## The semantic cache -/

/-- What `store` persists, less the prompt text and its embedding. -/
structure SemanticEntry (V : Type) where
  tenantId : Option String
  servedModel : Option String
  value : V

/-- A semantic cache, by what was stored in it. -/
abbrev SemanticCache (V : Type) := List (SemanticEntry V)

namespace SemanticCache

variable {V : Type}

/-- The entries of a tenant and a served model. -/
def bucket (c : SemanticCache V) (tenantId servedModel : Option String) : List (SemanticEntry V) :=
  c.filter (fun e => decide (e.tenantId = tenantId ∧ e.servedModel = servedModel))

/-- `search`; `pick` is the entry of the bucket the backend answers with, if it answers. -/
def search (c : SemanticCache V) (tenantId servedModel : Option String) (pick : Option ℕ) :
    Option V :=
  pick.bind (fun i => ((bucket c tenantId servedModel)[i]?).map SemanticEntry.value)

/-- `store`. -/
def store (c : SemanticCache V) (tenantId servedModel : Option String) (value : V) :
    SemanticCache V :=
  c ++ [⟨tenantId, servedModel, value⟩]

end SemanticCache

end ModelMeld
