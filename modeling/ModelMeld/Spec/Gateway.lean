import ModelMeld.Spec.Headers
import ModelMeld.Spec.Memory
import ModelMeld.Spec.Cache
import ModelMeld.Spec.ToAnthropic

/-!
# The route handlers

`/v1/chat/completions`, `/v1/messages` and `/v1/responses`: route, inject
memory, scrub, look into the caches, dispatch with one failover, and answer.
What a handler reads from outside (headers, memory, clocks, upstream answers)
is its input; what it hands to adapters, the response and the state it leaves
are its output. What is recorded is in `Outcomes`; memory writes are left out.
-/

namespace ModelMeld

/-! ## Dispatches and answers -/

/-- What is handed to an adapter in one call: the request, and for `AnthropicAdapter` the native
body. -/
structure Dispatch where
  adapter : ProviderAdapter
  request : ChatCompletionRequest
  native : Option AnthropicMessagesRequest := none
deriving DecidableEq

/-- What comes back from an adapter. -/
inductive Upstream (α : Type) where
  | ok (value : α)
  | failed (error : AdapterError)
  /-- Any exception that is no `AdapterError`. -/
  | raised

/-- An opened stream: its chunks, and whether it breaks off with an exception. -/
structure ChunkStream where
  chunks : List ChatCompletionChunk
  breaksOff : Bool := false

/-- What one request reads from outside. -/
structure Outside (ε : Type) where
  /-- The router's readings while it routes, and while it looks for a fallback. -/
  routing : ε
  failover : ε
  /-- What the memory provider retrieves. -/
  memory : MemoryContext := {}
  /-- The answers to the first and the second dispatch. -/
  chat : ℕ → Dispatch → Upstream ChatCompletion
  stream : ℕ → Dispatch → Upstream ChunkStream
  cacheTtl : ℤ := 3600
  getAt : ℚ := 0
  setAt : ℚ := 0
  /-- What the semantic cache answers a search with. -/
  semanticPick : Option ℕ := none
  inputTokens : ℤ := 0
  fresh : FreshIds := ⟨"msg_0", fun _ => "toolu_0"⟩

/-- What a request brings beside its body, after the headers are parsed. -/
structure Inbound where
  allowlist : Option (List String) := none
  hints : Option RoutingHints := none
  /-- The adapters built from the request's own keys; none when it has no key. -/
  byok : Option AdapterMap := none
  /-- The adapter of the passthrough router, when the request has a subscription bearer. -/
  passthrough : Option ProviderAdapter := none
  tenantId : String := "anonymous"

/-! ## The gateway -/

/-- A completion with, as a ghost, the model its dispatch was decided to serve. No handler reads
the ghost. -/
structure Answer where
  completion : ChatCompletion
  producedBy : String
deriving DecidableEq

structure Gateway (σ ε D : Type) where
  router : Router σ ε
  scrubber : Option RegexScrubber
  modelRegistry : Option ModelRegistry
  /-- SHA-256 of the sorted JSON text of a canonical request. -/
  digest : JsonObj → D
  texts : PythonText
  safeErrorDetail : String → String
  exposeRationale : Bool := false

/-- The state the handlers share; an absent cache is one the app was built without. -/
structure GatewayState (σ D : Type) where
  router : σ
  completionCache : Option (InMemoryCompletionCache (CacheKey D) Answer)
  semanticCache : Option (SemanticCache Answer)

inductive ChatSse where
  | data (chunk : ChatCompletionChunk)
  | done
deriving DecidableEq

/-- A response body. The `responses` bodies are what the translators of that surface are given. -/
inductive ReplyBody where
  | completion (c : ChatCompletion)
  | message (m : AnthropicMessagesResponse)
  | chatStream (events : List ChatSse)
  | messageStream (events : List AnthropicStreamEvent)
  | response (c : ChatCompletion) (model : String)
  | responseStream (model : String) (stream : ChunkStream)

structure Reply where
  headers : Headers
  body : ReplyBody

/-- What one request does. -/
structure Handled (σ D : Type) where
  dispatches : List Dispatch := []
  reply : Except HttpError Reply
  state : GatewayState σ D
  /-- A cached answer that was returned, and the model it was looked up for. -/
  hit : Option (String × Answer) := none

/-! ## Shared steps -/

/-- `decision.model_id_override or request.model`. -/
def servedModel (decision : RoutingDecision) (request : ChatCompletionRequest) : String :=
  if decision.modelIdOverride.getD "" = "" then request.model else decision.modelIdOverride.getD ""

/-- `_maybe_scrub`. -/
def maybeScrub (request : ChatCompletionRequest) (decision : RoutingDecision)
    (scrubber : Option RegexScrubber) : ChatCompletionRequest × List Redaction :=
  match scrubber with
  | none => (request, [])
  | some s => if decision.adapter.isEgress then s.scrubRequest request else (request, [])

/-- A dispatch of the internal request alone. -/
def chatDispatch (outgoing : ChatCompletionRequest) (decision : RoutingDecision) : Dispatch :=
  { adapter := decision.adapter, request := applyModelOverride outgoing decision }

/-- `_CONTEXT_TUNED_FIELDS`. -/
def contextTunedFields : List String := ["context_management"]

/-- `_REASONING_TUNED_FIELDS`. -/
def reasoningTunedFields : List String := ["thinking", "effort", "output_config"]

/-- `_native_body_for_upstream`. -/
def nativeBodyForUpstream (body : AnthropicMessagesRequest) (served : Option String)
    (servedEntry : Option ModelEntry) : AnthropicMessagesRequest :=
  let model := served.getD ""
  if model = "" ∨ model = body.model then body
  else
    let keepReasoning := match servedEntry with
      | none => false
      | some e => decide (e.reasoningInterface = "anthropic_adaptive")
    let drop := contextTunedFields ++ (if keepReasoning then [] else reasoningTunedFields)
    { body with
      model := model
      maxTokens := match servedEntry.bind ModelEntry.maxOutputTokens with
        | none => body.maxTokens
        | some bound => if bound < body.maxTokens then bound else body.maxTokens
      extra := body.extra.filter (fun p => p.1 ∉ drop) }

/-- A dispatch from `/v1/messages`: an `AnthropicAdapter` also gets the native body. -/
def nativeDispatch (outgoing : ChatCompletionRequest) (body : AnthropicMessagesRequest)
    (servedEntry : RoutingDecision → Option ModelEntry) (decision : RoutingDecision) : Dispatch :=
  { adapter := decision.adapter
    request := applyModelOverride outgoing decision
    native := if decision.adapter.isAnthropic then
      some (nativeBodyForUpstream body decision.modelIdOverride (servedEntry decision)) else none }

/-- `_dispatch_chat`: the body is reconciled without a registry row. -/
def dispatchChat (outgoing : ChatCompletionRequest) (body : AnthropicMessagesRequest)
    (decision : RoutingDecision) : Dispatch :=
  nativeDispatch outgoing body (fun _ => none) decision

/-- `_served_entry`. -/
def servedEntry (modelRegistry : Option ModelRegistry) (decision : RoutingDecision) :
    Option ModelEntry :=
  match modelRegistry, decision.modelIdOverride with
  | some registry, some modelId => if modelId = "" then none else registry.get modelId
  | _, _ => none

/-- `_try_open_stream_native`, as far as what it hands to the adapter. -/
def tryOpenStreamNative (modelRegistry : Option ModelRegistry) (outgoing : ChatCompletionRequest)
    (body : AnthropicMessagesRequest) (decision : RoutingDecision) : Dispatch :=
  nativeDispatch outgoing body (servedEntry modelRegistry) decision

/-- The dispatches of one request, and the answer with the decision it came by and the tier failed
over from. -/
structure Attempt (σ α : Type) where
  dispatches : List Dispatch
  outcome : Except HttpError (RoutingDecision × Option Tier × α)
  router : σ

/-- The shape all five dispatch sites have: dispatch, on an `AdapterError` ask the router for a
fallback, and dispatch once more. -/
def withFailover {σ ε α : Type} (rt : Router σ ε) (s : σ) (e : ε)
    (safeErrorDetail : String → String) (bothFailed : AdapterError → AdapterError → HttpError)
    (send : RoutingDecision → Dispatch) (answer : ℕ → Dispatch → Upstream α)
    (decision : RoutingDecision) (outgoing : ChatCompletionRequest) : Attempt σ α :=
  match answer 0 (send decision) with
  | .ok value => ⟨[send decision], .ok (decision, none, value), s⟩
  | .raised => ⟨[send decision], .error ⟨500, .text "Internal Server Error"⟩, s⟩
  | .failed primary =>
    match rt.fallback s e decision outgoing primary with
    | (none, s) => ⟨[send decision], .error ⟨502, .text (safeErrorDetail primary.message)⟩, s⟩
    | (some fallback, s) =>
      match answer 1 (send fallback) with
      | .ok value =>
        ⟨[send decision, send fallback], .ok (fallback, some decision.tier, value), s⟩
      | .raised =>
        ⟨[send decision, send fallback], .error ⟨500, .text "Internal Server Error"⟩, s⟩
      | .failed secondary =>
        ⟨[send decision, send fallback], .error (bothFailed primary secondary), s⟩

/-- The error of a request whose fallback fails too, without and with streaming. -/
def bothFailedChat (safeErrorDetail : String → String) (primary secondary : AdapterError) :
    HttpError :=
  ⟨502, .text ("primary failed: " ++ safeErrorDetail primary.message ++ "; fallback failed: " ++
    safeErrorDetail secondary.message)⟩

def bothFailedStream (_ _ : AdapterError) : HttpError :=
  ⟨502, .text "fallback stream open failed"⟩

/-- `_pin_chunk_model`. -/
def pinChunkModel (chunk : ChatCompletionChunk) (model : Option String) : ChatCompletionChunk :=
  match model with
  | none => chunk
  | some m =>
    if m ≠ "" ∧ chunk.model ≠ "" ∧ chunk.model ≠ m then { chunk with model := m } else chunk

/-- `_sse_stream`, as what it yields. -/
def sseStream (stream : ChunkStream) (model : Option String) : List ChatSse :=
  stream.chunks.map (fun chunk => .data (pinChunkModel chunk model)) ++ [.done]

/-- `_sse_anthropic_stream`, as what it yields. -/
def sseAnthropicStream (ids : FreshIds) (stream : ChunkStream) (requestModel : String)
    (inputTokens : ℤ) : List AnthropicStreamEvent :=
  let events := StreamTranslator.translateChunks ids
    { requestModel := requestModel, inputTokens := inputTokens } stream.chunks
  if stream.breaksOff then events.1 else events.1 ++ (events.2.finalize ids).1

namespace Gateway

variable {σ ε D : Type} [DecidableEq D]

/-- The router in charge: a passthrough router for a request with a subscription bearer. -/
def activeRouter (g : Gateway σ ε D) (inbound : Inbound) : Router σ ε :=
  match inbound.passthrough with
  | none => g.router
  | some adapter => singleAdapterRouter σ ε adapter

/-- The routing step of every handler. -/
def routeRequest (g : Gateway σ ε D) (st : GatewayState σ D) (inbound : Inbound)
    (outside : Outside ε) (request : ChatCompletionRequest) :
    Except HttpError RoutingDecision × GatewayState σ D :=
  match (g.activeRouter inbound).route st.router outside.routing request inbound.hints
      inbound.byok with
  | (.ok decision, s) => (.ok decision, { st with router := s })
  | (.error e, s) =>
    (.error (routerHttpError g.safeErrorDetail e ((inbound.byok.map AdapterMap.keys).getD ∅)),
      { st with router := s })

/-- `allowlist is not None and model not in allowlist`. -/
def refused (inbound : Inbound) (model : String) : Bool :=
  match inbound.allowlist with
  | none => false
  | some models => decide (model ∉ models)

def allowlistError (model : String) : HttpError :=
  ⟨403, .text ("Model '" ++ model ++ "' is not in this API key's allowlist")⟩

/-! ### Caches -/

/-- The key of a request, when there is an exact-match cache and the request is cacheable. -/
def cacheKey (g : Gateway σ ε D) (st : GatewayState σ D) (inbound : Inbound)
    (outgoing : ChatCompletionRequest) (served : String) : Option (CacheKey D) :=
  match st.completionCache with
  | none => none
  | some _ => cacheKeyForRequest g.digest outgoing (some inbound.tenantId) (some served)

/-- A write to the exact-match cache, when there are a cache and a key. -/
def setExact (st : GatewayState σ D) (key : Option (CacheKey D)) (answer : Answer)
    (outside : Outside ε) : GatewayState σ D :=
  match st.completionCache, key with
  | some cache, some k =>
    { st with completionCache := some (cache.set k answer outside.cacheTtl outside.setAt) }
  | _, _ => st

/-- The lookup in the exact-match cache. -/
def lookupExact (st : GatewayState σ D) (key : Option (CacheKey D)) (outside : Outside ε) :
    Option Answer × GatewayState σ D :=
  match st.completionCache, key with
  | some cache, some k =>
    let found := cache.get k outside.getAt
    (found.1, { st with completionCache := some found.2 })
  | _, _ => (none, st)

/-- The search in the semantic cache. -/
def lookupSemantic (st : GatewayState σ D) (inbound : Inbound) (outgoing : ChatCompletionRequest)
    (served : String) (outside : Outside ε) : Option Answer :=
  match st.semanticCache with
  | none => none
  | some cache =>
    if isRequestSemanticallyCacheable outgoing then
      cache.search (some inbound.tenantId) (some served) outside.semanticPick
    else none

/-- The two lookups of a handler: the answer with its cache status. A semantic hit is backfilled
into the exact-match cache. -/
def lookupCaches (g : Gateway σ ε D) (st : GatewayState σ D) (inbound : Inbound)
    (outgoing : ChatCompletionRequest) (served : String) (outside : Outside ε) :
    Option (Answer × String) × GatewayState σ D :=
  let key := g.cacheKey st inbound outgoing served
  match lookupExact st key outside with
  | (some answer, st) => (some (answer, "hit"), st)
  | (none, st) =>
    match lookupSemantic st inbound outgoing served outside with
    | some answer => (some (answer, "hit-semantic"), setExact st key answer outside)
    | none => (none, st)

/-- The writes of a handler after a miss. -/
def storeAnswer (g : Gateway σ ε D) (st : GatewayState σ D) (inbound : Inbound)
    (outgoing : ChatCompletionRequest) (served : String) (answer : Answer) (outside : Outside ε) :
    GatewayState σ D :=
  let st' := setExact st (g.cacheKey st inbound outgoing served) answer outside
  match st'.semanticCache with
  | none => st'
  | some cache =>
    if isRequestSemanticallyCacheable outgoing then
      { st' with semanticCache := some (cache.store (some inbound.tenantId) (some served) answer) }
    else st'

/-- The `x-modelmeld-cache` header of a request that was dispatched. -/
def missHeader (g : Gateway σ ε D) (st : GatewayState σ D) (inbound : Inbound)
    (outgoing : ChatCompletionRequest) (served : String) : Headers :=
  match g.cacheKey st inbound outgoing served with
  | some _ => [("x-modelmeld-cache", "miss")]
  | none =>
    if st.completionCache.isSome ∨
        (¬ isRequestSemanticallyCacheable outgoing ∧ st.semanticCache.isSome) then
      [("x-modelmeld-cache", "bypass")]
    else []

/-- The header of a streamed request. -/
def streamHeader (st : GatewayState σ D) : Headers :=
  if st.completionCache.isSome then [("x-modelmeld-cache", "bypass")] else []

def headersFor (g : Gateway σ ε D) (decision : RoutingDecision) (redactions : List Redaction)
    (failoverFrom : Option Tier) (hints : Option RoutingHints) : Headers :=
  routingHeaders g.exposeRationale decision redactions failoverFrom hints g.modelRegistry

/-! ### `/v1/chat/completions` -/

/-- The model pin of `_completion_with_failover`. -/
def pinCompletion (g : Gateway σ ε D) (decision : RoutingDecision) (completion : ChatCompletion) :
    ChatCompletion :=
  match routedModel decision g.modelRegistry with
  | none => completion
  | some canonical =>
    if completion.model ≠ canonical then { completion with model := canonical } else completion

/-- The dispatches of `_completion_with_failover`. -/
def completionAttempt (g : Gateway σ ε D) (st : GatewayState σ D) (outside : Outside ε)
    (decision : RoutingDecision) (outgoing : ChatCompletionRequest) : Attempt σ ChatCompletion :=
  withFailover g.router st.router outside.failover g.safeErrorDetail
    (bothFailedChat g.safeErrorDetail) (chatDispatch outgoing) outside.chat decision outgoing

/-- `_completion_with_failover`, called by the chat handler with its caches. -/
def completionWithFailover (g : Gateway σ ε D) (st : GatewayState σ D) (inbound : Inbound)
    (outside : Outside ε) (decision : RoutingDecision) (outgoing : ChatCompletionRequest)
    (redactions : List Redaction) (served : String) : Handled σ D :=
  let attempt := g.completionAttempt st outside decision outgoing
  let st := { st with router := attempt.router }
  match attempt.outcome with
  | .error e => { dispatches := attempt.dispatches, reply := .error e, state := st }
  | .ok (decision, failoverFrom, completion) =>
    let completion := g.pinCompletion decision completion
    { dispatches := attempt.dispatches
      reply := .ok
        { headers := g.headersFor decision redactions failoverFrom inbound.hints ++
            g.missHeader st inbound outgoing served
          body := .completion completion }
      state := g.storeAnswer st inbound outgoing served
        ⟨completion, servedModel decision outgoing⟩ outside }

/-- The dispatches of `_stream_with_failover`. -/
def streamAttempt (g : Gateway σ ε D) (st : GatewayState σ D) (outside : Outside ε)
    (decision : RoutingDecision) (outgoing : ChatCompletionRequest) : Attempt σ ChunkStream :=
  withFailover g.router st.router outside.failover g.safeErrorDetail bothFailedStream
    (chatDispatch outgoing) outside.stream decision outgoing

/-- `_stream_with_failover`. -/
def streamWithFailover (g : Gateway σ ε D) (st : GatewayState σ D) (inbound : Inbound)
    (outside : Outside ε) (decision : RoutingDecision) (outgoing : ChatCompletionRequest)
    (redactions : List Redaction) : Handled σ D :=
  let attempt := g.streamAttempt st outside decision outgoing
  let st := { st with router := attempt.router }
  match attempt.outcome with
  | .error e => { dispatches := attempt.dispatches, reply := .error e, state := st }
  | .ok (decision, failoverFrom, stream) =>
    { dispatches := attempt.dispatches
      reply := .ok
        { headers := g.headersFor decision redactions failoverFrom inbound.hints ++ streamHeader st
          body := .chatStream (sseStream stream (routedModel decision g.modelRegistry)) }
      state := st }

/-- `chat_completions`. -/
def chatCompletions (g : Gateway σ ε D) (st : GatewayState σ D) (inbound : Inbound)
    (outside : Outside ε) (request : ChatCompletionRequest) : Handled σ D :=
  if refused inbound request.model then
    { reply := .error (allowlistError request.model), state := st }
  else
    match g.routeRequest st inbound outside request with
    | (.error e, st) => { reply := .error e, state := st }
    | (.ok decision, st) =>
      let scrubbed := maybeScrub (injectIntoRequest request outside.memory) decision g.scrubber
      let outgoing := scrubbed.1
      if outgoing.streaming then
        g.streamWithFailover st inbound outside decision outgoing scrubbed.2
      else
        let served := servedModel decision outgoing
        match g.lookupCaches st inbound outgoing served outside with
        | (some (answer, status), st) =>
          { reply := .ok
              { headers := ("x-modelmeld-cache", status) ::
                  g.headersFor decision scrubbed.2 none inbound.hints
                body := .completion answer.completion }
            state := st
            hit := some (served, answer) }
        | (none, st) =>
          g.completionWithFailover st inbound outside decision outgoing scrubbed.2 served

/-! ### `/v1/messages` -/

/-- `_anthropic_json_response(to_anthropic_response(completion, request_model=served))`. -/
def messageReply (g : Gateway σ ε D) (outside : Outside ε) (headers : Headers)
    (completion : ChatCompletion) (served : String) : Except HttpError Reply :=
  match toAnthropicResponse g.texts outside.fresh.message completion served with
  | .ok m => .ok { headers := headers, body := .message m }
  | .error _ => .error ⟨500, .text "Internal Server Error"⟩

/-- The dispatches of `anthropic_messages` without streaming. -/
def messageAttempt (g : Gateway σ ε D) (st : GatewayState σ D) (outside : Outside ε)
    (body : AnthropicMessagesRequest) (decision : RoutingDecision)
    (outgoing : ChatCompletionRequest) : Attempt σ ChatCompletion :=
  withFailover g.router st.router outside.failover g.safeErrorDetail
    (bothFailedChat g.safeErrorDetail) (dispatchChat outgoing body) outside.chat decision outgoing

/-- The part of `anthropic_messages` after a cache miss. -/
def messageWithFailover (g : Gateway σ ε D) (st : GatewayState σ D) (inbound : Inbound)
    (outside : Outside ε) (body : AnthropicMessagesRequest) (decision : RoutingDecision)
    (outgoing : ChatCompletionRequest) (redactions : List Redaction) (served : String) :
    Handled σ D :=
  let attempt := g.messageAttempt st outside body decision outgoing
  let st := { st with router := attempt.router }
  match attempt.outcome with
  | .error e => { dispatches := attempt.dispatches, reply := .error e, state := st }
  | .ok (decision, failoverFrom, completion) =>
    { dispatches := attempt.dispatches
      reply := g.messageReply outside
        (g.headersFor decision redactions failoverFrom none ++
          g.missHeader st inbound outgoing served) completion served
      state := g.storeAnswer st inbound outgoing served
        ⟨completion, servedModel decision outgoing⟩ outside }

/-- The dispatches of `_stream_messages_with_failover`. -/
def messageStreamAttempt (g : Gateway σ ε D) (st : GatewayState σ D) (outside : Outside ε)
    (body : AnthropicMessagesRequest) (decision : RoutingDecision)
    (outgoing : ChatCompletionRequest) : Attempt σ ChunkStream :=
  withFailover g.router st.router outside.failover g.safeErrorDetail bothFailedStream
    (tryOpenStreamNative g.modelRegistry outgoing body) outside.stream decision outgoing

/-- `_stream_messages_with_failover`; the request model was fixed before the dispatch. -/
def streamMessagesWithFailover (g : Gateway σ ε D) (st : GatewayState σ D) (outside : Outside ε)
    (body : AnthropicMessagesRequest) (decision : RoutingDecision)
    (outgoing : ChatCompletionRequest) (redactions : List Redaction) (served : String) :
    Handled σ D :=
  let attempt := g.messageStreamAttempt st outside body decision outgoing
  let st := { st with router := attempt.router }
  match attempt.outcome with
  | .error e => { dispatches := attempt.dispatches, reply := .error e, state := st }
  | .ok (decision, failoverFrom, stream) =>
    { dispatches := attempt.dispatches
      reply := .ok
        { headers := g.headersFor decision redactions failoverFrom none ++ streamHeader st
          body := .messageStream
            (sseAnthropicStream outside.fresh stream served outside.inputTokens) }
      state := st }

/-- `anthropic_messages`. -/
def anthropicMessages (g : Gateway σ ε D) (st : GatewayState σ D) (inbound : Inbound)
    (outside : Outside ε) (body : AnthropicMessagesRequest) : Handled σ D :=
  match fromAnthropicRequest g.texts body with
  | .error e => { reply := .error ⟨400, .text ("translation_error: " ++ e.message)⟩, state := st }
  | .ok request =>
    if refused inbound body.model then
      { reply := .error (allowlistError body.model), state := st }
    else
      match g.routeRequest st inbound outside request with
      | (.error e, st) => { reply := .error e, state := st }
      | (.ok decision, st) =>
        let scrubbed := maybeScrub (injectIntoRequest request outside.memory) decision g.scrubber
        let outgoing := scrubbed.1
        let served := servedModel decision outgoing
        if outgoing.streaming then
          g.streamMessagesWithFailover st outside body decision outgoing scrubbed.2 served
        else
          match g.lookupCaches st inbound outgoing served outside with
          | (some (answer, status), st) =>
            { reply := g.messageReply outside (("x-modelmeld-cache", status) ::
                g.headersFor decision scrubbed.2 none none) answer.completion served
              state := st
              hit := some (served, answer) }
          | (none, st) =>
            g.messageWithFailover st inbound outside body decision outgoing scrubbed.2 served

/-! ### `/v1/responses` -/

/-- `responses`, on the request `from_responses_request` makes of the body. No cache is passed
to `_completion_with_failover`. -/
def responses (g : Gateway σ ε D) (st : GatewayState σ D) (inbound : Inbound)
    (outside : Outside ε) (stream : Bool) (request : ChatCompletionRequest) : Handled σ D :=
  if refused inbound request.model then
    { reply := .error (allowlistError request.model), state := st }
  else
    match g.routeRequest st inbound outside request with
    | (.error e, st) => { reply := .error e, state := st }
    | (.ok decision, st) =>
      let scrubbed := maybeScrub (injectIntoRequest request outside.memory) decision g.scrubber
      let outgoing := scrubbed.1
      if stream then
        let attempt := g.streamAttempt st outside decision outgoing
        { dispatches := attempt.dispatches
          reply := match attempt.outcome with
            | .error e => .error e
            | .ok (decision, failoverFrom, stream) => .ok
              { headers := g.headersFor decision scrubbed.2 failoverFrom inbound.hints
                body := .responseStream
                  ((routedModel decision g.modelRegistry).getD outgoing.model) stream }
          state := { st with router := attempt.router } }
      else
        let attempt := g.completionAttempt st outside decision outgoing
        { dispatches := attempt.dispatches
          reply := match attempt.outcome with
            | .error e => .error e
            | .ok (decision, failoverFrom, completion) =>
              let completion := g.pinCompletion decision completion
              .ok
                { headers := g.headersFor decision scrubbed.2 failoverFrom inbound.hints
                  body := .response completion completion.model }
          state := { st with router := attempt.router } }

end Gateway

/-- A request to one of the three surfaces. A body of `/v1/responses` is taken after its
translation. -/
inductive Call where
  | chat (request : ChatCompletionRequest)
  | messages (body : AcceptedMessagesRequest)
  | responses (stream : Bool) (request : ChatCompletionRequest)

namespace Gateway

variable {σ ε D : Type} [DecidableEq D]

/-- The handler of a call. -/
def handle (g : Gateway σ ε D) (st : GatewayState σ D) (inbound : Inbound) (outside : Outside ε) :
    Call → Handled σ D
  | .chat request => g.chatCompletions st inbound outside request
  | .messages body => g.anthropicMessages st inbound outside body.toAnthropicMessagesRequest
  | .responses stream request => g.responses st inbound outside stream request

end Gateway

/-! ## Runs of requests -/

/-- A request, with what it reads from outside. -/
structure GatewayEvent (ε : Type) where
  inbound : Inbound := {}
  outside : Outside ε
  call : Call

/-- The state a run of requests has reached, and how each request was handled. -/
structure GatewayTrace (σ D : Type) where
  state : GatewayState σ D
  handled : List (Handled σ D)

/-- The state the app is started in; `maxEntries` is the size of its exact-match cache. -/
def GatewayState.started {σ D : Type} (s : σ) (maxEntries : Option ℕ) (semantic : Bool) :
    GatewayState σ D where
  router := s
  completionCache := maxEntries.map (fun n => ⟨n, .empty⟩)
  semanticCache := if semantic then some [] else none

/-- One request of a run. -/
def Gateway.serve {σ ε D : Type} [DecidableEq D] (g : Gateway σ ε D) (t : GatewayTrace σ D)
    (ev : GatewayEvent ε) : GatewayTrace σ D :=
  let handled := g.handle t.state ev.inbound ev.outside ev.call
  { state := handled.state, handled := t.handled ++ [handled] }

end ModelMeld
