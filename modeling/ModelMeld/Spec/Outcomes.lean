import ModelMeld.Spec.RouteStreams

/-!
# What is recorded of a request

The three handlers once more, as to what they record of a request with the hooks
and in the metrics, at each of the places where they do, and whether the client
gets a complete answer.
-/

namespace ModelMeld

/-- What a handler reads beside `Outside` for what it records, and what the client does. -/
structure Following where
  ctx : FireContext
  client : Client := .reads
  /-- The text of the exception a stream breaks off with. -/
  streamError : String := ""
  /-- As a ghost, whether the upstream failed although its chunks ended: with an error that the
  adapter took for the end, or short. No generator reads it. -/
  cutShort : Bool := false
  responseIds : ResponseIds
  createdAt : ℤ := 0
  inputEstimate : ℤ := 0

/-- `set_metrics_context`, at the entry of a route. -/
def Following.entering (f : Following) (wireFormat : String) : Following :=
  { f with ctx := { f.ctx with
      metrics := f.ctx.metrics.map (fun sink => { sink with wireFormat := wireFormat }) } }

/-- What is recorded of a request, and whether its client gets a complete answer. -/
structure Outcome where
  recorded : Recorded := {}
  complete : Bool := false

/-- What each dispatch site records when no adapter gives an answer; `secondText` is the text of
the error the site fires when the fallback fails too. -/
def recordUnanswered {σ ε α : Type} (rt : Router σ ε) (s : σ) (e : ε) (ctx : FireContext)
    (redactions : List Redaction) (secondText : AdapterError → String)
    (send : RoutingDecision → Dispatch) (answer : ℕ → Dispatch → Upstream α)
    (decision : RoutingDecision) (outgoing : ChatCompletionRequest) : Recorded :=
  match answer 0 (send decision) with
  | .ok _ => {}
  | .raised => {}
  | .failed primary =>
    match (rt.fallback s e decision outgoing primary).1 with
    | none => ctx.fireFailure ⟨outgoing, some decision, redactions, none⟩ primary.message
        "adapter_error"
    | some fallback =>
      match answer 1 (send fallback) with
      | .ok _ => {}
      | .raised => {}
      | .failed secondary =>
        ctx.fireFailure ⟨outgoing, some fallback, redactions, some decision.tier⟩
          (secondText secondary) "adapter_error"

/-- The text of the error that is fired when a second stream cannot be opened either. -/
def fallbackStreamError (_ : AdapterError) : String := "fallback stream open failed"

/-- The outcome of an answer that is streamed. -/
def streamedOutcome (f : Following) (args : FireArgs) (route : StreamRoute) (stream : ChunkStream) :
    Outcome where
  recorded := f.client.leaves (route.frames stream).length
    (recordStream f.ctx args stream f.streamError)
  complete := !stream.breaksOff && !f.cutShort &&
    f.client.stays (route.frames stream).length

/-- The outcome of a request that is not routed. -/
def unroutedOutcome (f : Following) (request : ChatCompletionRequest) (error : RouterError) :
    Outcome where
  recorded := f.ctx.fireFailure { request := request, decision := none } error.message
    "router_error"

namespace Gateway

variable {σ ε D : Type} [DecidableEq D]

/-- The cache status of a request that was dispatched. -/
def missStatus (g : Gateway σ ε D) (st : GatewayState σ D) (inbound : Inbound)
    (outgoing : ChatCompletionRequest) (served : String) : Option String :=
  if st.completionCache.isSome ∨ st.semanticCache.isSome then
    some (if (g.cacheKey st inbound outgoing served).isSome then "miss" else "bypass")
  else none

/-- `_completion_with_failover`. -/
def completionOutcome (g : Gateway σ ε D) (st : GatewayState σ D) (outside : Outside ε)
    (f : Following) (decision : RoutingDecision) (outgoing : ChatCompletionRequest)
    (redactions : List Redaction) (cacheStatus : Option String) : Outcome :=
  match (g.completionAttempt st outside decision outgoing).outcome with
  | .error _ =>
    { recorded := recordUnanswered g.router st.router outside.failover f.ctx redactions
        AdapterError.message (chatDispatch outgoing) outside.chat decision outgoing }
  | .ok (decision, failoverFrom, completion) =>
    { recorded := f.ctx.fireSuccess ⟨outgoing, some decision, redactions, failoverFrom⟩
        (g.pinCompletion decision completion) cacheStatus
      complete := true }

/-- `_stream_with_failover`, and its sibling of `/v1/responses`; `route` is the generator's. -/
def streamOutcome (g : Gateway σ ε D) (st : GatewayState σ D) (outside : Outside ε)
    (f : Following) (decision : RoutingDecision) (outgoing : ChatCompletionRequest)
    (redactions : List Redaction) (route : RoutingDecision → StreamRoute) : Outcome :=
  match (g.streamAttempt st outside decision outgoing).outcome with
  | .error _ =>
    { recorded := recordUnanswered g.router st.router outside.failover f.ctx redactions
        fallbackStreamError (chatDispatch outgoing) outside.stream decision outgoing }
  | .ok (decision, failoverFrom, stream) =>
    streamedOutcome f ⟨outgoing, some decision, redactions, failoverFrom⟩ (route decision) stream

/-- `chat_completions`. -/
def chatOutcome (g : Gateway σ ε D) (st : GatewayState σ D) (inbound : Inbound)
    (outside : Outside ε) (f : Following) (request : ChatCompletionRequest) : Outcome :=
  if refused inbound request.model then {}
  else
    let f := f.entering "chat_completions"
    match (g.activeRouter inbound).route st.router outside.routing request inbound.hints
        inbound.byok with
    | (.error e, _) => unroutedOutcome f request e
    | (.ok decision, s) =>
      let st := { st with router := s }
      let scrubbed := maybeScrub (injectIntoRequest request outside.memory) decision g.scrubber
      let outgoing := scrubbed.1
      if outgoing.streaming then
        g.streamOutcome st outside f decision outgoing scrubbed.2
          (fun decision => .chat (routedModel decision g.modelRegistry))
      else
        let served := servedModel decision outgoing
        match g.lookupCaches st inbound outgoing served outside with
        | (some (answer, status), _) =>
          { recorded := f.ctx.fireSuccess ⟨outgoing, some decision, scrubbed.2, none⟩
              answer.completion (some status)
            complete := true }
        | (none, st) =>
          g.completionOutcome st outside f decision outgoing scrubbed.2
            (g.missStatus st inbound outgoing served)

/-- Whether `to_anthropic_response` makes a message of a completion. -/
def translates (g : Gateway σ ε D) (outside : Outside ε) (completion : ChatCompletion)
    (served : String) : Bool :=
  (toAnthropicResponse g.texts outside.fresh.message completion served).isOk

/-- The part of `anthropic_messages` after a cache miss: a success is recorded before the completion
is translated. -/
def messageOutcome (g : Gateway σ ε D) (st : GatewayState σ D) (outside : Outside ε)
    (f : Following) (body : AnthropicMessagesRequest) (decision : RoutingDecision)
    (outgoing : ChatCompletionRequest) (redactions : List Redaction) (served : String)
    (cacheStatus : Option String) : Outcome :=
  match (g.messageAttempt st outside body decision outgoing).outcome with
  | .error _ =>
    { recorded := recordUnanswered g.router st.router outside.failover f.ctx redactions
        AdapterError.message (dispatchChat outgoing body) outside.chat decision outgoing }
  | .ok (decision, failoverFrom, completion) =>
    { recorded := f.ctx.fireSuccess ⟨outgoing, some decision, redactions, failoverFrom⟩ completion
        cacheStatus
      complete := g.translates outside completion served }

/-- `_stream_messages_with_failover`. -/
def messageStreamOutcome (g : Gateway σ ε D) (st : GatewayState σ D) (outside : Outside ε)
    (f : Following) (body : AnthropicMessagesRequest) (decision : RoutingDecision)
    (outgoing : ChatCompletionRequest) (redactions : List Redaction) (served : String) : Outcome :=
  match (g.messageStreamAttempt st outside body decision outgoing).outcome with
  | .error _ =>
    { recorded := recordUnanswered g.router st.router outside.failover f.ctx redactions
        AdapterError.message (tryOpenStreamNative g.modelRegistry outgoing body) outside.stream
        decision outgoing }
  | .ok (decision, failoverFrom, stream) =>
    streamedOutcome f ⟨outgoing, some decision, redactions, failoverFrom⟩
      (.messages outside.fresh served outside.inputTokens) stream

/-- `anthropic_messages`. -/
def messagesOutcome (g : Gateway σ ε D) (st : GatewayState σ D) (inbound : Inbound)
    (outside : Outside ε) (f : Following) (body : AnthropicMessagesRequest) : Outcome :=
  match fromAnthropicRequest g.texts body with
  | .error _ => {}
  | .ok request =>
    if refused inbound body.model then {}
    else
      let f := f.entering "messages"
      match (g.activeRouter inbound).route st.router outside.routing request inbound.hints
          inbound.byok with
      | (.error e, _) => unroutedOutcome f request e
      | (.ok decision, s) =>
        let st := { st with router := s }
        let scrubbed := maybeScrub (injectIntoRequest request outside.memory) decision g.scrubber
        let outgoing := scrubbed.1
        let served := servedModel decision outgoing
        if outgoing.streaming then
          g.messageStreamOutcome st outside f body decision outgoing scrubbed.2 served
        else
          match g.lookupCaches st inbound outgoing served outside with
          | (some (answer, status), _) =>
            { recorded := f.ctx.fireSuccess ⟨outgoing, some decision, scrubbed.2, none⟩
                answer.completion (some status)
              complete := g.translates outside answer.completion served }
          | (none, st) =>
            g.messageOutcome st outside f body decision outgoing scrubbed.2 served
              (g.missStatus st inbound outgoing served)

/-- `responses`. -/
def responsesOutcome (g : Gateway σ ε D) (st : GatewayState σ D) (inbound : Inbound)
    (outside : Outside ε) (f : Following) (stream : Bool) (request : ChatCompletionRequest) :
    Outcome :=
  if refused inbound request.model then {}
  else
    let f := f.entering "responses"
    match (g.activeRouter inbound).route st.router outside.routing request inbound.hints
        inbound.byok with
    | (.error e, _) => unroutedOutcome f request e
    | (.ok decision, s) =>
      let st := { st with router := s }
      let scrubbed := maybeScrub (injectIntoRequest request outside.memory) decision g.scrubber
      let outgoing := scrubbed.1
      if stream then
        g.streamOutcome st outside f decision outgoing scrubbed.2
          (fun decision => .responses f.responseIds
            ((routedModel decision g.modelRegistry).getD outgoing.model) f.createdAt
            f.inputEstimate)
      else g.completionOutcome st outside f decision outgoing scrubbed.2 none

/-- The outcome of a call. -/
def outcome (g : Gateway σ ε D) (st : GatewayState σ D) (inbound : Inbound) (outside : Outside ε)
    (f : Following) : Call → Outcome
  | .chat request => g.chatOutcome st inbound outside f request
  | .messages body => g.messagesOutcome st inbound outside f body.toAnthropicMessagesRequest
  | .responses stream request => g.responsesOutcome st inbound outside f stream request

end Gateway

end ModelMeld
