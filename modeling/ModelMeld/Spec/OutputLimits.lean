import ModelMeld.Spec.Gateway
import ModelMeld.Spec.AnthropicParams

/-!
# Output limits on the wire

What a chat request is dispatched as, and the bound on the answer's length that
the adapter's call carries. The Anthropic adapter always sends one; an
OpenAI-compatible body has the fields that are set; the Codex backend and the
stub are sent none.
-/

namespace ModelMeld

/-- The dispatch of a chat request: memory goes into the request that was routed, and on egress the
result is scrubbed. -/
def injectedDispatch (request : ChatCompletionRequest) (memory : MemoryContext)
    (scrubber : Option RegexScrubber) (decision : RoutingDecision) : Dispatch :=
  chatDispatch (maybeScrub (injectIntoRequest request memory) decision scrubber).1 decision

/-- The limits an adapter sends with a request; `custom` is what an implementation from elsewhere
sends. -/
def AdapterClass.sentLimits (custom : String → ChatCompletionRequest → List ℤ)
    (cls : AdapterClass) (request : ChatCompletionRequest) : List ℤ :=
  match cls with
  | .anthropic => [paramMaxTokens request]
  | .openai | .vllm | .tensorrtLlm | .fireworks | .together | .openrouter =>
    request.maxTokens.toList ++ request.maxCompletionTokens.toList
  | .codexPassthrough | .stub => []
  | .custom name _ => custom name request

/-- The limits of a dispatch, one of zero standing for a call without any. -/
def Dispatch.outputLimits (custom : String → ChatCompletionRequest → List ℤ) (d : Dispatch) :
    List ℤ :=
  let sent := d.adapter.cls.sentLimits custom d.request
  if sent = [] then [0] else sent

end ModelMeld
