import ModelMeld.Spec.Gateway

/-!
# The parameters of the native passthrough

What `AnthropicAdapter` calls the vendor with when the request came on the
Messages surface: the body as it was reconciled, without the keys the vendor's
client does not know, and with its system messages on top. The adapter works
with an API key or with a subscription bearer.
-/

namespace ModelMeld

/-- The keyword arguments; an empty `extraBody` or `extraHeaders` is a key that is not set. -/
structure NativeParams where
  model : String
  messages : List AnthropicMessage
  maxTokens : ℤ
  system : Option (Content AnthropicTextBlock) := none
  temperature : Option ℚ := none
  topP : Option ℚ := none
  topK : Option ℤ := none
  stopSequences : Option (List String) := none
  stream : Option Bool := none
  tools : Option (List AnthropicToolDef) := none
  toolChoice : Option AnthropicToolChoice := none
  metadata : Option AnthropicMetadata := none
  extraBody : JsonObj := []
  extraHeaders : List (String × String) := []
deriving DecidableEq

/-! ## System messages -/

/-- `_block_text`: the text of a message. -/
def nativeText : Content AnthropicRequestContentBlock → String
  | .str s => s
  | .parts blocks => join "\n" (blocks.filterMap (fun b => match b with
    | .text b => some b.text
    | _ => none))

/-- The texts of the system messages in the array that have one. -/
def hoistedTexts (messages : List AnthropicMessage) : List String :=
  ((messages.filter (fun m => m.role = .system)).map (fun m => nativeText m.content)).filter (· ≠ "")

/-- `_hoist_system_messages`. -/
def hoistSystemMessages (params : NativeParams) : NativeParams :=
  let hoisted := hoistedTexts params.messages
  if hoisted = [] then params
  else
    { params with
      messages := params.messages.filter (fun m => m.role ≠ .system)
      system := some (match params.system with
        | none => .str (join "\n\n" hoisted)
        | some (.str existing) => .str (join "\n\n" (existing :: hoisted))
        | some (.parts existing) => .parts (existing ++ hoisted.map (fun t => { text := t }))) }

/-! ## The parameters -/

/-- `native_request.model_dump(exclude_none=True)`, without the extra fields. -/
def dumpNative (native : AnthropicMessagesRequest) : NativeParams where
  model := native.model
  messages := native.messages
  maxTokens := native.maxTokens
  system := native.system
  temperature := native.temperature
  topP := native.topP
  topK := native.topK
  stopSequences := native.stopSequences
  stream := native.stream
  tools := native.tools
  toolChoice := native.toolChoice
  metadata := native.metadata

/-- The extra fields that go along: `thinking` stays behind when the internal request is for another
model than the body. -/
def nativeExtras (request : ChatCompletionRequest) (native : AnthropicMessagesRequest) : JsonObj :=
  if request.model ≠ "" ∧ native.model ≠ request.model then
    native.extra.filter (fun field => field.1 ≠ "thinking")
  else native.extra

/-- `_build_params` on a native request. -/
def buildParams (adapter : ProviderAdapter) (request : ChatCompletionRequest)
    (native : AnthropicMessagesRequest) : NativeParams :=
  let params := dumpNative native
  hoistSystemMessages
    { params with
      model := adapter.servedModel.getD params.model
      extraBody := nativeExtras request native }

/-- How the adapter is authorised. -/
inductive Authorisation where
  | apiKey | oauthBearer
deriving DecidableEq

/-- The parameters of `chat`. With a bearer, the headers are no parameter. -/
def chatParams (auth : Authorisation) (adapter : ProviderAdapter) (request : ChatCompletionRequest)
    (native : AnthropicMessagesRequest) (headers : List (String × String)) : NativeParams :=
  match auth with
  | .apiKey => { buildParams adapter request native with extraHeaders := headers }
  | .oauthBearer => { buildParams adapter request native with stream := some false }

/-- The parameters of `stream_chat`. -/
def streamChatParams (auth : Authorisation) (adapter : ProviderAdapter)
    (request : ChatCompletionRequest) (native : AnthropicMessagesRequest)
    (headers : List (String × String)) : NativeParams :=
  match auth with
  | .apiKey =>
    { buildParams adapter request native with stream := some true, extraHeaders := headers }
  | .oauthBearer => { buildParams adapter request native with stream := some true }

/-- What a dispatch of the Messages surface is sent with, when it has a native body. -/
def Dispatch.params (d : Dispatch) (send : ProviderAdapter → ChatCompletionRequest →
    AnthropicMessagesRequest → List (String × String) → NativeParams)
    (headers : List (String × String)) : Option NativeParams :=
  d.native.map (fun native => send d.adapter d.request native headers)

end ModelMeld
