import ModelMeld.Spec.Schemas

/-!
# Anthropic Messages schemas

The `/v1/messages` request and response bodies and the stream events. The
bounds the schema puts on numbers (`max_tokens ≥ 1`, `0 ≤ temperature ≤ 1` and
so on) are fields of `AcceptedMessagesRequest`: the handler only sees bodies
inside them, while a copy made with `model_copy` is not validated again and is
a plain `AnthropicMessagesRequest`.
-/

namespace ModelMeld

/-! ## Content blocks -/

/-- `cache_control: AnthropicCacheControl | None`; its only value is `{"type": "ephemeral"}`. -/
abbrev HasCacheControl := Bool

structure AnthropicTextBlock where
  text : String
  cacheControl : HasCacheControl := false
  extra : JsonObj := []
deriving DecidableEq, Inhabited

inductive AnthropicImageSource where
  | base64 (mediaType data : String)
  | url (url : String)
deriving DecidableEq, Inhabited

structure AnthropicImageBlock where
  source : AnthropicImageSource
  cacheControl : HasCacheControl := false
  extra : JsonObj := []
deriving DecidableEq, Inhabited

structure AnthropicToolUseBlock where
  id : String
  name : String
  input : JsonObj := []
  cacheControl : HasCacheControl := false
  extra : JsonObj := []
deriving DecidableEq, Inhabited

structure AnthropicToolResultBlock where
  toolUseId : String
  content : Content AnthropicTextBlock
  isError : Option Bool := none
  cacheControl : HasCacheControl := false
  extra : JsonObj := []
deriving DecidableEq, Inhabited

inductive AnthropicRequestContentBlock where
  | text (b : AnthropicTextBlock)
  | image (b : AnthropicImageBlock)
  | toolUse (b : AnthropicToolUseBlock)
  | toolResult (b : AnthropicToolResultBlock)
deriving DecidableEq, Inhabited

inductive AnthropicResponseContentBlock where
  | text (b : AnthropicTextBlock)
  | toolUse (b : AnthropicToolUseBlock)
deriving DecidableEq, Inhabited

/-! ## Request -/

inductive AnthropicRole where
  | user | assistant | system
deriving DecidableEq, Inhabited

structure AnthropicMessage where
  role : AnthropicRole
  content : Content AnthropicRequestContentBlock
  extra : JsonObj := []
deriving DecidableEq, Inhabited

structure AnthropicToolDef where
  name : String
  description : Option String := none
  inputSchema : JsonObj := [("type", .str "object")]
  cacheControl : HasCacheControl := false
  extra : JsonObj := []
deriving DecidableEq, Inhabited

inductive AnthropicToolChoice where
  | auto (disableParallelToolUse : Option Bool)
  | any (disableParallelToolUse : Option Bool)
  | tool (name : String) (disableParallelToolUse : Option Bool)
  | none
deriving DecidableEq, Inhabited

structure AnthropicMetadata where
  userId : Option String := none
  extra : JsonObj := []
deriving DecidableEq, Inhabited

structure AnthropicMessagesRequest where
  model : String
  messages : List AnthropicMessage
  maxTokens : ℤ
  system : Option (Content AnthropicTextBlock) := none
  temperature : Option ℚ := none
  topP : Option ℚ := none
  topK : Option ℤ := none
  stopSequences : Option (List String) := none
  stream : Option Bool := some false
  tools : Option (List AnthropicToolDef) := none
  toolChoice : Option AnthropicToolChoice := none
  metadata : Option AnthropicMetadata := none
  extra : JsonObj := []
deriving DecidableEq, Inhabited

/-- A body of `POST /v1/messages` that the schema accepts. -/
structure AcceptedMessagesRequest extends AnthropicMessagesRequest where
  maxTokens_pos : 1 ≤ maxTokens := by decide
  temperature_range : ∀ t ∈ temperature, 0 ≤ t ∧ t ≤ 1 := by simp
  topP_range : ∀ p ∈ topP, 0 ≤ p ∧ p ≤ 1 := by simp
  topK_nonneg : ∀ k ∈ topK, 0 ≤ k := by simp

/-! ## Response -/

inductive AnthropicStopReason where
  | endTurn | maxTokens | stopSequence | toolUse | refusal
deriving DecidableEq, Inhabited

structure AnthropicUsage where
  inputTokens : ℤ
  outputTokens : ℤ
  cacheCreationInputTokens : Option ℤ := none
  cacheReadInputTokens : Option ℤ := none
deriving DecidableEq, Inhabited

structure AnthropicMessagesResponse where
  id : String
  content : List AnthropicResponseContentBlock
  model : String
  stopReason : Option AnthropicStopReason := none
  stopSequence : Option String := none
  usage : AnthropicUsage
  extra : JsonObj := []
deriving DecidableEq, Inhabited

/-! ## Stream events -/

inductive ContentBlockShell where
  | text (text : String)
  | toolUse (id name : String) (input : JsonObj)
deriving DecidableEq, Inhabited

inductive ContentBlockDelta where
  | textDelta (text : String)
  | inputJsonDelta (partialJson : String)
deriving DecidableEq, Inhabited

inductive AnthropicStreamEvent where
  | messageStart (message : AnthropicMessagesResponse)
  | contentBlockStart (index : ℕ) (block : ContentBlockShell)
  | contentBlockDelta (index : ℕ) (delta : ContentBlockDelta)
  | contentBlockStop (index : ℕ)
  | messageDelta (stopReason : Option AnthropicStopReason) (stopSequence : Option String)
      (outputTokens : ℤ)
  | messageStop
  | ping
deriving DecidableEq, Inhabited

end ModelMeld
