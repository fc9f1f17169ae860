import ModelMeld.Spec.Python

/-!
# Chat-completion schemas

The request, response and streaming-chunk types of the OpenAI-compatible
surface, which every route translates to and every adapter receives. Optional
fields are `Option`; fields a client may add (`extra="allow"`) are kept in
`extra`. Token log-probabilities are left out: nothing in the gateway reads them.
-/

namespace ModelMeld

/-! ## Content parts -/

structure TextPart where
  text : String
  cacheControl : Option JsonObj := none
deriving DecidableEq, Inhabited

inductive ImageDetail where
  | auto | low | high
deriving DecidableEq, Inhabited

structure ImageUrl where
  url : String
  detail : Option ImageDetail := some .auto
deriving DecidableEq, Inhabited

inductive AudioFormat where
  | wav | mp3
deriving DecidableEq, Inhabited

structure InputAudio where
  data : String
  format : AudioFormat
deriving DecidableEq, Inhabited

inductive ContentPart where
  | text (part : TextPart)
  | image (url : ImageUrl)
  | audio (input : InputAudio)
deriving DecidableEq, Inhabited

/-- `str | list[P]`. -/
inductive Content (P : Type) where
  | str (s : String)
  | parts (ps : List P)
deriving DecidableEq, Inhabited

/-! ## Tools and tool calls -/

structure FunctionDef where
  name : String
  description : Option String := none
  parameters : Option JsonObj := none
  strict : Option Bool := none
deriving DecidableEq, Inhabited

structure Tool where
  function : FunctionDef
deriving DecidableEq, Inhabited

structure FunctionCall where
  name : String
  arguments : String
deriving DecidableEq, Inhabited

structure ToolCall where
  id : String
  function : FunctionCall
deriving DecidableEq, Inhabited

structure FunctionCallDelta where
  name : Option String := none
  arguments : Option String := none
deriving DecidableEq, Inhabited

structure ToolCallDelta where
  index : ℤ
  id : Option String := none
  /-- `type: Literal["function"] | None`: whether it is present. -/
  hasType : Bool := false
  function : Option FunctionCallDelta := none
deriving DecidableEq, Inhabited

/-! ## Messages -/

structure SystemMessage where
  content : Content TextPart
  name : Option String := none
  extra : JsonObj := []
deriving DecidableEq, Inhabited

structure UserMessage where
  content : Content ContentPart
  name : Option String := none
  extra : JsonObj := []
deriving DecidableEq, Inhabited

structure AssistantMessage where
  content : Option (Content TextPart) := none
  name : Option String := none
  toolCalls : Option (List ToolCall) := none
  refusal : Option String := none
  extra : JsonObj := []
deriving DecidableEq, Inhabited

structure ToolMessage where
  content : Content TextPart
  toolCallId : String
  extra : JsonObj := []
deriving DecidableEq, Inhabited

/-- A message, discriminated by its role. -/
inductive Message where
  | system (m : SystemMessage)
  | user (m : UserMessage)
  | assistant (m : AssistantMessage)
  | tool (m : ToolMessage)
deriving DecidableEq, Inhabited

/-! ## Usage -/

structure PromptTokensDetails where
  cachedTokens : Option ℤ := none
  audioTokens : Option ℤ := none
  cacheCreationInputTokens : Option ℤ := none
  cacheReadInputTokens : Option ℤ := none
deriving DecidableEq, Inhabited

structure CompletionTokensDetails where
  reasoningTokens : Option ℤ := none
  acceptedPredictionTokens : Option ℤ := none
  rejectedPredictionTokens : Option ℤ := none
  audioTokens : Option ℤ := none
deriving DecidableEq, Inhabited

structure Usage where
  promptTokens : ℤ := 0
  completionTokens : ℤ := 0
  totalTokens : ℤ := 0
  promptTokensDetails : Option PromptTokensDetails := none
  completionTokensDetails : Option CompletionTokensDetails := none
deriving DecidableEq, Inhabited

/-! ## Request -/

structure StreamOptions where
  includeUsage : Option Bool := some false
deriving DecidableEq, Inhabited

inductive ResponseFormatType where
  | text | jsonObject | jsonSchema
deriving DecidableEq, Inhabited

structure ResponseFormat where
  type : ResponseFormatType := .text
  jsonSchema : Option JsonObj := none
deriving DecidableEq, Inhabited

/-- `stop: str | list[str]`. -/
inductive Stop where
  | one (s : String)
  | many (ss : List String)
deriving DecidableEq, Inhabited

/-- `tool_choice: str | dict[str, Any]`. -/
inductive ToolChoice where
  | mode (s : String)
  | named (choice : JsonObj)
deriving DecidableEq, Inhabited

inductive ReasoningEffort where
  | low | medium | high
deriving DecidableEq, Inhabited

structure ChatCompletionRequest where
  model : String
  messages : List Message
  frequencyPenalty : Option ℚ := none
  logitBias : Option (List (String × ℤ)) := none
  logprobs : Option Bool := none
  topLogprobs : Option ℤ := none
  maxTokens : Option ℤ := none
  maxCompletionTokens : Option ℤ := none
  n : Option ℤ := some 1
  presencePenalty : Option ℚ := none
  responseFormat : Option ResponseFormat := none
  seed : Option ℤ := none
  stop : Option Stop := none
  stream : Option Bool := some false
  streamOptions : Option StreamOptions := none
  temperature : Option ℚ := none
  topP : Option ℚ := none
  tools : Option (List Tool) := none
  toolChoice : Option ToolChoice := none
  parallelToolCalls : Option Bool := none
  user : Option String := none
  reasoningEffort : Option ReasoningEffort := none
  extra : JsonObj := []
deriving DecidableEq, Inhabited

/-- `request.model_copy(update={"model": model})`. -/
def ChatCompletionRequest.withModel (r : ChatCompletionRequest) (model : String) :
    ChatCompletionRequest :=
  { r with model := model }

/-- `request.model_copy(update={"messages": messages})`. -/
def ChatCompletionRequest.withMessages (r : ChatCompletionRequest) (messages : List Message) :
    ChatCompletionRequest :=
  { r with messages := messages }

/-- `bool(request.tools)`. -/
def ChatCompletionRequest.hasTools (r : ChatCompletionRequest) : Bool :=
  match r.tools with
  | none => false
  | some ts => !ts.isEmpty

/-- `bool(request.stream)`. -/
def ChatCompletionRequest.streaming (r : ChatCompletionRequest) : Bool := r.stream.getD false

/-! ## Response -/

inductive FinishReason where
  | stop | length | toolCalls | contentFilter | functionCall
deriving DecidableEq, Inhabited

structure ResponseMessage where
  content : Option String := none
  toolCalls : Option (List ToolCall) := none
  refusal : Option String := none
deriving DecidableEq, Inhabited

structure Choice where
  index : ℤ
  message : ResponseMessage
  finishReason : Option FinishReason := none
deriving DecidableEq, Inhabited

structure ChatCompletion where
  id : String
  created : ℤ
  model : String
  choices : List Choice
  usage : Option Usage := none
  systemFingerprint : Option String := none
  serviceTier : Option String := none
deriving DecidableEq, Inhabited

/-! ## Streaming chunk -/

structure ChoiceDelta where
  /-- `role: Literal["assistant"] | None`: whether it is present. -/
  hasRole : Bool := false
  content : Option String := none
  toolCalls : Option (List ToolCallDelta) := none
  refusal : Option String := none
deriving DecidableEq, Inhabited

structure ChunkChoice where
  index : ℤ
  delta : ChoiceDelta
  finishReason : Option FinishReason := none
deriving DecidableEq, Inhabited

structure ChatCompletionChunk where
  id : String
  created : ℤ
  model : String
  choices : List ChunkChoice
  usage : Option Usage := none
  systemFingerprint : Option String := none
  serviceTier : Option String := none
deriving DecidableEq, Inhabited

end ModelMeld
