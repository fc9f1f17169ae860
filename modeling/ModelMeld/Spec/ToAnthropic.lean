import ModelMeld.Spec.FromAnthropic

/-!
# From the internal response to the Messages API

`to_anthropic_response`, and `OpenAIToAnthropicStreamTranslator`, the state
machine that turns a stream of chunks into Anthropic stream events. Identifiers
the source draws from `uuid4` are inputs.
-/

namespace ModelMeld

/-- `_OPENAI_FINISH_TO_ANTHROPIC_STOP`. -/
def openaiFinishToAnthropicStop : FinishReason → AnthropicStopReason
  | .stop => .endTurn
  | .length => .maxTokens
  | .toolCalls => .toolUse
  | .contentFilter => .refusal
  | .functionCall => .toolUse

/-- The stop reason a client sees; a missing finish reason reads as `end_turn`. -/
def stopReasonOf (finish : Option FinishReason) : AnthropicStopReason :=
  match finish with
  | none => .endTurn
  | some f => openaiFinishToAnthropicStop f

/-- `msg_*` identifiers pass; any other is replaced by the fresh one. -/
def normalizeId (freshId openaiId : String) : String :=
  if "msg_".toList.isPrefixOf openaiId.toList then openaiId else freshId

/-! ## The whole response -/

/-- What `to_anthropic_response` may raise. -/
inductive ResponseError where
  | translation (e : TranslationError)
  /-- The schema refuses a `tool_use` input that is no object. -/
  | validation
  /-- `json.loads` raises something that is no `JSONDecodeError`. -/
  | loads
deriving DecidableEq

/-- `_tool_call_to_anthropic_block`. -/
def toolCallToAnthropicBlock (t : PythonText) (tc : ToolCall) :
    Except ResponseError AnthropicToolUseBlock :=
  let block (input : JsonObj) : AnthropicToolUseBlock :=
    { id := tc.id, name := tc.function.name, input := input }
  if tc.function.arguments = "" then .ok (block [])
  else match t.loads tc.function.arguments with
    | .error .decode => .ok (block [("_raw_arguments", .str tc.function.arguments)])
    | .error .other => .error .loads
    | .ok (.obj fields) => .ok (block fields)
    | .ok _ => .error .validation

/-- The blocks of a message: its text when there is some, its tool calls, and an empty text block
when there is neither. -/
def responseBlocks (t : PythonText) (msg : ResponseMessage) :
    Except ResponseError (List AnthropicResponseContentBlock) := do
  let text := match msg.content with
    | none => []
    | some s => if s = "" then [] else [.text { text := s }]
  let calls ← (msg.toolCalls.getD []).mapM (toolCallToAnthropicBlock t)
  let blocks := text ++ calls.map .toolUse
  return if blocks = [] then [.text { text := "" }] else blocks

/-- `to_anthropic_response`. -/
def toAnthropicResponse (t : PythonText) (freshId : String) (completion : ChatCompletion)
    (requestModel : String) : Except ResponseError AnthropicMessagesResponse :=
  match completion.choices with
  | [] => .error (.translation ⟨"ChatCompletion has no choices to translate"⟩)
  | choice :: _ => do
    let blocks ← responseBlocks t choice.message
    let details := completion.usage.bind Usage.promptTokensDetails
    return {
      id := normalizeId freshId completion.id
      content := blocks
      model := requestModel
      stopReason := some (stopReasonOf choice.finishReason)
      stopSequence := none
      usage :=
        { inputTokens := (completion.usage.map Usage.promptTokens).getD 0
          outputTokens := (completion.usage.map Usage.completionTokens).getD 0
          cacheCreationInputTokens := details.bind PromptTokensDetails.cacheCreationInputTokens
          cacheReadInputTokens := details.bind PromptTokensDetails.cacheReadInputTokens } }

/-! ## The stream -/

inductive BlockKind where
  | text | toolUse
deriving DecidableEq, Inhabited

/-- Identifiers a translator may have to make up. -/
structure FreshIds where
  message : String
  /-- By block index. -/
  tool : ℕ → String

/-- Identifiers as the translator forms them from what it draws. -/
def FreshIds.drawn (message : String) (tool : ℕ → String) : FreshIds where
  message := "msg_" ++ message
  tool i := "toolu_" ++ tool i

/-- The state of `OpenAIToAnthropicStreamTranslator`. -/
structure StreamTranslator where
  requestModel : String
  inputTokens : ℤ := 0
  messageStarted : Bool := false
  messageId : String := ""
  nextBlockIndex : ℕ := 0
  /-- The open block, with its kind. -/
  currentBlock : Option (ℕ × BlockKind) := none
  /-- OpenAI tool-call index to block index. -/
  toolBlocks : List (ℤ × ℕ) := []
  finishReason : Option FinishReason := none
  finalOutputTokens : ℤ := 0
  cacheCreation : Option ℤ := none
  cacheRead : Option ℤ := none
  anyBlockOpened : Bool := false
deriving DecidableEq

namespace StreamTranslator

/-- `_make_message_start`. -/
def makeMessageStart (st : StreamTranslator) : AnthropicStreamEvent :=
  .messageStart
    { id := st.messageId
      content := []
      model := st.requestModel
      usage :=
        { inputTokens := st.inputTokens
          outputTokens := 0
          cacheCreationInputTokens := st.cacheCreation
          cacheReadInputTokens := st.cacheRead } }

/-- The stop event of the open block, if one is open. -/
def closeCurrent (st : StreamTranslator) : List AnthropicStreamEvent :=
  match st.currentBlock with
  | none => []
  | some (i, _) => [.contentBlockStop i]

/-- The state with a new block of a kind open. -/
def openBlock (st : StreamTranslator) (kind : BlockKind) : StreamTranslator :=
  { st with
    currentBlock := some (st.nextBlockIndex, kind)
    nextBlockIndex := st.nextBlockIndex + 1
    anyBlockOpened := true }

/-- `_emit_text_delta`. -/
def emitTextDelta (st : StreamTranslator) (text : String) :
    List AnthropicStreamEvent × StreamTranslator :=
  match st.currentBlock with
  | some (i, .text) => ([.contentBlockDelta i (.textDelta text)], st)
  | _ =>
    let i := st.nextBlockIndex
    (st.closeCurrent ++
      [.contentBlockStart i (.text ""), .contentBlockDelta i (.textDelta text)],
      st.openBlock .text)

/-- The arguments of a delta as an event on a block, when there are any. -/
def argumentsDelta (i : ℕ) (delta : ToolCallDelta) : List AnthropicStreamEvent :=
  match delta.function.bind FunctionCallDelta.arguments with
  | none => []
  | some s => if s = "" then [] else [.contentBlockDelta i (.inputJsonDelta s)]

/-- `_emit_tool_call_delta`. -/
def emitToolCallDelta (ids : FreshIds) (st : StreamTranslator) (delta : ToolCallDelta) :
    List AnthropicStreamEvent × StreamTranslator :=
  match st.toolBlocks.lookup delta.index with
  | some i => (argumentsDelta i delta, st)
  | none =>
    let i := st.nextBlockIndex
    let id := match delta.id with
      | none => ids.tool i
      | some id => if id = "" then ids.tool i else id
    let name := (delta.function.bind FunctionCallDelta.name).getD ""
    let opened := st.openBlock .toolUse
    (st.closeCurrent ++ [.contentBlockStart i (.toolUse id name [])] ++ argumentsDelta i delta,
      { opened with toolBlocks := opened.toolBlocks ++ [(delta.index, i)] })

/-- The usage of a chunk, read before anything is emitted. -/
def captureUsage (st : StreamTranslator) (usage : Option Usage) : StreamTranslator :=
  match usage with
  | none => st
  | some u =>
    let details := u.promptTokensDetails
    { st with
      finalOutputTokens := u.completionTokens
      cacheCreation :=
        (details.bind PromptTokensDetails.cacheCreationInputTokens).or st.cacheCreation
      cacheRead := (details.bind PromptTokensDetails.cacheReadInputTokens).or st.cacheRead }

/-- `message_start`, on the first chunk only. -/
def startMessage (ids : FreshIds) (st : StreamTranslator) (chunkId : String) :
    List AnthropicStreamEvent × StreamTranslator :=
  if st.messageStarted then ([], st)
  else
    let st := { st with messageStarted := true, messageId := normalizeId ids.message chunkId }
    ([st.makeMessageStart], st)

/-- The deltas of the tool calls, in order. -/
def emitToolCallDeltas (ids : FreshIds) : StreamTranslator → List ToolCallDelta →
    List AnthropicStreamEvent × StreamTranslator
  | st, [] => ([], st)
  | st, delta :: rest =>
    let now := emitToolCallDelta ids st delta
    let later := emitToolCallDeltas ids now.2 rest
    (now.1 ++ later.1, later.2)

/-- The first choice of a chunk. -/
def emitChoice (ids : FreshIds) (st : StreamTranslator) (choice : ChunkChoice) :
    List AnthropicStreamEvent × StreamTranslator :=
  let text := match choice.delta.content with
    | none => ([], st)
    | some s => if s = "" then ([], st) else st.emitTextDelta s
  let tools := emitToolCallDeltas ids text.2 (choice.delta.toolCalls.getD [])
  (text.1 ++ tools.1,
    match choice.finishReason with
    | none => tools.2
    | some f => { tools.2 with finishReason := some f })

/-- `translate_chunk`. -/
def translateChunk (ids : FreshIds) (st : StreamTranslator) (chunk : ChatCompletionChunk) :
    List AnthropicStreamEvent × StreamTranslator :=
  let start := (st.captureUsage chunk.usage).startMessage ids chunk.id
  match chunk.choices with
  | [] => start
  | choice :: _ =>
    let rest := start.2.emitChoice ids choice
    (start.1 ++ rest.1, rest.2)

/-- `finalize`. -/
def finalize (ids : FreshIds) (st : StreamTranslator) :
    List AnthropicStreamEvent × StreamTranslator :=
  let start := if st.messageStarted then ([], st) else
    let st := { st with messageStarted := true, messageId := ids.message }
    ([st.makeMessageStart], st)
  let st := start.2
  let emptyBlock := if st.anyBlockOpened then [] else
    [.contentBlockStart 0 (.text ""), .contentBlockStop 0]
  (start.1 ++ st.closeCurrent ++ emptyBlock ++
    [.messageDelta (some (stopReasonOf st.finishReason)) none st.finalOutputTokens, .messageStop],
    { st with
      currentBlock := none
      nextBlockIndex := if st.anyBlockOpened then st.nextBlockIndex else 1
      anyBlockOpened := true })

/-- The events of a list of chunks, and the state after them. -/
def translateChunks (ids : FreshIds) : StreamTranslator → List ChatCompletionChunk →
    List AnthropicStreamEvent × StreamTranslator
  | st, [] => ([], st)
  | st, chunk :: rest =>
    let now := st.translateChunk ids chunk
    let later := translateChunks ids now.2 rest
    (now.1 ++ later.1, later.2)

end StreamTranslator

end ModelMeld
