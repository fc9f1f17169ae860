import ModelMeld.Spec.AnthropicSchemas

/-!
# From the Messages API to the internal request

`from_anthropic_request`: system fragments are gathered into one leading
message, tool results come before the user text of their turn, and the client's
reasoning intent becomes `reasoning_effort`.
-/

namespace ModelMeld

/-- What `json.loads` raises: a `JSONDecodeError`, or (for an integer of too many digits, or too
deep a nesting) something else. -/
inductive LoadsError where
  | decode | other
deriving DecidableEq

/-- The texts Python makes of values: `json.dumps` of an object, `json.loads`, and `repr` of a
string. -/
structure PythonText where
  dumps : JsonObj → String
  loads : String → Except LoadsError Json
  reprStr : String → String

/-- `TranslationError`, by its text. -/
structure TranslationError where
  message : String
deriving DecidableEq

/-! ## Reasoning intent -/

/-- `_ANTHROPIC_EFFORT_TO_REASONING`. -/
def anthropicEffortToReasoning : List (String × ReasoningEffort) :=
  [("low", .low), ("medium", .medium), ("high", .high), ("xhigh", .high), ("max", .high)]

/-- `output_config.effort`, mapped; `none` when it is absent, no string or unknown. -/
def effortOf (extra : JsonObj) : Option ReasoningEffort :=
  match extra.get? "output_config" with
  | some (.obj config) => match config.lookup "effort" with
    | some (.str effort) => anthropicEffortToReasoning.lookup effort
    | _ => none
  | _ => none

/-- `thinking` is an object whose type is given and not `disabled`. -/
def thinkingEnabled (extra : JsonObj) : Bool :=
  match extra.get? "thinking" with
  | some (.obj thinking) => match thinking.lookup "type" with
    | none => false
    | some .null => false
    | some (.str "disabled") => false
    | some _ => true
  | _ => false

/-- `_reasoning_effort_from_anthropic`. -/
def reasoningEffortFromAnthropic (req : AnthropicMessagesRequest) : Option ReasoningEffort :=
  match effortOf req.extra with
  | some effort => some effort
  | none => if thinkingEnabled req.extra then some .medium else none

/-! ## Messages -/

/-- `cache_control.model_dump()`. -/
def dumpCacheControl (present : HasCacheControl) : Option JsonObj :=
  if present then some [("type", .str "ephemeral")] else none

/-- A text block as a text part with the same breakpoint. -/
def textPartOf (block : AnthropicTextBlock) : TextPart :=
  { text := block.text, cacheControl := dumpCacheControl block.cacheControl }

/-- `_anthropic_system_to_parts`. -/
def anthropicSystemToParts : Content AnthropicTextBlock → List TextPart
  | .str s => [{ text := s }]
  | .parts blocks => blocks.map textPartOf

/-- `getattr(b, "text", "")`; a client may also have added such a field to another block. -/
def blockText (block : AnthropicRequestContentBlock) : String :=
  let added (extra : JsonObj) : String := match extra.get? "text" with
    | some (.str s) => s
    | _ => ""
  match block with
  | .text b => b.text
  | .image b => added b.extra
  | .toolUse b => added b.extra
  | .toolResult b => added b.extra

/-- `_anthropic_tool_result_content_to_text`. -/
def anthropicToolResultContentToText : Content AnthropicTextBlock → String
  | .str s => s
  | .parts blocks => join "\n" (blocks.map AnthropicTextBlock.text)

/-- What the loop over a user turn's blocks gathers: tool messages and user parts. -/
def userBlocks (t : PythonText) : List AnthropicRequestContentBlock →
    Except TranslationError (List Message × List TextPart)
  | [] => .ok ([], [])
  | .text b :: rest => do
    let (tools, parts) ← userBlocks t rest
    return (tools, textPartOf b :: parts)
  | .image _ :: _ => .error ⟨"Anthropic image content blocks are not supported in v1 " ++
      "of the /v1/messages route. Deferred per the design doc."⟩
  | .toolResult b :: rest => do
    let (tools, parts) ← userBlocks t rest
    return (.tool { content := .str (anthropicToolResultContentToText b.content)
                    toolCallId := b.toolUseId } :: tools, parts)
  | .toolUse b :: _ => .error ⟨"tool_use block found on user message (id=" ++ t.reprStr b.id ++
      "); tool_use belongs on assistant role"⟩

/-- The trailing user message: a lone part without a breakpoint becomes a bare string. -/
def userMessageOf : List TextPart → List Message
  | [] => []
  | [part] =>
    if part.cacheControl.getD [] = [] then [.user { content := .str part.text }]
    else [.user { content := .parts [.text part] }]
  | parts => [.user { content := .parts (parts.map ContentPart.text) }]

/-- `_anthropic_user_to_openai`: tool results first. -/
def anthropicUserToOpenai (t : PythonText) (msg : AnthropicMessage) :
    Except TranslationError (List Message) :=
  match msg.content with
  | .str s => .ok [.user { content := .str s }]
  | .parts blocks => do
    let (tools, parts) ← userBlocks t blocks
    return tools ++ userMessageOf parts

/-- What the loop over an assistant turn's blocks gathers: texts and tool calls. -/
def assistantBlocks (t : PythonText) : List AnthropicRequestContentBlock →
    Except TranslationError (List String × List ToolCall)
  | [] => .ok ([], [])
  | .text b :: rest => do
    let (texts, calls) ← assistantBlocks t rest
    return (b.text :: texts, calls)
  | .toolUse b :: rest => do
    let (texts, calls) ← assistantBlocks t rest
    return (texts, { id := b.id, function := { name := b.name, arguments := t.dumps b.input } } ::
      calls)
  | .image _ :: _ => .error ⟨"Assistant messages must not contain image blocks"⟩
  | .toolResult b :: _ => .error ⟨"tool_result block found on assistant message (tool_use_id=" ++
      t.reprStr b.toolUseId ++ "); tool_results belong on user role"⟩

/-- `_anthropic_assistant_to_openai`. -/
def anthropicAssistantToOpenai (t : PythonText) (msg : AnthropicMessage) :
    Except TranslationError Message :=
  match msg.content with
  | .str s => .ok (.assistant { content := some (.str s) })
  | .parts blocks => do
    let (texts, calls) ← assistantBlocks t blocks
    return .assistant
      { content := if texts = [] then none else some (.str (join "\n" texts))
        toolCalls := if calls = [] then none else some calls }

/-- The text of a system-role message. -/
def systemText (content : Content AnthropicRequestContentBlock) : String :=
  match content with
  | .str s => s
  | .parts blocks => join "\n" ((blocks.map blockText).filter (· ≠ ""))

/-- `_anthropic_message_to_openai`. -/
def anthropicMessageToOpenai (t : PythonText) (msg : AnthropicMessage) :
    Except TranslationError (List Message) :=
  match msg.role with
  | .user => anthropicUserToOpenai t msg
  | .assistant => do return [← anthropicAssistantToOpenai t msg]
  | .system => .ok [.system { content := .str (systemText msg.content) }]

/-- The loop over the messages: the system fragments and the body. -/
def splitMessages (t : PythonText) : List AnthropicMessage →
    Except TranslationError (List TextPart × List Message)
  | [] => .ok ([], [])
  | msg :: rest => do
    let converted ← anthropicMessageToOpenai t msg
    let (system, body) ← splitMessages t rest
    let fragments := converted.filterMap (fun m => match m with
      | .system m => match m.content with
        | .str text => if text = "" then none else some ({ text := text } : TextPart)
        | .parts ps =>
          let text := join "\n" (ps.map TextPart.text)
          if text = "" then none else some { text := text }
      | _ => none)
    let others := converted.filter (fun m => match m with
      | .system _ => false
      | _ => true)
    return (fragments ++ system, others ++ body)

/-- The leading system message: the list form when a fragment carries a breakpoint. -/
def leadingSystem (parts : List TextPart) : List Message :=
  if parts = [] then []
  else if parts.any (fun p => p.cacheControl.getD [] ≠ []) then
    [.system { content := .parts parts }]
  else [.system { content := .str (join "\n\n" (parts.map TextPart.text)) }]

/-! ## Tools -/

/-- `_anthropic_tool_def_to_openai`. -/
def anthropicToolDefToOpenai (tool : AnthropicToolDef) : Tool :=
  { function :=
      { name := tool.name, description := tool.description, parameters := some tool.inputSchema } }

/-- `_anthropic_tool_choice_to_openai`. -/
def anthropicToolChoiceToOpenai : AnthropicToolChoice → ToolChoice
  | .auto _ => .mode "auto"
  | .any _ => .mode "required"
  | .none => .mode "none"
  | .tool name _ => .named [("type", .str "function"), ("function", .obj [("name", .str name)])]

/-! ## The request -/

/-- `from_anthropic_request`. -/
def fromAnthropicRequest (t : PythonText) (req : AnthropicMessagesRequest) :
    Except TranslationError ChatCompletionRequest := do
  let top := match req.system with
    | none => []
    | some system => (anthropicSystemToParts system).filter
        (fun p => p.text ≠ "" ∨ p.cacheControl.getD [] ≠ [])
  let (system, body) ← splitMessages t req.messages
  return {
    model := req.model
    messages := leadingSystem (top ++ system) ++ body
    maxTokens := some req.maxTokens
    temperature := req.temperature
    topP := req.topP
    stop := match req.stopSequences with
      | none => none
      | some [] => none
      | some ss => some (.many ss)
    stream := some (req.stream.getD false)
    tools := match req.tools with
      | none => none
      | some [] => none
      | some ts => some (ts.map anthropicToolDefToOpenai)
    toolChoice := req.toolChoice.map anthropicToolChoiceToOpenai
    reasoningEffort := reasoningEffortFromAnthropic req
    user := req.metadata.bind AnthropicMetadata.userId }

end ModelMeld
