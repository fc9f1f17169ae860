import ModelMeld.Spec.AnthropicStream

/-!
# From the Responses API to the internal request

The body of `POST /v1/responses` and `from_responses_request`. The items of the
input are put into messages one by one; the function tools lose their flat
shape, while the tool choice is passed on as it came.
-/

namespace ModelMeld

/-! ## Schemas -/

structure ResponsesContentPart where
  type : String
  text : Option String := none
deriving DecidableEq, Inhabited

/-- An entry of the input array, keyed by its type; every field may be missing. -/
structure ResponsesInputItem where
  type : Option String := none
  role : Option String := none
  content : Option (Content ResponsesContentPart) := none
  callId : Option String := none
  name : Option String := none
  arguments : Option String := none
  /-- `null` when it is missing. -/
  output : Json := .null
deriving DecidableEq, Inhabited

structure ResponsesRequest where
  model : String
  input : Content ResponsesInputItem
  instructions : Option String := none
  tools : Option (List JsonObj) := none
  toolChoice : Option ToolChoice := none
  temperature : Option ℚ := none
  topP : Option ℚ := none
  maxOutputTokens : Option ℤ := none
  stream : Bool := false
  extra : JsonObj := []
deriving DecidableEq, Inhabited

/-- What Python and the schemas make of values in a body: `str` of a float, and the value a schema
field of type `bool` takes. -/
structure BodyValues where
  strOfFloat : ℚ → String
  boolField : Json → Option Bool
  boolField_bool : ∀ b, boolField (.bool b) = some b

/-! ## Fields -/

namespace Json

/-- A value for a schema field of type `dict | None`. -/
def asOptDict : Json → Except ReadError (Option JsonObj)
  | null => .ok none
  | obj fields => .ok (some fields)
  | _ => .error .validationError

/-- A value for a schema field of type `bool | None`. -/
def asOptBool (v : BodyValues) : Json → Except ReadError (Option Bool)
  | null => .ok none
  | value => match v.boolField value with
    | some b => .ok (some b)
    | none => .error .validationError

/-- A value for a `TextPart`. -/
def asTextPart : Json → Except ReadError TextPart
  | obj fields => do
    if JsonObj.getD fields "type" .null = .str "text" then
      let text ← (JsonObj.getD fields "text" .null).asStr
      let cacheControl ← (JsonObj.getD fields "cache_control" .null).asOptDict
      return { text := text, cacheControl := cacheControl }
    else throw .validationError
  | _ => .error .validationError

/-- A value for a field of type `str | list[TextPart]`. -/
def asContent : Json → Except ReadError (Content TextPart)
  | str s => .ok (.str s)
  | arr items => do return .parts (← items.mapM asTextPart)
  | _ => .error .validationError

end Json

/-! ## Items -/

/-- `_item_text`. -/
def itemText : Option (Content ResponsesContentPart) → String
  | none => ""
  | some (.str s) => s
  | some (.parts ps) => join "" (ps.map (fun part => part.text.getD ""))

/-- `p.get("text") or ""` for the dicts of a list. -/
def functionOutputParts : List Json → Except ReadError (List String)
  | [] => .ok []
  | .obj p :: rest => do
    let text := JsonObj.getD p "text" .null
    let text ← if text.truthy then text.asJoined else pure ""
    return text :: (← functionOutputParts rest)
  | _ :: rest => functionOutputParts rest

/-- `_output_text`, as the content of a tool message. -/
def functionOutputText (v : BodyValues) : Json → Except ReadError (Content TextPart)
  | .null => .ok (.str "")
  | .str s => .ok (.str s)
  | .arr items => do return .str (join "" (← functionOutputParts items))
  | .obj fields =>
    let text := JsonObj.getD fields "text" .null
    let output := JsonObj.getD fields "output" .null
    if text.truthy then text.asContent
    else if output.truthy then output.asContent
    else .ok (.str "")
  | .bool b => .ok (.str (if b then "True" else "False"))
  | .int n => .ok (.str (toString n))
  | .float q => .ok (.str (v.strOfFloat q))

/-- `_to_message`. -/
def toMessage (role text : String) : Message :=
  -- `developer` is the system role under its later name
  if role = "system" ∨ role = "developer" then .system { content := .str text }
  else if role = "assistant" then .assistant { content := some (.str text) }
  else .user { content := .str text }

/-- The call a `function_call` item carries. -/
def itemCall (item : ResponsesInputItem) : ToolCall where
  id := item.callId.getD ""
  function := { name := item.name.getD "", arguments := item.arguments.getD "" }

/-- `_input_item_to_message`; `none` is an item without a counterpart. -/
def inputItemToMessage (v : BodyValues) (item : ResponsesInputItem) :
    Except ReadError (Option Message) :=
  if item.type = some "function_call" then
    .ok (some (.assistant { content := none, toolCalls := some [itemCall item] }))
  else if item.type = some "function_call_output" then do
    let content ← functionOutputText v item.output
    return some (.tool { content := content, toolCallId := item.callId.getD "" })
  else match item.role with
    | none => .ok none
    | some role => .ok (some (toMessage role (itemText item.content)))

/-- The loop over the input items. -/
def inputMessages (v : BodyValues) : List ResponsesInputItem → Except ReadError (List Message)
  | [] => .ok []
  | item :: rest => do
    let msg ← inputItemToMessage v item
    let messages ← inputMessages v rest
    return msg.toList ++ messages

/-! ## Tools -/

/-- The loop of `_to_chat_tools`: function tools with a name; the others are left out. -/
def chatTools (v : BodyValues) : List JsonObj → Except ReadError (List Tool)
  | [] => .ok []
  | tool :: rest => do
    if tool.getD "type" .null ≠ .str "function" then chatTools v rest
    else
      -- the flat shape of this surface, or the nested one of chat completions
      let nested := tool.getD "function" .null
      let fn ← (if nested.truthy then nested else .obj tool).asDict
      let name := fn.getD "name" .null
      if name.truthy = false then chatTools v rest
      else
        let name ← name.asStr
        let description ← (fn.getD "description" .null).asOptStr
        let parameters ← (fn.getD "parameters" .null).asOptDict
        let strict ← (fn.getD "strict" .null).asOptBool v
        let tools ← chatTools v rest
        return { function :=
          { name := name, description := description, parameters := parameters, strict := strict } }
          :: tools

/-- `_to_chat_tools`. -/
def toChatTools (v : BodyValues) (tools : Option (List JsonObj)) :
    Except ReadError (Option (List Tool)) := do
  let out ← chatTools v (tools.getD [])
  return if out = [] then none else some out

/-! ## The request -/

/-- `_RESPONSES_EFFORT_TO_REASONING`. -/
def responsesEffortToReasoning : List (String × ReasoningEffort) :=
  [("minimal", .low), ("low", .low), ("medium", .medium), ("high", .high)]

/-- `_reasoning_effort_from_responses`. -/
def reasoningEffortFromResponses (req : ResponsesRequest) : Option ReasoningEffort :=
  match req.extra.get? "reasoning" with
  | some (.obj reasoning) => match reasoning.lookup "effort" with
    | some (.str effort) => responsesEffortToReasoning.lookup effort
    | _ => none
  | _ => none

/-- The message of the instructions, when there are some. -/
def instructionsMessage (instructions : Option String) : List Message :=
  match instructions with
  | none => []
  | some s => if s = "" then [] else [.system { content := .str s }]

/-- The messages of the input. -/
def messagesOfInput (v : BodyValues) : Content ResponsesInputItem → Except ReadError (List Message)
  | .str s => .ok [.user { content := .str s }]
  | .parts items => inputMessages v items

/-- `from_responses_request`. -/
def fromResponsesRequest (v : BodyValues) (req : ResponsesRequest) :
    Except ReadError ChatCompletionRequest := do
  let body ← messagesOfInput v req.input
  let tools ← toChatTools v req.tools
  return {
    model := req.model
    messages := instructionsMessage req.instructions ++ body
    maxTokens := req.maxOutputTokens
    temperature := req.temperature
    topP := req.topP
    tools := tools
    toolChoice := req.toolChoice
    stream := some req.stream
    reasoningEffort := reasoningEffortFromResponses req }

end ModelMeld
