import ModelMeld.Spec.AnthropicStream

/-!
# From the internal request to Anthropic

`to_anthropic_params`: the parameters the Anthropic adapter calls the vendor
with when the request came from another surface. System messages leave the
array, tool results come back as user turns, and the tool choice is put in the
vendor's words.
-/

namespace ModelMeld

/-! ## Parameters -/

/-- A content block of a message for Anthropic. -/
inductive ParamBlock where
  | text (text : String)
  | image (source : AnthropicImageSource)
  | toolUse (id name : String) (input : Json)
  | toolResult (toolUseId content : String)
deriving DecidableEq, Inhabited

inductive ParamRole where
  | user | assistant
deriving DecidableEq, Inhabited

structure ParamMessage where
  role : ParamRole
  content : Content ParamBlock
deriving DecidableEq, Inhabited

structure ParamTool where
  name : String
  description : String
  inputSchema : JsonObj
deriving DecidableEq, Inhabited

/-- The name of a tool is whatever the client put there. -/
inductive ParamToolChoice where
  | auto
  | any
  | tool (name : Json)
deriving DecidableEq, Inhabited

/-- The keyword arguments; `none` is a key that is not set. -/
structure AnthropicParams where
  model : String
  messages : List ParamMessage
  maxTokens : ℤ
  system : Option String := none
  temperature : Option ℚ := none
  topP : Option ℚ := none
  stopSequences : Option (List String) := none
  tools : Option (List ParamTool) := none
  toolChoice : Option ParamToolChoice := none
deriving DecidableEq, Inhabited

/-- What `to_anthropic_params` may raise. -/
inductive ParamsError where
  | translation (e : TranslationError)
  | read (e : ReadError)
  /-- `json.loads` raises something that is no `JSONDecodeError`. -/
  | loads
deriving DecidableEq

/-! ## Messages -/

/-- `_extract_text`. -/
def extractText : Content TextPart → String
  | .str s => s
  | .parts ps => join "\n" (ps.map TextPart.text)

/-- `_DATA_URL_RE.match(url)`: the media type and the data. -/
def matchDataUrl (url : String) : Option (String × String) :=
  if "data:".toList.isPrefixOf url.toList then
    let rest := url.toList.drop 5
    let mime := rest.takeWhile (· ≠ ';')
    let tail := rest.dropWhile (· ≠ ';')
    let data := tail.drop 8
    if mime ≠ [] ∧ ";base64,".toList.isPrefixOf tail ∧ data ≠ [] then
      some (String.ofList mime, String.ofList data)
    else none
  else none

/-- `_translate_image_source`. -/
def translateImageSource (url : String) : AnthropicImageSource :=
  match matchDataUrl url with
  | some (mime, data) => .base64 mime data
  | none => .url url

/-- A part of a user message; Anthropic takes no audio. -/
def translateUserPart : ContentPart → Except ParamsError ParamBlock
  | .text part => .ok (.text part.text)
  | .image url => .ok (.image (translateImageSource url.url))
  | .audio _ => .error
      (.translation ⟨"Anthropic does not support content part type: input_audio"⟩)

/-- `_translate_user_content`. -/
def translateUserContent : Content ContentPart → Except ParamsError (Content ParamBlock)
  | .str s => .ok (.str s)
  | .parts ps => do return .parts (← ps.mapM translateUserPart)

/-- The input of a tool call; arguments that are no JSON are kept as they are. -/
def toolInput (t : PythonText) (arguments : String) : Except ParamsError Json :=
  if arguments = "" then .ok (.obj [])
  else match t.loads arguments with
    | .error .decode => .ok (.obj [("_raw_arguments", .str arguments)])
    | .error .other => .error .loads
    | .ok input => .ok input

/-- A tool call as a block. -/
def toolUseBlock (t : PythonText) (tc : ToolCall) : Except ParamsError ParamBlock := do
  return .toolUse tc.id tc.function.name (← toolInput t tc.function.arguments)

/-- The text of an assistant turn as a block, when the turn has a text. -/
def assistantText : Option (Content TextPart) → List ParamBlock
  | none => []
  | some (.str s) => if s = "" then [] else [.text s]
  | some (.parts []) => []
  | some (.parts ps) => [.text (extractText (.parts ps))]

/-- `_translate_assistant_content`. -/
def translateAssistantContent (t : PythonText) (msg : AssistantMessage) :
    Except ParamsError (List ParamBlock) := do
  let calls ← (msg.toolCalls.getD []).mapM (toolUseBlock t)
  let blocks := assistantText msg.content ++ calls
  return if blocks = [] then [.text ""] else blocks

/-- `_split_system_and_messages` and `_translate_message`: the texts of the system messages, and
the other messages. -/
def splitSystemAndMessages (t : PythonText) : List Message →
    Except ParamsError (List String × List ParamMessage)
  | [] => .ok ([], [])
  | .system m :: rest => do
    let (system, converted) ← splitSystemAndMessages t rest
    return (extractText m.content :: system, converted)
  | .user m :: rest => do
    let content ← translateUserContent m.content
    let (system, converted) ← splitSystemAndMessages t rest
    return (system, { role := .user, content := content } :: converted)
  | .assistant m :: rest => do
    let blocks ← translateAssistantContent t m
    let (system, converted) ← splitSystemAndMessages t rest
    return (system, { role := .assistant, content := .parts blocks } :: converted)
  | .tool m :: rest => do
    let (system, converted) ← splitSystemAndMessages t rest
    return (system,
      { role := .user, content := .parts [.toolResult m.toolCallId (extractText m.content)] } ::
        converted)

/-! ## Tools -/

/-- `_translate_tool_def`. -/
def translateToolDef (tool : Tool) : ParamTool where
  name := tool.function.name
  description := tool.function.description.getD ""
  inputSchema := match tool.function.parameters with
    | none => [("type", .str "object")]
    | some [] => [("type", .str "object")]
    | some schema => schema

/-- `_translate_tool_choice`. -/
def translateToolChoice : ToolChoice → Except ReadError (Option ParamToolChoice)
  | .mode "auto" => .ok (some .auto)
  | .mode "required" => .ok (some .any)
  -- the tools stay in the request
  | .mode "none" => .ok none
  | .mode _ => .ok (some .auto)
  | .named choice =>
    if choice.getD "type" .null = .str "function" then do
      let fn ← (choice.getD "function" (.obj [])).asDict
      let name := fn.getD "name" .null
      if name.truthy then return some (.tool name)
      else return some .auto
    else .ok (some .auto)

/-! ## The request -/

/-- `request.stop` as a list, when there is something in it. -/
def stopSequencesOf : Option Stop → Option (List String)
  | none => none
  | some (.one s) => if s = "" then none else some [s]
  | some (.many []) => none
  | some (.many ss) => some ss

/-- `max_completion_tokens or max_tokens or _DEFAULT_MAX_TOKENS`. -/
def paramMaxTokens (request : ChatCompletionRequest) : ℤ :=
  let completion := request.maxCompletionTokens.getD 0
  let plain := request.maxTokens.getD 0
  if completion ≠ 0 then completion else if plain ≠ 0 then plain else 4096

/-- The system texts joined, when the result is not empty. -/
def systemParam (texts : List String) : Option String :=
  if join "\n\n" texts = "" then none else some (join "\n\n" texts)

/-- The tool choice of a request, when it has one. -/
def toolChoiceParam : Option ToolChoice → Except ParamsError (Option ParamToolChoice)
  | none => .ok none
  | some choice => (translateToolChoice choice).mapError ParamsError.read

/-- `to_anthropic_params`. -/
def toAnthropicParams (t : PythonText) (request : ChatCompletionRequest) :
    Except ParamsError AnthropicParams := do
  let (system, messages) ← splitSystemAndMessages t request.messages
  let toolChoice ← toolChoiceParam request.toolChoice
  return {
    model := request.model
    messages := messages
    maxTokens := paramMaxTokens request
    system := systemParam system
    temperature := request.temperature
    topP := request.topP
    stopSequences := stopSequencesOf request.stop
    tools := match request.tools with
      | none => none
      | some [] => none
      | some ts => some (ts.map translateToolDef)
    toolChoice := toolChoice }

end ModelMeld
