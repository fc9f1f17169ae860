import ModelMeld.Spec.FromAnthropic
import ModelMeld.Lib.OrderedDict

/-!
# From Anthropic's responses to the internal ones

`from_anthropic_response`, and `AnthropicStreamTranslator`, which turns the
events of an Anthropic stream into chunks. Both read plain dicts: a key may be
missing, a value of the wrong kind raises what Python or the schema raises.
-/

namespace ModelMeld

/-! ## Reading dicts -/

/-- What reading a value of the wrong kind raises. -/
inductive ReadError where
  | attributeError | keyError | typeError | valueError | validationError
deriving DecidableEq, Inhabited

/-- What Python and the schemas make of values: `json.dumps`, `int` of a text, and the value a
schema field of type `int` takes. -/
structure WireValues where
  dumps : Json → String
  intOfText : String → Option ℤ
  intField : Json → Option ℤ
  intField_int : ∀ n, intField (.int n) = some n

namespace Json

/-- `bool(value)`. -/
def truthy : Json → Bool
  | null => false
  | bool b => b
  | int n => decide (n ≠ 0)
  | float q => decide (q ≠ 0)
  | str s => decide (s ≠ "")
  | arr items => !items.isEmpty
  | obj fields => !fields.isEmpty

/-- A value on which `.get` is called. -/
def asDict : Json → Except ReadError JsonObj
  | obj fields => .ok fields
  | _ => .error .attributeError

/-- What a `for` loop over a value goes through. -/
def asItems : Json → Except ReadError (List Json)
  | arr items => .ok items
  | obj fields => .ok (fields.map (fun field => str field.1))
  | str s => .ok (s.toList.map (fun c => str (String.singleton c)))
  | _ => .error .typeError

/-- A value that is joined to a text. -/
def asJoined : Json → Except ReadError String
  | str s => .ok s
  | _ => .error .typeError

/-- A value for a schema field of type `str`. -/
def asStr : Json → Except ReadError String
  | str s => .ok s
  | _ => .error .validationError

/-- A value for a schema field of type `str | None`. -/
def asOptStr : Json → Except ReadError (Option String)
  | null => .ok none
  | v => v.asStr.map some

/-- A value as a dict key; equal numbers are one key. -/
def asKey : Json → Except ReadError Json
  | arr _ => .error .typeError
  | obj _ => .error .typeError
  | bool b => .ok (int (if b then 1 else 0))
  | float q => .ok (if q.den = 1 then int q.num else float q)
  | v => .ok v

variable (w : WireValues)

/-- `int(value)`. -/
def toInt : Json → Except ReadError ℤ
  | int n => .ok n
  | bool b => .ok (if b then 1 else 0)
  | float q => .ok (q.num.tdiv q.den)
  | str s => match w.intOfText s with
    | some n => .ok n
    | none => .error .valueError
  | _ => .error .typeError

/-- A value for a schema field of type `int | None`. -/
def asOptInt : Json → Except ReadError (Option ℤ)
  | null => .ok none
  | v => match w.intField v with
    | some n => .ok (some n)
    | none => .error .validationError

end Json

/-- `d.get(key, default)`. -/
def JsonObj.getD (d : JsonObj) (key : String) (default : Json) : Json := (d.get? key).getD default

/-- `d[key]`. -/
def JsonObj.get! (d : JsonObj) (key : String) : Except ReadError Json :=
  match d.get? key with
  | some v => .ok v
  | none => .error .keyError

/-! ## Stop reasons and usage -/

/-- `_STOP_REASON_MAP`. -/
def stopReasonMap : List (String × FinishReason) :=
  [("end_turn", .stop), ("max_tokens", .length), ("stop_sequence", .stop),
    ("tool_use", .toolCalls), ("refusal", .contentFilter)]

/-- `_STOP_REASON_MAP.get(stop_reason, "stop")`. -/
def finishOfStop (stopReason : Json) : Except ReadError FinishReason := do
  match ← stopReason.asKey with
  | .str s => return (stopReasonMap.lookup s).getD .stop
  | _ => return .stop

variable (w : WireValues)

/-- The cache counts of a usage dict, when it has some. -/
def promptDetails (usage : JsonObj) : Except ReadError (Option PromptTokensDetails) := do
  let cacheWrite := usage.getD "cache_creation_input_tokens" .null
  let cacheRead := usage.getD "cache_read_input_tokens" .null
  if cacheWrite = .null ∧ cacheRead = .null then return none
  else
    let write ← cacheWrite.asOptInt w
    let read ← cacheRead.asOptInt w
    return some
      { cachedTokens := read
        cacheCreationInputTokens := write
        cacheReadInputTokens := read }

/-- `_usage_from_anthropic_message_start`. -/
def usageFromAnthropicMessageStart (usage : Json) : Except ReadError (Option Usage) := do
  if !usage.truthy then return none
  else
    let usage ← usage.asDict
    let details ← promptDetails w usage
    let inTok ← (usage.getD "input_tokens" (.int 0)).toInt w
    if details = none ∧ inTok = 0 then return none
    else
      return some
        { promptTokens := inTok
          completionTokens := 0
          totalTokens := inTok
          promptTokensDetails := details }

/-! ## The whole response -/

/-- The loop over the content blocks: what stands for the texts, and the tool calls. -/
def responseContent : List Json → Except ReadError (List Json × List ToolCall)
  | [] => .ok ([], [])
  | block :: rest => do
    let block ← block.asDict
    if block.getD "type" .null = .str "text" then
      let (texts, calls) ← responseContent rest
      return (block.getD "text" (.str "") :: texts, calls)
    else if block.getD "type" .null = .str "tool_use" then
      let id ← block.get! "id"
      let name ← (← block.get! "name").asStr
      let id ← id.asStr
      let call : ToolCall :=
        { id := id
          function :=
            { name := name
              arguments := w.dumps (block.getD "input" (.obj [])) } }
      let (texts, calls) ← responseContent rest
      return (texts, call :: calls)
    else responseContent rest

/-- `from_anthropic_response`. -/
def fromAnthropicResponse (now : ℤ) (freshId : String) (response : JsonObj) :
    Except ReadError ChatCompletion := do
  let content ← (response.getD "content" (.arr [])).asItems
  let (texts, calls) ← responseContent w content
  let texts ← texts.mapM Json.asJoined
  let stopReason := response.getD "stop_reason" .null
  let finish ← finishOfStop (if stopReason.truthy then stopReason else .str "end_turn")
  let usage ← (response.getD "usage" (.obj [])).asDict
  let inTok ← (usage.getD "input_tokens" (.int 0)).toInt w
  let outTok ← (usage.getD "output_tokens" (.int 0)).toInt w
  let details ← promptDetails w usage
  let id := response.getD "id" .null
  let id ← if id.truthy then id.asStr else pure freshId
  let model ← (response.getD "model" (.str "")).asStr
  return {
    id := id
    created := now
    model := model
    choices :=
      [{ index := 0
         message :=
          { content := if texts = [] then none else some (join "\n" texts)
            toolCalls := if calls = [] then none else some calls }
         finishReason := some finish }]
    usage := some
      { promptTokens := inTok
        completionTokens := outTok
        totalTokens := inTok + outTok
        promptTokensDetails := details } }

/-! ## The stream -/

/-- The state of `AnthropicStreamTranslator`. -/
structure AnthropicStreamTranslator where
  id : Json := .str ""
  model : Json := .str ""
  created : ℤ
  roleEmitted : Bool := false
  /-- Block index to tool-call index. -/
  blockToToolIndex : OrderedDict Json ℕ := .empty
  nextToolIndex : ℕ := 0

/-- An event as it is received: the time, and the id drawn should the chunk need one. -/
structure ReceivedEvent where
  event : JsonObj
  now : ℤ
  freshId : String

namespace AnthropicStreamTranslator

/-- `_chunk`. -/
def chunk (st : AnthropicStreamTranslator) (freshId : String) (delta : ChoiceDelta)
    (finishReason : Option FinishReason) (usage : Option Usage) :
    Except ReadError ChatCompletionChunk := do
  let id ← if st.id.truthy then st.id.asStr else pure freshId
  let model ← st.model.asStr
  return {
    id := id
    created := st.created
    model := model
    choices := [{ index := 0, delta := delta, finishReason := finishReason }]
    usage := usage }

/-- A `message_start`. -/
def onMessageStart (st : AnthropicStreamTranslator) (e : ReceivedEvent) :
    Except ReadError (Option ChatCompletionChunk × AnthropicStreamTranslator) := do
  let message ← (e.event.getD "message" (.obj [])).asDict
  let st := { st with
    id := message.getD "id" st.id
    model := message.getD "model" st.model
    created := e.now
    roleEmitted := true }
  let usage ← usageFromAnthropicMessageStart w (message.getD "usage" (.obj []))
  let chunk ← st.chunk e.freshId { hasRole := true, content := some "" } none usage
  return (some chunk, st)

/-- A `content_block_start`. -/
def onBlockStart (st : AnthropicStreamTranslator) (e : ReceivedEvent) :
    Except ReadError (Option ChatCompletionChunk × AnthropicStreamTranslator) := do
  let block ← (e.event.getD "content_block" (.obj [])).asDict
  if block.getD "type" .null = .str "tool_use" then
    let key ← (e.event.getD "index" (.int 0)).asKey
    let tool := st.nextToolIndex
    let st := { st with
      nextToolIndex := tool + 1
      blockToToolIndex := st.blockToToolIndex.insert key tool }
    let id ← (block.getD "id" .null).asOptStr
    let name ← (block.getD "name" .null).asOptStr
    let call : ToolCallDelta :=
      { index := tool
        id := id
        hasType := true
        function := some { name := name, arguments := some "" } }
    let chunk ← st.chunk e.freshId { toolCalls := some [call] } none none
    return (some chunk, st)
  else return (none, st)

/-- A `content_block_delta`. -/
def onBlockDelta (st : AnthropicStreamTranslator) (e : ReceivedEvent) :
    Except ReadError (Option ChatCompletionChunk × AnthropicStreamTranslator) := do
  let delta ← (e.event.getD "delta" (.obj [])).asDict
  if delta.getD "type" .null = .str "text_delta" then
    let text ← (delta.getD "text" (.str "")).asOptStr
    let chunk ← st.chunk e.freshId { content := text } none none
    return (some chunk, st)
  else if delta.getD "type" .null = .str "input_json_delta" then
    let key ← (e.event.getD "index" (.int 0)).asKey
    match st.blockToToolIndex.get? key with
    | none => return (none, st)
    | some tool =>
      let arguments ← (delta.getD "partial_json" (.str "")).asOptStr
      let call : ToolCallDelta :=
        { index := tool, function := some { arguments := arguments } }
      let chunk ← st.chunk e.freshId { toolCalls := some [call] } none none
      return (some chunk, st)
  else return (none, st)

/-- The usage of a `message_delta`: Anthropic sends only the output tokens there. -/
def messageDeltaUsage (usage : Json) : Except ReadError (Option Usage) := do
  if !usage.truthy then return none
  else
    let usage ← usage.asDict
    let outTok ← (usage.getD "output_tokens" (.int 0)).toInt w
    return some { promptTokens := 0, completionTokens := outTok, totalTokens := outTok }

/-- The finish reason of a `message_delta`; none when it has no stop reason. -/
def messageDeltaFinish (stopReason : Json) : Except ReadError (Option FinishReason) :=
  if stopReason.truthy then (finishOfStop stopReason).map some else .ok none

/-- A `message_delta`. -/
def onMessageDelta (st : AnthropicStreamTranslator) (e : ReceivedEvent) :
    Except ReadError (Option ChatCompletionChunk × AnthropicStreamTranslator) := do
  let delta ← (e.event.getD "delta" (.obj [])).asDict
  let finish ← messageDeltaFinish (delta.getD "stop_reason" .null)
  let usage ← messageDeltaUsage w (e.event.getD "usage" (.obj []))
  let chunk ← st.chunk e.freshId {} finish usage
  return (some chunk, st)

/-- `translate_event`: at most one chunk; an unknown event is ignored. -/
def translateEvent (st : AnthropicStreamTranslator) (e : ReceivedEvent) :
    Except ReadError (Option ChatCompletionChunk × AnthropicStreamTranslator) :=
  match e.event.getD "type" .null with
  | .str "message_start" => onMessageStart w st e
  | .str "content_block_start" => onBlockStart st e
  | .str "content_block_delta" => onBlockDelta st e
  | .str "message_delta" => onMessageDelta w st e
  | _ => .ok (none, st)

/-- The chunks of a list of events, up to the first that raises, and what it raises. -/
def translateEvents : AnthropicStreamTranslator → List ReceivedEvent →
    List ChatCompletionChunk × Option ReadError
  | _, [] => ([], none)
  | st, e :: rest =>
    match translateEvent w st e with
    | .error error => ([], some error)
    | .ok (chunk, st) =>
      let later := translateEvents st rest
      (chunk.toList ++ later.1, later.2)

end AnthropicStreamTranslator

end ModelMeld
