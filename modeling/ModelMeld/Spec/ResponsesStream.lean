import ModelMeld.Spec.Chunks
import ModelMeld.Lib.Ranking

/-!
# The Responses stream

`ResponsesStreamTranslator`, the state machine that turns a stream of chunks
into the events of the Responses API. Events are numbered as they are made.
The identifiers drawn from `uuid4`, and the time of creation, are inputs.
-/

namespace ModelMeld

/-! ## Events -/

/-- The `status` of a message item. -/
inductive ItemStatus where
  | inProgress | completed
deriving DecidableEq, Inhabited

/-- An item of the output; the parts of a message are `output_text` parts. -/
inductive ResponseItem where
  | message (status : ItemStatus) (id : String) (content : List String)
  | functionCall (id callId name arguments : String)
deriving DecidableEq, Inhabited

/-- `_usage`. -/
structure ResponseUsage where
  inputTokens : ℤ
  outputTokens : ℤ
  totalTokens : ℤ
deriving DecidableEq, Inhabited

/-- `_response_obj`, without the fields that are constant. -/
structure ResponseObject where
  id : String
  createdAt : ℤ
  model : String
  status : ItemStatus
  output : List ResponseItem
  usage : Option ResponseUsage := none
deriving DecidableEq, Inhabited

/-- An event, without its number. The only content index is 0. -/
inductive ResponseEvent where
  | created (response : ResponseObject)
  | itemAdded (outputIndex : ℕ) (item : ResponseItem)
  | partAdded (itemId : String) (outputIndex : ℕ) (text : String)
  | textDelta (itemId : String) (outputIndex : ℕ) (delta : String)
  | textDone (itemId : String) (outputIndex : ℕ) (text : String)
  | partDone (itemId : String) (outputIndex : ℕ) (text : String)
  | argumentsDelta (itemId : String) (outputIndex : ℕ) (delta : String)
  | argumentsDone (itemId : String) (outputIndex : ℕ) (name arguments : String)
  | itemDone (outputIndex : ℕ) (item : ResponseItem)
  | completed (response : ResponseObject)
deriving DecidableEq, Inhabited

/-- An event with its `sequence_number`. -/
structure NumberedEvent where
  sequenceNumber : ℕ
  event : ResponseEvent
deriving DecidableEq, Inhabited

/-! ## The state -/

/-- Identifiers a translator makes up. -/
structure ResponseIds where
  response : String
  message : String
  /-- By output index. -/
  item : ℕ → String
  call : ℕ → String

/-- Identifiers as the translator forms them from what it draws. -/
def ResponseIds.drawn (response message : String) (item call : ℕ → String) : ResponseIds where
  response := "resp_" ++ response
  message := "msg_" ++ message
  item i := "fc_" ++ item i
  call i := "call_" ++ call i

/-- An entry of `_tools`; its `output_index` and `index` are the same number. -/
structure ToolEntry where
  index : ℕ
  itemId : String
  callId : String
  name : String
  args : List String := []
deriving DecidableEq, Inhabited

/-- `tool["name"] = fn.name`, when the delta has a name and the entry has none. -/
def ToolEntry.named (tool : ToolEntry) (delta : ToolCallDelta) : ToolEntry :=
  if delta.nameText ≠ "" ∧ tool.name = "" then { tool with name := delta.nameText } else tool

/-- The state of `ResponsesStreamTranslator`. -/
structure ResponsesStreamTranslator where
  model : String
  responseId : String
  createdAt : ℤ
  seq : ℕ := 0
  createdEmitted : Bool := false
  finished : Bool := false
  nextOutputIndex : ℕ := 0
  textOpen : Bool := false
  textIndex : ℕ := 0
  textItemId : String := ""
  textParts : List String := []
  /-- By OpenAI tool-call index. -/
  tools : List (ℤ × ToolEntry) := []
  inputTokens : ℤ := 0
  outputTokens : ℤ := 0
  sawUsage : Bool := false
  outputChars : ℕ := 0
deriving DecidableEq, Inhabited

namespace ResponsesStreamTranslator

/-- A translator for a new stream. -/
def create (ids : ResponseIds) (model : String) (now : ℤ) : ResponsesStreamTranslator where
  model := model
  responseId := ids.response
  createdAt := now

/-- `_next_seq` on each of some events. -/
def number (st : ResponsesStreamTranslator) (events : List ResponseEvent) :
    List NumberedEvent × ResponsesStreamTranslator :=
  (events.zipIdx.map (fun e => ⟨st.seq + e.2, e.1⟩), { st with seq := st.seq + events.length })

/-- `_response_obj`. -/
def responseObj (st : ResponsesStreamTranslator) (status : ItemStatus)
    (output : List ResponseItem) (usage : Option ResponseUsage) : ResponseObject where
  id := st.responseId
  createdAt := st.createdAt
  model := st.model
  status := status
  output := output
  usage := usage

/-- `_usage`. -/
def usage (st : ResponsesStreamTranslator) : ResponseUsage where
  inputTokens := st.inputTokens
  outputTokens := st.outputTokens
  totalTokens := st.inputTokens + st.outputTokens

/-- `_function_call_item`. -/
def functionCallItem (tool : ToolEntry) (arguments : String) : ResponseItem :=
  .functionCall tool.itemId tool.callId tool.name arguments

/-- `response.created`, once. -/
def emitCreated (st : ResponsesStreamTranslator) :
    List NumberedEvent × ResponsesStreamTranslator :=
  if st.createdEmitted then ([], st)
  else { st with createdEmitted := true }.number [.created (st.responseObj .inProgress [] none)]

/-- `_open_text`. -/
def openText (ids : ResponseIds) (st : ResponsesStreamTranslator) :
    List NumberedEvent × ResponsesStreamTranslator :=
  let i := st.nextOutputIndex
  { st with
    textOpen := true
    textIndex := i
    nextOutputIndex := i + 1
    textItemId := ids.message }.number
      [.itemAdded i (.message .inProgress ids.message []), .partAdded ids.message i ""]

/-- The text of a delta. -/
def handleText (ids : ResponseIds) (st : ResponsesStreamTranslator) (text : String) :
    List NumberedEvent × ResponsesStreamTranslator :=
  let opened := if st.textOpen then ([], st) else st.openText ids
  let st := opened.2
  let delta := { st with
    textParts := st.textParts ++ [text]
    outputChars := st.outputChars + text.length }.number
      [.textDelta st.textItemId st.textIndex text]
  (opened.1 ++ delta.1, delta.2)

/-- The entry a tool index begins with. -/
def freshEntry (ids : ResponseIds) (i : ℕ) (delta : ToolCallDelta) : ToolEntry where
  index := i
  itemId := ids.item i
  callId := if delta.idText = "" then ids.call i else delta.idText
  name := delta.nameText

/-- The first delta of a tool index adds an entry. -/
def openTool (ids : ResponseIds) (st : ResponsesStreamTranslator) (delta : ToolCallDelta) :
    List NumberedEvent × ResponsesStreamTranslator :=
  let i := st.nextOutputIndex
  let tool := freshEntry ids i delta
  { st with
    nextOutputIndex := i + 1
    tools := st.tools ++ [(delta.index, tool)] }.number [.itemAdded i (functionCallItem tool "")]

/-- `self._tools[idx]` replaced by what `f` makes of it. -/
def updateTool (k : ℤ) (f : ToolEntry → ToolEntry) (st : ResponsesStreamTranslator) :
    ResponsesStreamTranslator :=
  { st with tools := st.tools.map (fun p => if p.1 = k then (p.1, f p.2) else p) }

/-- The name and the arguments of a delta, on the entry of its index. -/
def addDelta (st : ResponsesStreamTranslator) (delta : ToolCallDelta) :
    List NumberedEvent × ResponsesStreamTranslator :=
  let st := st.updateTool delta.index (ToolEntry.named · delta)
  match st.tools.lookup delta.index with
  | none => ([], st)
  | some tool =>
    if delta.argumentText = "" then ([], st)
    else
      { st.updateTool delta.index
          (fun tool => { tool with args := tool.args ++ [delta.argumentText] }) with
        outputChars := st.outputChars + delta.argumentText.length }.number
          [.argumentsDelta tool.itemId tool.index delta.argumentText]

/-- `_handle_tool_delta`. -/
def handleToolDelta (ids : ResponseIds) (st : ResponsesStreamTranslator) (delta : ToolCallDelta) :
    List NumberedEvent × ResponsesStreamTranslator :=
  let opened := match st.tools.lookup delta.index with
    | some _ => ([], st)
    | none => st.openTool ids delta
  let added := opened.2.addDelta delta
  (opened.1 ++ added.1, added.2)

/-- The deltas of the tool calls, in order. -/
def handleToolDeltas (ids : ResponseIds) : ResponsesStreamTranslator → List ToolCallDelta →
    List NumberedEvent × ResponsesStreamTranslator
  | st, [] => ([], st)
  | st, delta :: rest =>
    let now := handleToolDelta ids st delta
    let later := handleToolDeltas ids now.2 rest
    (now.1 ++ later.1, later.2)

/-- The usage of a chunk. -/
def captureUsage (st : ResponsesStreamTranslator) (usage : Option Usage) :
    ResponsesStreamTranslator :=
  match usage with
  | none => st
  | some u =>
    { st with
      sawUsage := true
      outputTokens := u.completionTokens
      inputTokens := u.promptTokens }

/-- The first choice of a chunk. -/
def handleChoice (ids : ResponseIds) (st : ResponsesStreamTranslator) (choice : ChunkChoice) :
    List NumberedEvent × ResponsesStreamTranslator :=
  let text := match choice.delta.content with
    | none => ([], st)
    | some s => if s = "" then ([], st) else st.handleText ids s
  let tools := handleToolDeltas ids text.2 (choice.delta.toolCalls.getD [])
  (text.1 ++ tools.1, tools.2)

/-- `translate_chunk`. -/
def translateChunk (ids : ResponseIds) (st : ResponsesStreamTranslator)
    (chunk : ChatCompletionChunk) : List NumberedEvent × ResponsesStreamTranslator :=
  let created := st.emitCreated
  let rest := match chunk.choices with
    | [] => ([], created.2)
    | choice :: _ => created.2.handleChoice ids choice
  (created.1 ++ rest.1, rest.2.captureUsage chunk.usage)

/-! ## `finalize` -/

/-- The usage reported when the upstream reported none: the caller's estimate of the input, and
four characters to an output token. -/
def estimateUsage (st : ResponsesStreamTranslator) (inputTokens : ℤ) : ResponsesStreamTranslator :=
  if st.sawUsage then st
  else { st with
    inputTokens := inputTokens
    outputTokens := if st.outputChars = 0 then 0 else max 1 (st.outputChars / 4 : ℕ) }

/-- The message item as it is at the end. -/
def doneMessage (st : ResponsesStreamTranslator) : ResponseItem :=
  .message .completed st.textItemId [String.join st.textParts]

/-- The closing events of the text item, if it is open. -/
def textClosing (st : ResponsesStreamTranslator) : List ResponseEvent :=
  if st.textOpen then
    [.textDone st.textItemId st.textIndex (String.join st.textParts),
      .partDone st.textItemId st.textIndex (String.join st.textParts),
      .itemDone st.textIndex st.doneMessage]
  else []

/-- The closing events of a tool item. -/
def toolClosing (tool : ToolEntry) : List ResponseEvent :=
  [.argumentsDone tool.itemId tool.index tool.name (String.join tool.args),
    .itemDone tool.index (functionCallItem tool (String.join tool.args))]

/-- The tool entries, by output index. -/
def sortedTools (st : ResponsesStreamTranslator) : List ToolEntry :=
  Ranking.sortedBy ToolEntry.index (st.tools.map Prod.snd)

/-- `completed_items`: the items closed, with their output indices. -/
def completedItems (st : ResponsesStreamTranslator) : List (ℕ × ResponseItem) :=
  (if st.textOpen then [(st.textIndex, st.doneMessage)] else []) ++
    st.sortedTools.map (fun tool =>
      (tool.index, functionCallItem tool (String.join tool.args)))

/-- The output of the whole response, by output index. -/
def output (st : ResponsesStreamTranslator) : List ResponseItem :=
  (Ranking.sortedBy Prod.fst st.completedItems).map Prod.snd

/-- An empty text item, when there is no item. -/
def ensureItem (ids : ResponseIds) (st : ResponsesStreamTranslator) :
    List NumberedEvent × ResponsesStreamTranslator :=
  if !st.textOpen && st.tools.isEmpty then st.openText ids else ([], st)

/-- `finalize`. -/
def finalize (ids : ResponseIds) (st : ResponsesStreamTranslator) (inputTokens : ℤ) :
    List NumberedEvent × ResponsesStreamTranslator :=
  if st.finished then ([], st)
  else
    let created := ({ st with finished := true }.estimateUsage inputTokens).emitCreated
    let opened := created.2.ensureItem ids
    let st := opened.2
    let closing := st.number (st.textClosing ++ st.sortedTools.flatMap toolClosing ++
      [.completed (st.responseObj .completed st.output (some st.usage))])
    (created.1 ++ opened.1 ++ closing.1, closing.2)

/-- The events of a list of chunks, and the state after them. -/
def translateChunks (ids : ResponseIds) : ResponsesStreamTranslator → List ChatCompletionChunk →
    List NumberedEvent × ResponsesStreamTranslator
  | st, [] => ([], st)
  | st, chunk :: rest =>
    let now := st.translateChunk ids chunk
    let later := translateChunks ids now.2 rest
    (now.1 ++ later.1, later.2)

/-- `finalize` called once for each estimate of the input tokens. -/
def finalizeAll (ids : ResponseIds) : ResponsesStreamTranslator → List ℤ →
    List NumberedEvent × ResponsesStreamTranslator
  | st, [] => ([], st)
  | st, inputTokens :: rest =>
    let now := st.finalize ids inputTokens
    let later := finalizeAll ids now.2 rest
    (now.1 ++ later.1, later.2)

end ResponsesStreamTranslator

/-- The events of a stream of chunks: `translate_chunk` on each chunk in order, then `finalize`
once for each of some estimates. -/
def responseEvents (ids : ResponseIds) (model : String) (now : ℤ)
    (chunks : List ChatCompletionChunk) (estimates : List ℤ) : List NumberedEvent :=
  let out := ResponsesStreamTranslator.translateChunks ids (.create ids model now) chunks
  out.1 ++ (out.2.finalizeAll ids estimates).1

/-! ## What passes through a stream -/

namespace ResponseEvent

/-- The item an event is about. -/
def outputIndex : ResponseEvent → Option ℕ
  | .created _ | .completed _ => none
  | .itemAdded i _ | .itemDone i _ => some i
  | .partAdded _ i _ | .textDelta _ i _ | .textDone _ i _ | .partDone _ i _ => some i
  | .argumentsDelta _ i _ | .argumentsDone _ i _ _ => some i

/-- Neither the first nor the last event about an item. -/
def Inner : ResponseEvent → Prop
  | .itemAdded _ _ | .itemDone _ _ | .created _ | .completed _ => False
  | _ => True

end ResponseEvent

/-- The events about one item. -/
def eventsAt (i : ℕ) (es : List ResponseEvent) : List ResponseEvent :=
  es.filter (fun e => decide (e.outputIndex = some i))

/-- The indices of the items added, in order. -/
def itemsAdded (es : List ResponseEvent) : List ℕ :=
  es.filterMap (fun e => match e with
    | .itemAdded i _ => some i
    | _ => none)

/-- The indices of the function calls added, in order. -/
def callsAdded (es : List ResponseEvent) : List ℕ :=
  es.filterMap (fun e => match e with
    | .itemAdded i (.functionCall _ _ _ _) => some i
    | _ => none)

/-- The texts of the text deltas. -/
def outputTextDeltas (es : List ResponseEvent) : List String :=
  es.filterMap (fun e => match e with
    | .textDelta _ _ delta => some delta
    | _ => none)

/-- The texts of the events that say a text is done. -/
def doneTexts (es : List ResponseEvent) : List String :=
  es.flatMap (fun e => match e with
    | .textDone _ _ text | .partDone _ _ text => [text]
    | .itemDone _ (.message _ _ content) => content
    | _ => [])

/-- The pieces of arguments sent to one item. -/
def argumentDeltas (i : ℕ) (es : List ResponseEvent) : List String :=
  es.filterMap (fun e => match e with
    | .argumentsDelta _ j delta => if j = i then some delta else none
    | _ => none)

/-- The arguments of the events that say the arguments of an item are done. -/
def doneArguments (i : ℕ) (es : List ResponseEvent) : List String :=
  es.filterMap (fun e => match e with
    | .argumentsDone _ j _ arguments => if j = i then some arguments else none
    | .itemDone j (.functionCall _ _ _ arguments) => if j = i then some arguments else none
    | _ => none)

/-- The output of the completed response. -/
def completedOutput (es : List ResponseEvent) : List ResponseItem :=
  es.flatMap (fun e => match e with
    | .completed response => response.output
    | _ => [])

/-- The life of a response stream that says what some chunks say, with its final output. -/
structure ResponseLifecycle (chunks : List ChatCompletionChunk) (events : List NumberedEvent)
    (output : List ResponseItem) : Prop where
  numbered : events.map NumberedEvent.sequenceNumber = List.range events.length
  /-- `response.created` comes first and `response.completed` last, and neither in between. -/
  framed : ∃ first middle last,
    events.map NumberedEvent.event = .created first :: (middle ++ [.completed last]) ∧
    (∀ e ∈ middle, e.outputIndex.isSome) ∧ last.output = output
  nonempty : output ≠ []
  added : itemsAdded (events.map NumberedEvent.event) = List.range output.length
  within : ∀ e ∈ events.map NumberedEvent.event, ∀ i ∈ e.outputIndex, i < output.length
  /-- The events about an item begin with its addition and end with its completion. -/
  items : ∀ i item, output[i]? = some item → ∃ start inner,
    eventsAt i (events.map NumberedEvent.event) =
      .itemAdded i start :: (inner ++ [.itemDone i item]) ∧
    ∀ e ∈ inner, e.Inner
  text : String.join (outputTextDeltas (events.map NumberedEvent.event)) = Chunks.text chunks
  textDone : ∀ t ∈ doneTexts (events.map NumberedEvent.event), t = Chunks.text chunks
  arguments : List.Forall₂
    (fun k i =>
      String.join (argumentDeltas i (events.map NumberedEvent.event)) =
        Chunks.arguments k (Chunks.toolDeltas chunks) ∧
      doneArguments i (events.map NumberedEvent.event) =
        [Chunks.arguments k (Chunks.toolDeltas chunks),
          Chunks.arguments k (Chunks.toolDeltas chunks)])
    (Chunks.indices (Chunks.toolDeltas chunks))
    (callsAdded (events.map NumberedEvent.event))

end ModelMeld
