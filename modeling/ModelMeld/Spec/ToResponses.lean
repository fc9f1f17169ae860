import ModelMeld.Spec.FromResponses
import ModelMeld.Spec.ResponsesStream

/-!
# From the internal response to the Responses API

`to_responses_response`, what a client of `/v1/responses` sends back of an output it was given, and
the completion that says what a stream of chunks says. The identifiers drawn from `uuid4`, and the
time of creation, are inputs.
-/

namespace ModelMeld

/-! ## The whole response -/

/-- The items of the tool calls, the first of which has the given output index. -/
def functionCallItems (ids : ResponseIds) : ℕ → List ToolCall → List ResponseItem
  | _, [] => []
  | i, tc :: rest =>
    .functionCall (ids.item i) tc.id tc.function.name tc.function.arguments ::
      functionCallItems ids (i + 1) rest

/-- The message item of a content that is not empty. -/
def messageItems (ids : ResponseIds) (content : Option String) : List ResponseItem :=
  match content with
  | none => []
  | some s => if s = "" then [] else [.message .completed ids.message [s]]

/-- The output: the text, then the tool calls; an empty message when there is neither. -/
def responseOutput (ids : ResponseIds) (choices : List Choice) : List ResponseItem :=
  let output := match choices with
    | [] => []
    | choice :: _ =>
      let text := messageItems ids choice.message.content
      text ++ functionCallItems ids text.length (choice.message.toolCalls.getD [])
  if output = [] then [.message .completed ids.message [""]] else output

/-- `to_responses_response`. -/
def toResponsesResponse (ids : ResponseIds) (now : ℤ) (completion : ChatCompletion)
    (model : String) : ResponseObject where
  id := if completion.id = "" then ids.response else completion.id
  createdAt := now
  model := model
  status := .completed
  output := responseOutput ids completion.choices
  usage := some
    { inputTokens := (completion.usage.map Usage.promptTokens).getD 0
      outputTokens := (completion.usage.map Usage.completionTokens).getD 0
      totalTokens := (completion.usage.map Usage.totalTokens).getD 0 }

/-! ## Chunks and completions -/

/-- The tool calls of a stream: for each tool index, in order of first appearance, the id and the
name the upstream supplies on whichever delta, and the argument fragments together. -/
def Chunks.toolCalls (chunks : List ChatCompletionChunk) : List ToolCall :=
  (Chunks.indices (Chunks.toolDeltas chunks)).map (fun k =>
    { id := Chunks.suppliedId k (Chunks.toolDeltas chunks)
      function :=
        { name := Chunks.suppliedName k (Chunks.toolDeltas chunks)
          arguments := Chunks.arguments k (Chunks.toolDeltas chunks) } })

/-- A completion says, with its first choice, what a stream of chunks says. -/
structure Whole (chunks : List ChatCompletionChunk) (completion : ChatCompletion)
    (choice : Choice) : Prop where
  first : completion.choices.head? = some choice
  text : choice.message.content.getD "" = Chunks.text chunks
  calls : choice.message.toolCalls.getD [] = Chunks.toolCalls chunks
  finish : choice.finishReason = Chunks.finishReason chunks
  usage : completion.usage = Chunks.usage chunks

/-! ## What a client sends back -/

/-- An output item in the input of the next request. -/
def ResponseItem.replayed : ResponseItem → ResponsesInputItem
  | .message _ _ content =>
    { type := some "message"
      role := some "assistant"
      content := some (.parts (content.map (fun text =>
        { type := "output_text", text := some text }))) }
  | .functionCall _ callId name arguments =>
    { type := some "function_call"
      callId := some callId
      name := some name
      arguments := some arguments }

/-- One round of a conversation: the choices of the completion it is answered with, the output
items the client is given, and the items it adds for the next round. -/
structure Round where
  choices : List Choice
  output : List ResponseItem
  added : List ResponsesInputItem

/-- The input after some rounds, of a client that sends the whole conversation each time. -/
def sentBack (opening : List ResponsesInputItem) (rounds : List Round) :
    List ResponsesInputItem :=
  opening ++ rounds.flatMap (fun round => round.output.map ResponseItem.replayed ++ round.added)

/-- An assistant message with text. -/
def saidText (text : String) : Message := .assistant { content := some (.str text) }

/-- An assistant message with one call. -/
def saidCall (tc : ToolCall) : Message :=
  .assistant { content := none, toolCalls := some [tc] }

/-- What the model is told it has answered: its text, then each of its calls. -/
def answerMessages (choices : List Choice) : List Message :=
  let messages := match choices with
    | [] => []
    | choice :: _ =>
      (if choice.message.content.getD "" = "" then []
        else [saidText (choice.message.content.getD "")]) ++
      (choice.message.toolCalls.getD []).map saidCall
  if messages = [] then [saidText ""] else messages

end ModelMeld
