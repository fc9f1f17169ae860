import ModelMeld.Spec.Upstream
import ModelMeld.Spec.Chunks

/-!
# Whole Anthropic messages

A message of text and tool-use blocks as Anthropic returns it in one piece, the
streams that carry the same message, and what an OpenAI client reads of either:
the assistant's text, its tool calls with their arguments parsed, and the finish
reason.
-/

namespace ModelMeld

/-! ## Messages in one piece -/

/-- A content block of a message. -/
inductive MessageBlock where
  | text (s : String)
  | toolUse (id name : String) (input : JsonObj)

namespace MessageBlock

def text? : MessageBlock → Option String
  | .text s => some s
  | .toolUse _ _ _ => none

def input? : MessageBlock → Option JsonObj
  | .text _ => none
  | .toolUse _ _ input => some input

end MessageBlock

/-- A message as it is returned when it is not streamed. -/
structure WholeMessage where
  id : String
  model : String
  blocks : List MessageBlock
  stopReason : Option String
  usage : AnthropicUsage

namespace WholeMessage

/-- The texts of the text blocks. -/
def texts (m : WholeMessage) : List String := m.blocks.filterMap MessageBlock.text?

/-- The inputs of the tool blocks. -/
def inputs (m : WholeMessage) : List JsonObj := m.blocks.filterMap MessageBlock.input?

end WholeMessage

/-- A dict that reads as a block, whatever other keys it has. -/
def ReadsBlock (v : Json) : MessageBlock → Prop
  | .text s =>
    ∃ block : JsonObj, v = .obj block ∧ block.get? "type" = some (.str "text") ∧
      block.get? "text" = some (.str s)
  | .toolUse id name input =>
    ∃ block : JsonObj, v = .obj block ∧ block.get? "type" = some (.str "tool_use") ∧
      block.get? "id" = some (.str id) ∧ block.get? "name" = some (.str name) ∧
      block.get? "input" = some (.obj input)

/-- A dict that reads as a message. -/
structure ReadsMessage (d : JsonObj) (m : WholeMessage) : Prop where
  id : d.get? "id" = some (.str m.id)
  model : d.get? "model" = some (.str m.model)
  content : ∃ items, d.get? "content" = some (.arr items) ∧
    List.Forall₂ ReadsBlock items m.blocks
  stopReason : d.getD "stop_reason" .null = .ofOptStr m.stopReason
  usage : ∃ counts : JsonObj, d.get? "usage" = some (.obj counts) ∧
    counts.get? "input_tokens" = some (.int m.usage.inputTokens) ∧
    counts.get? "output_tokens" = some (.int m.usage.outputTokens) ∧
    counts.getD "cache_creation_input_tokens" .null =
      .ofOptInt m.usage.cacheCreationInputTokens ∧
    counts.getD "cache_read_input_tokens" .null = .ofOptInt m.usage.cacheReadInputTokens

def MessageBlock.wire : MessageBlock → Json
  | .text s => .obj [("type", .str "text"), ("text", .str s)]
  | .toolUse id name input =>
    .obj [("type", .str "tool_use"), ("id", .str id), ("name", .str name), ("input", .obj input)]

/-- A message with no key but those it is read by. -/
def WholeMessage.wire (m : WholeMessage) : JsonObj :=
  [("id", .str m.id), ("model", .str m.model), ("content", .arr (m.blocks.map MessageBlock.wire)),
    ("stop_reason", .ofOptStr m.stopReason), ("usage", .obj m.usage.wire)]

/-! ## The same message, streamed -/

/-- Arguments as a client parses them: the empty text is the empty dict. -/
def readArguments (loads : String → Option Json) (s : String) : Option Json :=
  if s = "" then some (.obj []) else loads s

section Streamed

variable (loads : String → Option Json)

/-- A streamed block that carries a block of a message, however it is cut into deltas. -/
def MessageBlock.StreamedAs (b : StreamBlock) : MessageBlock → Prop
  | .text s => b.content = .text s
  | .toolUse id name input =>
    ∃ p, b.content = .toolUse id name p ∧ readArguments loads p = some (.obj input)

/-- A stream that carries a message. -/
structure WholeMessage.StreamedAs (m : WholeMessage) (u : UpstreamMessage) : Prop where
  id : u.id = m.id
  model : u.model = m.model
  blocks : List.Forall₂ (MessageBlock.StreamedAs loads) u.blocks m.blocks
  stopReason : u.stopReason = m.stopReason
  inputTokens : u.usage.inputTokens = m.usage.inputTokens
  cacheWrite : u.usage.cacheCreationInputTokens = m.usage.cacheCreationInputTokens
  cacheRead : u.usage.cacheReadInputTokens = m.usage.cacheReadInputTokens
  outputTokens : u.outputTokens = m.usage.outputTokens

/-! ## What an OpenAI client reads -/

/-- A tool call, its arguments parsed. -/
structure ParsedCall where
  id : String
  name : String
  arguments : Option Json
deriving DecidableEq

/-- What the assistant says in a turn. -/
structure AssistantTurn where
  text : String
  calls : List ParsedCall
  finish : Option FinishReason
deriving DecidableEq

def ToolCall.parsed (call : ToolCall) : ParsedCall where
  id := call.id
  name := call.function.name
  arguments := readArguments loads call.function.arguments

/-- The turn of a completion: its first choice. -/
def ChatCompletion.turn (completion : ChatCompletion) : AssistantTurn :=
  match completion.choices with
  | [] => { text := "", calls := [], finish := none }
  | choice :: _ =>
    { text := choice.message.content.getD ""
      calls := (choice.message.toolCalls.getD []).map (ToolCall.parsed loads)
      finish := choice.finishReason }

/-- The turn that a stream of chunks adds up to. -/
def Chunks.turn (chunks : List ChatCompletionChunk) : AssistantTurn where
  text := text chunks
  calls := (indices (toolDeltas chunks)).map (fun k =>
    { id := suppliedId k (toolDeltas chunks)
      name := suppliedName k (toolDeltas chunks)
      arguments := readArguments loads (arguments k (toolDeltas chunks)) })
  finish := finishReason chunks

end Streamed

end ModelMeld
