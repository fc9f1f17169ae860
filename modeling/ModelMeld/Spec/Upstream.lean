import ModelMeld.Spec.AnthropicStream
import ModelMeld.Spec.MessageStream

/-!
# Messages as an Anthropic upstream sends them

A message of text and tool-use blocks as Anthropic streams it: the typed events,
the dicts that read as them, and whole streams, with events a client is to
ignore anywhere in between.
-/

namespace ModelMeld

/-! ## Stop reasons -/

/-- The name of a stop reason on the wire. -/
def AnthropicStopReason.name : AnthropicStopReason → String
  | .endTurn => "end_turn"
  | .maxTokens => "max_tokens"
  | .stopSequence => "stop_sequence"
  | .toolUse => "tool_use"
  | .refusal => "refusal"

/-! ## Messages -/

/-- What Anthropic opens a block with: an empty text, or a tool with an id and no input yet. -/
def ContentBlockShell.Plain : ContentBlockShell → Prop
  | .text s => s = ""
  | .toolUse id _ input => id ≠ "" ∧ input = []

/-- A message as it is streamed. -/
structure UpstreamMessage where
  id : String
  model : String
  /-- What `message_start` reports. -/
  usage : AnthropicUsage
  blocks : List StreamBlock
  stopReason : Option String
  /-- What `message_delta` reports. -/
  outputTokens : ℤ
  plain : ∀ b ∈ blocks, b.shell.Plain

/-- An event of such a stream. -/
inductive UpstreamEvent where
  | messageStart (id model : String) (usage : AnthropicUsage)
  | blockStart (index : ℕ) (shell : ContentBlockShell)
  | blockDelta (index : ℕ) (delta : ContentBlockDelta)
  | blockStop (index : ℕ)
  | messageDelta (stopReason : Option String) (outputTokens : ℤ)
  | messageStop

/-- The events of one block. -/
def StreamBlock.upstreamEvents (b : StreamBlock) (i : ℕ) : List UpstreamEvent :=
  .blockStart i b.shell :: (b.deltas.map (.blockDelta i) ++ [.blockStop i])

/-- The events of a list of blocks, numbered from `i`. -/
def upstreamBlockEvents : List StreamBlock → ℕ → List UpstreamEvent
  | [], _ => []
  | b :: bs, i => b.upstreamEvents i ++ upstreamBlockEvents bs (i + 1)

/-- The events of a message. -/
def UpstreamMessage.events (m : UpstreamMessage) : List UpstreamEvent :=
  .messageStart m.id m.model m.usage ::
    (upstreamBlockEvents m.blocks 0 ++ [.messageDelta m.stopReason m.outputTokens, .messageStop])

/-! ## On the wire -/

namespace Json

def ofOptStr : Option String → Json
  | none => null
  | some s => str s

def ofOptInt : Option ℤ → Json
  | none => null
  | some n => int n

end Json

/-- A dict that reads as an event, whatever other keys it has. -/
def Reads (d : JsonObj) : UpstreamEvent → Prop
  | .messageStart id model usage =>
    d.get? "type" = some (.str "message_start") ∧
    ∃ message counts : JsonObj, d.get? "message" = some (.obj message) ∧
      message.get? "id" = some (.str id) ∧ message.get? "model" = some (.str model) ∧
      message.get? "usage" = some (.obj counts) ∧
      counts.get? "input_tokens" = some (.int usage.inputTokens) ∧
      counts.getD "cache_creation_input_tokens" .null =
        .ofOptInt usage.cacheCreationInputTokens ∧
      counts.getD "cache_read_input_tokens" .null = .ofOptInt usage.cacheReadInputTokens
  | .blockStart i shell =>
    d.get? "type" = some (.str "content_block_start") ∧ d.get? "index" = some (.int i) ∧
    ∃ block : JsonObj, d.get? "content_block" = some (.obj block) ∧
      match shell with
      | .text s => block.get? "type" = some (.str "text") ∧ block.get? "text" = some (.str s)
      | .toolUse id name input =>
        block.get? "type" = some (.str "tool_use") ∧ block.get? "id" = some (.str id) ∧
        block.get? "name" = some (.str name) ∧ block.get? "input" = some (.obj input)
  | .blockDelta i delta =>
    d.get? "type" = some (.str "content_block_delta") ∧ d.get? "index" = some (.int i) ∧
    ∃ fields : JsonObj, d.get? "delta" = some (.obj fields) ∧
      match delta with
      | .textDelta s =>
        fields.get? "type" = some (.str "text_delta") ∧ fields.get? "text" = some (.str s)
      | .inputJsonDelta p =>
        fields.get? "type" = some (.str "input_json_delta") ∧
        fields.get? "partial_json" = some (.str p)
  | .blockStop i =>
    d.get? "type" = some (.str "content_block_stop") ∧ d.get? "index" = some (.int i)
  | .messageDelta stopReason outputTokens =>
    d.get? "type" = some (.str "message_delta") ∧
    ∃ delta counts : JsonObj, d.get? "delta" = some (.obj delta) ∧
      delta.getD "stop_reason" .null = .ofOptStr stopReason ∧
      d.get? "usage" = some (.obj counts) ∧
      counts.get? "output_tokens" = some (.int outputTokens)
  | .messageStop => d.get? "type" = some (.str "message_stop")

/-- A dict that is no event of a message and no error: a ping, or an event of a kind to come. -/
def Ignorable (d : JsonObj) : Prop :=
  ∀ name ∈ ["message_start", "content_block_start", "content_block_delta", "content_block_stop",
    "message_delta", "message_stop", "error"], d.getD "type" .null ≠ .str name

/-- Received dicts that read, one by one and but for those to ignore, as some events. -/
inductive Decodes : List ReceivedEvent → List UpstreamEvent → Prop where
  | nil : Decodes [] []
  | cons {e : ReceivedEvent} {u : UpstreamEvent} {es : List ReceivedEvent}
      {us : List UpstreamEvent} (h : Reads e.event u) (rest : Decodes es us) :
      Decodes (e :: es) (u :: us)
  | skip {e : ReceivedEvent} {es : List ReceivedEvent} {us : List UpstreamEvent}
      (h : Ignorable e.event) (rest : Decodes es us) : Decodes (e :: es) us

/-! ## The plainest dicts -/

def ContentBlockShell.wire : ContentBlockShell → JsonObj
  | .text s => [("type", .str "text"), ("text", .str s)]
  | .toolUse id name input =>
    [("type", .str "tool_use"), ("id", .str id), ("name", .str name), ("input", .obj input)]

def ContentBlockDelta.wire : ContentBlockDelta → JsonObj
  | .textDelta s => [("type", .str "text_delta"), ("text", .str s)]
  | .inputJsonDelta p => [("type", .str "input_json_delta"), ("partial_json", .str p)]

def AnthropicUsage.wire (usage : AnthropicUsage) : JsonObj :=
  [("input_tokens", .int usage.inputTokens),
    ("cache_creation_input_tokens", .ofOptInt usage.cacheCreationInputTokens),
    ("cache_read_input_tokens", .ofOptInt usage.cacheReadInputTokens),
    ("output_tokens", .int usage.outputTokens)]

/-- An event with no key but those it is read by. -/
def UpstreamEvent.wire : UpstreamEvent → JsonObj
  | .messageStart id model usage =>
    [("type", .str "message_start"),
      ("message", .obj [("id", .str id), ("model", .str model), ("usage", .obj usage.wire)])]
  | .blockStart i shell =>
    [("type", .str "content_block_start"), ("index", .int i), ("content_block", .obj shell.wire)]
  | .blockDelta i delta =>
    [("type", .str "content_block_delta"), ("index", .int i), ("delta", .obj delta.wire)]
  | .blockStop i => [("type", .str "content_block_stop"), ("index", .int i)]
  | .messageDelta stopReason outputTokens =>
    [("type", .str "message_delta"), ("delta", .obj [("stop_reason", .ofOptStr stopReason)]),
      ("usage", .obj [("output_tokens", .int outputTokens)])]
  | .messageStop => [("type", .str "message_stop")]

/-- The events of a message, all received at one time. -/
def UpstreamMessage.received (m : UpstreamMessage) (now : ℤ) (freshId : String) :
    List ReceivedEvent :=
  m.events.map (fun u => { event := u.wire, now := now, freshId := freshId })

end ModelMeld
