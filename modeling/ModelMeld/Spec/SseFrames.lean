import ModelMeld.Spec.JsonText
import ModelMeld.Spec.Decoded
import ModelMeld.Spec.RouteStreams
import ModelMeld.Spec.Upstream

/-!
# Anthropic events as frames of a body

`format_anthropic_sse`, which writes an event as an `event:` line, a `data:` line
and a blank one, and the lines a body is read in. What reads them is
`parseAnthropicSse`.
-/

namespace ModelMeld

/-! ## The payload of an event: `model_dump(exclude_none=True)` -/

def AnthropicTextBlock.dump (b : AnthropicTextBlock) : JsonObj :=
  [("type", .str "text"), ("text", .str b.text)] ++
    (if b.cacheControl then [("cache_control", .obj [("type", .str "ephemeral")])] else []) ++
    dumpExtra b.extra

def AnthropicToolUseBlock.dump (b : AnthropicToolUseBlock) : JsonObj :=
  [("type", .str "tool_use"), ("id", .str b.id), ("name", .str b.name), ("input", .obj b.input)] ++
    (if b.cacheControl then [("cache_control", .obj [("type", .str "ephemeral")])] else []) ++
    dumpExtra b.extra

def AnthropicResponseContentBlock.dump : AnthropicResponseContentBlock → JsonObj
  | .text b => b.dump
  | .toolUse b => b.dump

def AnthropicUsage.dump (usage : AnthropicUsage) : JsonObj :=
  [("input_tokens", .int usage.inputTokens), ("output_tokens", .int usage.outputTokens)] ++
    field "cache_creation_input_tokens" (usage.cacheCreationInputTokens.map .int) ++
    field "cache_read_input_tokens" (usage.cacheReadInputTokens.map .int)

/-- `_MessageStartShell`. -/
def AnthropicMessagesResponse.dump (m : AnthropicMessagesResponse) : JsonObj :=
  [("id", .str m.id), ("type", .str "message"), ("role", .str "assistant"),
    ("content", .arr (m.content.map (fun b => .obj b.dump))), ("model", .str m.model)] ++
    field "stop_reason" (m.stopReason.map (fun r => .str r.name)) ++
    field "stop_sequence" (m.stopSequence.map .str) ++
    [("usage", .obj m.usage.dump)] ++ dumpExtra m.extra

namespace AnthropicStreamEvent

/-- `event.type`. -/
def type : AnthropicStreamEvent → String
  | messageStart _ => "message_start"
  | contentBlockStart _ _ => "content_block_start"
  | contentBlockDelta _ _ => "content_block_delta"
  | contentBlockStop _ => "content_block_stop"
  | messageDelta _ _ _ => "message_delta"
  | messageStop => "message_stop"
  | ping => "ping"

/-- What stands beside the type. -/
def fields : AnthropicStreamEvent → JsonObj
  | messageStart message => [("message", .obj message.dump)]
  | contentBlockStart index block => [("index", .int index), ("content_block", .obj block.wire)]
  | contentBlockDelta index delta => [("index", .int index), ("delta", .obj delta.wire)]
  | contentBlockStop index => [("index", .int index)]
  | messageDelta stopReason stopSequence outputTokens =>
    [("delta", .obj (field "stop_reason" (stopReason.map (fun r => .str r.name)) ++
        field "stop_sequence" (stopSequence.map .str))),
      ("usage", .obj [("output_tokens", .int outputTokens)])]
  | messageStop | ping => []

def dump (event : AnthropicStreamEvent) : JsonObj := ("type", .str event.type) :: event.fields

end AnthropicStreamEvent

/-- An event as it can be built: no dictionary in it has a key twice. -/
structure WireEvent where
  event : AnthropicStreamEvent
  unique : JsonObj.UniqueKeys event.dump

/-- `format_anthropic_sse`. -/
def formatAnthropicSse (F : FloatText) (event : AnthropicStreamEvent) : String :=
  "event: " ++ event.type ++ "\ndata: " ++ String.ofList (dumpsJson F (.obj event.dump)) ++ "\n\n"

/-! ## The lines of a body -/

/-- The characters `str.splitlines` ends a line at. -/
def isLineBreak (c : Char) : Bool :=
  let n := c.toNat
  (10 ≤ n && n ≤ 13) || (28 ≤ n && n ≤ 30) || n == 0x85 || n == 0x2028 || n == 0x2029

/-- The lines from where some of the first one has been read. -/
def linesFrom (read : List Char) : List Char → List (List Char)
  | [] => if read = [] then [] else [read]
  | '\r' :: '\n' :: cs => read :: linesFrom [] cs
  | c :: cs => if isLineBreak c then read :: linesFrom [] cs else linesFrom (read ++ [c]) cs

/-- `s.splitlines()`, and the lines of `response.aiter_lines()`. -/
def splitlines (s : String) : List String := (linesFrom [] s.toList).map String.ofList

/-- The events read from a body. -/
def receivedSse (F : FloatText) (body : String) : List JsonObj :=
  parseAnthropicSse (fun data => loadsJson F data.toList) none (splitlines body)

/-! ## Strings of a kind -/

namespace Json

mutual

/-- All strings of a value, keys included, have characters of a kind only. -/
def Within (P : Char → Prop) : Json → Prop
  | .str s => ∀ c ∈ s.toList, P c
  | .arr items => WithinItems P items
  | .obj fields => WithinFields P fields
  | _ => True

def WithinItems (P : Char → Prop) : List Json → Prop
  | [] => True
  | item :: items => Within P item ∧ WithinItems P items

def WithinFields (P : Char → Prop) : List (String × Json) → Prop
  | [] => True
  | (key, value) :: fields => (∀ c ∈ key.toList, P c) ∧ Within P value ∧ WithinFields P fields

end

end Json

/-- A character that ends a line, and that JSON leaves unescaped. -/
def isWideBreak (c : Char) : Bool :=
  let n := c.toNat
  n == 0x85 || n == 0x2028 || n == 0x2029

/-- No string of the payload has a character in it that ends a line unescaped. -/
def AnthropicStreamEvent.BreakFree (event : AnthropicStreamEvent) : Prop :=
  Json.Within (fun c => isWideBreak c = false) (.obj event.dump)

end ModelMeld
