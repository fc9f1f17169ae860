import ModelMeld.Lib.OrderedDict
import ModelMeld.Spec.NativeParams
import ModelMeld.Spec.SseFrames

/-!
# The native parameters as a dictionary

`_hoist_system_messages` on the dictionary it is given, whatever its entries are,
and the entries it reads of the dictionary of a native body.
-/

namespace ModelMeld

/-! ## Reading entries -/

namespace Json

/-- `b.get("text", "")` of the text blocks of a list; joining what is no text raises. -/
def blockTexts : List Json → Except ReadError (List String)
  | [] => .ok []
  | .obj b :: rest =>
    if JsonObj.getD b "type" .null = .str "text" then do
      let text ← (JsonObj.getD b "text" (.str "")).asJoined
      return text :: (← blockTexts rest)
    else blockTexts rest
  | _ :: rest => blockTexts rest

/-- `_block_text`. -/
def blockText : Json → Except ReadError String
  | .str s => .ok s
  | .arr blocks => do return join "\n" (← blockTexts blocks)
  | _ => .ok ""

end Json

/-- `isinstance(m, dict) and m.get("role") == "system"`. -/
def isSystemEntry : Json → Bool
  | .obj m => decide (JsonObj.getD m "role" .null = .str "system")
  | _ => false

/-- `_block_text(m.get("content"))`. -/
def entryText : Json → Except ReadError String
  | .obj m => (JsonObj.getD m "content" .null).blockText
  | _ => .ok ""

/-! ## Hoisting -/

/-- The loop over the messages: what is hoisted, and what is kept. -/
def hoistLoop : List Json → Except ReadError (List String × List Json)
  | [] => .ok ([], [])
  | m :: rest =>
    if isSystemEntry m then do
      let text ← entryText m
      let (hoisted, kept) ← hoistLoop rest
      return (if text = "" then hoisted else text :: hoisted, kept)
    else do
      let (hoisted, kept) ← hoistLoop rest
      return (hoisted, m :: kept)

/-- `{"type": "text", "text": t}`. -/
def hoistedBlock (t : String) : Json := .obj [("type", .str "text"), ("text", .str t)]

/-- The new value of `system`; `none` leaves the entry as it is. -/
def hoistedSystem (existing : Json) (hoisted : List String) : Option Json :=
  match existing with
  | .null => some (.str (join "\n\n" hoisted))
  | .str existing => some (.str (join "\n\n" (existing :: hoisted)))
  | .arr existing => some (.arr (existing ++ hoisted.map hoistedBlock))
  | _ => none

/-- `_hoist_system_messages`. -/
def hoistSystemEntries (params : OrderedDict String Json) :
    Except ReadError (OrderedDict String Json) :=
  match params.get? "messages" with
  | some (.arr msgs) => do
    let (hoisted, kept) ← hoistLoop msgs
    if hoisted = [] then return params
    else
      let params := params.insert "messages" (.arr kept)
      match hoistedSystem (params.getD "system" .null) hoisted with
      | some system => return params.insert "system" system
      | none => return params
  | _ => .ok params

/-! ## The dictionary of a native body: `model_dump(exclude_none=True)` -/

/-- A cache breakpoint, when there is one. -/
def cacheControlField (present : HasCacheControl) : JsonObj :=
  if present then [("cache_control", .obj [("type", .str "ephemeral")])] else []

def AnthropicImageSource.dump : AnthropicImageSource → Json
  | .base64 mediaType data => .obj [("type", .str "base64"), ("media_type", .str mediaType),
      ("data", .str data)]
  | .url u => .obj [("type", .str "url"), ("url", .str u)]

def AnthropicImageBlock.dump (b : AnthropicImageBlock) : JsonObj :=
  [("type", .str "image"), ("source", b.source.dump)] ++ cacheControlField b.cacheControl ++
    dumpExtra b.extra

def AnthropicToolResultBlock.dump (b : AnthropicToolResultBlock) : JsonObj :=
  [("type", .str "tool_result"), ("tool_use_id", .str b.toolUseId),
    ("content", b.content.dump (fun block => .obj block.dump))] ++
    field "is_error" (b.isError.map .bool) ++ cacheControlField b.cacheControl ++
    dumpExtra b.extra

def AnthropicRequestContentBlock.dump : AnthropicRequestContentBlock → Json
  | .text b => .obj b.dump
  | .image b => .obj b.dump
  | .toolUse b => .obj b.dump
  | .toolResult b => .obj b.dump

def AnthropicRole.value : AnthropicRole → String
  | .user => "user"
  | .assistant => "assistant"
  | .system => "system"

def AnthropicMessage.dump (m : AnthropicMessage) : Json :=
  .obj ([("role", .str m.role.value),
    ("content", m.content.dump AnthropicRequestContentBlock.dump)] ++ dumpExtra m.extra)

/-- The entries of the parameters that hoisting reads and writes. -/
def NativeParams.hoistedEntries (params : NativeParams) : OrderedDict String Json :=
  .ofPairs (("messages", .arr (params.messages.map AnthropicMessage.dump)) ::
    field "system" (params.system.map (Content.dump (fun block => .obj block.dump))))

end ModelMeld
