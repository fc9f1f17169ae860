import ModelMeld.Spec.Cache
import ModelMeld.Spec.Python

/-!
# The Codex passthrough

What `CodexPassthroughAdapter` tells the Codex backend of a conversation. The
backend speaks the Responses API, so the messages become an `input` array of role
and content, and the system messages one string of `instructions`.
-/

namespace ModelMeld

namespace Message

/-- What a system message adds to the instructions. -/
def systemParts : Message → List String
  | .system m => match m.content with
    | .str s => [s]
    | .parts ps => (ps.map TextPart.text).filter (· ≠ "")
  | _ => []

/-- The item of a message that is not a system message. -/
def responsesItem : Message → Option JsonObj
  | .system _ => none
  | .user m => some [("role", .str "user"), ("content", m.content.dump ContentPart.dump)]
  | .assistant m => some (("role", .str "assistant") ::
      field "content" (m.content.map (fun c => c.dump TextPart.dump)))
  | .tool m => some [("role", .str "tool"), ("content", m.content.dump TextPart.dump)]

end Message

/-- `_messages_to_responses_input`: the input and the instructions. -/
def messagesToResponsesInput (request : ChatCompletionRequest) : List JsonObj × Option String :=
  let systemParts := request.messages.flatMap Message.systemParts
  (request.messages.filterMap Message.responsesItem,
    if systemParts = [] then none else some (join "\n" systemParts))

end ModelMeld
