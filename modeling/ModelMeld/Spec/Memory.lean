import ModelMeld.Spec.Schemas

/-!
# Memory injection

The context a memory provider retrieves for a request, and
`inject_into_request`, which puts it before the client's messages.
-/

namespace ModelMeld

inductive Role where
  | user | assistant | system | tool
deriving DecidableEq, Inhabited

/-- A persistent fact, by the fields that are rendered. -/
structure Fact where
  key : String
  value : String
deriving DecidableEq

/-- An earlier turn, by the fields that are replayed. -/
structure Turn where
  role : Role
  content : String
deriving DecidableEq

structure MemoryContext where
  facts : List Fact := []
  /-- The text of the session summary. -/
  summary : Option String := none
  recentTurns : List Turn := []
deriving DecidableEq, Inhabited

namespace MemoryContext

def hasContent (ctx : MemoryContext) : Bool :=
  !ctx.facts.isEmpty || ctx.summary.isSome || !ctx.recentTurns.isEmpty

/-- `render_system_message`. -/
def renderSystemMessage (ctx : MemoryContext) : String :=
  let facts := if ctx.facts = [] then [] else
    [join "\n" ("## Persistent facts" :: ctx.facts.map (fun f => "- " ++ f.key ++ ": " ++ f.value))]
  let summary := match ctx.summary with
    | none => []
    | some text => if strip text = "" then [] else ["## Conversation summary\n" ++ strip text]
  if facts ++ summary = [] then ""
  else "[Context restored by ModelMeld gateway]\n\n" ++ join "\n\n" (facts ++ summary)

/-- A turn as a replayed message; system and tool turns are not replayed. -/
def replay (turn : Turn) : Option Message :=
  match turn.role with
  | .user => some (.user { content := .str turn.content })
  | .assistant => some (.assistant { content := some (.str turn.content) })
  | .system | .tool => none

end MemoryContext

/-- `inject_into_request`. -/
def injectIntoRequest (request : ChatCompletionRequest) (ctx : MemoryContext) :
    ChatCompletionRequest :=
  if ctx.hasContent then
    let text := ctx.renderSystemMessage
    request.withMessages
      ((if text = "" then [] else [.system { content := .str text }]) ++
        ctx.recentTurns.filterMap MemoryContext.replay ++ request.messages)
  else request

end ModelMeld
