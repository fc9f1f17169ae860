import ModelMeld.Spec.Context
import ModelMeld.Spec.RegistryPayload

/-!
# Memory providers

What the two providers retrieve for a request and what the tiered one records of
an exchange. Mem0 is a library outside the gateway: a search on what it stores
answers with a value or raises.
-/

namespace ModelMeld

/-! ## The newest user message -/

/-- The text of a user message. -/
def Message.userText? : Message → Option String
  | .user m => some (match m.content with
    | .str s => s
    | .parts ps => join "" (ps.filterMap (fun part => match part with
      | .text part => some part.text
      | _ => none)))
  | _ => none

/-- The text of the most recent user message. -/
def newestUserText (request : ChatCompletionRequest) : Option String :=
  request.messages.reverse.findSome? Message.userText?

/-- `_last_user_text`. -/
def lastUserText (request : ChatCompletionRequest) : String := (newestUserText request).getD ""

/-! ## Mem0 -/

/-- The rows of a search result; `none` where iterating over it raises. -/
def memoryRows (result : PyValue) : Option (List PyValue) :=
  let rows := match result with
    | .obj d => (PyDict.get? d "results").getD (.arr [])
    | other => other
  if truthy rows then (iterate rows).toOption else some []

/-- The text of a row: `row.get("memory") or row.get("text")`, where it is anything, or the row
itself, where it is a text. -/
def memoryText (str : PyValue → String) (row : PyValue) : Option String :=
  match row with
  | .obj d =>
    let memory := (PyDict.get? d "memory").getD .null
    let text := if truthy memory then memory else (PyDict.get? d "text").getD .null
    if truthy text then
      some (match text with
        | .str s => s
        | other => str other)
    else none
  | .str s => some s
  | _ => none

/-- `_extract_memory_texts`. -/
def extractMemoryTexts (str : PyValue → String) (result : PyValue) : Option (List String) :=
  (memoryRows result).map (fun rows => rows.filterMap (memoryText str))

/-- Mem0 over what it stores, of a type `M`. -/
structure Mem0Engine (M : Type) where
  /-- `mem.search(query, filters={"run_id": session_id})` on the collection of the tenant; `none`
  where it raises, or the making of the tenant's instance does. -/
  search : M → String → String → String → Option PyValue
  /-- Nothing is stored. -/
  empty : M
  /-- `str(value)` of a value that is no text. -/
  str : PyValue → String
  /-- Nothing is found where nothing is stored. -/
  search_empty : ∀ tenantId sessionId query result,
    search empty tenantId sessionId query = some result → memoryRows result = some []

/-- The text of the synthetic summary. -/
def relevantMemories (texts : List String) : String :=
  "Relevant memories from this session:\n" ++ join "\n" (texts.map (fun m => "- " ++ m))

/-- `Mem0MemoryProvider.retrieve`; `none` where it raises. The mode of the identity is not read. -/
def Mem0Engine.retrieve {M : Type} (engine : Mem0Engine M) (memory : M) (identity : MemoryIdentity)
    (request : ChatCompletionRequest) : Option MemoryContext :=
  match identity.sessionId with
  | none => some {}
  | some sessionId =>
    let query := lastUserText request
    if query = "" then some {}
    else match engine.search memory identity.tenantId sessionId query with
      | none => some {}
      | some result => (extractMemoryTexts engine.str result).map (fun texts =>
          if texts = [] then {} else { summary := some (relevantMemories texts) })

/-! ## Providers -/

/-- The provider a gateway is configured with, over what is stored. -/
inductive MemoryProvider (M : Type) where
  /-- Over no store, or over one: its readings, unless they fail. -/
  | tiered (store : Option (Option StoreReadings))
  | mem0 (engine : Mem0Engine M) (memory : M)

namespace MemoryProvider

variable {M : Type}

/-- The provider over an empty memory. -/
def emptied : MemoryProvider M → MemoryProvider M
  | .tiered store => .tiered (store.map (fun _ => some { facts := [], summary := none }))
  | .mem0 engine _ => .mem0 engine engine.empty

/-- `retrieve`; `none` where it raises. -/
def retrieve (provider : MemoryProvider M) (identity : MemoryIdentity)
    (request : ChatCompletionRequest) : Option MemoryContext :=
  match provider with
  | .tiered none => some {}
  | .tiered (some readings) => some (assembleContext {} identity readings).injected
  | .mem0 engine memory => engine.retrieve memory identity request

end MemoryProvider

/-! ## Recording -/

/-- What the tiered provider appends of an exchange: the newest user turn, if there is one, and the
assistant's. `count` is `_count_tokens` at the model that was used. -/
def exchangeTurns (count : String → ℤ) (usedModel : String) (request : ChatCompletionRequest)
    (assistantText : String) (assistantTokens : ℤ) (userTurnId assistantTurnId : String) :
    List LoggedTurn :=
  ((newestUserText request).map (fun text => ({
    turnId := userTurnId, role := .user, content := text, tokenCount := count text,
    modelUsed := some usedModel } : LoggedTurn))).toList ++
  [{ turnId := assistantTurnId, role := .assistant, content := assistantText,
     tokenCount := assistantTokens, modelUsed := some usedModel }]

/-- `TieredMemoryProvider.record` on the memory of an active session. -/
def SessionMemory.record (m : SessionMemory) (turns : List LoggedTurn) : SessionMemory :=
  turns.foldl (fun m turn => (m.appendTurn turn).2) { m with created := true }

end ModelMeld
