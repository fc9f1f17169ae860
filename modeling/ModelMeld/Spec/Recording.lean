import ModelMeld.Spec.Outcomes
import ModelMeld.Spec.Providers

/-!
# Writing an exchange back

What the routes hand to the memory provider when an upstream has answered, for a
completion and for a stream that was read to its end.
-/

namespace ModelMeld

/-- `_extract_completion_text`. -/
def extractCompletionText (completion : ChatCompletion) : String :=
  join "" (completion.choices.filterMap (fun choice => choice.message.content))

/-- `_chunk_text_pieces`. -/
def chunkTextPieces (chunk : ChatCompletionChunk) : List String :=
  (chunk.choices.filterMap (fun choice => choice.delta.content)).filter (fun text => text ≠ "")

/-- `TokenCounter.count_text`, of a text for a model. -/
abbrev TokenCounter := String → String → ℤ

/-- `_count_tokens`. -/
def countTokens (counter : Option TokenCounter) (text model : String) : ℤ :=
  match counter with
  | some count => count text model
  | none => if text = "" then 0 else max 1 (text.length / 4 : ℕ)

/-- The arguments of a provider's `record`. -/
structure Exchange where
  request : ChatCompletionRequest
  assistantText : String
  assistantTokens : ℤ
  modelUsed : String

/-- `_write_memory_turns`. -/
def writeMemoryTurns (counter : Option TokenCounter) (request : ChatCompletionRequest)
    (completion : ChatCompletion) (decision : RoutingDecision) : Exchange :=
  let modelUsed := servedModel decision request
  let assistantText := extractCompletionText completion
  let reported := (completion.usage.map Usage.completionTokens).getD 0
  { request := request
    assistantText := assistantText
    assistantTokens := if reported = 0 then countTokens counter assistantText modelUsed else reported
    modelUsed := modelUsed }

/-- `_write_memory_turns_streaming`, after the last chunk. -/
def writeMemoryTurnsStreaming (counter : Option TokenCounter) (request : ChatCompletionRequest)
    (stream : ChunkStream) (decision : RoutingDecision) : Exchange :=
  let modelUsed := servedModel decision request
  let assistantText := join "" (stream.chunks.flatMap chunkTextPieces)
  let estimate := (stream.chunks.map chunkContentTokens).sum
  { request := request
    assistantText := assistantText
    assistantTokens := match counter with
      | some count => if assistantText = "" then estimate else count assistantText modelUsed
      | none => estimate
    modelUsed := modelUsed }

/-- The turns of an exchange, under the ids they get. -/
def Exchange.turns (counter : Option TokenCounter) (x : Exchange)
    (userTurnId assistantTurnId : String) : List LoggedTurn :=
  exchangeTurns (fun text => countTokens counter text x.modelUsed) x.modelUsed x.request
    x.assistantText x.assistantTokens userTurnId assistantTurnId

/-- A session of a tenant, on which every request of a conversation is active. -/
structure ActiveSession where
  tenantId : String
  sessionId : String
  userId : Option String := none

/-- The identity of a request of the session. -/
def ActiveSession.identity (session : ActiveSession) (mode : MemoryMode) : MemoryIdentity where
  tenantId := session.tenantId
  sessionId := some session.sessionId
  userId := session.userId
  mode := mode

end ModelMeld
