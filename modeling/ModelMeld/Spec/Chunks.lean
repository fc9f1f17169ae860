import ModelMeld.Spec.Schemas
import ModelMeld.Lib.Grouping

/-!
# What a stream of chunks says

What chat-completion chunks say together, whatever is made of them: the text,
the tool calls by tool index in order of first appearance, the finish reason
and the usage. As for every reader in the gateway, only the first choice of a
chunk counts.
-/

namespace ModelMeld

/-- A delta of the first choice that carries something: text that is not empty, or a part of a
tool call. -/
inductive DeltaItem where
  | text (s : String)
  | tool (delta : ToolCallDelta)
deriving DecidableEq

namespace ToolCallDelta

/-- `delta.function.arguments`; empty when it is absent. -/
def argumentText (delta : ToolCallDelta) : String :=
  (delta.function.bind FunctionCallDelta.arguments).getD ""

/-- `delta.function.name`; empty when it is absent. -/
def nameText (delta : ToolCallDelta) : String :=
  (delta.function.bind FunctionCallDelta.name).getD ""

/-- `delta.id`; empty when it is absent. -/
def idText (delta : ToolCallDelta) : String := delta.id.getD ""

end ToolCallDelta

/-- The text of a delta as an item, when it is not empty. -/
def ChoiceDelta.textItems (delta : ChoiceDelta) : List DeltaItem :=
  match delta.content with
  | none => []
  | some s => if s = "" then [] else [.text s]

/-- The items of a delta: the text is read before the tool calls. -/
def ChoiceDelta.items (delta : ChoiceDelta) : List DeltaItem :=
  delta.textItems ++ (delta.toolCalls.getD []).map .tool

/-- The items of the first choice of a chunk. -/
def ChatCompletionChunk.items (chunk : ChatCompletionChunk) : List DeltaItem :=
  match chunk.choices with
  | [] => []
  | choice :: _ => choice.delta.items

/-- The deltas of each tool index follow one another: no text and no delta of another index comes
between two of them. -/
def ContiguousTools (items : List DeltaItem) : Prop :=
  ∀ before between after first second,
    items = before ++ .tool first :: (between ++ .tool second :: after) →
    first.index = second.index →
    ∀ item ∈ between, ∃ delta, item = .tool delta ∧ delta.index = first.index

namespace Chunks

/-- `choices[0].delta.content`, empty when it is absent. -/
def content (chunk : ChatCompletionChunk) : String :=
  match chunk.choices with
  | [] => ""
  | choice :: _ => choice.delta.content.getD ""

/-- The text of a stream. -/
def text (chunks : List ChatCompletionChunk) : String := String.join (chunks.map content)

/-- The tool-call deltas among some items. -/
def toolsOf (items : List DeltaItem) : List ToolCallDelta :=
  items.filterMap (fun item => match item with
    | .tool delta => some delta
    | .text _ => none)

/-- The tool-call deltas of a stream, in order. -/
def toolDeltas (chunks : List ChatCompletionChunk) : List ToolCallDelta :=
  toolsOf (chunks.flatMap ChatCompletionChunk.items)

/-- The tool indices of some deltas, in order of first appearance. -/
def indices (deltas : List ToolCallDelta) : List ℤ := Grouping.keys ToolCallDelta.index deltas

/-- The deltas of one tool index. -/
def deltasAt (k : ℤ) (deltas : List ToolCallDelta) : List ToolCallDelta :=
  Grouping.group ToolCallDelta.index k deltas

/-- The argument fragments of a tool index, together. -/
def arguments (k : ℤ) (deltas : List ToolCallDelta) : String :=
  String.join ((deltasAt k deltas).map ToolCallDelta.argumentText)

/-- The first text that is not empty; empty when there is none. -/
def firstGiven : List String → String
  | [] => ""
  | s :: rest => if s = "" then firstGiven rest else s

/-- The id upstream supplies for a tool index, on whichever delta; empty when it supplies none. -/
def suppliedId (k : ℤ) (deltas : List ToolCallDelta) : String :=
  firstGiven ((deltasAt k deltas).map ToolCallDelta.idText)

/-- The first name of a tool index that is not empty. -/
def suppliedName (k : ℤ) (deltas : List ToolCallDelta) : String :=
  firstGiven ((deltasAt k deltas).map ToolCallDelta.nameText)

/-- The id on the first delta of a tool index. -/
def firstId (k : ℤ) (deltas : List ToolCallDelta) : String :=
  ((deltasAt k deltas).map ToolCallDelta.idText).headD ""

/-- The name on the first delta of a tool index. -/
def firstName (k : ℤ) (deltas : List ToolCallDelta) : String :=
  ((deltasAt k deltas).map ToolCallDelta.nameText).headD ""

/-- The first delta of each tool index carries the name if any delta of it does, and the id if any
delta of it does. -/
def HeadersFirst (deltas : List ToolCallDelta) : Prop :=
  ∀ k ∈ indices deltas,
    (suppliedName k deltas ≠ "" → firstName k deltas ≠ "") ∧
    (suppliedId k deltas ≠ "" → firstId k deltas ≠ "")

/-- The first choice's finish reason. -/
def finishOf (chunk : ChatCompletionChunk) : Option FinishReason :=
  match chunk.choices with
  | [] => none
  | choice :: _ => choice.finishReason

/-- The finish reason of the last chunk that carries one. -/
def finishReason (chunks : List ChatCompletionChunk) : Option FinishReason :=
  (chunks.filterMap finishOf).getLast?

/-- The usage of the last chunk that carries one. -/
def usage (chunks : List ChatCompletionChunk) : Option Usage :=
  (chunks.filterMap ChatCompletionChunk.usage).getLast?

end Chunks

end ModelMeld
