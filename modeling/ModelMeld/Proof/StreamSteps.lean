import ModelMeld.Spec.Chunks
import ModelMeld.Spec.MessageStream
import ModelMeld.Lib.Transducer

/-!
# The stream translator, one delta at a time

`translateChunks_eq_run`: `translate_chunk` over a list of chunks is a run of
small steps, one for each usage, chunk start, delta and finish reason. Every
invariant of the translator is proved for one small step.
-/

namespace ModelMeld

/-- What the translator reads of a chunk, piece by piece. -/
inductive ChunkStep where
  | usage (u : Usage)
  | start (chunkId : String)
  | item (item : DeltaItem)
  | finish (f : FinishReason)

/-- The pieces of a chunk, in the order in which they are read. -/
def ChatCompletionChunk.steps (chunk : ChatCompletionChunk) : List ChunkStep :=
  chunk.usage.toList.map .usage ++
    .start chunk.id :: (chunk.items.map .item ++ (Chunks.finishOf chunk).toList.map .finish)

namespace ChunkStep

@[simp] def item? : ChunkStep → Option DeltaItem
  | .item x => some x
  | .usage _ | .start _ | .finish _ => none

@[simp] def usage? : ChunkStep → Option Usage
  | .usage u => some u
  | .start _ | .item _ | .finish _ => none

@[simp] def finish? : ChunkStep → Option FinishReason
  | .finish f => some f
  | .usage _ | .start _ | .item _ => none

/-- The items among some steps. -/
def items (steps : List ChunkStep) : List DeltaItem := steps.filterMap item?

def usages (steps : List ChunkStep) : List Usage := steps.filterMap usage?

def finishes (steps : List ChunkStep) : List FinishReason := steps.filterMap finish?

section Snoc

variable (steps : List ChunkStep) (x : ChunkStep)

@[simp] theorem items_snoc : items (steps ++ [x]) = items steps ++ x.item?.toList := by
  unfold items
  cases x <;> simp [List.filterMap_append, List.filterMap_cons]

@[simp] theorem usages_snoc : usages (steps ++ [x]) = usages steps ++ x.usage?.toList := by
  unfold usages
  cases x <;> simp [List.filterMap_append, List.filterMap_cons]

@[simp] theorem finishes_snoc : finishes (steps ++ [x]) = finishes steps ++ x.finish?.toList := by
  unfold finishes
  cases x <;> simp [List.filterMap_append, List.filterMap_cons]

end Snoc

end ChunkStep

section Pieces

variable (chunks : List ChatCompletionChunk)

theorem items_of_steps :
    ChunkStep.items (chunks.flatMap ChatCompletionChunk.steps) =
      chunks.flatMap ChatCompletionChunk.items := by
  unfold ChunkStep.items
  induction chunks with
  | nil => rfl
  | cons chunk chunks ih =>
    have hnow : chunk.steps.filterMap ChunkStep.item? = chunk.items := by
      unfold ChatCompletionChunk.steps
      cases chunk.usage <;> cases Chunks.finishOf chunk <;>
        simp [List.filterMap_append, List.filterMap_cons, List.filterMap_map, Function.comp_def]
    rw [List.flatMap_cons, List.filterMap_append, hnow, ih, List.flatMap_cons]

theorem usages_of_steps :
    ChunkStep.usages (chunks.flatMap ChatCompletionChunk.steps) =
      chunks.filterMap ChatCompletionChunk.usage := by
  unfold ChunkStep.usages
  induction chunks with
  | nil => rfl
  | cons chunk chunks ih =>
    have hnow : chunk.steps.filterMap ChunkStep.usage? = chunk.usage.toList := by
      unfold ChatCompletionChunk.steps
      cases chunk.usage <;> cases Chunks.finishOf chunk <;>
        simp [List.filterMap_append, List.filterMap_cons, List.filterMap_map, Function.comp_def]
    rw [List.flatMap_cons, List.filterMap_append, hnow, ih, List.filterMap_cons]
    cases chunk.usage <;> rfl

theorem finishes_of_steps :
    ChunkStep.finishes (chunks.flatMap ChatCompletionChunk.steps) =
      chunks.filterMap Chunks.finishOf := by
  unfold ChunkStep.finishes
  induction chunks with
  | nil => rfl
  | cons chunk chunks ih =>
    have hnow : chunk.steps.filterMap ChunkStep.finish? = (Chunks.finishOf chunk).toList := by
      unfold ChatCompletionChunk.steps
      cases chunk.usage <;> cases Chunks.finishOf chunk <;>
        simp [List.filterMap_append, List.filterMap_cons, List.filterMap_map, Function.comp_def]
    rw [List.flatMap_cons, List.filterMap_append, hnow, ih, List.filterMap_cons]
    cases Chunks.finishOf chunk <;> rfl

end Pieces

namespace StreamTranslator

/-- The id a tool block is opened with: the delta's, or one made up when it has none. -/
def toolId (ids : FreshIds) (i : ℕ) (delta : ToolCallDelta) : String :=
  if delta.idText = "" then ids.tool i else delta.idText

/-- The state with a block open for a new tool index. -/
def openTool (st : StreamTranslator) (k : ℤ) : StreamTranslator :=
  { st.openBlock .toolUse with toolBlocks := st.toolBlocks ++ [(k, st.nextBlockIndex)] }

section ToolCallDelta

variable (ids : FreshIds) {st : StreamTranslator} {delta : ToolCallDelta}

/-- A delta of an index that has a block adds to that block. -/
theorem emitToolCallDelta_old {i : ℕ} (h : st.toolBlocks.lookup delta.index = some i) :
    emitToolCallDelta ids st delta = (argumentsDelta i delta, st) := by
  unfold emitToolCallDelta
  rw [h]

/-- A delta of a new index opens a block. -/
theorem emitToolCallDelta_new (h : st.toolBlocks.lookup delta.index = none) :
    emitToolCallDelta ids st delta =
      (st.closeCurrent ++
        [.contentBlockStart st.nextBlockIndex
          (.toolUse (toolId ids st.nextBlockIndex delta) delta.nameText [])] ++
        argumentsDelta st.nextBlockIndex delta, st.openTool delta.index) := by
  unfold emitToolCallDelta toolId ToolCallDelta.idText ToolCallDelta.nameText
  rw [h]
  cases delta.id with
  | none => rfl
  | some id => rfl

/-- The arguments of a delta are one event, unless they are empty. -/
theorem argumentsDelta_eq (i : ℕ) (delta : ToolCallDelta) :
    argumentsDelta i delta =
      if delta.argumentText = "" then []
      else [.contentBlockDelta i (.inputJsonDelta delta.argumentText)] := by
  unfold argumentsDelta ToolCallDelta.argumentText
  cases delta.function.bind FunctionCallDelta.arguments with
  | none => rfl
  | some s => rfl

end ToolCallDelta

/-- The events `finalize` emits: a late `message_start`, the end of the open block, an empty block
when there was none, and the closing pair. -/
theorem finalize_eq (ids : FreshIds) (st : StreamTranslator) :
    (st.finalize ids).1 =
      (if st.messageStarted then [] else [{ st with messageId := ids.message }.makeMessageStart]) ++
        st.closeCurrent ++
        (if st.anyBlockOpened then [] else
          [.contentBlockStart 0 (.text ""), .contentBlockStop 0]) ++
        [.messageDelta (some (stopReasonOf st.finishReason)) none st.finalOutputTokens,
          .messageStop] := by
  unfold finalize
  by_cases h : st.messageStarted
  · simp only [h, if_true]
  · simp only [h]
    rfl

/-- One small step of the translator. -/
def step (ids : FreshIds) (st : StreamTranslator) :
    ChunkStep → List AnthropicStreamEvent × StreamTranslator
  | .usage u => ([], st.captureUsage (some u))
  | .start chunkId => startMessage ids st chunkId
  | .item (.text s) => st.emitTextDelta s
  | .item (.tool delta) => emitToolCallDelta ids st delta
  | .finish f => ([], { st with finishReason := some f })

variable {ids : FreshIds}

theorem emitToolCallDeltas_eq_run : ∀ (deltas : List ToolCallDelta) (st : StreamTranslator),
    emitToolCallDeltas ids st deltas =
      Transducer.run (step ids) st ((deltas.map DeltaItem.tool).map .item) := by
  intro deltas
  induction deltas with
  | nil => intro st; rfl
  | cons delta rest ih =>
    intro st
    unfold emitToolCallDeltas
    simp only [ih, List.map_cons, Transducer.run_cons]
    rfl

theorem emitChoice_eq_run (st : StreamTranslator) (choice : ChunkChoice) :
    emitChoice ids st choice = Transducer.run (step ids) st
      (choice.delta.items.map .item ++ choice.finishReason.toList.map .finish) := by
  have hfinish : ∀ st : StreamTranslator, Transducer.run (step ids) st
      (choice.finishReason.toList.map .finish) =
        ([], { st with finishReason := choice.finishReason.or st.finishReason }) := by
    intro st
    cases choice.finishReason <;> rfl
  unfold emitChoice ChoiceDelta.items ChoiceDelta.textItems
  simp only [emitToolCallDeltas_eq_run, List.map_append, Transducer.run_append, hfinish]
  cases choice.delta.content with
  | none => cases choice.finishReason <;> simp
  | some s =>
    by_cases hs : s = ""
    · cases choice.finishReason <;> simp [hs]
    · cases choice.finishReason <;> simp [hs, Transducer.run_singleton, step]

theorem translateChunk_eq_run (st : StreamTranslator) (chunk : ChatCompletionChunk) :
    translateChunk ids st chunk = Transducer.run (step ids) st chunk.steps := by
  have husage : ∀ st : StreamTranslator, ([], st.captureUsage chunk.usage) =
      Transducer.run (step ids) st (chunk.usage.toList.map .usage) := by
    intro st
    cases chunk.usage <;> rfl
  unfold ChatCompletionChunk.steps
  rw [Transducer.run_append, ← husage, Transducer.run_cons]
  simp only [List.nil_append]
  unfold translateChunk ChatCompletionChunk.items Chunks.finishOf
  cases chunk.choices with
  | nil => simp [step]
  | cons choice rest =>
    simp only [emitChoice_eq_run]
    rfl

/-- **A stream of chunks is translated by small steps.** -/
theorem translateChunks_eq_run (st : StreamTranslator) (chunks : List ChatCompletionChunk) :
    translateChunks ids st chunks =
      Transducer.run (step ids) st (chunks.flatMap ChatCompletionChunk.steps) := by
  have hrun := Transducer.run_unique (translateChunk ids) (f := translateChunks ids)
    (fun _ => rfl) (fun _ _ _ => rfl)
  rw [hrun, Transducer.run_expand translateChunk_eq_run]

end StreamTranslator

/-! ## A stream for the examples -/

/-- A chunk with one delta. -/
def sampleChunk (delta : ChoiceDelta) : ChatCompletionChunk :=
  { id := "chatcmpl-1", created := 0, model := "m", choices := [{ index := 0, delta := delta }] }

/-- A piece of the arguments of a call. -/
def sampleDelta (fragment : String) : ToolCallDelta :=
  { index := 0, id := some "call_1", function := some ⟨some "ls", some fragment⟩ }

/-- Text, then a call whose arguments come in three pieces. -/
def sampleChunks : List ChatCompletionChunk :=
  [sampleChunk { content := some "Hi" },
    sampleChunk { toolCalls := some [sampleDelta "", sampleDelta "\x7b"] },
    sampleChunk { toolCalls := some [sampleDelta "\x7d"] }]

end ModelMeld
