import ModelMeld.Proof.StreamSteps
import ModelMeld.Spec.ResponsesStream
import ModelMeld.Lib.OrderedDict

/-!
# The Responses translator, one delta at a time

`translateChunks_eq_run`: `translate_chunk` over a list of chunks is a run of
small steps. Each step numbers some events on a state it has changed; what the
events and the change are is said once here, for each kind of step.
-/

namespace ModelMeld

/-- The pieces of a chunk, in the order in which the Responses translator reads them. -/
def ChatCompletionChunk.responseSteps (chunk : ChatCompletionChunk) : List ChunkStep :=
  .start chunk.id :: (chunk.items.map .item ++ chunk.usage.toList.map .usage)

theorem items_of_responseSteps (chunks : List ChatCompletionChunk) :
    ChunkStep.items (chunks.flatMap ChatCompletionChunk.responseSteps) =
      chunks.flatMap ChatCompletionChunk.items := by
  unfold ChunkStep.items
  induction chunks with
  | nil => rfl
  | cons chunk chunks ih =>
    have hnow : chunk.responseSteps.filterMap ChunkStep.item? = chunk.items := by
      unfold ChatCompletionChunk.responseSteps
      cases chunk.usage <;>
        simp [List.filterMap_append, List.filterMap_cons, List.filterMap_map, Function.comp_def]
    rw [List.flatMap_cons, List.filterMap_append, hnow, ih, List.flatMap_cons]

namespace ResponsesStreamTranslator

/-! ## Numbering -/

section Number

variable (st : ResponsesStreamTranslator) (es fs : List ResponseEvent)

@[simp] theorem number_nil : st.number [] = ([], st) := rfl

@[simp] theorem number_events : (st.number es).1.map NumberedEvent.event = es := by
  simp [number, List.map_map, Function.comp_def]

@[simp] theorem number_state : (st.number es).2 = { st with seq := st.seq + es.length } := rfl

/-- Numbering goes on where it stopped. -/
theorem number_append :
    st.number (es ++ fs) =
      ((st.number es).1 ++ ((st.number es).2.number fs).1, ((st.number es).2.number fs).2) := by
  unfold number
  rw [List.zipIdx_append, List.map_append, List.length_append]
  refine Prod.ext ?_ ?_
  · -- the positions of the second list start behind the first
    have hshift : fs.zipIdx (0 + es.length) =
        fs.zipIdx.map (fun e => (e.1, es.length + e.2)) := by
      rw [Nat.zero_add]
      exact List.zipIdx_eq_map_add
    rw [hshift, List.map_map]
    simp [Function.comp_def, Nat.add_assoc]
  · simp [Nat.add_assoc]

theorem numbers_number {out : List NumberedEvent}
    (h : out.map NumberedEvent.sequenceNumber = List.range st.seq) :
    (out ++ (st.number es).1).map NumberedEvent.sequenceNumber =
      List.range (st.number es).2.seq := by
  rw [List.map_append, h, number_state, List.range_add]
  congr 1
  have hindices : List.range es.length = es.zipIdx.map Prod.snd := by
    rw [List.zipIdx_map_snd, List.range_eq_range']
  rw [hindices, List.map_map]
  unfold number
  rw [List.map_map]
  rfl

end Number

/-! ## The steps -/

/-- One small step of the translator. -/
def step (ids : ResponseIds) (st : ResponsesStreamTranslator) :
    ChunkStep → List NumberedEvent × ResponsesStreamTranslator
  | .start _ => st.emitCreated
  | .item (.text s) => st.handleText ids s
  | .item (.tool delta) => handleToolDelta ids st delta
  | .usage u => ([], st.captureUsage (some u))
  | .finish _ => ([], st)

variable {ids : ResponseIds}

theorem handleToolDeltas_eq_run : ∀ (deltas : List ToolCallDelta) (st : ResponsesStreamTranslator),
    handleToolDeltas ids st deltas =
      Transducer.run (step ids) st ((deltas.map DeltaItem.tool).map .item) := by
  intro deltas
  induction deltas with
  | nil => intro st; rfl
  | cons delta rest ih =>
    intro st
    unfold handleToolDeltas
    simp only [ih, List.map_cons, Transducer.run_cons]
    rfl

theorem handleChoice_eq_run (st : ResponsesStreamTranslator) (choice : ChunkChoice) :
    handleChoice ids st choice =
      Transducer.run (step ids) st (choice.delta.items.map .item) := by
  unfold handleChoice ChoiceDelta.items ChoiceDelta.textItems
  simp only [handleToolDeltas_eq_run, List.map_append, Transducer.run_append]
  cases choice.delta.content with
  | none => rfl
  | some s =>
    by_cases hs : s = ""
    · simp [hs]
    · simp [hs, Transducer.run_singleton, step]

theorem translateChunk_eq_run (st : ResponsesStreamTranslator) (chunk : ChatCompletionChunk) :
    translateChunk ids st chunk = Transducer.run (step ids) st chunk.responseSteps := by
  have husage : ∀ st : ResponsesStreamTranslator, Transducer.run (step ids) st
      (chunk.usage.toList.map .usage) = ([], st.captureUsage chunk.usage) := by
    intro st
    cases chunk.usage <;> rfl
  unfold ChatCompletionChunk.responseSteps translateChunk ChatCompletionChunk.items
  rw [Transducer.run_cons, Transducer.run_append, husage]
  cases chunk.choices with
  | nil => simp [step]
  | cons choice rest => simp [step, handleChoice_eq_run]

/-- **A stream of chunks is translated by small steps.** -/
theorem translateChunks_eq_run (st : ResponsesStreamTranslator)
    (chunks : List ChatCompletionChunk) :
    translateChunks ids st chunks =
      Transducer.run (step ids) st (chunks.flatMap ChatCompletionChunk.responseSteps) := by
  have hrun := Transducer.run_unique (translateChunk ids) (f := translateChunks ids)
    (fun _ => rfl) (fun _ _ _ => rfl)
  rw [hrun, Transducer.run_expand translateChunk_eq_run]

/-! ## What each step emits -/

section Specs

variable {st : ResponsesStreamTranslator} {s : String} {delta : ToolCallDelta}

theorem emitCreated_done (h : st.createdEmitted = true) : st.emitCreated = ([], st) := by
  unfold emitCreated
  rw [if_pos h]

/-- Text goes on in the item that is open. -/
theorem handleText_open (h : st.textOpen = true) :
    st.handleText ids s =
      { st with
        textParts := st.textParts ++ [s]
        outputChars := st.outputChars + s.length }.number
          [.textDelta st.textItemId st.textIndex s] := by
  unfold handleText
  simp only [h, if_true, List.nil_append]

/-- The first text opens an item. -/
theorem handleText_new (h : st.textOpen = false) :
    st.handleText ids s =
      { st with
        textOpen := true
        textIndex := st.nextOutputIndex
        nextOutputIndex := st.nextOutputIndex + 1
        textItemId := ids.message
        textParts := st.textParts ++ [s]
        outputChars := st.outputChars + s.length }.number
          [.itemAdded st.nextOutputIndex (.message .inProgress ids.message []),
            .partAdded ids.message st.nextOutputIndex "",
            .textDelta ids.message st.nextOutputIndex s] := by
  unfold handleText
  simp only [h]
  rfl

/-- The entry of a tool index after one of its deltas. -/
def touch (delta : ToolCallDelta) (tool : ToolEntry) : ToolEntry :=
  { tool.named delta with
    args := if delta.argumentText = "" then tool.args else tool.args ++ [delta.argumentText] }

theorem named_kept (delta : ToolCallDelta) (tool : ToolEntry) :
    (tool.named delta).index = tool.index ∧ (tool.named delta).itemId = tool.itemId ∧
    (tool.named delta).callId = tool.callId ∧ (tool.named delta).args = tool.args := by
  unfold ToolEntry.named
  split <;> exact ⟨rfl, rfl, rfl, rfl⟩

/-- An entry keeps the first name it has. -/
theorem named_name (tool : ToolEntry) :
    (tool.named delta).name = if tool.name = "" then delta.nameText else tool.name := by
  unfold ToolEntry.named
  by_cases h : tool.name = "" <;> by_cases hn : delta.nameText = "" <;> simp [h, hn]

@[simp] theorem touch_index (tool : ToolEntry) : (touch delta tool).index = tool.index :=
  (named_kept delta tool).1

@[simp] theorem touch_callId (tool : ToolEntry) : (touch delta tool).callId = tool.callId :=
  (named_kept delta tool).2.2.1

theorem touch_name (tool : ToolEntry) :
    (touch delta tool).name = if tool.name = "" then delta.nameText else tool.name :=
  named_name tool

theorem touch_args (tool : ToolEntry) :
    String.join (touch delta tool).args = String.join tool.args ++ delta.argumentText := by
  unfold touch
  by_cases h : delta.argumentText = "" <;> simp [h]

/-- The event of a delta's arguments, when there are any. -/
def argumentEvents (tool : ToolEntry) (delta : ToolCallDelta) : List ResponseEvent :=
  if delta.argumentText = "" then []
  else [.argumentsDelta tool.itemId tool.index delta.argumentText]

theorem lookup_updateTool {tool : ToolEntry} (f : ToolEntry → ToolEntry) {k : ℤ}
    (h : st.tools.lookup k = some tool) : (st.updateTool k f).tools.lookup k = some (f tool) := by
  change (st.tools.map (fun p => if p.1 = k then (p.1, f p.2) else p)).lookup k = some (f tool)
  generalize st.tools = tools at h
  induction tools with
  | nil => simp at h
  | cons p rest ih =>
    obtain ⟨k', tool'⟩ := p
    rw [List.lookup_cons] at h
    by_cases hk : k = k'
    · subst hk
      simp only [beq_self_eq_true] at h
      obtain rfl := Option.some.inj h
      simp
    · have hne : (k == k') = false := by simpa using hk
      simp only [hne] at h
      rw [List.map_cons, if_neg (Ne.symm hk), List.lookup_cons]
      simp only [hne]
      exact ih h

theorem updateTool_updateTool (f g : ToolEntry → ToolEntry) (k : ℤ) :
    (st.updateTool k f).updateTool k g = st.updateTool k (g ∘ f) := by
  unfold updateTool
  simp only [List.map_map]
  congr 1
  refine List.map_congr_left ?_
  intro p _
  by_cases hk : p.1 = k <;> simp [hk]

/-- An entry that comes last is the only one of its index. -/
theorem updateTool_last (f : ToolEntry → ToolEntry) {k : ℤ} {tools : List (ℤ × ToolEntry)}
    {tool : ToolEntry} (h : st.tools = tools ++ [(k, tool)]) (hk : tools.lookup k = none) :
    st.updateTool k f = { st with tools := tools ++ [(k, f tool)] } := by
  have hkept : tools.map (fun p => if p.1 = k then (p.1, f p.2) else p) = tools := by
    refine (List.map_congr_left ?_).trans (List.map_id tools)
    intro p hp
    have hne : p.1 ≠ k := by
      rintro rfl
      exact OrderedDict.not_mem_keys_of_lookup hk (List.mem_map_of_mem hp)
    simp [hne]
  unfold updateTool
  rw [h, List.map_append, hkept]
  simp

/-- A delta touches the entry of its index. -/
theorem addDelta_eq {tool : ToolEntry} (h : st.tools.lookup delta.index = some tool) :
    st.addDelta delta =
      { st.updateTool delta.index (touch delta) with
        outputChars := st.outputChars + delta.argumentText.length }.number
          (argumentEvents tool delta) := by
  have hnamed := lookup_updateTool (ToolEntry.named · delta) h
  obtain ⟨hindex, hitem, -, -⟩ := named_kept delta tool
  unfold addDelta argumentEvents
  simp only [hnamed]
  by_cases hempty : delta.argumentText = ""
  · -- without arguments, touching an entry is naming it
    have htouch : touch delta = (ToolEntry.named · delta) := by
      funext tool
      obtain ⟨-, -, -, hargs⟩ := named_kept delta tool
      unfold touch
      rw [if_pos hempty, ← hargs]
    simp [hempty, htouch, updateTool]
  · have htouch : (fun tool : ToolEntry => { tool with args := tool.args ++ [delta.argumentText] }) ∘
        (ToolEntry.named · delta) = touch delta := by
      funext tool
      obtain ⟨-, -, -, hargs⟩ := named_kept delta tool
      unfold touch
      rw [if_neg hempty, ← hargs]
      rfl
    simp only [hempty, if_false, updateTool_updateTool, htouch, hindex, hitem]
    rfl

/-- A delta of an index that has an entry touches it. -/
theorem handleToolDelta_old {tool : ToolEntry} (h : st.tools.lookup delta.index = some tool) :
    handleToolDelta ids st delta =
      { st.updateTool delta.index (touch delta) with
        outputChars := st.outputChars + delta.argumentText.length }.number
          (argumentEvents tool delta) := by
  unfold handleToolDelta
  simp only [h, addDelta_eq h, List.nil_append]

/-- A delta of a new index adds an entry. -/
theorem handleToolDelta_new (h : st.tools.lookup delta.index = none) :
    handleToolDelta ids st delta =
      { st with
        nextOutputIndex := st.nextOutputIndex + 1
        tools := st.tools ++
          [(delta.index, touch delta (freshEntry ids st.nextOutputIndex delta))]
        outputChars := st.outputChars + delta.argumentText.length }.number
          (.itemAdded st.nextOutputIndex
              (functionCallItem (freshEntry ids st.nextOutputIndex delta) "") ::
            argumentEvents (freshEntry ids st.nextOutputIndex delta) delta) := by
  have hlookup : (st.openTool ids delta).2.tools.lookup delta.index =
      some (freshEntry ids st.nextOutputIndex delta) := by
    change (st.tools ++ [(delta.index, freshEntry ids st.nextOutputIndex delta)]).lookup _ = _
    rw [List.lookup_append, h]
    simp
  have htools : (st.openTool ids delta).2.tools =
      st.tools ++ [(delta.index, freshEntry ids st.nextOutputIndex delta)] := rfl
  -- the entry just added is the one that the delta touches
  have hlast := updateTool_last (touch delta) htools h
  unfold handleToolDelta
  simp only [h, addDelta_eq hlookup, hlast]
  let last : ResponsesStreamTranslator :=
    { st with
      nextOutputIndex := st.nextOutputIndex + 1
      tools := st.tools ++ [(delta.index, touch delta (freshEntry ids st.nextOutputIndex delta))]
      outputChars := st.outputChars + delta.argumentText.length }
  exact (number_append last [.itemAdded st.nextOutputIndex
    (functionCallItem (freshEntry ids st.nextOutputIndex delta) "")] _).symm

end Specs

end ResponsesStreamTranslator

end ModelMeld
