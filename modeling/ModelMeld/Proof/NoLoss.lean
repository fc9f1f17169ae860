import ModelMeld.Proof.StreamSteps
import ModelMeld.Lib.OrderedDict

/-!
# Nothing is lost in the Anthropic stream

`nothing_lost`: the text deltas are the text of the chunks; each tool index has
its own block, opened in order of first appearance, which is sent exactly its
arguments; the closing event reports the last finish reason and usage.
-/

namespace ModelMeld

/-! ## What the measures read -/

section Measures

variable (es fs : List AnthropicStreamEvent) (i j : ℕ) (delta : ToolCallDelta)

@[simp] theorem textDeltas_append : textDeltas (es ++ fs) = textDeltas es ++ textDeltas fs :=
  List.filterMap_append

@[simp] theorem inputDeltas_append :
    inputDeltas i (es ++ fs) = inputDeltas i es ++ inputDeltas i fs :=
  List.filterMap_append

@[simp] theorem toolStarts_append : toolStarts (es ++ fs) = toolStarts es ++ toolStarts fs :=
  List.filterMap_append

@[simp] theorem messageDeltas_append :
    messageDeltas (es ++ fs) = messageDeltas es ++ messageDeltas fs :=
  List.filterMap_append

/-- Events that carry no content and open no tool block. -/
structure Silent (es : List AnthropicStreamEvent) : Prop where
  texts : textDeltas es = []
  inputs : ∀ i, inputDeltas i es = []
  starts : toolStarts es = []
  closing : messageDeltas es = []

namespace Silent

variable {es fs}

theorem append (h : Silent es) (h' : Silent fs) : Silent (es ++ fs) where
  texts := by rw [textDeltas_append, h.texts, h'.texts, List.nil_append]
  inputs k := by rw [inputDeltas_append, h.inputs, h'.inputs, List.nil_append]
  starts := by rw [toolStarts_append, h.starts, h'.starts, List.nil_append]
  closing := by rw [messageDeltas_append, h.closing, h'.closing, List.nil_append]

theorem nil : Silent [] := ⟨rfl, fun _ => rfl, rfl, rfl⟩

theorem messageStart (message : AnthropicMessagesResponse) : Silent [.messageStart message] :=
  ⟨rfl, fun _ => rfl, rfl, rfl⟩

theorem textStart : Silent [.contentBlockStart i (.text "")] := ⟨rfl, fun _ => rfl, rfl, rfl⟩

theorem stop : Silent [.contentBlockStop i] := ⟨rfl, fun _ => rfl, rfl, rfl⟩

theorem closeCurrent (st : StreamTranslator) : Silent st.closeCurrent := by
  unfold StreamTranslator.closeCurrent
  cases st.currentBlock with
  | none => exact nil
  | some b => exact stop b.1

end Silent

open StreamTranslator

@[simp] theorem textDeltas_argumentsDelta : textDeltas (argumentsDelta i delta) = [] := by
  rw [argumentsDelta_eq]
  split <;> rfl

@[simp] theorem toolStarts_argumentsDelta : toolStarts (argumentsDelta i delta) = [] := by
  rw [argumentsDelta_eq]
  split <;> rfl

@[simp] theorem messageDeltas_argumentsDelta : messageDeltas (argumentsDelta i delta) = [] := by
  rw [argumentsDelta_eq]
  split <;> rfl

theorem inputDeltas_argumentsDelta_self :
    String.join (inputDeltas i (argumentsDelta i delta)) = delta.argumentText := by
  rw [argumentsDelta_eq]
  split
  next h => rw [h]; rfl
  next h => simp [inputDeltas]

theorem inputDeltas_argumentsDelta_other {i j : ℕ} (h : i ≠ j) :
    inputDeltas j (argumentsDelta i delta) = [] := by
  rw [argumentsDelta_eq]
  split
  · rfl
  · simp [inputDeltas, h]

end Measures

/-! ## The pieces read so far -/

namespace Chunks

/-- The text among some items. -/
def textOf (items : List DeltaItem) : String :=
  String.join (items.filterMap (fun item => match item with
    | .text s => some s
    | .tool _ => none))

variable (items : List DeltaItem) (deltas : List ToolCallDelta) (delta : ToolCallDelta) (s : String)

theorem textOf_snoc_text : textOf (items ++ [.text s]) = textOf items ++ s := by
  simp [textOf]

theorem textOf_snoc_tool : textOf (items ++ [.tool delta]) = textOf items := by
  simp [textOf]

theorem toolsOf_snoc_text : toolsOf (items ++ [.text s]) = toolsOf items := by
  simp [toolsOf]

theorem toolsOf_snoc_tool : toolsOf (items ++ [.tool delta]) = toolsOf items ++ [delta] := by
  simp [toolsOf]

theorem arguments_snoc_self :
    arguments delta.index (deltas ++ [delta]) =
      arguments delta.index deltas ++ delta.argumentText := by
  unfold arguments deltasAt
  rw [Grouping.group_snoc_self, List.map_append, String.join_append]
  simp

theorem arguments_snoc_other {k : ℤ} (h : k ≠ delta.index) :
    arguments k (deltas ++ [delta]) = arguments k deltas := by
  unfold arguments deltasAt
  rw [Grouping.group_snoc_other h]

theorem arguments_unseen {deltas : List ToolCallDelta} {k : ℤ} (h : k ∉ indices deltas) :
    arguments k deltas = "" := by
  unfold arguments deltasAt
  rw [Grouping.group_eq_nil_iff.2 h]
  rfl

theorem text_eq (chunks : List ChatCompletionChunk) :
    text chunks = textOf (chunks.flatMap ChatCompletionChunk.items) := by
  unfold text textOf
  induction chunks with
  | nil => rfl
  | cons chunk chunks ih =>
    rw [List.map_cons, String.join_cons, ih, List.flatMap_cons, List.filterMap_append,
      String.join_append]
    congr 1
    unfold content ChatCompletionChunk.items
    cases chunk.choices with
    | nil => rfl
    | cons choice rest =>
      have htools : (choice.delta.toolCalls.getD []).filterMap
          (fun delta => (none : Option String)) = [] := by simp
      unfold ChoiceDelta.items ChoiceDelta.textItems
      simp only [List.filterMap_append, List.filterMap_map, Function.comp_def, htools,
        List.append_nil]
      cases choice.delta.content with
      | none => rfl
      | some s =>
        -- an empty content is no item, and adds no text
        by_cases hs : s = ""
        · simp [hs]
        · simp [hs]

end Chunks

/-! ## The invariant -/

namespace StreamTranslator

/-- What the translator has read, emitted and kept agree. -/
structure Tracks (seen : List ChunkStep) (out : List AnthropicStreamEvent)
    (st : StreamTranslator) : Prop where
  texts : String.join (textDeltas out) = Chunks.textOf (ChunkStep.items seen)
  /-- The dict of tool blocks lists the tool indices in order of first appearance, -/
  keys : st.toolBlocks.map Prod.fst =
    Chunks.indices (Chunks.toolsOf (ChunkStep.items seen))
  /-- each with the block opened for it. -/
  blocks : st.toolBlocks.map Prod.snd = toolStarts out
  below : ∀ i ∈ toolStarts out, i < st.nextBlockIndex
  sorted : (toolStarts out).Pairwise (· < ·)
  inputs : ∀ p ∈ st.toolBlocks, String.join (inputDeltas p.2 out) =
    Chunks.arguments p.1 (Chunks.toolsOf (ChunkStep.items seen))
  others : ∀ i, i ∉ toolStarts out → inputDeltas i out = []
  finish : st.finishReason = (ChunkStep.finishes seen).getLast?
  tokens : st.finalOutputTokens =
    ((ChunkStep.usages seen).getLast?.map Usage.completionTokens).getD 0
  unclosed : messageDeltas out = []

section Invariant

variable {ids : FreshIds} {seen : List ChunkStep} {out : List AnthropicStreamEvent}
  {st : StreamTranslator}

theorem tracks_init (model : String) (inputTokens : ℤ) :
    Tracks [] [] { requestModel := model, inputTokens := inputTokens } where
  texts := rfl
  keys := rfl
  blocks := rfl
  below := by simp [toolStarts]
  sorted := List.Pairwise.nil
  inputs := by simp
  others := fun _ _ => rfl
  finish := rfl
  tokens := rfl
  unclosed := rfl

theorem tracks_usage (h : Tracks seen out st) (u : Usage) :
    Tracks (seen ++ [.usage u]) out (st.captureUsage (some u)) where
  texts := by simpa using h.texts
  keys := by simpa [captureUsage] using h.keys
  blocks := h.blocks
  below := h.below
  sorted := h.sorted
  inputs := by simpa [captureUsage] using h.inputs
  others := h.others
  finish := by simpa [captureUsage] using h.finish
  tokens := by simp [captureUsage]
  unclosed := h.unclosed

theorem tracks_finish (h : Tracks seen out st) (f : FinishReason) :
    Tracks (seen ++ [.finish f]) out { st with finishReason := some f } where
  texts := by simpa using h.texts
  keys := by simpa using h.keys
  blocks := h.blocks
  below := h.below
  sorted := h.sorted
  inputs := by simpa using h.inputs
  others := h.others
  finish := by simp
  tokens := by simpa using h.tokens
  unclosed := h.unclosed

theorem tracks_start (h : Tracks seen out st) (chunkId : String) :
    Tracks (seen ++ [.start chunkId]) (out ++ (startMessage ids st chunkId).1)
      (startMessage ids st chunkId).2 := by
  have hsilent : Silent (startMessage ids st chunkId).1 := by
    unfold startMessage
    split
    · exact Silent.nil
    · exact Silent.messageStart _
  -- starting a message changes nothing that is tracked
  have hkept : (startMessage ids st chunkId).2.toolBlocks = st.toolBlocks ∧
      (startMessage ids st chunkId).2.nextBlockIndex = st.nextBlockIndex ∧
      (startMessage ids st chunkId).2.finishReason = st.finishReason ∧
      (startMessage ids st chunkId).2.finalOutputTokens = st.finalOutputTokens := by
    unfold startMessage
    split <;> exact ⟨rfl, rfl, rfl, rfl⟩
  obtain ⟨hblocks, hnext, hfinish, htokens⟩ := hkept
  exact {
    texts := by simpa [hsilent.texts] using h.texts
    keys := by simpa [hblocks] using h.keys
    blocks := by simpa [hblocks, hsilent.starts] using h.blocks
    below := by simpa [hnext, hsilent.starts] using h.below
    sorted := by simpa [hsilent.starts] using h.sorted
    inputs := by simpa [hblocks, hsilent.inputs] using h.inputs
    others := by simpa [hsilent.starts, hsilent.inputs] using h.others
    finish := by simpa [hfinish] using h.finish
    tokens := by simpa [htokens] using h.tokens
    unclosed := by simpa [hsilent.closing] using h.unclosed }

/-- A text delta emits its text, and opens no tool block. -/
theorem emitTextDelta_spec (st : StreamTranslator) (s : String) :
    textDeltas (st.emitTextDelta s).1 = [s] ∧ (∀ i, inputDeltas i (st.emitTextDelta s).1 = []) ∧
    toolStarts (st.emitTextDelta s).1 = [] ∧ messageDeltas (st.emitTextDelta s).1 = [] ∧
    (st.emitTextDelta s).2.toolBlocks = st.toolBlocks ∧
    st.nextBlockIndex ≤ (st.emitTextDelta s).2.nextBlockIndex ∧
    (st.emitTextDelta s).2.finishReason = st.finishReason ∧
    (st.emitTextDelta s).2.finalOutputTokens = st.finalOutputTokens := by
  have hclose := Silent.closeCurrent st
  unfold emitTextDelta
  split
  · exact ⟨rfl, fun _ => rfl, rfl, rfl, rfl, le_refl _, rfl, rfl⟩
  · refine ⟨?_, ?_, ?_, ?_, rfl, Nat.le_succ _, rfl, rfl⟩
    · rw [textDeltas_append, hclose.texts]; rfl
    · intro i
      rw [inputDeltas_append, hclose.inputs]; rfl
    · rw [toolStarts_append, hclose.starts]; rfl
    · rw [messageDeltas_append, hclose.closing]; rfl

theorem tracks_text (h : Tracks seen out st) (s : String) :
    Tracks (seen ++ [.item (.text s)]) (out ++ (st.emitTextDelta s).1) (st.emitTextDelta s).2 := by
  obtain ⟨htexts, hinputs, hstarts, hclosing, hblocks, hnext, hfinish, htokens⟩ :=
    emitTextDelta_spec st s
  have hitems : ChunkStep.items (seen ++ [.item (.text s)]) =
      ChunkStep.items seen ++ [.text s] := by simp
  exact {
    texts := by
      rw [hitems, Chunks.textOf_snoc_text, textDeltas_append, htexts, String.join_append, h.texts]
      simp
    keys := by rw [hitems, Chunks.toolsOf_snoc_text, hblocks, h.keys]
    blocks := by simpa [hblocks, hstarts] using h.blocks
    below := by
      intro i hi
      rw [toolStarts_append, hstarts, List.append_nil] at hi
      have := h.below i hi
      omega
    sorted := by simpa [hstarts] using h.sorted
    inputs := by
      intro p hp
      rw [hblocks] at hp
      rw [hitems, Chunks.toolsOf_snoc_text, inputDeltas_append, hinputs, List.append_nil,
        h.inputs p hp]
    others := by simpa [hstarts, hinputs] using h.others
    finish := by simpa [hfinish] using h.finish
    tokens := by simpa [htokens] using h.tokens
    unclosed := by simpa [hclosing] using h.unclosed }

/-- Two entries of the dict of tool blocks with one block are one entry. -/
theorem key_of_block (h : Tracks seen out st) {p q : ℤ × ℕ} (hp : p ∈ st.toolBlocks)
    (hq : q ∈ st.toolBlocks) (hpq : p.2 = q.2) : p = q := by
  have hnodup : (st.toolBlocks.map Prod.snd).Nodup := by
    rw [h.blocks]
    exact h.sorted.imp (fun hlt => Nat.ne_of_lt hlt)
  exact List.inj_on_of_nodup_map hnodup hp hq hpq

/-- The events that open a tool block. -/
theorem openTool_spec (st : StreamTranslator) (i : ℕ) (id name : String) (delta : ToolCallDelta) :
    let es := st.closeCurrent ++ [.contentBlockStart i (.toolUse id name [])] ++
      argumentsDelta i delta
    textDeltas es = [] ∧ toolStarts es = [i] ∧ messageDeltas es = [] ∧
    String.join (inputDeltas i es) = delta.argumentText ∧
    ∀ j, i ≠ j → inputDeltas j es = [] := by
  have hclose := Silent.closeCurrent st
  refine ⟨?_, ?_, ?_, ?_, ?_⟩
  · rw [textDeltas_append, textDeltas_append, hclose.texts, textDeltas_argumentsDelta]
    rfl
  · rw [toolStarts_append, toolStarts_append, hclose.starts, toolStarts_argumentsDelta]
    rfl
  · rw [messageDeltas_append, messageDeltas_append, hclose.closing, messageDeltas_argumentsDelta]
    rfl
  · rw [inputDeltas_append, inputDeltas_append, hclose.inputs]
    exact inputDeltas_argumentsDelta_self i delta
  · intro j hij
    rw [inputDeltas_append, inputDeltas_append, hclose.inputs,
      inputDeltas_argumentsDelta_other _ hij]
    rfl

/-- A delta of an index that has a block: only the arguments are emitted, on that block. -/
theorem tracks_tool_old (h : Tracks seen out st) {delta : ToolCallDelta} {i : ℕ}
    (hlookup : st.toolBlocks.lookup delta.index = some i) :
    Tracks (seen ++ [.item (.tool delta)]) (out ++ (emitToolCallDelta ids st delta).1)
      (emitToolCallDelta ids st delta).2 := by
  have hitems : ChunkStep.items (seen ++ [.item (.tool delta)]) =
      ChunkStep.items seen ++ [.tool delta] := by simp
  rw [emitToolCallDelta_old ids hlookup]
  have hmem := OrderedDict.mem_of_lookup hlookup
  have hkey : delta.index ∈ Chunks.indices (Chunks.toolsOf (ChunkStep.items seen)) := by
    rw [← h.keys]
    exact List.mem_map_of_mem hmem
  exact {
    texts := by
      rw [hitems, Chunks.textOf_snoc_tool, textDeltas_append, textDeltas_argumentsDelta,
        List.append_nil, h.texts]
    keys := by
      rw [hitems, Chunks.toolsOf_snoc_tool, h.keys]
      exact (Grouping.keys_snoc_old hkey).symm
    blocks := by simpa using h.blocks
    below := by simpa using h.below
    sorted := by simpa using h.sorted
    inputs := by
      intro p hp
      rw [hitems, Chunks.toolsOf_snoc_tool, inputDeltas_append, String.join_append, h.inputs p hp]
      -- only the entry of this index has this block
      by_cases hi : i = p.2
      · obtain rfl := key_of_block h hmem hp hi
        rw [inputDeltas_argumentsDelta_self, Chunks.arguments_snoc_self]
      · have hk : p.1 ≠ delta.index := by
          intro hk
          have hkeys : (st.toolBlocks.map Prod.fst).Nodup := by
            rw [h.keys]
            exact Grouping.nodup_keys _
          have := List.inj_on_of_nodup_map hkeys hp hmem hk
          exact hi (by rw [this])
        rw [inputDeltas_argumentsDelta_other _ hi, Chunks.arguments_snoc_other _ _ hk]
        simp
    others := by
      intro j hj
      rw [toolStarts_append, toolStarts_argumentsDelta, List.append_nil] at hj
      have hij : i ≠ j := by
        rintro rfl
        apply hj
        rw [← h.blocks]
        exact List.mem_map_of_mem hmem
      rw [inputDeltas_append, h.others j hj, inputDeltas_argumentsDelta_other _ hij]
      rfl
    finish := by simpa using h.finish
    tokens := by simpa using h.tokens
    unclosed := by simpa using h.unclosed }

/-- The entry of a block is not that of the next block, nor of an index that has none. -/
theorem entry_apart (h : Tracks seen out st) {p : ℤ × ℕ} (hp : p ∈ st.toolBlocks) {index : ℤ}
    (hkey : index ∉ Chunks.indices (Chunks.toolsOf (ChunkStep.items seen))) :
    p.1 ≠ index ∧ st.nextBlockIndex ≠ p.2 := by
  constructor
  · rintro rfl
    apply hkey
    rw [← h.keys]
    exact List.mem_map_of_mem hp
  · intro heq
    have hmem : p.2 ∈ toolStarts out := by
      rw [← h.blocks]
      exact List.mem_map_of_mem hp
    have hbelow := h.below _ hmem
    omega

/-- A delta of a new index: its block is the next one. -/
theorem tracks_tool_new (h : Tracks seen out st) {delta : ToolCallDelta}
    (hlookup : st.toolBlocks.lookup delta.index = none) :
    Tracks (seen ++ [.item (.tool delta)]) (out ++ (emitToolCallDelta ids st delta).1)
      (emitToolCallDelta ids st delta).2 := by
  have hitems : ChunkStep.items (seen ++ [.item (.tool delta)]) =
      ChunkStep.items seen ++ [.tool delta] := by simp
  rw [emitToolCallDelta_new ids hlookup]
  have hkey : delta.index ∉ Chunks.indices (Chunks.toolsOf (ChunkStep.items seen)) := by
    rw [← h.keys]
    exact OrderedDict.not_mem_keys_of_lookup hlookup
  have hclose := Silent.closeCurrent st
  have hfresh : st.nextBlockIndex ∉ toolStarts out := by
    intro hmem
    exact Nat.lt_irrefl _ (h.below _ hmem)
  obtain ⟨htexts, hstarts, hclosing, hself, hother⟩ := openTool_spec st st.nextBlockIndex
    (toolId ids st.nextBlockIndex delta) delta.nameText delta
  exact {
    texts := by
      rw [hitems, Chunks.textOf_snoc_tool, textDeltas_append, htexts, List.append_nil, h.texts]
    keys := by
      rw [hitems, Chunks.toolsOf_snoc_tool]
      refine Eq.trans ?_ (Grouping.keys_snoc_new hkey).symm
      unfold openTool
      rw [List.map_append]
      exact congrArg (· ++ [delta.index]) h.keys
    blocks := by
      unfold openTool
      rw [toolStarts_append, hstarts, List.map_append]
      exact congrArg (· ++ [st.nextBlockIndex]) h.blocks
    below := by
      intro i hi
      rw [toolStarts_append, hstarts, List.mem_append, List.mem_singleton] at hi
      change i < st.nextBlockIndex + 1
      rcases hi with hi | rfl
      · have := h.below i hi
        omega
      · omega
    sorted := by
      rw [toolStarts_append, hstarts, List.pairwise_append]
      refine ⟨h.sorted, List.pairwise_singleton _ _, ?_⟩
      intro i hi j hj
      rw [List.mem_singleton.1 hj]
      exact h.below i hi
    inputs := by
      intro p hp
      have hp : p ∈ st.toolBlocks ∨ p = (delta.index, st.nextBlockIndex) := by
        simpa [openTool] using hp
      rw [hitems, Chunks.toolsOf_snoc_tool, inputDeltas_append, String.join_append]
      rcases hp with hp | rfl
      · -- an old entry has an older block, and another index
        obtain ⟨hk, hne⟩ := entry_apart h hp hkey
        rw [hother _ hne, h.inputs p hp, Chunks.arguments_snoc_other _ _ hk]
        simp
      · rw [hself, h.others _ hfresh, Chunks.arguments_snoc_self, Chunks.arguments_unseen hkey]
        simp
    others := by
      intro j hj
      rw [toolStarts_append, hstarts, List.mem_append, List.mem_singleton, not_or] at hj
      rw [inputDeltas_append, h.others j hj.1, hother j (Ne.symm hj.2)]
      rfl
    finish := by simpa [openTool, openBlock] using h.finish
    tokens := by simpa [openTool, openBlock] using h.tokens
    unclosed := by rw [messageDeltas_append, h.unclosed, hclosing]; rfl }

theorem tracks_tool (h : Tracks seen out st) (delta : ToolCallDelta) :
    Tracks (seen ++ [.item (.tool delta)]) (out ++ (emitToolCallDelta ids st delta).1)
      (emitToolCallDelta ids st delta).2 := by
  cases hlookup : st.toolBlocks.lookup delta.index with
  | some i => exact tracks_tool_old h hlookup
  | none => exact tracks_tool_new h hlookup

theorem tracks_step (h : Tracks seen out st) (x : ChunkStep) :
    Tracks (seen ++ [x]) (out ++ (step ids st x).1) (step ids st x).2 := by
  cases x with
  | usage u =>
    have hnext := tracks_usage h u
    simpa [step] using hnext
  | start chunkId => exact tracks_start h chunkId
  | item item =>
    cases item with
    | text s => exact tracks_text h s
    | tool delta => exact tracks_tool h delta
  | finish f =>
    have hnext := tracks_finish h f
    simpa [step] using hnext

variable (ids) in
/-- What has been read of a list of chunks, emitted for it and kept agree. -/
theorem tracks_chunks (model : String) (inputTokens : ℤ) (chunks : List ChatCompletionChunk) :
    Tracks (chunks.flatMap ChatCompletionChunk.steps)
      (translateChunks ids { requestModel := model, inputTokens := inputTokens } chunks).1
      (translateChunks ids { requestModel := model, inputTokens := inputTokens } chunks).2 := by
  have hrun := Transducer.run_inv (step ids) Tracks (fun _ _ _ x h => tracks_step h x)
    (chunks.flatMap ChatCompletionChunk.steps) [] [] _ (tracks_init model inputTokens)
  rwa [List.nil_append, List.nil_append, ← translateChunks_eq_run] at hrun

/-- The closing events carry no content, and report what was kept. -/
theorem finalize_spec (ids : FreshIds) (st : StreamTranslator) :
    textDeltas (st.finalize ids).1 = [] ∧ (∀ i, inputDeltas i (st.finalize ids).1 = []) ∧
    toolStarts (st.finalize ids).1 = [] ∧
    messageDeltas (st.finalize ids).1 =
      [(some (stopReasonOf st.finishReason), st.finalOutputTokens)] := by
  have hstart : Silent (if st.messageStarted then [] else
      [{ st with messageId := ids.message }.makeMessageStart]) := by
    split
    · exact Silent.nil
    · exact Silent.messageStart _
  have hempty : Silent (if st.anyBlockOpened then [] else
      [.contentBlockStart 0 (.text ""), .contentBlockStop 0]) := by
    split
    · exact Silent.nil
    · exact (Silent.textStart 0).append (Silent.stop 0)
  -- what is sent before the closing events is silent
  have hfront := (hstart.append (Silent.closeCurrent st)).append hempty
  rw [finalize_eq]
  refine ⟨?_, ?_, ?_, ?_⟩
  · rw [textDeltas_append, hfront.texts]
    rfl
  · intro i
    rw [inputDeltas_append, hfront.inputs]
    rfl
  · rw [toolStarts_append, hfront.starts]
    rfl
  · rw [messageDeltas_append, hfront.closing]
    rfl

end Invariant

end StreamTranslator

/-- The text deltas of a stream are its text. -/
theorem text_messageEvents (ids : FreshIds) (requestModel : String) (inputTokens : ℤ)
    (chunks : List ChatCompletionChunk) :
    String.join (textDeltas (messageEvents ids requestModel inputTokens chunks)) =
      Chunks.text chunks := by
  have htracks := StreamTranslator.tracks_chunks ids requestModel inputTokens chunks
  unfold messageEvents
  rw [textDeltas_append, (StreamTranslator.finalize_spec ids _).1, List.append_nil, htracks.texts,
    items_of_steps, Chunks.text_eq]

/-- **Nothing is lost in the Anthropic stream.** Whatever the order of text and tool calls, the
text deltas are the text; the tool blocks are opened one for each tool index, in the order in
which the indices first appear, and each is sent the arguments of its index; and the closing event
reports the last finish reason and the last usage. -/
theorem nothing_lost (ids : FreshIds) (requestModel : String) (inputTokens : ℤ)
    (chunks : List ChatCompletionChunk) :
    String.join (textDeltas (messageEvents ids requestModel inputTokens chunks)) =
      Chunks.text chunks ∧
    (toolStarts (messageEvents ids requestModel inputTokens chunks)).Pairwise (· < ·) ∧
    List.Forall₂
      (fun k i =>
        String.join (inputDeltas i (messageEvents ids requestModel inputTokens chunks)) =
          Chunks.arguments k (Chunks.toolDeltas chunks))
      (Chunks.indices (Chunks.toolDeltas chunks))
      (toolStarts (messageEvents ids requestModel inputTokens chunks)) ∧
    (∀ i ∉ toolStarts (messageEvents ids requestModel inputTokens chunks),
      inputDeltas i (messageEvents ids requestModel inputTokens chunks) = []) ∧
    messageDeltas (messageEvents ids requestModel inputTokens chunks) =
      [(some (stopReasonOf (Chunks.finishReason chunks)),
        ((Chunks.usage chunks).map Usage.completionTokens).getD 0)] := by
  have htracks := StreamTranslator.tracks_chunks ids requestModel inputTokens chunks
  generalize hout : StreamTranslator.translateChunks ids
    { requestModel := requestModel, inputTokens := inputTokens } chunks = out at htracks
  have hevents : messageEvents ids requestModel inputTokens chunks =
      out.1 ++ (out.2.finalize ids).1 := by
    unfold messageEvents
    rw [hout]
  obtain ⟨-, hinputs, hstarts, hclosing⟩ := StreamTranslator.finalize_spec ids out.2
  have hstarts' : toolStarts (messageEvents ids requestModel inputTokens chunks) =
      toolStarts out.1 := by
    rw [hevents, toolStarts_append, hstarts, List.append_nil]
  have hinputs' : ∀ i, inputDeltas i (messageEvents ids requestModel inputTokens chunks) =
      inputDeltas i out.1 := by
    intro i
    rw [hevents, inputDeltas_append, hinputs, List.append_nil]
  have hitems := items_of_steps chunks
  refine ⟨?_, ?_, ?_, ?_, ?_⟩
  · exact text_messageEvents ids requestModel inputTokens chunks
  · rw [hstarts']
    exact htracks.sorted
  · -- the dict of tool blocks pairs the tool indices with the tool blocks
    have hkeys := htracks.keys
    rw [hitems] at hkeys
    change _ = Chunks.indices (Chunks.toolDeltas chunks) at hkeys
    rw [hstarts', ← htracks.blocks, ← hkeys, List.forall₂_map_left_iff,
      List.forall₂_map_right_iff, List.forall₂_same]
    intro p hp
    rw [hinputs', htracks.inputs p hp, hitems]
    rfl
  · intro i hi
    rw [hstarts'] at hi
    rw [hinputs', htracks.others i hi]
  · rw [hevents, messageDeltas_append, htracks.unclosed, hclosing, htracks.finish, htracks.tokens,
      finishes_of_steps, usages_of_steps]
    rfl

end ModelMeld
