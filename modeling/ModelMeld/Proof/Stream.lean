import ModelMeld.Spec.Gateway

/-!
# The model a translated stream names

* `translateChunks_namesOnly`, `finalize_namesOnly`: `message_start` names the model the
  translator was set up with, whatever the chunks name;
* `sseAnthropicStream_names`: and so does the stream `/v1/messages` answers with.
-/

namespace ModelMeld

namespace StreamTranslator

variable {model : String} {st : StreamTranslator}

/-- What a step of the translator yields: the messages it starts are of the model, and so are those
of the state it leaves. -/
structure NamesOnly (model : String) (out : List AnthropicStreamEvent × StreamTranslator) :
    Prop where
  starts : ∀ msg, .messageStart msg ∈ out.1 → msg.model = model
  model : out.2.requestModel = model

/-- A step that starts no message and keeps the model. -/
theorem namesOnly_of_quiet {es : List AnthropicStreamEvent} {st' : StreamTranslator}
    (hmodel : st'.requestModel = model) (hes : ∀ msg, .messageStart msg ∉ es) :
    NamesOnly model (es, st') :=
  ⟨fun msg h => absurd h (hes msg), hmodel⟩

/-- One step after another. -/
theorem namesOnly_append {out out' : List AnthropicStreamEvent × StreamTranslator}
    (h : NamesOnly model out) (h' : NamesOnly model out') :
    NamesOnly model (out.1 ++ out'.1, out'.2) := by
  refine ⟨?_, h'.model⟩
  intro msg hmem
  rcases List.mem_append.1 hmem with hmem | hmem
  · exact h.starts msg hmem
  · exact h'.starts msg hmem

theorem not_start_closeCurrent (msg : AnthropicMessagesResponse) :
    .messageStart msg ∉ st.closeCurrent := by
  unfold closeCurrent
  cases st.currentBlock <;> simp

theorem not_start_argumentsDelta (msg : AnthropicMessagesResponse) (i : ℕ)
    (delta : ToolCallDelta) : .messageStart msg ∉ argumentsDelta i delta := by
  unfold argumentsDelta
  cases delta.function.bind FunctionCallDelta.arguments with
  | none => simp
  | some s =>
    simp only
    split <;> simp

theorem emitTextDelta_namesOnly (h : st.requestModel = model) (text : String) :
    NamesOnly model (st.emitTextDelta text) := by
  unfold emitTextDelta
  split
  · exact namesOnly_of_quiet h (by simp)
  · refine namesOnly_of_quiet h ?_
    intro msg
    simp [not_start_closeCurrent]

theorem emitToolCallDelta_namesOnly (ids : FreshIds) (h : st.requestModel = model)
    (delta : ToolCallDelta) : NamesOnly model (emitToolCallDelta ids st delta) := by
  unfold emitToolCallDelta
  cases st.toolBlocks.lookup delta.index with
  | some i => exact namesOnly_of_quiet h (fun msg => not_start_argumentsDelta msg i delta)
  | none =>
    refine namesOnly_of_quiet h ?_
    intro msg
    simp [not_start_closeCurrent, not_start_argumentsDelta]

theorem emitToolCallDeltas_namesOnly (ids : FreshIds) : ∀ (deltas : List ToolCallDelta)
    (st : StreamTranslator), st.requestModel = model → NamesOnly model (emitToolCallDeltas ids st deltas) := by
  intro deltas
  induction deltas with
  | nil => intro st h; exact namesOnly_of_quiet h (by simp)
  | cons delta rest ih =>
    intro st h
    have hnow := emitToolCallDelta_namesOnly ids h delta
    exact namesOnly_append hnow (ih _ hnow.model)

theorem emitChoice_namesOnly (ids : FreshIds) (h : st.requestModel = model) (choice : ChunkChoice) :
    NamesOnly model (emitChoice ids st choice) := by
  -- the text goes first; the finish reason is not the model's business
  have hrest : ∀ out st', NamesOnly model out →
      st'.requestModel =
        (emitToolCallDeltas ids out.2 (choice.delta.toolCalls.getD [])).2.requestModel →
      NamesOnly model
        (out.1 ++ (emitToolCallDeltas ids out.2 (choice.delta.toolCalls.getD [])).1, st') := by
    intro out st' htext hst'
    have hboth := namesOnly_append htext
      (emitToolCallDeltas_namesOnly ids (choice.delta.toolCalls.getD []) _ htext.model)
    exact ⟨hboth.starts, hst'.trans hboth.model⟩
  unfold emitChoice
  simp only
  refine hrest _ _ ?_ ?_
  · cases choice.delta.content with
    | none => exact namesOnly_of_quiet h (by simp)
    | some s =>
      simp only
      split
      · exact namesOnly_of_quiet h (by simp)
      · exact emitTextDelta_namesOnly h s
  · cases choice.finishReason <;> rfl

theorem captureUsage_requestModel (usage : Option Usage) :
    (st.captureUsage usage).requestModel = st.requestModel := by
  cases usage <;> rfl

theorem startMessage_namesOnly (ids : FreshIds) (h : st.requestModel = model) (chunkId : String) :
    NamesOnly model (startMessage ids st chunkId) := by
  unfold startMessage
  split
  · exact namesOnly_of_quiet h (by simp)
  · refine ⟨?_, h⟩
    intro msg hmem
    cases List.mem_singleton.1 hmem
    exact h

theorem translateChunk_namesOnly (ids : FreshIds) (h : st.requestModel = model)
    (chunk : ChatCompletionChunk) : NamesOnly model (translateChunk ids st chunk) := by
  have hstart := startMessage_namesOnly ids ((captureUsage_requestModel chunk.usage).trans h) chunk.id
  unfold translateChunk
  cases chunk.choices with
  | nil => exact hstart
  | cons choice rest => exact namesOnly_append hstart (emitChoice_namesOnly ids hstart.model choice)

/-- **Whatever the chunks name, the messages started are of the translator's model.** -/
theorem translateChunks_namesOnly (ids : FreshIds) : ∀ (chunks : List ChatCompletionChunk)
    (st : StreamTranslator), st.requestModel = model → NamesOnly model (translateChunks ids st chunks) := by
  intro chunks
  induction chunks with
  | nil => intro st h; exact namesOnly_of_quiet h (by simp)
  | cons chunk rest ih =>
    intro st h
    have hnow := translateChunk_namesOnly ids h chunk
    exact namesOnly_append hnow (ih _ hnow.model)

theorem finalize_namesOnly (ids : FreshIds) (h : st.requestModel = model) :
    NamesOnly model (finalize ids st) := by
  unfold finalize
  simp only
  have hstart : NamesOnly model (if st.messageStarted then ([], st) else
      ([({ st with messageStarted := true, messageId := ids.message } :
          StreamTranslator).makeMessageStart],
        { st with messageStarted := true, messageId := ids.message })) := by
    split
    · exact namesOnly_of_quiet h (by simp)
    · refine ⟨?_, h⟩
      intro msg hmem
      cases List.mem_singleton.1 hmem
      exact h
  refine ⟨?_, hstart.model⟩
  intro msg hmem
  simp only [List.append_assoc, List.mem_append] at hmem
  rcases hmem with hmem | hmem | hmem | hmem
  · exact hstart.starts msg hmem
  · exact absurd hmem (not_start_closeCurrent msg)
  · split at hmem <;> simp at hmem
  · simp at hmem

end StreamTranslator

/-- **Every `message_start` of an answered stream names the model fixed before the dispatch.** -/
theorem sseAnthropicStream_names {ids : FreshIds} {stream : ChunkStream} {model : String}
    {inputTokens : ℤ} {msg : AnthropicMessagesResponse}
    (h : .messageStart msg ∈ sseAnthropicStream ids stream model inputTokens) :
    msg.model = model := by
  have hchunks := StreamTranslator.translateChunks_namesOnly ids stream.chunks
    { requestModel := model, inputTokens := inputTokens } rfl
  unfold sseAnthropicStream at h
  simp only at h
  split at h
  · exact hchunks.starts msg h
  · rcases List.mem_append.1 h with h | h
    · exact hchunks.starts msg h
    · exact (StreamTranslator.finalize_namesOnly ids hchunks.model).starts msg h

end ModelMeld
