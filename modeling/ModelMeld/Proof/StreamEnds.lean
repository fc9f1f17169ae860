import ModelMeld.Proof.ResponseSteps
import ModelMeld.Proof.StreamSteps
import ModelMeld.Spec.RouteStreams

/-!
# How streamed answers end

`terminated_iff`: a streamed answer has a frame that says it is complete unless
it is one of the two routes that stop when the chunks break off.
`completions_of_ended`: the usage of a completed response is the last usage
of the chunks. Both translators keep what `finalize` needs along a run of steps,
and neither ends its stream before `finalize`.
-/

namespace ModelMeld

theorem usages_of_responseSteps (chunks : List ChatCompletionChunk) :
    ChunkStep.usages (chunks.flatMap ChatCompletionChunk.responseSteps) =
      chunks.filterMap ChatCompletionChunk.usage := by
  unfold ChunkStep.usages
  induction chunks with
  | nil => rfl
  | cons chunk chunks ih =>
    have hnow : chunk.responseSteps.filterMap ChunkStep.usage? = chunk.usage.toList := by
      unfold ChatCompletionChunk.responseSteps
      cases chunk.usage <;>
        simp [List.filterMap_append, List.filterMap_cons, List.filterMap_map, Function.comp_def]
    rw [List.flatMap_cons, List.filterMap_append, hnow, ih, List.filterMap_cons]
    cases chunk.usage <;> rfl

/-! ## The Responses stream -/

/-- The responses that some events say are completed. -/
def completions (es : List ResponseEvent) : List ResponseObject :=
  es.filterMap (fun e => match e with
    | .completed response => some response
    | _ => none)

theorem completions_append (es fs : List ResponseEvent) :
    completions (es ++ fs) = completions es ++ completions fs :=
  List.filterMap_append

theorem mem_completions {es : List ResponseEvent} {response : ResponseObject} :
    response ∈ completions es ↔ .completed response ∈ es := by
  unfold completions
  rw [List.mem_filterMap]
  constructor
  · rintro ⟨e, he, hsome⟩
    cases e <;> simp_all
  · intro h
    exact ⟨_, h, rfl⟩

namespace ResponsesStreamTranslator

/-- The usage reported so far: input and output tokens. -/
def reported (st : ResponsesStreamTranslator) : Option (ℤ × ℤ) :=
  if st.sawUsage then some (st.inputTokens, st.outputTokens) else none

/-- A state that has the usage of another, and is finished when it is. -/
structure SameUsage (st st' : ResponsesStreamTranslator) : Prop where
  finished : st'.finished = st.finished
  saw : st'.sawUsage = st.sawUsage
  input : st'.inputTokens = st.inputTokens
  output : st'.outputTokens = st.outputTokens

theorem SameUsage.reported {st st' : ResponsesStreamTranslator} (h : SameUsage st st') :
    st'.reported = st.reported := by
  unfold ResponsesStreamTranslator.reported
  rw [h.saw, h.input, h.output]

/-- What the events and the usage kept are, after some steps. -/
structure Counted (seen : List ChunkStep) (out : List NumberedEvent)
    (st : ResponsesStreamTranslator) : Prop where
  uncompleted : completions (out.map NumberedEvent.event) = []
  unfinished : st.finished = false
  reported : st.reported =
    (ChunkStep.usages seen).getLast?.map (fun u => (u.promptTokens, u.completionTokens))

variable {ids : ResponseIds} {seen : List ChunkStep} {out : List NumberedEvent}
  {st : ResponsesStreamTranslator}

theorem completions_argumentEvents (tool : ToolEntry) (delta : ToolCallDelta) :
    completions (argumentEvents tool delta) = [] := by
  unfold argumentEvents
  split <;> rfl

/-- A step that is no usage completes nothing and keeps the usage. -/
theorem step_quiet (ids : ResponseIds) (st : ResponsesStreamTranslator) {x : ChunkStep}
    (hx : x.usage? = none) :
    completions ((step ids st x).1.map NumberedEvent.event) = [] ∧
      SameUsage st (step ids st x).2 := by
  cases x with
  | usage u => cases hx
  | finish f => exact ⟨rfl, rfl, rfl, rfl, rfl⟩
  | start chunkId =>
    change completions (st.emitCreated.1.map NumberedEvent.event) = [] ∧
      SameUsage st st.emitCreated.2
    unfold emitCreated
    split
    · exact ⟨rfl, rfl, rfl, rfl, rfl⟩
    · exact ⟨rfl, rfl, rfl, rfl, rfl⟩
  | item item =>
    cases item with
    | text s =>
      change completions ((st.handleText ids s).1.map NumberedEvent.event) = [] ∧
        SameUsage st (st.handleText ids s).2
      cases hopen : st.textOpen with
      | true =>
        rw [handleText_open hopen]
        exact ⟨rfl, rfl, rfl, rfl, rfl⟩
      | false =>
        rw [handleText_new hopen]
        exact ⟨rfl, rfl, rfl, rfl, rfl⟩
    | tool delta =>
      change completions ((handleToolDelta ids st delta).1.map NumberedEvent.event) = [] ∧
        SameUsage st (handleToolDelta ids st delta).2
      cases hlookup : st.tools.lookup delta.index with
      | some tool =>
        rw [handleToolDelta_old hlookup, number_events]
        exact ⟨completions_argumentEvents tool delta, rfl, rfl, rfl, rfl⟩
      | none =>
        rw [handleToolDelta_new hlookup, number_events]
        exact ⟨completions_argumentEvents _ delta, rfl, rfl, rfl, rfl⟩

theorem counted_step (h : Counted seen out st) (x : ChunkStep) :
    Counted (seen ++ [x]) (out ++ (step ids st x).1) (step ids st x).2 := by
  cases hx : x.usage? with
  | none =>
    obtain ⟨hquiet, hsame⟩ := step_quiet ids st hx
    refine ⟨?_, hsame.finished.trans h.unfinished, ?_⟩
    · rw [List.map_append, completions_append, h.uncompleted, hquiet]
      rfl
    · rw [hsame.reported, h.reported, ChunkStep.usages_snoc, hx, Option.toList_none,
        List.append_nil]
  | some u =>
    obtain rfl : x = .usage u := by
      cases x with
      | usage u' => exact congrArg ChunkStep.usage (Option.some.inj hx)
      | start chunkId => cases hx
      | item item => cases hx
      | finish f => cases hx
    refine ⟨?_, h.unfinished, ?_⟩
    · rw [List.map_append, completions_append, h.uncompleted]
      rfl
    · rw [ChunkStep.usages_snoc, hx, Option.toList_some, List.getLast?_append]
      rfl

theorem counted_chunks (ids : ResponseIds) (model : String) (now : ℤ)
    (chunks : List ChatCompletionChunk) :
    Counted (chunks.flatMap ChatCompletionChunk.responseSteps)
      (translateChunks ids (.create ids model now) chunks).1
      (translateChunks ids (.create ids model now) chunks).2 := by
  have hrun := Transducer.run_inv (step ids) Counted (fun _ _ _ x h => counted_step h x)
    (chunks.flatMap ChatCompletionChunk.responseSteps) [] [] (.create ids model now)
    ⟨rfl, rfl, rfl⟩
  rwa [List.nil_append, List.nil_append, ← translateChunks_eq_run] at hrun

theorem emitCreated_quiet (st : ResponsesStreamTranslator) :
    completions (st.emitCreated.1.map NumberedEvent.event) = [] ∧ SameUsage st st.emitCreated.2 :=
  step_quiet ⟨"", "", fun _ => "", fun _ => ""⟩ st (x := .start "") rfl

theorem ensureItem_quiet (ids : ResponseIds) (st : ResponsesStreamTranslator) :
    completions ((st.ensureItem ids).1.map NumberedEvent.event) = [] ∧
      SameUsage st (st.ensureItem ids).2 := by
  unfold ensureItem
  split
  · exact ⟨rfl, rfl, rfl, rfl, rfl⟩
  · exact ⟨rfl, rfl, rfl, rfl, rfl⟩

/-- The closing events of the items complete nothing. -/
theorem completions_closings (st : ResponsesStreamTranslator) :
    completions (st.textClosing ++ st.sortedTools.flatMap toolClosing) = [] := by
  have htext : completions st.textClosing = [] := by
    unfold textClosing
    split <;> rfl
  rw [completions_append, htext, List.nil_append]
  induction st.sortedTools with
  | nil => rfl
  | cons tool tools ih =>
    rw [List.flatMap_cons, completions_append, ih]
    rfl

/-- `finalize` completes one response, with the usage reported. -/
theorem completions_finalize (ids : ResponseIds) (hunfinished : st.finished = false)
    (inputTokens : ℤ) :
    ∃ response, completions ((st.finalize ids inputTokens).1.map NumberedEvent.event) =
        [response] ∧
      ∀ i o, st.reported = some (i, o) → response.usage = some ⟨i, o, i + o⟩ := by
  generalize hestimated : { st with finished := true }.estimateUsage inputTokens = estimated
  obtain ⟨hcreated, hsame⟩ := emitCreated_quiet estimated
  obtain ⟨hopened, hsame'⟩ := ensureItem_quiet ids estimated.emitCreated.2
  generalize hfinal : (estimated.emitCreated.2.ensureItem ids).2 = final at hsame'
  let response := final.responseObj .completed final.output (some final.usage)
  have hevents : (st.finalize ids inputTokens).1.map NumberedEvent.event =
      estimated.emitCreated.1.map NumberedEvent.event ++
        (estimated.emitCreated.2.ensureItem ids).1.map NumberedEvent.event ++
          (final.textClosing ++ final.sortedTools.flatMap toolClosing ++
            [.completed response]) := by
    unfold finalize
    rw [if_neg (by simp [hunfinished])]
    simp only [hestimated, hfinal, List.map_append, number_events]
    rfl
  refine ⟨response, ?_, ?_⟩
  · rw [hevents, completions_append, completions_append, completions_append, hcreated, hopened,
      completions_closings]
    rfl
  · intro i o hreported
    -- with a usage reported, nothing is estimated
    have hsaw : st.sawUsage = true ∧ st.inputTokens = i ∧ st.outputTokens = o := by
      unfold reported at hreported
      split at hreported
      next hsaw => simpa [hsaw] using hreported
      · cases hreported
    have hkept : SameUsage { st with finished := true } estimated := by
      rw [← hestimated]
      unfold estimateUsage
      rw [if_pos hsaw.1]
      exact ⟨rfl, rfl, rfl, rfl⟩
    have hinput : final.inputTokens = i := by
      rw [hsame'.input, hsame.input, hkept.input, ← hsaw.2.1]
    have houtput : final.outputTokens = o := by
      rw [hsame'.output, hsame.output, hkept.output, ← hsaw.2.2]
    change some final.usage = _
    unfold usage
    rw [hinput, houtput]

end ResponsesStreamTranslator

section Responses

variable (ids : ResponseIds) (model : String) (now inputEstimate : ℤ) {stream : ChunkStream}

/-- A Responses stream whose chunks break off completes nothing. -/
theorem completions_of_broken (h : stream.breaksOff = true) :
    completions ((sseResponses ids stream model now inputEstimate).map NumberedEvent.event) =
      [] := by
  have hcounted := ResponsesStreamTranslator.counted_chunks ids model now stream.chunks
  unfold sseResponses
  simp only [h, if_true]
  exact hcounted.uncompleted

/-- **A Responses stream completes one response**; its usage is the last the chunks report. -/
theorem completions_of_ended (h : stream.breaksOff = false) :
    ∃ response,
      completions ((sseResponses ids stream model now inputEstimate).map NumberedEvent.event) =
        [response] ∧
      ∀ u, Chunks.usage stream.chunks = some u → response.usage =
        some ⟨u.promptTokens, u.completionTokens, u.promptTokens + u.completionTokens⟩ := by
  have hcounted := ResponsesStreamTranslator.counted_chunks ids model now stream.chunks
  have hreported := hcounted.reported
  rw [usages_of_responseSteps] at hreported
  obtain ⟨response, hresponse, husage⟩ :=
    ResponsesStreamTranslator.completions_finalize ids hcounted.unfinished inputEstimate
  refine ⟨response, ?_, ?_⟩
  · unfold sseResponses
    simp only [h, Bool.false_eq_true, if_false]
    rw [List.map_append, completions_append, hcounted.uncompleted, hresponse]
    rfl
  · intro u hu
    refine husage _ _ ?_
    rw [hreported]
    unfold Chunks.usage at hu
    rw [hu]
    rfl

end Responses

/-! ## The Messages stream -/

/-- One of the two events that end a message. -/
def AnthropicStreamEvent.Closing : AnthropicStreamEvent → Prop
  | .messageDelta _ _ _ | .messageStop => True
  | _ => False

namespace StreamTranslator

theorem not_closing_closeCurrent (st : StreamTranslator) :
    ∀ e ∈ st.closeCurrent, ¬e.Closing := by
  unfold closeCurrent
  cases st.currentBlock <;> simp [AnthropicStreamEvent.Closing]

theorem not_closing_argumentsDelta (i : ℕ) (delta : ToolCallDelta) :
    ∀ e ∈ argumentsDelta i delta, ¬e.Closing := by
  rw [argumentsDelta_eq]
  split <;> simp [AnthropicStreamEvent.Closing]

theorem not_closing_step (ids : FreshIds) (st : StreamTranslator) (x : ChunkStep) :
    ∀ e ∈ (step ids st x).1, ¬e.Closing := by
  cases x with
  | usage u => exact List.forall_mem_nil _
  | finish f => exact List.forall_mem_nil _
  | start chunkId =>
    change ∀ e ∈ (startMessage ids st chunkId).1, ¬e.Closing
    unfold startMessage
    split <;> simp [makeMessageStart, AnthropicStreamEvent.Closing]
  | item item =>
    cases item with
    | text s =>
      change ∀ e ∈ (st.emitTextDelta s).1, ¬e.Closing
      unfold emitTextDelta
      split
      · simp [AnthropicStreamEvent.Closing]
      · rw [List.forall_mem_append]
        refine ⟨not_closing_closeCurrent st, ?_⟩
        simp [AnthropicStreamEvent.Closing]
    | tool delta =>
      change ∀ e ∈ (emitToolCallDelta ids st delta).1, ¬e.Closing
      cases hlookup : st.toolBlocks.lookup delta.index with
      | some i =>
        rw [emitToolCallDelta_old ids hlookup]
        exact not_closing_argumentsDelta i delta
      | none =>
        rw [emitToolCallDelta_new ids hlookup, List.forall_mem_append, List.forall_mem_append]
        refine ⟨⟨not_closing_closeCurrent st, ?_⟩, not_closing_argumentsDelta _ delta⟩
        simp [AnthropicStreamEvent.Closing]

/-- No chunk ends the message. -/
theorem not_closing_chunks (ids : FreshIds) (st : StreamTranslator)
    (chunks : List ChatCompletionChunk) :
    ∀ e ∈ (translateChunks ids st chunks).1, ¬e.Closing := by
  have hrun := Transducer.run_inv (step ids) (fun _ out _ => ∀ e ∈ out, ¬e.Closing)
    (fun seen out st x h => List.forall_mem_append.2 ⟨h, not_closing_step ids st x⟩)
    (chunks.flatMap ChatCompletionChunk.steps) [] [] st (List.forall_mem_nil _)
  rwa [List.nil_append, ← translateChunks_eq_run] at hrun

end StreamTranslator

/-- **A Messages stream ends its message, unless its chunks break off.** -/
theorem messageStop_mem_iff (ids : FreshIds) (stream : ChunkStream) (model : String)
    (inputTokens : ℤ) :
    .messageStop ∈ sseAnthropicStream ids stream model inputTokens ↔
      stream.breaksOff = false := by
  have hchunks : AnthropicStreamEvent.messageStop ∉ (StreamTranslator.translateChunks ids
      { requestModel := model, inputTokens := inputTokens } stream.chunks).1 :=
    fun hstop => StreamTranslator.not_closing_chunks ids _ stream.chunks _ hstop trivial
  unfold sseAnthropicStream
  cases stream.breaksOff with
  | true => simpa using hchunks
  | false => simp [StreamTranslator.finalize_eq]

/-! ## The three routes -/

/-- **When a streamed answer says that it is complete.** -/
theorem terminated_iff (route : StreamRoute) (stream : ChunkStream) :
    (∃ frame ∈ route.frames stream, frame.IsTerminator) ↔
      route.isChat ∨ stream.breaksOff = false := by
  cases route with
  | chat model => simp [StreamRoute.frames, sseStream, Frame.IsTerminator, StreamRoute.isChat]
  | messages ids model inputTokens =>
    have hstop := messageStop_mem_iff ids stream model inputTokens
    simp [StreamRoute.frames, Frame.IsTerminator, StreamRoute.isChat, ← hstop]
  | responses ids model now inputEstimate =>
    have hframes : (∃ frame ∈ (StreamRoute.responses ids model now inputEstimate).frames stream,
        frame.IsTerminator) ↔ ∃ response, response ∈ completions
          ((sseResponses ids stream model now inputEstimate).map NumberedEvent.event) := by
      simp only [StreamRoute.frames, List.mem_map, exists_exists_and_eq_and, Frame.IsTerminator,
        mem_completions]
      constructor
      · rintro ⟨event, hevent, response, h⟩
        exact ⟨response, event, hevent, h⟩
      · rintro ⟨response, event, hevent, h⟩
        exact ⟨event, hevent, response, h⟩
    rw [hframes]
    cases hbreaks : stream.breaksOff with
    | true =>
      rw [completions_of_broken ids model now inputEstimate hbreaks]
      simp [StreamRoute.isChat]
    | false =>
      obtain ⟨response, hresponse, -⟩ := completions_of_ended ids model now inputEstimate hbreaks
      rw [hresponse]
      simp [StreamRoute.isChat]

/-! ## A context for the examples -/

/-- A context with a hook and with metrics. -/
def sampleContext : FireContext where
  subscriberCount := 1
  metrics := some { registry := none, wireFormat := "messages" }
  requestId := "req_1"
  promptHash _ := ""
  strOf _ := ""
  floatOf _ := 0

def sampleArgs : FireArgs where
  request := { model := "m", messages := [] }
  decision := none

end ModelMeld
