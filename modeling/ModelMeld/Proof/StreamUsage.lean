import ModelMeld.Proof.StreamEnds
import ModelMeld.Proof.Decoders

/-!
# The usage of a streamed request

`stream_usage_iff`: the routes keep the last usage a stream of chunks reports,
which for an Anthropic stream is that of its end and has no input tokens; so
what is recorded is right exactly when there were none.
-/

namespace ModelMeld

/-- One success is recorded, with some token counts, in the metrics and with the hooks. -/
structure RecordsUsage (recorded : Recorded) (i o : ℤ) : Prop where
  metrics : recorded.metrics.map (fun m => (m.inputTokens, m.outputTokens)) = [(i, o)]
  events : recorded.events.map (fun e => (e.inputTokens, e.outputTokens, e.totalTokens)) =
    [(i, o, i + o)]

/-- Every response that some frames say is completed has some usage. -/
def CompletesWith (frames : List Frame) (i o : ℤ) : Prop :=
  ∀ n response, .response ⟨n, .completed response⟩ ∈ frames →
    response.usage = some ⟨i, o, i + o⟩

/-- A completion with some usage. -/
def ChatCompletion.Uses (completion : ChatCompletion) (i o : ℤ) : Prop :=
  ∃ usage, completion.usage = some usage ∧ usage.promptTokens = i ∧
    usage.completionTokens = o ∧ usage.totalTokens = i + o

section Usage

variable {ctx : FireContext} (args : FireArgs)

/-- What a success leaves, when metrics are collected and a hook is registered. -/
theorem recordSuccess_counts (hhook : ctx.subscriberCount ≠ 0) (hmetrics : ctx.metrics.isSome)
    (i o t : ℤ) (cacheStatus : Option String) :
    (ctx.recordSuccess args i o t cacheStatus).metrics.map
        (fun m => (m.inputTokens, m.outputTokens)) = [(i, o)] ∧
    (ctx.recordSuccess args i o t cacheStatus).events.map
        (fun e => (e.inputTokens, e.outputTokens, e.totalTokens)) = [(i, o, t)] := by
  obtain ⟨sink, hsink⟩ := Option.isSome_iff_exists.1 hmetrics
  unfold FireContext.recordSuccess FireContext.recordMetrics FireContext.fire
  simp only [hsink, if_neg hhook]
  exact ⟨rfl, rfl⟩

variable {w : WireValues} {u : UpstreamMessage} {es : List ReceivedEvent}

/-- The stream of a message does not break off, and its last usage is that of its end. -/
theorem usage_translatedStream (created : ℤ) (hdecodes : Decodes es u.events) :
    (translatedStream w created es false).breaksOff = false ∧
    Chunks.usage (translatedStream w created es false).chunks =
      some (AnthropicStreamTranslator.closingUsage u.outputTokens) := by
  obtain ⟨first, rest, hchunks, -, -, husages, -⟩ :=
    AnthropicStreamTranslator.chunks_message (w := w) created hdecodes
  unfold translatedStream Chunks.usage
  rw [hchunks]
  refine ⟨rfl, ?_⟩
  -- the usage of the start is not the last one
  rw [husages, List.getLast?_append]
  rfl

/-- What is recorded of the stream of a message: no input tokens. -/
theorem recordStream_counts (created : ℤ) (error : String) (hhook : ctx.subscriberCount ≠ 0)
    (hmetrics : ctx.metrics.isSome) (hdecodes : Decodes es u.events) :
    (recordStream ctx args (translatedStream w created es false) error).metrics.map
        (fun m => (m.inputTokens, m.outputTokens)) = [(0, u.outputTokens)] ∧
    (recordStream ctx args (translatedStream w created es false) error).events.map
        (fun e => (e.inputTokens, e.outputTokens, e.totalTokens)) =
      [(0, u.outputTokens, u.outputTokens)] := by
  obtain ⟨hends, husage⟩ := usage_translatedStream (w := w) created hdecodes
  unfold recordStream
  rw [hends, if_neg (by simp), husage]
  exact recordSuccess_counts args hhook hmetrics 0 u.outputTokens u.outputTokens none

/-- The responses that a stream completes have the usage of its end. -/
theorem completesWith_closing (created : ℤ) (hdecodes : Decodes es u.events)
    (route : StreamRoute) :
    CompletesWith (route.frames (translatedStream w created es false)) 0 u.outputTokens := by
  obtain ⟨hends, husage⟩ := usage_translatedStream (w := w) created hdecodes
  intro n response hmem
  cases route with
  | chat model => simp [StreamRoute.frames] at hmem
  | messages ids model inputTokens => simp [StreamRoute.frames] at hmem
  | responses ids model now inputEstimate =>
    -- only a stream of responses completes one, and it completes one only
    obtain ⟨response', hone, hcounts⟩ := completions_of_ended ids model now inputEstimate hends
    have hcompleted : response ∈ completions ((sseResponses ids
        (translatedStream w created es false) model now inputEstimate).map
          NumberedEvent.event) := by
      rw [mem_completions]
      obtain ⟨event, hevent, heq⟩ := List.mem_map.1 hmem
      obtain rfl := Frame.response.inj heq
      exact List.mem_map_of_mem hevent
    rw [hone, List.mem_singleton] at hcompleted
    rw [hcompleted]
    exact hcounts _ husage

/-- The whole message is decoded with both counts. -/
theorem uses_whole {loads : String → Option Json} {m : WholeMessage} {response : JsonObj}
    (hmessage : ReadsMessage response m) (hstreamed : m.StreamedAs loads u) (now : ℤ)
    (freshId : String) :
    ∃ completion, fromAnthropicResponse w now freshId response = .ok completion ∧
      completion.Uses u.usage.inputTokens u.outputTokens := by
  refine ⟨_, fromAnthropicResponse_message w hmessage now freshId, _, rfl, ?_, ?_, ?_⟩
  · exact hstreamed.inputTokens.symm
  · exact hstreamed.outputTokens.symm
  · rw [hstreamed.inputTokens, hstreamed.outputTokens]

/-- **When the recorded usage is right.** For the stream of a message on any of the three routes,
what is recorded of the request, and what a completed response says, are the input and output
tokens of the message, as they are when it is not streamed, if and only if it has no input
tokens. -/
theorem stream_usage_iff (ctx : FireContext) (args : FireArgs) (w : WireValues)
    (loads : String → Option Json) (m : WholeMessage) (u : UpstreamMessage) (response : JsonObj)
    (es : List ReceivedEvent) (created now : ℤ) (freshId error : String) (route : StreamRoute)
    (hhook : ctx.subscriberCount ≠ 0) (hmetrics : ctx.metrics.isSome)
    (hmessage : ReadsMessage response m) (hstreamed : m.StreamedAs loads u)
    (hdecodes : Decodes es u.events) :
    (RecordsUsage (recordStream ctx args (translatedStream w created es false) error)
        u.usage.inputTokens u.outputTokens ∧
      CompletesWith (route.frames (translatedStream w created es false))
        u.usage.inputTokens u.outputTokens ∧
      ∃ completion, fromAnthropicResponse w now freshId response = .ok completion ∧
        completion.Uses u.usage.inputTokens u.outputTokens) ↔
    u.usage.inputTokens = 0 := by
  obtain ⟨hrecorded, hevents⟩ :=
    recordStream_counts (w := w) args created error hhook hmetrics hdecodes
  constructor
  · rintro ⟨hcounts, -, -⟩
    have hmetrics' := hcounts.metrics
    rw [hrecorded, List.singleton_inj, Prod.mk.injEq] at hmetrics'
    exact hmetrics'.1.symm
  · intro hzero
    have hcompletes := completesWith_closing (w := w) created hdecodes route
    have hwhole := uses_whole (w := w) hmessage hstreamed now freshId
    rw [hzero] at hwhole ⊢
    refine ⟨⟨hrecorded, ?_⟩, hcompletes, hwhole⟩
    rw [hevents, zero_add]

end Usage

/-! ## Examples -/

/-- The message whose prompt was read from the cache altogether. -/
def cachedWhole : WholeMessage :=
  { oneText with usage := { inputTokens := 0, outputTokens := 5, cacheReadInputTokens := some 3 } }

def cachedStream : UpstreamMessage :=
  { oneTextStream with
    usage := { inputTokens := 0, outputTokens := 0, cacheReadInputTokens := some 3 } }

theorem cachedWhole_streamed : cachedWhole.StreamedAs sampleLoads cachedStream where
  id := rfl
  model := rfl
  blocks := oneText_streamed.blocks
  stopReason := rfl
  inputTokens := rfl
  cacheWrite := rfl
  cacheRead := rfl
  outputTokens := rfl

theorem stream_usage_sample :
    sampleContext.subscriberCount ≠ 0 ∧ sampleContext.metrics.isSome ∧
    RecordsUsage (recordStream sampleContext sampleArgs (translatedStream sampleValues 0
      (cachedStream.received 0 "chatcmpl-1") false) "") 0 5 :=
  ⟨by decide, by decide,
    ((stream_usage_iff sampleContext sampleArgs sampleValues sampleLoads cachedWhole cachedStream
      cachedWhole.wire _ 0 0 "chatcmpl-1" "" (.chat none) (by decide) (by decide)
      (reads_wholeWire cachedWhole) cachedWhole_streamed
      (decodes_received cachedStream 0 "chatcmpl-1")).2 rfl).1⟩

/-- Three input tokens are recorded as none. -/
theorem stream_usage_lost :
    ReadsMessage sampleWhole.wire sampleWhole ∧
    sampleWhole.StreamedAs sampleLoads sampleMessage ∧
    Decodes (sampleMessage.received 0 "chatcmpl-1") sampleMessage.events ∧
    sampleMessage.usage.inputTokens = 3 ∧ sampleMessage.outputTokens = 5 ∧
    ¬ RecordsUsage (recordStream sampleContext sampleArgs (translatedStream sampleValues 0
      (sampleMessage.received 0 "chatcmpl-1") false) "") 3 5 := by
  have hdecodes := decodes_received sampleMessage 0 "chatcmpl-1"
  refine ⟨reads_wholeWire sampleWhole, sampleWhole_streamed, hdecodes, rfl, rfl, ?_⟩
  intro hcounts
  have hmetrics := hcounts.metrics
  rw [(recordStream_counts sampleArgs 0 "" (by decide) (by decide) hdecodes).1] at hmetrics
  exact absurd hmetrics (by decide)

end ModelMeld
