import ModelMeld.Spec.Gateway
import ModelMeld.Spec.Hooks
import ModelMeld.Spec.Chunks
import ModelMeld.Spec.ResponsesStream
import ModelMeld.Spec.AnthropicStream

/-!
# Streamed answers

The generators behind the three streamed routes: the frames they yield, and what
they record once the last frame has been taken; and where the chunks come from
when the upstream is Anthropic's SSE body on the OAuth path.
-/

namespace ModelMeld

/-! ## The Anthropic SSE body -/

/-- What follows a prefix of a line, stripped; nothing when the line does not begin with it. -/
def afterPrefix (field line : String) : Option String :=
  if field.toList.isPrefixOf line.toList then
    some (strip (String.ofList (line.toList.drop field.length)))
  else none

/-- The type of the `event:` line, for a payload that has none. -/
def withEventType (currentEvent : Option String) (payload : JsonObj) : JsonObj :=
  if currentEvent.getD "" ≠ "" ∧ payload.get? "type" = none then
    payload ++ [("type", .str (currentEvent.getD ""))]
  else payload

/-- `_parse_anthropic_sse`; `loads` is `json.loads`, without a value where it raises. -/
def parseAnthropicSse (loads : String → Option Json) : Option String → List String → List JsonObj
  | _, [] => []
  | currentEvent, line :: lines =>
    if line = "" then parseAnthropicSse loads none lines
    else
      match afterPrefix "event:" line with
      | some name => parseAnthropicSse loads (some name) lines
      | none =>
        match afterPrefix "data:" line with
        | none => parseAnthropicSse loads currentEvent lines
        | some data =>
          if data = "" then parseAnthropicSse loads currentEvent lines
          else
            match loads data with
            | some (.obj payload) =>
              withEventType currentEvent payload :: parseAnthropicSse loads currentEvent lines
            | _ => parseAnthropicSse loads currentEvent lines

theorem parseAnthropicSse_blank (loads : String → Option Json) (currentEvent : Option String)
    (lines : List String) :
    parseAnthropicSse loads currentEvent ("" :: lines) = parseAnthropicSse loads none lines := by
  rw [parseAnthropicSse, if_pos rfl]

/-- The loop of an Anthropic stream: each event is translated. An exception of the translator breaks
the stream off, as one of the events does. -/
def translatedStream (w : WireValues) (created : ℤ) (es : List ReceivedEvent) (breaksOff : Bool) :
    ChunkStream :=
  let out := AnthropicStreamTranslator.translateEvents w { created := created } es
  { chunks := out.1, breaksOff := out.2.isSome || breaksOff }

/-- The body of an answer that was accepted: its lines, and whether reading them breaks off with an
exception. -/
structure SseBody where
  lines : List String
  breaksOff : Bool := false

/-- What is read from outside while a body is translated. -/
structure SseReadings where
  values : WireValues
  loads : String → Option Json
  created : ℤ
  /-- By event: the time, and an id drawn. -/
  now : ℕ → ℤ
  freshId : ℕ → String

namespace SseBody

/-- The events of a body. -/
def received (r : SseReadings) (body : SseBody) : List ReceivedEvent :=
  (parseAnthropicSse r.loads none body.lines).mapIdx
    (fun i event => { event := event, now := r.now i, freshId := r.freshId i })

/-- `_stream_chat_via_oauth`, once the answer is accepted. -/
def chunkStream (r : SseReadings) (body : SseBody) : ChunkStream :=
  translatedStream r.values r.created (body.received r) body.breaksOff

end SseBody

/-- Where a stream of chunks comes from. -/
inductive UpstreamSource where
  /-- Any adapter. -/
  | adapter (stream : ChunkStream)
  /-- `AnthropicAdapter` with a bearer. -/
  | oauth (r : SseReadings) (body : SseBody)

def UpstreamSource.chunkStream : UpstreamSource → ChunkStream
  | .adapter stream => stream
  | .oauth r body => body.chunkStream r

/-- The type of a received event. -/
def ReceivedEvent.type (e : ReceivedEvent) : Json := e.event.getD "type" .null

/-- A stream that fails after its first chunk. -/
inductive UpstreamSource.FailsAfterFirst : UpstreamSource → Prop where
  /-- An exception comes after some chunk. -/
  | raises {source : UpstreamSource} (first : source.chunkStream.chunks ≠ [])
      (raised : source.chunkStream.breaksOff = true) : FailsAfterFirst source
  /-- An event after the one of some chunk says that there was an error. -/
  | errorEvent {r : SseReadings} {body : SseBody} (n : ℕ)
      (first : (translatedStream r.values r.created ((body.received r).take n) false).chunks ≠ [])
      (reported : (body.received r)[n]?.map ReceivedEvent.type = some (.str "error")) :
      FailsAfterFirst (.oauth r body)
  /-- The body ends before its message does. -/
  | truncated {r : SseReadings} {body : SseBody} (first : (body.chunkStream r).chunks ≠ [])
      (unended : ∀ e ∈ body.received r, e.type ≠ .str "message_stop") :
      FailsAfterFirst (.oauth r body)

/-! ## The generators -/

/-- `_chunk_content_tokens`. -/
def chunkContentTokens (chunk : ChatCompletionChunk) : ℤ :=
  (chunk.choices.map (fun choice =>
    let content := choice.delta.content.getD ""
    if content = "" then (0 : ℤ) else max 1 (content.length / 4 : ℕ))).sum

/-- `_sse_responses`, as what it yields. -/
def sseResponses (ids : ResponseIds) (stream : ChunkStream) (servedModel : String) (now : ℤ)
    (inputEstimate : ℤ) : List NumberedEvent :=
  let out := ResponsesStreamTranslator.translateChunks ids (.create ids servedModel now)
    stream.chunks
  if stream.breaksOff then out.1 else out.1 ++ (out.2.finalize ids inputEstimate).1

/-- A streamed route, with what its translator is set up with. -/
inductive StreamRoute where
  | chat (servedModel : Option String)
  | messages (ids : FreshIds) (requestModel : String) (inputTokens : ℤ)
  | responses (ids : ResponseIds) (servedModel : String) (now inputEstimate : ℤ)

/-- A frame of a streamed answer. -/
inductive Frame where
  | chat (frame : ChatSse)
  | message (event : AnthropicStreamEvent)
  | response (event : NumberedEvent)

/-- The frame that tells a client that the answer is complete. -/
def Frame.IsTerminator : Frame → Prop
  | .chat frame => frame = .done
  | .message event => event = .messageStop
  | .response event => ∃ response, event.event = .completed response

namespace StreamRoute

/-- The frames of a route. -/
def frames (stream : ChunkStream) : StreamRoute → List Frame
  | chat servedModel => (sseStream stream servedModel).map .chat
  | messages ids requestModel inputTokens =>
    (sseAnthropicStream ids stream requestModel inputTokens).map .message
  | responses ids servedModel now inputEstimate =>
    (sseResponses ids stream servedModel now inputEstimate).map .response

def isChat : StreamRoute → Bool
  | chat _ => true
  | messages _ _ _ | responses _ _ _ _ => false

end StreamRoute

/-- What each generator records after its last frame; `error` is the text of the exception, if the
stream breaks off with one. -/
def recordStream (ctx : FireContext) (args : FireArgs) (stream : ChunkStream) (error : String) :
    Recorded :=
  if stream.breaksOff then ctx.fireFailure args error "stream_error"
  else ctx.fireSuccessStream args (stream.chunks.map chunkContentTokens).sum
    (Chunks.usage stream.chunks)

/-! ## The client -/

/-- What a client does with a streamed answer: it reads to the end, or is gone when some frames
have been yielded, before the generator is resumed. -/
inductive Client where
  | reads
  | disconnects (taken : ℕ)
deriving DecidableEq

/-- What a client gets of an answer. -/
def Client.gets {F : Type} (frames : List F) : Client → List F
  | reads => frames
  | disconnects taken => frames.take taken

/-- Whether the generator is resumed after the last of some number of frames. -/
def Client.stays (frames : ℕ) : Client → Bool
  | reads => true
  | disconnects taken => decide (frames < taken)

/-- What is recorded of an answer: a generator that is not resumed is closed by an exception that
is no `Exception`, past all its handlers. -/
def Client.leaves (client : Client) (frames : ℕ) (recorded : Recorded) : Recorded :=
  if client.stays frames then recorded else {}

end ModelMeld
