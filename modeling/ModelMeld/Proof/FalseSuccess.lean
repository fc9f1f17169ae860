import ModelMeld.Proof.StreamEnds
import ModelMeld.Proof.UpstreamChunks

/-!
# Failed streams that end as successes

`no_false_success_iff`: a streamed answer neither says that it is complete nor
is recorded as a success exactly on the two routes that stop when the chunks
break off with an exception, and only then. A stream that fails in any other way
is to the routes one that has ended.
-/

namespace ModelMeld

/-- Nothing is recorded as a success: no metrics, and no event without an error. -/
def NoSuccess (recorded : Recorded) : Prop :=
  recorded.metrics = [] ∧ ∀ event ∈ recorded.events, event.error ≠ none

/-- A client is not told that the answer is complete, and no success is recorded. -/
def NoFalseSuccess (route : StreamRoute) (ctx : FireContext) (args : FireArgs)
    (stream : ChunkStream) (error : String) (client : Client) : Prop :=
  (∀ frame ∈ client.gets (route.frames stream), ¬ frame.IsTerminator) ∧
  NoSuccess (client.leaves (route.frames stream).length (recordStream ctx args stream error))

section FalseSuccess

variable {route : StreamRoute} {ctx : FireContext} {args : FireArgs} {stream : ChunkStream}
  {error : String}

theorem noSuccess_fireFailure (error errorType : String) :
    NoSuccess (ctx.fireFailure args error errorType) := by
  refine ⟨rfl, ?_⟩
  intro event hevent
  unfold FireContext.fireFailure FireContext.fire at hevent
  split at hevent
  · cases hevent
  · rw [List.mem_singleton.1 hevent]
    exact Option.some_ne_none error

/-- Whoever gets a frame gets one of the answer. -/
theorem Client.gets_subset {F : Type} (frames : List F) (client : Client) :
    ∀ frame ∈ client.gets frames, frame ∈ frames := by
  cases client with
  | reads => exact fun frame h => h
  | disconnects taken => exact fun frame h => List.mem_of_mem_take h

theorem noFalseSuccess_of_broken (hroute : route.isChat = false) (hbreaks : stream.breaksOff = true)
    (client : Client) : NoFalseSuccess route ctx args stream error client := by
  constructor
  · intro frame hframe hterminator
    have hended := (terminated_iff route stream).1
      ⟨frame, client.gets_subset _ frame hframe, hterminator⟩
    rw [hroute, hbreaks] at hended
    simp at hended
  · unfold Client.leaves recordStream
    rw [if_pos hbreaks]
    split
    · exact noSuccess_fireFailure error "stream_error"
    · exact ⟨rfl, fun event hevent => absurd hevent List.not_mem_nil⟩

/-- A client that reads to the end is told that the answer is complete. -/
theorem not_noFalseSuccess (h : route.isChat ∨ stream.breaksOff = false) :
    ¬ NoFalseSuccess route ctx args stream error .reads := by
  intro hnone
  obtain ⟨frame, hframe, hterminator⟩ := (terminated_iff route stream).2 h
  exact hnone.1 frame hframe hterminator

end FalseSuccess

/-- **When a failed stream is not passed off as a success.** Whatever the client does, it is not
told that the answer is complete and no success is recorded, if and only if the route is not the
chat route and the stream fails with an exception. -/
theorem no_false_success_iff (route : StreamRoute) (ctx : FireContext) (args : FireArgs)
    (source : UpstreamSource) (error : String) :
    (∀ client : Client, NoFalseSuccess route ctx args source.chunkStream error client) ↔
      route.isChat = false ∧ source.chunkStream.breaksOff = true := by
  constructor
  · intro h
    have hnone : ¬ (route.isChat ∨ source.chunkStream.breaksOff = false) :=
      fun hended => not_noFalseSuccess hended (h .reads)
    simpa using hnone
  · rintro ⟨hroute, hbreaks⟩ client
    exact noFalseSuccess_of_broken hroute hbreaks client

/-! ## Failures of each kind -/

/-- `\x7b"type": "message_start", ...\x7d` -/
def startJson : String :=
  "\x7b\"type\": \"message_start\", \"message\": \x7b\"id\": \"msg_1\"\x7d\x7d"

def errorJson : String := "\x7b\"type\": \"error\"\x7d"

/-- The readings of a body with these two payloads. -/
def sampleReadings : SseReadings where
  values := sampleValues
  loads s :=
    if s = startJson then
      some (.obj [("type", .str "message_start"), ("message", .obj [("id", .str "msg_1")])])
    else if s = errorJson then some (.obj [("type", .str "error")])
    else none
  created := 0
  now _ := 0
  freshId _ := "chatcmpl-1"

/-- A message that starts and is not heard of again. -/
def truncatedBody : SseBody where
  lines := ["event: message_start", "data: " ++ startJson, ""]

/-- A message that starts, and then an error. -/
def errorBody : SseBody where
  lines := ["event: message_start", "data: " ++ startJson, "", "event: error",
    "data: " ++ errorJson, ""]

/-- One chunk, then an exception. -/
def brokenStream : ChunkStream where
  chunks := [{ id := "chatcmpl-1", created := 0, model := "m", choices := [] }]
  breaksOff := true

/-- A chat stream is said to be complete though it breaks off, a Messages stream though the body
reports an error, and a Responses stream though the body is cut short. -/
theorem false_successes :
    ((UpstreamSource.adapter brokenStream).FailsAfterFirst ∧
      ¬ NoFalseSuccess (.chat none) sampleContext sampleArgs brokenStream "" .reads) ∧
    ((UpstreamSource.oauth sampleReadings errorBody).FailsAfterFirst ∧
      ¬ NoFalseSuccess (.messages (.drawn "1" (fun _ => "1")) "m" 0) sampleContext sampleArgs
        (errorBody.chunkStream sampleReadings) "" .reads) ∧
    ((UpstreamSource.oauth sampleReadings truncatedBody).FailsAfterFirst ∧
      ¬ NoFalseSuccess (.responses (.drawn "1" "1" (fun _ => "1") (fun _ => "1")) "m" 0 0)
        sampleContext sampleArgs (truncatedBody.chunkStream sampleReadings) "" .reads) := by
  refine ⟨⟨.raises (by decide) rfl, not_noFalseSuccess (.inl rfl)⟩, ⟨?_, ?_⟩, ⟨?_, ?_⟩⟩
  · exact .errorEvent 1 (by decide) (by decide)
  · exact not_noFalseSuccess (.inr (by decide))
  · exact .truncated (by decide) (by decide)
  · exact not_noFalseSuccess (.inr (by decide))

end ModelMeld
