import ModelMeld.Spec.Gateway
import ModelMeld.Spec.Retry

/-!
# Streams, from the upstream to the client

The three layers a streamed request goes through: the generator of an adapter,
which opens an upstream stream, with retries, and reads it; `_try_open_stream`,
which asks the generator for its first chunk; and the loop of a handler, which
sends that chunk and asks for the rest. The upstream, and what an adapter makes
of each of its events, are inputs.
-/

namespace ModelMeld

/-! ## The generator of an adapter -/

/-- An upstream stream that has been opened: what the adapter makes of each event (a chunk, nothing,
or an exception), and the exception the upstream breaks off with, if it does. -/
structure SdkStream where
  events : List (Except PyException (Option ChatCompletionChunk))
  fails : Option PyException := none

namespace SdkStream

/-- The chunks of an upstream stream. -/
def produced (s : SdkStream) : List ChatCompletionChunk :=
  s.events.filterMap (fun event => match event with
    | .ok chunk => chunk
    | .error _ => none)

/-- The loop of a generator over the events: the chunks it yields, and the exception that ends it. -/
def iterate (fails : Option PyException) :
    List (Except PyException (Option ChatCompletionChunk)) →
      List ChatCompletionChunk × Option PyException
  | [] => ([], fails)
  | .ok none :: events => iterate fails events
  | .ok (some chunk) :: events =>
    let rest := iterate fails events
    (chunk :: rest.1, rest.2)
  | .error exc :: _ => ([], some exc)

end SdkStream

/-- An exception that leaves a generator. -/
inductive StreamFailure where
  | adapter (error : AdapterError)
  | other (exc : PyException)

/-- An asynchronous generator: the chunks it has yet to yield, and how it ends. -/
structure ChunkIter where
  pending : List ChatCompletionChunk
  failure : Option StreamFailure

/-- `__anext__`. -/
inductive Anext where
  | chunk (c : ChatCompletionChunk) (rest : ChunkIter)
  /-- `StopAsyncIteration`. -/
  | stop
  | raises (failure : StreamFailure)

def ChunkIter.anext (iter : ChunkIter) : Anext :=
  match iter.pending, iter.failure with
  | c :: rest, _ => .chunk c { iter with pending := rest }
  | [], some failure => .raises failure
  | [], none => .stop

/-- How the `stream_chat` of an adapter is written: how often it tries to open a stream, if it
retries, and what it raises for an exception before and after the stream is open. -/
structure StreamCode where
  maxAttempts : Option ℤ
  openFailure : PyException → StreamFailure
  breakFailure : PyException → StreamFailure

namespace StreamCode

/-- The opening of a stream: what it comes to, and the number of attempts. -/
def tries (code : StreamCode) (upstream : ℕ → Except PyException SdkStream) :
    Tried PyException SdkStream :=
  match code.maxAttempts with
  | some maxAttempts => retryAsync upstream maxAttempts
  | none => ⟨upstream 0, 1⟩

/-- `stream_chat`; `upstream n` is what the attempt after `n` others comes to. -/
def streamChat (code : StreamCode) (upstream : ℕ → Except PyException SdkStream) : ChunkIter :=
  match (code.tries upstream).result with
  | .error exc => ⟨[], some (code.openFailure exc)⟩
  | .ok stream =>
    let read := SdkStream.iterate stream.fails stream.events
    ⟨read.1, read.2.map code.breakFailure⟩

/-- An exception wrapped as an `AdapterError`. -/
def wrapped (label : String) (exc : PyException) : StreamFailure :=
  .adapter (wrapAsAdapterError exc label)

/-- `OpenAIAdapter`, and the adapters that inherit its `stream_chat`. -/
def openai (maxAttempts : ℤ) : StreamCode where
  maxAttempts := some maxAttempts
  openFailure := wrapped "OpenAI stream_chat call failed"
  breakFailure := wrapped "OpenAI stream_chat stream interrupted"

/-- `AnthropicAdapter`, with an API key. -/
def anthropic (maxAttempts : ℤ) : StreamCode where
  maxAttempts := some maxAttempts
  openFailure := wrapped "Anthropic stream_chat call failed"
  breakFailure := wrapped "Anthropic stream_chat stream interrupted"

/-- `AnthropicAdapter`, with a subscription bearer: an `AdapterError` is raised as it is, and every
other exception is wrapped. -/
def anthropicOauth : StreamCode where
  maxAttempts := none
  openFailure := oauthFailure
  breakFailure := oauthFailure
where
  oauthFailure (exc : PyException) : StreamFailure :=
    if exc.className = "AdapterError" then .adapter ⟨.plain, exc.text⟩
    else wrapped "Anthropic OAuth passthrough stream_chat failed" exc

/-- `CodexPassthroughAdapter`: the loop over the events catches nothing. -/
def codexPassthrough (maxAttempts : ℤ) : StreamCode where
  maxAttempts := some maxAttempts
  openFailure := wrapped "Codex passthrough stream_chat failed"
  breakFailure := .other

end StreamCode

/-! ## Opening, and the loop of a handler -/

/-- What `_try_open_stream` returns. -/
structure OpenedStream where
  aiter : Option ChunkIter
  first : Option ChatCompletionChunk
  error : Option AdapterError

/-- `_try_open_stream`, and `_try_open_stream_native`. -/
def tryOpenStream (iter : ChunkIter) : Except PyException OpenedStream :=
  match iter.anext with
  | .chunk first rest => .ok ⟨some rest, some first, none⟩
  | .stop => .ok ⟨some ⟨[], none⟩, none, none⟩
  | .raises (.adapter error) => .ok ⟨none, none, some error⟩
  | .raises (.other exc) => .error exc

/-- `async for chunk in aiter`: the chunks the handler goes through, and the exception it catches. -/
def readOn : Option ChunkIter → List ChatCompletionChunk × Option StreamFailure
  | none => ([], none)
  | some iter => (iter.pending, iter.failure)

/-- The loop of `_sse_stream`, `_sse_anthropic_stream` and `_sse_responses`: the first chunk, then
those of the iterator. -/
def OpenedStream.read (opened : OpenedStream) :
    List ChatCompletionChunk × Option StreamFailure :=
  let rest := readOn opened.aiter
  (opened.first.toList ++ rest.1, rest.2)

/-- What the handler goes by: an exception, the error of a stream that did not open, or the stream
its loop goes through. -/
def openedUpstream : Except PyException OpenedStream → Upstream ChunkStream
  | .error _ => .raised
  | .ok opened =>
    if opened.first.isNone ∧ opened.aiter.isNone then
      .failed (opened.error.getD ⟨.plain, "primary stream open failed"⟩)
    else .ok ⟨opened.read.1, opened.read.2.isSome⟩

/-! ## Streamed requests -/

/-- The upstreams of one request: for its first and its second dispatch, the code of the adapter and
what each attempt comes to. -/
structure StreamUpstreams where
  code : Dispatch → StreamCode
  upstream : ℕ → Dispatch → ℕ → Except PyException SdkStream

namespace StreamUpstreams

/-- What the opening of a stream comes to. -/
def answer (u : StreamUpstreams) (i : ℕ) (d : Dispatch) : Upstream ChunkStream :=
  openedUpstream (tryOpenStream ((u.code d).streamChat (u.upstream i d)))

/-- The attempts of one dispatch, in order. -/
def attemptsOf (u : StreamUpstreams) (i : ℕ) (d : Dispatch) : List (Except PyException SdkStream) :=
  (List.range ((u.code d).tries (u.upstream i d)).attempts).map (u.upstream i d)

/-- The attempts of a request's dispatches, in order, the first dispatch being number `i`. -/
def attemptsFrom (u : StreamUpstreams) : ℕ → List Dispatch → List (Except PyException SdkStream)
  | _, [] => []
  | i, d :: ds => u.attemptsOf i d ++ u.attemptsFrom (i + 1) ds

end StreamUpstreams

/-- What a request reads from outside, with these upstreams. -/
def Outside.withUpstreams {ε : Type} (outside : Outside ε) (u : StreamUpstreams) : Outside ε :=
  { outside with stream := u.answer }

/-- Whether a call asks for a stream. -/
def Call.asksStream : Call → Bool
  | .chat request => request.streaming
  | .messages body => body.stream.getD false
  | .responses stream _ => stream

end ModelMeld
