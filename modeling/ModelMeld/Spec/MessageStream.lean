import ModelMeld.Spec.ToAnthropic

/-!
# Anthropic message streams

The grammar of an Anthropic event stream, and what a client reconstructs from
one. `MessageStream.events` lists the events of a stream that is well formed:
one `message_start`, blocks numbered from zero, each opened, filled with deltas
of its kind and closed before the next, one `message_delta`, one `message_stop`.
-/

namespace ModelMeld

def ContentBlockShell.kind : ContentBlockShell → BlockKind
  | .text _ => .text
  | .toolUse _ _ _ => .toolUse

def ContentBlockDelta.kind : ContentBlockDelta → BlockKind
  | .textDelta _ => .text
  | .inputJsonDelta _ => .toolUse

/-- The events of a stream of chunks: `translate_chunk` on each chunk in order, then `finalize`. -/
def messageEvents (ids : FreshIds) (requestModel : String) (inputTokens : ℤ)
    (chunks : List ChatCompletionChunk) : List AnthropicStreamEvent :=
  let out := StreamTranslator.translateChunks ids
    { requestModel := requestModel, inputTokens := inputTokens } chunks
  out.1 ++ (out.2.finalize ids).1

/-- `finalize` called a number of times. -/
def StreamTranslator.finalizeTimes (ids : FreshIds) : ℕ → StreamTranslator →
    List AnthropicStreamEvent × StreamTranslator
  | 0, st => ([], st)
  | k + 1, st =>
    let now := st.finalize ids
    let later := finalizeTimes ids k now.2
    (now.1 ++ later.1, later.2)

/-- The events of a stream of chunks that is finalized a number of times. -/
def messageEventsTimes (ids : FreshIds) (requestModel : String) (inputTokens : ℤ)
    (chunks : List ChatCompletionChunk) (k : ℕ) : List AnthropicStreamEvent :=
  let out := StreamTranslator.translateChunks ids
    { requestModel := requestModel, inputTokens := inputTokens } chunks
  out.1 ++ (out.2.finalizeTimes ids k).1

/-! ## The grammar -/

/-- One block of a stream: what it is opened with, and its deltas, which are of its kind. -/
structure StreamBlock where
  shell : ContentBlockShell
  deltas : List ContentBlockDelta := []
  kinds : ∀ d ∈ deltas, d.kind = shell.kind := by simp

namespace StreamBlock

/-- The events of a block that is not closed yet. -/
def opening (b : StreamBlock) (i : ℕ) : List AnthropicStreamEvent :=
  .contentBlockStart i b.shell :: b.deltas.map (.contentBlockDelta i)

def events (b : StreamBlock) (i : ℕ) : List AnthropicStreamEvent :=
  b.opening i ++ [.contentBlockStop i]

/-- The block with one more delta. -/
def push (b : StreamBlock) (d : ContentBlockDelta) (h : d.kind = b.shell.kind) : StreamBlock where
  shell := b.shell
  deltas := b.deltas ++ [d]
  kinds := by
    intro e he
    rcases List.mem_append.1 he with he | he
    · exact b.kinds e he
    · rw [List.mem_singleton.1 he]
      exact h

end StreamBlock

/-- The events of a list of blocks, the first of which has the given index. -/
def blockEvents : List StreamBlock → ℕ → List AnthropicStreamEvent
  | [], _ => []
  | b :: bs, i => b.events i ++ blockEvents bs (i + 1)

/-- A well-formed stream. -/
structure MessageStream where
  message : AnthropicMessagesResponse
  blocks : List StreamBlock
  stopReason : Option AnthropicStopReason
  stopSequence : Option String
  outputTokens : ℤ

def MessageStream.events (s : MessageStream) : List AnthropicStreamEvent :=
  .messageStart s.message ::
    (blockEvents s.blocks 0 ++ [.messageDelta s.stopReason s.stopSequence s.outputTokens,
      .messageStop])

/-- Each event on a block is on the block open then, and a block is opened when none is; `o` is the
block open at first. -/
def OnOpenBlock : Option ℕ → List AnthropicStreamEvent → Prop
  | _, [] => True
  | o, .contentBlockStart i _ :: es => o = none ∧ OnOpenBlock (some i) es
  | o, .contentBlockDelta i _ :: es => o = some i ∧ OnOpenBlock o es
  | o, .contentBlockStop i :: es => o = some i ∧ OnOpenBlock none es
  | o, _ :: es => OnOpenBlock o es

/-! ## What a client reads -/

/-- A content block as a client holds it, the input of a tool still as text. -/
inductive ReadBlock where
  | text (s : String)
  | toolUse (id name input : String)
deriving DecidableEq

namespace ReadBlock

def ofShell : ContentBlockShell → ReadBlock
  | .text s => .text s
  | .toolUse id name _ => .toolUse id name ""

/-- A delta of another kind changes nothing. -/
def add : ReadBlock → ContentBlockDelta → ReadBlock
  | .text s, .textDelta t => .text (s ++ t)
  | .toolUse id name input, .inputJsonDelta p => .toolUse id name (input ++ p)
  | b, _ => b

end ReadBlock

/-- What a client has read of a message. -/
structure ReadMessage where
  message : Option AnthropicMessagesResponse := none
  blocks : List ReadBlock := []
  stopReason : Option AnthropicStopReason := none
  outputTokens : Option ℤ := none
  stopped : Bool := false
deriving DecidableEq

namespace ReadMessage

/-- A client appends a block when it is started, and adds a delta to the block at its index. -/
def read (m : ReadMessage) : AnthropicStreamEvent → ReadMessage
  | .messageStart message => { m with message := some message }
  | .contentBlockStart _ shell => { m with blocks := m.blocks ++ [.ofShell shell] }
  | .contentBlockDelta i delta => { m with blocks := m.blocks.modify i (·.add delta) }
  | .contentBlockStop _ => m
  | .messageDelta stopReason _ outputTokens =>
    { m with stopReason := stopReason, outputTokens := some outputTokens }
  | .messageStop => { m with stopped := true }
  | .ping => m

end ReadMessage

/-- What a client makes of a stream. -/
def readMessage (es : List AnthropicStreamEvent) : ReadMessage := es.foldl ReadMessage.read {}

/-- What a client makes of one block. -/
def StreamBlock.content (b : StreamBlock) : ReadBlock :=
  b.deltas.foldl ReadBlock.add (.ofShell b.shell)

/-- Adjacent text blocks merged, and empty text blocks dropped. -/
def mergeTexts : List ReadBlock → List ReadBlock
  | [] => []
  | .toolUse id name input :: rest => .toolUse id name input :: mergeTexts rest
  | .text s :: rest =>
    match mergeTexts rest with
    | .text t :: more => .text (s ++ t) :: more
    | more => if s = "" then more else .text s :: more

/-- Text added to what a client holds: to the last block when it is a text block, else as a new
block. -/
def addText (blocks : List ReadBlock) (s : String) : List ReadBlock :=
  match blocks.getLast? with
  | some (.text t) => blocks.dropLast ++ [.text (t ++ s)]
  | _ => blocks ++ [.text s]

/-- A piece of input added to the last block, when it is a tool block. -/
def addInput (blocks : List ReadBlock) (p : String) : List ReadBlock :=
  match blocks.getLast? with
  | some (.toolUse id name input) => blocks.dropLast ++ [.toolUse id name (input ++ p)]
  | _ => blocks

/-! ## What passes through a stream -/

/-- The texts of the text deltas. -/
def textDeltas (es : List AnthropicStreamEvent) : List String :=
  es.filterMap (fun e => match e with
    | .contentBlockDelta _ (.textDelta s) => some s
    | _ => none)

/-- The pieces of input JSON sent to one block. -/
def inputDeltas (i : ℕ) (es : List AnthropicStreamEvent) : List String :=
  es.filterMap (fun e => match e with
    | .contentBlockDelta j (.inputJsonDelta s) => if j = i then some s else none
    | _ => none)

/-- The indices of the tool blocks, in the order in which they are opened. -/
def toolStarts (es : List AnthropicStreamEvent) : List ℕ :=
  es.filterMap (fun e => match e with
    | .contentBlockStart i (.toolUse _ _ _) => some i
    | _ => none)

/-- The `message_delta` events: stop reason and output tokens. -/
def messageDeltas (es : List AnthropicStreamEvent) : List (Option AnthropicStopReason × ℤ) :=
  es.filterMap (fun e => match e with
    | .messageDelta stopReason _ outputTokens => some (stopReason, outputTokens)
    | _ => none)

end ModelMeld
