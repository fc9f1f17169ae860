import ModelMeld.Spec.Upstream
import ModelMeld.Spec.Chunks
import ModelMeld.Lib.Transducer

/-!
# The chunks of an Anthropic stream

`translateEvents_pieces`: on dicts that read as events, the translator raises
nothing, and what its chunks say is a run of a transducer over the events.
`pieces_message`: for the events of a message, the chunks carry the start usage,
the items of its blocks, and the finish reason and usage of its end.
-/

namespace ModelMeld

/-- What a chunk says. -/
structure ChunkPieces where
  usage : Option Usage
  items : List DeltaItem
  finish : Option FinishReason

/-- What a chunk says. -/
def ChatCompletionChunk.pieces (chunk : ChatCompletionChunk) : ChunkPieces where
  usage := chunk.usage
  items := chunk.items
  finish := Chunks.finishOf chunk

/-! ## Reading dicts -/

theorem ok_bind {ε α β : Type} (a : α) (f : α → Except ε β) : (Except.ok a >>= f) = f a := rfl

theorem pure_eq {ε α : Type} (a : α) : (pure a : Except ε α) = .ok a := rfl

theorem getD_of_get? {d : JsonObj} {key : String} {v default : Json} (h : d.get? key = some v) :
    d.getD key default = v := by
  unfold JsonObj.getD
  rw [h]
  rfl

theorem truthy_of_get? {d : JsonObj} {key : String} {v : Json} (h : d.get? key = some v) :
    (Json.obj d).truthy = true := by
  cases d with
  | nil => simp [JsonObj.get?] at h
  | cons field rest => rfl

/-! ## The plainest dicts -/

theorem reads_wire (u : UpstreamEvent) : Reads u.wire u := by
  cases u with
  | messageStart id model usage =>
    exact ⟨rfl, _, usage.wire, rfl, rfl, rfl, rfl, rfl, rfl, rfl⟩
  | blockStart i shell =>
    cases shell with
    | text s => exact ⟨rfl, rfl, _, rfl, rfl, rfl⟩
    | toolUse id name input => exact ⟨rfl, rfl, _, rfl, rfl, rfl, rfl, rfl⟩
  | blockDelta i delta =>
    cases delta with
    | textDelta s => exact ⟨rfl, rfl, _, rfl, rfl, rfl⟩
    | inputJsonDelta p => exact ⟨rfl, rfl, _, rfl, rfl, rfl⟩
  | blockStop i => exact ⟨rfl, rfl⟩
  | messageDelta stopReason outputTokens => exact ⟨rfl, _, _, rfl, rfl, rfl, rfl⟩
  | messageStop => rfl

/-- Every message is streamed by some dicts. -/
theorem decodes_received (m : UpstreamMessage) (now : ℤ) (freshId : String) :
    Decodes (m.received now freshId) m.events := by
  unfold UpstreamMessage.received
  induction m.events with
  | nil => exact .nil
  | cons u us ih => exact .cons (reads_wire u) ih

namespace AnthropicStreamTranslator

/-! ## The events, read -/

/-- The details of the usage of a `message_start`. -/
def startDetails (usage : AnthropicUsage) : Option PromptTokensDetails :=
  if usage.cacheCreationInputTokens = none ∧ usage.cacheReadInputTokens = none then none
  else some
    { cachedTokens := usage.cacheReadInputTokens
      cacheCreationInputTokens := usage.cacheCreationInputTokens
      cacheReadInputTokens := usage.cacheReadInputTokens }

/-- The usage a `message_start` is read as; `none` when there is nothing to carry. -/
def startUsage (usage : AnthropicUsage) : Option Usage :=
  if startDetails usage = none ∧ usage.inputTokens = 0 then none
  else some
    { promptTokens := usage.inputTokens
      completionTokens := 0
      totalTokens := usage.inputTokens
      promptTokensDetails := startDetails usage }

/-- The finish reason a stop reason of the stream is read as; an empty one is none. -/
def streamFinish (stopReason : Option String) : Option FinishReason :=
  match stopReason with
  | none => none
  | some s => if s = "" then none else some ((stopReasonMap.lookup s).getD .stop)

/-- The usage a `message_delta` is read as. -/
def closingUsage (outputTokens : ℤ) : Usage :=
  { promptTokens := 0, completionTokens := outputTokens, totalTokens := outputTokens }

/-- What the state remembers: the tool index of a block, and the next one. -/
abbrev Remembered := OrderedDict Json ℕ × ℕ

def remembered (st : AnthropicStreamTranslator) : Remembered :=
  (st.blockToToolIndex, st.nextToolIndex)

/-- The first delta of a tool. -/
def headerDelta (tool : ℕ) (id name : String) : ToolCallDelta where
  index := tool
  id := some id
  hasType := true
  function := some { name := some name, arguments := some "" }

/-- A delta with a piece of input. -/
def inputDelta (tool : ℕ) (p : String) : ToolCallDelta where
  index := tool
  function := some { arguments := some p }

/-- What the chunks of one event say. -/
def readEvent (m : Remembered) : UpstreamEvent → List ChunkPieces × Remembered
  | .messageStart _ _ usage => ([⟨startUsage usage, [], none⟩], m)
  | .blockStart _ (.text _) => ([], m)
  | .blockStart i (.toolUse id name _) =>
    ([⟨none, [.tool (headerDelta m.2 id name)], none⟩], (m.1.insert (.int i) m.2, m.2 + 1))
  | .blockDelta _ (.textDelta s) => ([⟨none, if s = "" then [] else [.text s], none⟩], m)
  | .blockDelta i (.inputJsonDelta p) =>
    match m.1.get? (.int i) with
    | none => ([], m)
    | some tool => ([⟨none, [.tool (inputDelta tool p)], none⟩], m)
  | .blockStop _ => ([], m)
  | .messageDelta stopReason outputTokens =>
    ([⟨some (closingUsage outputTokens), [], streamFinish stopReason⟩], m)
  | .messageStop => ([], m)

/-! ## Reading the dicts -/

/-- The id and the model kept are texts. -/
def Named (st : AnthropicStreamTranslator) : Prop :=
  ∃ id model, st.id = .str id ∧ st.model = .str model

variable {w : WireValues} {st : AnthropicStreamTranslator} {e : ReceivedEvent}

/-- With texts for id and model a chunk is always made. -/
theorem chunk_ok (h : st.Named) (freshId : String) (delta : ChoiceDelta)
    (finish : Option FinishReason) (usage : Option Usage) :
    ∃ c, st.chunk freshId delta finish usage = .ok c ∧
      c.pieces = ⟨usage, delta.items, finish⟩ := by
  obtain ⟨id, model, hid, hmodel⟩ := h
  refine ⟨
    { id := if id = "" then freshId else id
      created := st.created
      model := model
      choices := [{ index := 0, delta := delta, finishReason := finish }]
      usage := usage }, ?_, rfl⟩
  unfold chunk
  rw [hid, hmodel]
  by_cases hempty : id = ""
  · simp [hempty, Json.truthy, Json.asStr, ok_bind, pure_eq]
  · simp [hempty, Json.truthy, Json.asStr, ok_bind, pure_eq]

/-- What reading one dict comes to. -/
def ReadsAs (w : WireValues) (st : AnthropicStreamTranslator) (e : ReceivedEvent)
    (out : List ChunkPieces × Remembered) : Prop :=
  ∃ c st', translateEvent w st e = .ok (c, st') ∧ st'.Named ∧
    c.toList.map ChatCompletionChunk.pieces = out.1 ∧ st'.remembered = out.2

theorem reads_nothing (h : st.Named) (hevent : translateEvent w st e = .ok (none, st)) :
    ReadsAs w st e ([], st.remembered) :=
  ⟨none, st, hevent, h, rfl, rfl⟩

theorem reads_blockStop (h : st.Named) {i : ℕ} (hreads : Reads e.event (.blockStop i)) :
    ReadsAs w st e ([], st.remembered) := by
  refine reads_nothing h ?_
  unfold translateEvent
  rw [getD_of_get? hreads.1]
  rfl

theorem reads_messageStop (h : st.Named) (hreads : Reads e.event .messageStop) :
    ReadsAs w st e ([], st.remembered) := by
  refine reads_nothing h ?_
  have htype : e.event.get? "type" = some (.str "message_stop") := hreads
  unfold translateEvent
  rw [getD_of_get? htype]
  rfl

theorem reads_ignorable (hignorable : Ignorable e.event) :
    translateEvent w st e = .ok (none, st) := by
  unfold translateEvent
  split
  next hs => exact absurd hs (hignorable _ (by simp))
  next hs => exact absurd hs (hignorable _ (by simp))
  next hs => exact absurd hs (hignorable _ (by simp))
  next hs => exact absurd hs (hignorable _ (by simp))
  · rfl

theorem reads_blockStart (h : st.Named) {i : ℕ} {shell : ContentBlockShell}
    (hreads : Reads e.event (.blockStart i shell)) :
    ReadsAs w st e (readEvent st.remembered (.blockStart i shell)) := by
  obtain ⟨htype, hindex, block, hblock, hshell⟩ := hreads
  have hevent : translateEvent w st e = onBlockStart st e := by
    unfold translateEvent
    rw [getD_of_get? htype]
    rfl
  cases shell with
  | text s =>
    -- no chunk is made of the start of a text block
    obtain ⟨hkind, -⟩ := hshell
    refine reads_nothing h ?_
    rw [hevent]
    unfold onBlockStart
    simp [getD_of_get? hblock, getD_of_get? hkind, Json.asDict, ok_bind, pure_eq]
  | toolUse id name input =>
    obtain ⟨hkind, hid, hname, -⟩ := hshell
    -- the block takes the next tool index, which is remembered for its deltas
    let next : AnthropicStreamTranslator :=
      { st with
        nextToolIndex := st.nextToolIndex + 1
        blockToToolIndex := st.blockToToolIndex.insert (.int i) st.nextToolIndex }
    have hnext : next.Named := h
    obtain ⟨c, hc, hpieces⟩ := chunk_ok hnext e.freshId
      { toolCalls := some [headerDelta st.nextToolIndex id name] } none none
    refine ⟨some c, next, ?_, hnext, ?_, rfl⟩
    · rw [hevent]
      unfold onBlockStart
      simp only [getD_of_get? hblock, getD_of_get? hkind, getD_of_get? hindex, getD_of_get? hid,
        getD_of_get? hname, Json.asDict, Json.asKey, Json.asOptStr, Json.asStr, Except.map, ok_bind,
        if_true]
      change (next.chunk e.freshId { toolCalls := some [headerDelta st.nextToolIndex id name] }
        none none >>= fun chunk => pure (some chunk, next)) = _
      rw [hc]
      rfl
    · simp only [Option.toList_some, List.map_cons, List.map_nil, hpieces]
      rfl

theorem reads_blockDelta (h : st.Named) {i : ℕ} {delta : ContentBlockDelta}
    (hreads : Reads e.event (.blockDelta i delta)) :
    ReadsAs w st e (readEvent st.remembered (.blockDelta i delta)) := by
  obtain ⟨htype, hindex, fields, hfields, hdelta⟩ := hreads
  have hevent : translateEvent w st e = onBlockDelta st e := by
    unfold translateEvent
    rw [getD_of_get? htype]
    rfl
  cases delta with
  | textDelta s =>
    obtain ⟨hkind, htext⟩ := hdelta
    obtain ⟨c, hc, hpieces⟩ := chunk_ok h e.freshId { content := some s } none none
    refine ⟨some c, st, ?_, h, ?_, rfl⟩
    · rw [hevent]
      unfold onBlockDelta
      simp only [getD_of_get? hfields, getD_of_get? hkind, getD_of_get? htext, Json.asDict,
        Json.asOptStr, Json.asStr, Except.map, ok_bind, if_true, hc]
      rfl
    · simp only [Option.toList_some, List.map_cons, List.map_nil, hpieces]
      simp [readEvent, ChoiceDelta.items, ChoiceDelta.textItems]
  | inputJsonDelta p =>
    obtain ⟨hkind, hpartial⟩ := hdelta
    have hkinds : ¬ Json.str "input_json_delta" = Json.str "text_delta" := by simp
    have hevent : translateEvent w st e =
        match st.blockToToolIndex.get? (.int i) with
        | none => .ok (none, st)
        | some tool =>
          st.chunk e.freshId { toolCalls := some [inputDelta tool p] } none none >>=
            fun chunk => pure (some chunk, st) := by
      rw [hevent]
      unfold onBlockDelta
      simp only [getD_of_get? hfields, getD_of_get? hkind, getD_of_get? hindex,
        getD_of_get? hpartial, Json.asDict, Json.asKey, Json.asOptStr, Json.asStr, Except.map,
        ok_bind, if_true, if_neg hkinds]
      rfl
    unfold readEvent
    change ReadsAs w st e (match st.blockToToolIndex.get? (.int i) with
      | none => ([], st.remembered)
      | some tool => ([⟨none, [.tool (inputDelta tool p)], none⟩], st.remembered))
    cases htool : st.blockToToolIndex.get? (.int i) with
    | none =>
      rw [htool] at hevent
      -- the block has no tool index: the piece of input is dropped
      exact reads_nothing h hevent
    | some tool =>
      rw [htool] at hevent
      obtain ⟨c, hc, hpieces⟩ :=
        chunk_ok h e.freshId { toolCalls := some [inputDelta tool p] } none none
      refine ⟨some c, st, ?_, h, ?_, rfl⟩
      · rw [hevent]
        simp only [hc, ok_bind]
        rfl
      · simp only [Option.toList_some, List.map_cons, List.map_nil, hpieces]
        rfl

/-- The finish reason of a stop reason on the wire. -/
theorem finish_of_wire (stopReason : Option String) :
    messageDeltaFinish (.ofOptStr stopReason) = .ok (streamFinish stopReason) := by
  unfold messageDeltaFinish
  cases stopReason with
  | none => rfl
  | some s =>
    by_cases hs : s = ""
    · simp [Json.ofOptStr, Json.truthy, streamFinish, hs]
    · simp [Json.ofOptStr, Json.truthy, streamFinish, hs, finishOfStop, Json.asKey, ok_bind,
        pure_eq, Except.map]

theorem reads_messageDelta (h : st.Named) {stopReason : Option String} {outputTokens : ℤ}
    (hreads : Reads e.event (.messageDelta stopReason outputTokens)) :
    ReadsAs w st e (readEvent st.remembered (.messageDelta stopReason outputTokens)) := by
  obtain ⟨htype, delta, counts, hdelta, hstop, husage, houtput⟩ := hreads
  have hevent : translateEvent w st e = onMessageDelta w st e := by
    unfold translateEvent
    rw [getD_of_get? htype]
    rfl
  have hclosing : messageDeltaUsage w (.obj counts) = .ok (some (closingUsage outputTokens)) := by
    unfold messageDeltaUsage
    simp [truthy_of_get? houtput, Json.asDict, getD_of_get? houtput, Json.toInt, ok_bind, pure_eq,
      closingUsage]
  obtain ⟨c, hc, hpieces⟩ := chunk_ok h e.freshId {} (streamFinish stopReason)
    (some (closingUsage outputTokens))
  refine ⟨some c, st, ?_, h, ?_, rfl⟩
  · rw [hevent]
    unfold onMessageDelta
    simp only [getD_of_get? hdelta, getD_of_get? husage, hstop, Json.asDict, ok_bind,
      finish_of_wire, hclosing, hc]
    rfl
  · simp only [Option.toList_some, List.map_cons, List.map_nil, hpieces]
    rfl

theorem asOptInt_ofOptInt (n : Option ℤ) : (Json.ofOptInt n).asOptInt w = .ok n := by
  cases n with
  | none => rfl
  | some n =>
    unfold Json.ofOptInt Json.asOptInt
    simp [w.intField_int]

theorem ofOptInt_eq_null {n : Option ℤ} : Json.ofOptInt n = .null ↔ n = none := by
  cases n <;> simp [Json.ofOptInt]

/-- The cache counts of a usage dict. -/
theorem promptDetails_wire {counts : JsonObj} {usage : AnthropicUsage}
    (hwrite : counts.getD "cache_creation_input_tokens" .null =
      .ofOptInt usage.cacheCreationInputTokens)
    (hread : counts.getD "cache_read_input_tokens" .null = .ofOptInt usage.cacheReadInputTokens) :
    promptDetails w counts = .ok (startDetails usage) := by
  unfold promptDetails startDetails
  simp only [hwrite, hread, ofOptInt_eq_null]
  -- details are made when there is one of the counts
  by_cases hnone : usage.cacheCreationInputTokens = none ∧ usage.cacheReadInputTokens = none
  · rw [if_pos hnone, if_pos hnone]
    rfl
  · rw [if_neg hnone, if_neg hnone, asOptInt_ofOptInt, asOptInt_ofOptInt]
    rfl

theorem reads_messageStart {id model : String} {usage : AnthropicUsage}
    (hreads : Reads e.event (.messageStart id model usage)) :
    ReadsAs w st e (readEvent st.remembered (.messageStart id model usage)) := by
  obtain ⟨htype, message, counts, hmessage, hid, hmodel, husage, hinput, hwrite, hread⟩ := hreads
  have hevent : translateEvent w st e = onMessageStart w st e := by
    unfold translateEvent
    rw [getD_of_get? htype]
    rfl
  have hstart : usageFromAnthropicMessageStart w (.obj counts) = .ok (startUsage usage) := by
    unfold usageFromAnthropicMessageStart startUsage
    simp only [truthy_of_get? hinput, Bool.not_true, Bool.false_eq_true, if_false, Json.asDict,
      ok_bind, promptDetails_wire hwrite hread, getD_of_get? hinput, Json.toInt]
    split <;> rfl
  let next : AnthropicStreamTranslator :=
    { st with
      id := .str id
      model := .str model
      created := e.now
      roleEmitted := true }
  have hnext : next.Named := ⟨id, model, rfl, rfl⟩
  obtain ⟨c, hc, hpieces⟩ := chunk_ok hnext e.freshId { hasRole := true, content := some "" } none
    (startUsage usage)
  refine ⟨some c, next, ?_, hnext, ?_, rfl⟩
  · rw [hevent]
    unfold onMessageStart
    simp only [getD_of_get? hmessage, getD_of_get? hid, getD_of_get? hmodel, getD_of_get? husage,
      Json.asDict, ok_bind, hstart]
    change (next.chunk e.freshId { hasRole := true, content := some "" } none (startUsage usage) >>=
      fun chunk => pure (some chunk, next)) = _
    rw [hc]
    rfl
  · simp only [Option.toList_some, List.map_cons, List.map_nil, hpieces]
    rfl

/-! ## Whole streams -/

theorem reads_event (h : st.Named) {u : UpstreamEvent} (hreads : Reads e.event u) :
    ReadsAs w st e (readEvent st.remembered u) := by
  cases u with
  | messageStart id model usage => exact reads_messageStart hreads
  | blockStart i shell => exact reads_blockStart h hreads
  | blockDelta i delta => exact reads_blockDelta h hreads
  | blockStop i => exact reads_blockStop h hreads
  | messageDelta stopReason outputTokens => exact reads_messageDelta h hreads
  | messageStop => exact reads_messageStop h hreads

/-- **Dicts that read as events are translated without an error, to what the events say.** -/
theorem translateEvents_pieces {es : List ReceivedEvent} {us : List UpstreamEvent}
    (hdecodes : Decodes es us) : ∀ st : AnthropicStreamTranslator, st.Named →
      (translateEvents w st es).2 = none ∧
      (translateEvents w st es).1.map ChatCompletionChunk.pieces =
        (Transducer.run readEvent st.remembered us).1 := by
  induction hdecodes with
  | nil =>
    intro st h
    exact ⟨rfl, rfl⟩
  | cons hreads hrest ih =>
    intro st h
    have hread : ReadsAs w st _ _ := reads_event h hreads
    obtain ⟨c, st', hevent, hnamed, hpieces, hremembered⟩ := hread
    obtain ⟨hnone, hlater⟩ := ih st' hnamed
    unfold translateEvents
    simp only [hevent]
    refine ⟨hnone, ?_⟩
    rw [List.map_append, hpieces, hlater, hremembered, Transducer.run_cons]
  | skip hignorable hrest ih =>
    intro st h
    unfold translateEvents
    -- a dict of another type changes nothing
    simp only [reads_ignorable hignorable, Option.toList_none, List.nil_append]
    exact ih st h

/-- The items of one delta of a block, when the next tool index is given. -/
def deltaItems (tool : ℕ) : ContentBlockDelta → List DeltaItem
  | .textDelta s => if s = "" then [] else [.text s]
  | .inputJsonDelta p => [.tool (inputDelta tool p)]

/-- The items of some blocks: a header for each tool, then what the deltas say. -/
def blockItems : List StreamBlock → ℕ → List DeltaItem
  | [], _ => []
  | b :: bs, tool =>
    match b.shell with
    | .text _ => b.deltas.flatMap (deltaItems tool) ++ blockItems bs tool
    | .toolUse id name _ =>
      .tool (headerDelta tool id name) :: (b.deltas.flatMap (deltaItems tool) ++
        blockItems bs (tool + 1))

/-- Pieces with items only. -/
def ItemsOnly (ps : List ChunkPieces) : Prop := ∀ p ∈ ps, p.usage = none ∧ p.finish = none

theorem ItemsOnly.append {ps qs : List ChunkPieces} (h : ItemsOnly ps) (h' : ItemsOnly qs) :
    ItemsOnly (ps ++ qs) := by
  intro p hp
  rcases List.mem_append.1 hp with hp | hp
  · exact h p hp
  · exact h' p hp

/-- Deltas that each make a chunk, and leave what is remembered as it is. -/
theorem run_deltas {m : Remembered} {i tool : ℕ} {kind : BlockKind}
    (hread : ∀ d : ContentBlockDelta, d.kind = kind →
      readEvent m (.blockDelta i d) = ([⟨none, deltaItems tool d, none⟩], m)) :
    ∀ ds : List ContentBlockDelta, (∀ d ∈ ds, d.kind = kind) →
    ∃ ps, Transducer.run readEvent m (ds.map (.blockDelta i)) = (ps, m) ∧ ItemsOnly ps ∧
      ps.flatMap ChunkPieces.items = ds.flatMap (deltaItems tool) := by
  intro ds
  induction ds with
  | nil =>
    intro _
    exact ⟨[], rfl, by simp [ItemsOnly], rfl⟩
  | cons d ds ih =>
    intro hkinds
    obtain ⟨ps, hrun, honly, hitems⟩ := ih (fun d hd => hkinds d (List.mem_cons_of_mem _ hd))
    have hnow := hread d (hkinds d List.mem_cons_self)
    refine ⟨⟨none, deltaItems tool d, none⟩ :: ps, ?_, ?_, ?_⟩
    · rw [List.map_cons, Transducer.run_cons, hnow, hrun]
      rfl
    · intro p hp
      rcases List.mem_cons.1 hp with rfl | hp
      · exact ⟨rfl, rfl⟩
      · exact honly p hp
    · rw [List.flatMap_cons, List.flatMap_cons, hitems]

/-- The deltas of a text block. -/
theorem run_textDeltas (m : Remembered) (i : ℕ) : ∀ ds : List ContentBlockDelta,
    (∀ d ∈ ds, d.kind = .text) →
    ∃ ps, Transducer.run readEvent m (ds.map (.blockDelta i)) = (ps, m) ∧ ItemsOnly ps ∧
      ps.flatMap ChunkPieces.items = ds.flatMap (deltaItems m.2) := by
  refine run_deltas ?_
  intro d hkind
  cases d with
  | textDelta s => rfl
  | inputJsonDelta p => cases hkind

/-- The deltas of a tool block whose index is remembered. -/
theorem run_inputDeltas (m : Remembered) {i tool : ℕ} (htool : m.1.get? (.int i) = some tool) :
    ∀ ds : List ContentBlockDelta, (∀ d ∈ ds, d.kind = .toolUse) →
    ∃ ps, Transducer.run readEvent m (ds.map (.blockDelta i)) = (ps, m) ∧ ItemsOnly ps ∧
      ps.flatMap ChunkPieces.items = ds.flatMap (deltaItems tool) := by
  refine run_deltas ?_
  intro d hkind
  cases d with
  | textDelta s => cases hkind
  | inputJsonDelta p =>
    simp only [readEvent, htool]
    rfl

/-- The chunks of some blocks say the items of the blocks. -/
theorem run_blocks : ∀ (bs : List StreamBlock) (i : ℕ) (m : Remembered),
    ∃ ps m', Transducer.run readEvent m (upstreamBlockEvents bs i) = (ps, m') ∧ ItemsOnly ps ∧
      ps.flatMap ChunkPieces.items = blockItems bs m.2 := by
  intro bs
  induction bs with
  | nil =>
    intro i m
    exact ⟨[], m, rfl, by simp [ItemsOnly], rfl⟩
  | cons b bs ih =>
    intro i m
    unfold upstreamBlockEvents StreamBlock.upstreamEvents blockItems
    have hkinds := b.kinds
    cases hshell : b.shell with
    | text s =>
      rw [hshell] at hkinds
      obtain ⟨ps, hrun, honly, hitems⟩ := run_textDeltas m i b.deltas hkinds
      obtain ⟨qs, m', hrest, honly', hitems'⟩ := ih (i + 1) m
      refine ⟨ps ++ qs, m', ?_, honly.append honly', ?_⟩
      · simp [Transducer.run_cons, Transducer.run_append, readEvent, hrun, hrest]
      · rw [List.flatMap_append, hitems, hitems']
    | toolUse id name input =>
      rw [hshell] at hkinds
      -- the index that the header of the block inserts
      have htool : (m.1.insert (.int i) m.2).get? (.int i) = some m.2 :=
        OrderedDict.get?_insert_self _ _ _
      obtain ⟨ps, hrun, honly, hitems⟩ :=
        run_inputDeltas (m.1.insert (.int i) m.2, m.2 + 1) htool b.deltas hkinds
      obtain ⟨qs, m', hrest, honly', hitems'⟩ := ih (i + 1) (m.1.insert (.int i) m.2, m.2 + 1)
      refine ⟨⟨none, [.tool (headerDelta m.2 id name)], none⟩ :: (ps ++ qs), m', ?_, ?_, ?_⟩
      · simp [Transducer.run_cons, Transducer.run_append, readEvent, hrun, hrest]
      · intro p hp
        rcases List.mem_cons.1 hp with rfl | hp
        · exact ⟨rfl, rfl⟩
        · exact honly.append honly' p hp
      · rw [List.flatMap_cons, List.flatMap_append, hitems, hitems']
        rfl

/-- **What the chunks of a message say.** -/
theorem pieces_message (m : UpstreamMessage) :
    ∃ ps, (Transducer.run readEvent (.empty, 0) m.events).1 =
        ⟨startUsage m.usage, [], none⟩ :: (ps ++
          [⟨some (closingUsage m.outputTokens), [], streamFinish m.stopReason⟩]) ∧
      ItemsOnly ps ∧ ps.flatMap ChunkPieces.items = blockItems m.blocks 0 := by
  obtain ⟨ps, m', hrun, honly, hitems⟩ := run_blocks m.blocks 0 (.empty, 0)
  refine ⟨ps, ?_, honly, hitems⟩
  unfold UpstreamMessage.events
  simp [Transducer.run_cons, Transducer.run_append, readEvent, hrun]

theorem ItemsOnly.usages {ps : List ChunkPieces} (h : ItemsOnly ps) :
    ps.filterMap ChunkPieces.usage = [] := by
  rw [List.filterMap_eq_nil_iff]
  intro p hp
  exact (h p hp).1

theorem ItemsOnly.finishes {ps : List ChunkPieces} (h : ItemsOnly ps) :
    ps.filterMap ChunkPieces.finish = [] := by
  rw [List.filterMap_eq_nil_iff]
  intro p hp
  exact (h p hp).2

section OfPieces

variable (chunks : List ChatCompletionChunk)

theorem items_of_pieces :
    chunks.flatMap ChatCompletionChunk.items =
      (chunks.map ChatCompletionChunk.pieces).flatMap ChunkPieces.items := by
  rw [List.flatMap_map]
  rfl

theorem usages_of_pieces :
    chunks.filterMap ChatCompletionChunk.usage =
      (chunks.map ChatCompletionChunk.pieces).filterMap ChunkPieces.usage := by
  rw [List.filterMap_map]
  rfl

theorem finishes_of_pieces :
    chunks.filterMap Chunks.finishOf =
      (chunks.map ChatCompletionChunk.pieces).filterMap ChunkPieces.finish := by
  rw [List.filterMap_map]
  rfl

end OfPieces

/-- **The chunks of a message**: the first carries the start usage; together they say the items of
the blocks, the finish reason and both usages. -/
theorem chunks_message {m : UpstreamMessage} {es : List ReceivedEvent} (created : ℤ)
    (hdecodes : Decodes es m.events) :
    ∃ first rest, translateEvents w { created := created } es = (first :: rest, none) ∧
      first.usage = startUsage m.usage ∧
      (first :: rest).flatMap ChatCompletionChunk.items = blockItems m.blocks 0 ∧
      (first :: rest).filterMap ChatCompletionChunk.usage =
        (startUsage m.usage).toList ++ [closingUsage m.outputTokens] ∧
      (first :: rest).filterMap Chunks.finishOf = (streamFinish m.stopReason).toList := by
  obtain ⟨hnone, hpieces⟩ :=
    translateEvents_pieces (w := w) hdecodes { created := created } ⟨"", "", rfl, rfl⟩
  obtain ⟨ps, hrun, honly, hitems⟩ := pieces_message m
  have hpieces := hpieces.trans hrun
  generalize translateEvents w { created := created } es = out at hnone hpieces ⊢
  obtain ⟨chunks, error⟩ := out
  obtain rfl : error = none := hnone
  change chunks.map ChatCompletionChunk.pieces = _ at hpieces
  obtain ⟨first, rest, rfl, hfirst, -⟩ := List.map_eq_cons_iff.1 hpieces
  refine ⟨first, rest, rfl, congrArg ChunkPieces.usage hfirst, ?_, ?_, ?_⟩
  · rw [items_of_pieces, hpieces, List.flatMap_cons, List.flatMap_append, hitems]
    simp
  · rw [usages_of_pieces, hpieces, List.filterMap_cons, List.filterMap_append, honly.usages]
    cases startUsage m.usage <;> rfl
  · rw [finishes_of_pieces, hpieces, List.filterMap_cons, List.filterMap_append, honly.finishes]
    cases streamFinish m.stopReason <;> rfl

end AnthropicStreamTranslator

/-! ## A message for the examples -/

/-- The wire values of texts without digits, of whole numbers and of empty dicts. -/
def sampleValues : WireValues where
  dumps
    | .obj [] => "\x7b\x7d"
    | _ => "null"
  intOfText _ := none
  intField
    | .int n => some n
    | _ => none
  intField_int _ := rfl

/-- Two texts and a tool call. -/
def sampleMessage : UpstreamMessage where
  id := "msg_1"
  model := "m"
  usage := { inputTokens := 3, outputTokens := 0 }
  blocks :=
    [{ shell := .text "", deltas := [.textDelta "H", .textDelta "i"], kinds := by decide },
      { shell := .text "", deltas := [.textDelta "!"], kinds := by decide },
      { shell := .toolUse "toolu_1" "ls" []
        deltas := [.inputJsonDelta "\x7b", .inputJsonDelta "\x7d"]
        kinds := by decide }]
  stopReason := some "tool_use"
  outputTokens := 5
  plain := by simp [ContentBlockShell.Plain]

end ModelMeld
