import ModelMeld.Proof.ResponseLifecycle
import ModelMeld.Proof.Grammar

/-!
# The two streaming surfaces

`same_turn_iff`: a client of the Messages stream and a client of the Responses
stream read the same turn exactly when the first delta of each tool index
carries the name and the id that the upstream supplies for it. The Responses
translator takes the first name that comes; the Messages translator opens the
block with what the first delta has.
-/

namespace ModelMeld

/-! ## What the clients read -/

/-- A tool call as a client reads it. -/
structure ReadCall where
  id : String
  name : String
  arguments : String
deriving DecidableEq

/-- The tool blocks that are opened: index, id and name. -/
def toolShells (es : List AnthropicStreamEvent) : List (ℕ × String × String) :=
  es.filterMap (fun e => match e with
    | .contentBlockStart i (.toolUse id name _) => some (i, id, name)
    | _ => none)

/-- The calls of a Messages stream: each tool block with the input sent to its index. -/
def readCalls (es : List AnthropicStreamEvent) : List ReadCall :=
  (toolShells es).map (fun shell =>
    { id := shell.2.1
      name := shell.2.2
      arguments := String.join (inputDeltas shell.1 es) })

/-- The text of a response's output. -/
def outputText (output : List ResponseItem) : String :=
  String.join (output.flatMap (fun item => match item with
    | .message _ _ content => content
    | .functionCall _ _ _ _ => []))

/-- The calls of a response's output. -/
def outputCalls (output : List ResponseItem) : List ReadCall :=
  output.filterMap (fun item => match item with
    | .message _ _ _ => none
    | .functionCall _ callId name arguments =>
      some { id := callId, name := name, arguments := arguments })

/-- Two readings of a call agree; the ids only when the upstream supplies one. -/
def SameCall (suppliedId : String) (call call' : ReadCall) : Prop :=
  call.name = call'.name ∧ call.arguments = call'.arguments ∧
    (suppliedId ≠ "" → call.id = call'.id)

/-- Both surfaces report the same turn: the text, and a call for each tool index in the order of
first appearance. -/
structure SameTurn (chunks : List ChatCompletionChunk) (es : List AnthropicStreamEvent)
    (output : List ResponseItem) : Prop where
  text : String.join (textDeltas es) = outputText output
  calls : (readCalls es).length = (Chunks.indices (Chunks.toolDeltas chunks)).length
  calls' : (outputCalls output).length = (Chunks.indices (Chunks.toolDeltas chunks)).length
  same : ∀ (n : ℕ) (k : ℤ) (call call' : ReadCall),
    (Chunks.indices (Chunks.toolDeltas chunks))[n]? = some k →
    (readCalls es)[n]? = some call → (outputCalls output)[n]? = some call' →
    SameCall (Chunks.suppliedId k (Chunks.toolDeltas chunks)) call call'

/-! ## The headers of the tool calls -/

namespace Chunks

theorem firstGiven_of_head {l : List String} (h : l.headD "" ≠ "") :
    firstGiven l = l.headD "" := by
  cases l with
  | nil => exact absurd rfl h
  | cons s rest =>
    have hs : s ≠ "" := h
    simp [firstGiven, hs]

theorem suppliedName_of_first {k : ℤ} {deltas : List ToolCallDelta} (h : firstName k deltas ≠ "") :
    suppliedName k deltas = firstName k deltas :=
  firstGiven_of_head h

section Snoc

variable (k : ℤ) (deltas : List ToolCallDelta) (delta : ToolCallDelta)

theorem firstName_snoc_seen (h : k ∈ indices deltas) :
    firstName k (deltas ++ [delta]) = firstName k deltas := by
  unfold firstName deltasAt
  rw [Grouping.group_append, List.map_append]
  exact headD_append_of_seen h _

theorem firstName_snoc_unseen (h : delta.index ∉ indices deltas) :
    firstName delta.index (deltas ++ [delta]) = delta.nameText := by
  unfold firstName deltasAt
  rw [Grouping.group_snoc_self, Grouping.group_eq_nil_iff.2 h]
  rfl

end Snoc

end Chunks

/-! ## The calls of the Messages stream -/

@[simp] theorem toolShells_append (es fs : List AnthropicStreamEvent) :
    toolShells (es ++ fs) = toolShells es ++ toolShells fs :=
  List.filterMap_append

namespace StreamTranslator

variable {ids : FreshIds} {seen : List ChunkStep} {out : List AnthropicStreamEvent}
  {st : StreamTranslator}

/-- The header of the block of a tool index: what the first delta has. -/
def blockHeader (ids : FreshIds) (deltas : List ToolCallDelta) (p : ℤ × ℕ) :
    ℕ × String × String :=
  (p.2, if Chunks.firstId p.1 deltas = "" then ids.tool p.2 else Chunks.firstId p.1 deltas,
    Chunks.firstName p.1 deltas)

/-- The headers sent are those of the first deltas. -/
structure Headed (ids : FreshIds) (seen : List ChunkStep) (out : List AnthropicStreamEvent)
    (st : StreamTranslator) : Prop where
  tracks : Tracks seen out st
  headers : toolShells out =
    st.toolBlocks.map (blockHeader ids (Chunks.toolsOf (ChunkStep.items seen)))

theorem toolShells_closeCurrent (st : StreamTranslator) : toolShells st.closeCurrent = [] := by
  unfold closeCurrent
  split <;> rfl

theorem toolShells_argumentsDelta (i : ℕ) (delta : ToolCallDelta) :
    toolShells (argumentsDelta i delta) = [] := by
  rw [argumentsDelta_eq]
  split <;> rfl

theorem toolShells_emitTextDelta (st : StreamTranslator) (s : String) :
    toolShells (st.emitTextDelta s).1 = [] := by
  unfold emitTextDelta
  split
  · rfl
  · rw [toolShells_append, toolShells_closeCurrent]
    rfl

theorem toolShells_startMessage (st : StreamTranslator) (chunkId : String) :
    toolShells (startMessage ids st chunkId).1 = [] := by
  unfold startMessage
  split <;> rfl

theorem toolShells_finalize (st : StreamTranslator) : toolShells (st.finalize ids).1 = [] := by
  rw [finalize_eq, toolShells_append, toolShells_append, toolShells_append,
    toolShells_closeCurrent]
  split <;> split <;> rfl

/-- A step that reads no tool delta and opens no block. -/
theorem headed_quiet {x : ChunkStep} (h : Headed ids seen out st)
    (hitems : Chunks.toolsOf (ChunkStep.items (seen ++ [x])) =
      Chunks.toolsOf (ChunkStep.items seen))
    (hshells : toolShells (step ids st x).1 = [])
    (hblocks : (step ids st x).2.toolBlocks = st.toolBlocks) :
    Headed ids (seen ++ [x]) (out ++ (step ids st x).1) (step ids st x).2 where
  tracks := tracks_step h.tracks x
  headers := by rw [toolShells_append, hshells, List.append_nil, hblocks, hitems, h.headers]

theorem headed_tool (h : Headed ids seen out st) (delta : ToolCallDelta) :
    Headed ids (seen ++ [.item (.tool delta)]) (out ++ (emitToolCallDelta ids st delta).1)
      (emitToolCallDelta ids st delta).2 := by
  have hitems : Chunks.toolsOf (ChunkStep.items (seen ++ [.item (.tool delta)])) =
      Chunks.toolsOf (ChunkStep.items seen) ++ [delta] := by
    rw [ChunkStep.items_snoc]
    exact Chunks.toolsOf_snoc_tool _ _
  refine ⟨tracks_step h.tracks _, ?_⟩
  rw [hitems, toolShells_append, h.headers]
  -- the headers of the indices seen are settled
  have hseen : ∀ p ∈ st.toolBlocks,
      blockHeader ids (Chunks.toolsOf (ChunkStep.items seen) ++ [delta]) p =
        blockHeader ids (Chunks.toolsOf (ChunkStep.items seen)) p := by
    intro p hp
    have hk : p.1 ∈ Chunks.indices (Chunks.toolsOf (ChunkStep.items seen)) := by
      rw [← h.tracks.keys]
      exact List.mem_map_of_mem hp
    unfold blockHeader
    rw [Chunks.firstId_snoc_seen _ _ _ hk, Chunks.firstName_snoc_seen _ _ _ hk]
  cases hlookup : st.toolBlocks.lookup delta.index with
  | some i =>
    rw [emitToolCallDelta_old ids hlookup, toolShells_argumentsDelta, List.append_nil]
    exact List.map_congr_left (fun p hp => (hseen p hp).symm)
  | none =>
    -- this delta is the first of its index
    have hk : delta.index ∉ Chunks.indices (Chunks.toolsOf (ChunkStep.items seen)) := by
      rw [← h.tracks.keys]
      exact OrderedDict.not_mem_keys_of_lookup hlookup
    rw [emitToolCallDelta_new ids hlookup, toolShells_append, toolShells_append,
      toolShells_closeCurrent, toolShells_argumentsDelta, List.append_nil, List.nil_append]
    unfold openTool
    rw [List.map_append, List.map_congr_left hseen]
    congr 1
    simp [toolShells, blockHeader, toolId, Chunks.firstId_snoc_unseen _ _ hk,
      Chunks.firstName_snoc_unseen _ _ hk]

theorem headed_step (h : Headed ids seen out st) (x : ChunkStep) :
    Headed ids (seen ++ [x]) (out ++ (step ids st x).1) (step ids st x).2 := by
  cases x with
  | usage u => exact headed_quiet h (by simp) rfl rfl
  | start chunkId =>
    refine headed_quiet h (by simp) (toolShells_startMessage st chunkId) ?_
    simp only [step, startMessage]
    split <;> rfl
  | item item =>
    cases item with
    | text s =>
      refine headed_quiet h ?_ (toolShells_emitTextDelta st s) ?_
      · rw [ChunkStep.items_snoc]
        exact Chunks.toolsOf_snoc_text _ _
      · exact (emitTextDelta_spec st s).2.2.2.2.1
    | tool delta => exact headed_tool h delta
  | finish f => exact headed_quiet h (by simp) rfl rfl

end StreamTranslator

/-- The calls of a Messages stream, each with the header of its first delta. -/
theorem readCalls_messageEvents (ids : FreshIds) (requestModel : String) (inputTokens : ℤ)
    (chunks : List ChatCompletionChunk) :
    ∃ blocks : List (ℤ × ℕ),
      blocks.map Prod.fst = Chunks.indices (Chunks.toolDeltas chunks) ∧
      readCalls (messageEvents ids requestModel inputTokens chunks) = blocks.map (fun p =>
        { id := if Chunks.firstId p.1 (Chunks.toolDeltas chunks) = "" then ids.tool p.2
            else Chunks.firstId p.1 (Chunks.toolDeltas chunks)
          name := Chunks.firstName p.1 (Chunks.toolDeltas chunks)
          arguments := Chunks.arguments p.1 (Chunks.toolDeltas chunks) }) := by
  generalize hout : StreamTranslator.translateChunks ids
    { requestModel := requestModel, inputTokens := inputTokens } chunks = out
  have hheaded : StreamTranslator.Headed ids (chunks.flatMap ChatCompletionChunk.steps)
      out.1 out.2 := by
    have hrun := Transducer.run_inv (StreamTranslator.step ids) (StreamTranslator.Headed ids)
      (fun _ _ _ x h => StreamTranslator.headed_step h x)
      (chunks.flatMap ChatCompletionChunk.steps) [] [] _
      ⟨StreamTranslator.tracks_init requestModel inputTokens, rfl⟩
    rwa [List.nil_append, List.nil_append, ← StreamTranslator.translateChunks_eq_run, hout] at hrun
  have hevents : messageEvents ids requestModel inputTokens chunks =
      out.1 ++ (out.2.finalize ids).1 := by
    unfold messageEvents
    rw [hout]
  have hkeys := hheaded.tracks.keys
  have hheaders := hheaded.headers
  have hinputs := hheaded.tracks.inputs
  rw [items_of_steps] at hkeys hheaders hinputs
  refine ⟨out.2.toolBlocks, hkeys, ?_⟩
  unfold readCalls
  rw [hevents, toolShells_append, StreamTranslator.toolShells_finalize, List.append_nil, hheaders,
    List.map_map]
  refine List.map_congr_left ?_
  intro p hp
  have hinput : String.join (inputDeltas p.2 (out.1 ++ (out.2.finalize ids).1)) =
      Chunks.arguments p.1 (Chunks.toolDeltas chunks) := by
    rw [inputDeltas_append, (StreamTranslator.finalize_spec ids out.2).2.1, List.append_nil,
      hinputs p hp]
    rfl
  simp only [Function.comp_apply, StreamTranslator.blockHeader, hinput]
  rfl

/-! ## The calls of the Responses stream -/

namespace ResponsesStreamTranslator

variable {ids : ResponseIds} {items : List DeltaItem} {es : List ResponseEvent}
  {st : ResponsesStreamTranslator}

/-- Whether a closed item is a call. -/
def isCall (entry : ℕ × ResponseItem) : Bool :=
  match entry.2 with
  | .message _ _ _ => false
  | .functionCall _ _ _ _ => true

theorem outputCalls_filter (entries : List (ℕ × ResponseItem)) :
    outputCalls (entries.map Prod.snd) = outputCalls ((entries.filter isCall).map Prod.snd) := by
  induction entries with
  | nil => rfl
  | cons entry entries ih =>
    obtain ⟨i, item⟩ := entry
    unfold outputCalls at ih ⊢
    cases item with
    | message status id content => simpa [isCall] using ih
    | functionCall id callId name arguments => simpa [List.filter_cons, isCall] using ih

theorem outputText_filter (entries : List (ℕ × ResponseItem)) :
    outputText (entries.map Prod.snd) =
      outputText ((entries.filter (fun entry => !isCall entry)).map Prod.snd) := by
  induction entries with
  | nil => rfl
  | cons entry entries ih =>
    obtain ⟨i, item⟩ := entry
    unfold outputText at ih ⊢
    cases item with
    | message status id content => simpa [isCall] using ih
    | functionCall id callId name arguments => simpa [isCall] using ih

/-- The closed entry of a tool. -/
def closedTool (p : ℤ × ToolEntry) : ℕ × ResponseItem :=
  (p.2.index, functionCallItem p.2 (String.join p.2.args))

theorem Kept.completedItems_eq (h : Kept ids items es st) :
    st.completedItems =
      (if st.textOpen then [(st.textIndex, st.doneMessage)] else []) ++
        st.tools.map closedTool := by
  unfold completedItems
  rw [h.sortedTools_eq, List.map_map]
  rfl

/-- The calls of the output are the entries, in the order of opening. -/
theorem Kept.outputCalls_output (h : Kept ids items es st) :
    outputCalls st.output = st.tools.map (fun p =>
      { id := p.2.callId
        name := p.2.name
        arguments := String.join p.2.args }) := by
  have hcalls : st.completedItems.filter isCall = st.tools.map closedTool := by
    have htext :
        (if st.textOpen then [(st.textIndex, st.doneMessage)] else []).filter isCall = [] := by
      split <;> rfl
    have htools : (st.tools.map closedTool).filter isCall = st.tools.map closedTool := by
      rw [List.filter_eq_self]
      intro entry hentry
      obtain ⟨p, -, rfl⟩ := List.mem_map.1 hentry
      rfl
    rw [h.completedItems_eq, List.filter_append, htext, htools, List.nil_append]
  -- sorting by output index changes nothing: tools are opened in that order
  have hsorted : Ranking.sortedBy Prod.fst (st.tools.map closedTool) =
      st.tools.map closedTool := by
    refine Ranking.sortedBy_of_pairwise ?_
    have hslots := h.sorted
    unfold toolSlots at hslots
    rw [List.pairwise_map] at hslots ⊢
    exact hslots.imp (fun hlt => Nat.le_of_lt hlt)
  unfold output
  rw [outputCalls_filter, Ranking.filter_sortedBy, hcalls, hsorted, List.map_map]
  unfold outputCalls
  rw [List.filterMap_map]
  exact List.filterMap_eq_map' ▸ rfl

theorem Kept.outputText_output (h : Kept ids items es st) :
    outputText st.output = Chunks.textOf items := by
  have hmessages : st.completedItems.filter (fun entry => !isCall entry) =
      if st.textOpen then [(st.textIndex, st.doneMessage)] else [] := by
    have htools : (st.tools.map closedTool).filter (fun entry => !isCall entry) = [] := by
      rw [List.filter_eq_nil_iff]
      intro entry hentry
      obtain ⟨p, -, rfl⟩ := List.mem_map.1 hentry
      simp [isCall, closedTool, functionCallItem]
    rw [h.completedItems_eq, List.filter_append, htools, List.append_nil]
    split <;> rfl
  unfold output
  rw [outputText_filter, Ranking.filter_sortedBy, hmessages, ← h.text]
  by_cases hopen : st.textOpen = true
  · rw [if_pos hopen]
    simp [outputText, doneMessage, Ranking.sortedBy]
  · rw [if_neg hopen, h.text, h.shut (by simpa using hopen)]
    rfl

end ResponsesStreamTranslator

theorem completedOutput_append (es fs : List ResponseEvent) :
    completedOutput (es ++ fs) = completedOutput es ++ completedOutput fs :=
  List.flatMap_append

/-- The output of a Responses stream: the text, and the calls with the first name each is given. -/
theorem completedOutput_responseEvents (ids : ResponseIds) (model : String) (now : ℤ)
    (chunks : List ChatCompletionChunk) {estimates : List ℤ} (hestimates : estimates ≠ []) :
    let output := completedOutput
      ((responseEvents ids model now chunks estimates).map NumberedEvent.event)
    outputText output = Chunks.text chunks ∧
    ∃ slots : List (ℤ × ℕ),
      slots.map Prod.fst = Chunks.indices (Chunks.toolDeltas chunks) ∧
      outputCalls output = slots.map (fun p =>
        { id := if Chunks.firstId p.1 (Chunks.toolDeltas chunks) = "" then ids.call p.2
            else Chunks.firstId p.1 (Chunks.toolDeltas chunks)
          name := Chunks.suppliedName p.1 (Chunks.toolDeltas chunks)
          arguments := Chunks.arguments p.1 (Chunks.toolDeltas chunks) }) := by
  intro output
  obtain ⟨es, st, last, hends⟩ :=
    ResponsesStreamTranslator.responseEvents_ends ids model now chunks hestimates
  have houtput : output = st.output := by
    obtain ⟨first, middle, hes, hmiddle⟩ := hends.kept.begun
    obtain ⟨-, -, -, -, habout, -⟩ := ResponsesStreamTranslator.itemClosings_spec hends.kept
    -- only the event at the end is about no item
    have hnone : ∀ es : List ResponseEvent, (∀ e ∈ es, e.outputIndex.isSome) →
        completedOutput es = [] := by
      intro es hall
      unfold completedOutput
      rw [List.flatMap_eq_nil_iff]
      intro e he
      have hsome := hall e he
      cases e <;> simp_all [ResponseEvent.outputIndex]
    have hclosings : completedOutput st.itemClosings = [] := by
      refine hnone _ ?_
      intro e he
      obtain ⟨i, -, hi⟩ := habout e he
      rw [hi]
      rfl
    unfold output
    rw [hends.events_eq, completedOutput_append, completedOutput_append, hclosings, hes]
    have hmiddle := hnone middle hmiddle
    unfold completedOutput at hmiddle ⊢
    simp [hmiddle, hends.output]
  rw [houtput]
  refine ⟨?_, st.tools.map (fun p => (p.1, p.2.index)), ?_, ?_⟩
  · rw [hends.kept.outputText_output, Chunks.text_eq]
  · rw [List.map_map]
    exact hends.kept.keys
  · rw [hends.kept.outputCalls_output, List.map_map]
    refine List.map_congr_left ?_
    intro p hp
    have hid := hends.kept.callIds p hp
    have hname := hends.kept.names p hp
    have hargs := hends.kept.args p hp
    simp only [Function.comp_apply, hid, hname, hargs]
    rfl

/-! ## Both -/

/-- An id made up by one translator is not one made up by the other. -/
theorem drawn_ids_differ (message response message' : String) (tool item call : ℕ → String)
    (i j : ℕ) :
    (FreshIds.drawn message tool).tool i ≠ (ResponseIds.drawn response message' item call).call j := by
  intro heq
  have hlist := congrArg String.toList heq
  simp [FreshIds.drawn, ResponseIds.drawn] at hlist

/-- What stands at the place of a key. -/
theorem entry_at {entries : List (ℤ × ℕ)} {keys : List ℤ} (h : entries.map Prod.fst = keys)
    {n : ℕ} {k : ℤ} (hk : keys[n]? = some k) : ∃ i, entries[n]? = some (k, i) := by
  rw [← h, List.getElem?_map] at hk
  obtain ⟨p, hp, hpk⟩ := Option.map_eq_some_iff.1 hk
  exact ⟨p.2, by rw [hp, ← hpk]⟩

/-- **Both surfaces report the same turn exactly when the headers come first**: the first delta of
each tool index carries the name and the id that any delta of it carries. -/
theorem same_turn_iff (message response message' : String) (tool item call : ℕ → String)
    (requestModel model : String) (inputTokens now : ℤ) (chunks : List ChatCompletionChunk)
    (estimate : ℤ) :
    SameTurn chunks
      (messageEvents (.drawn message tool) requestModel inputTokens chunks)
      (completedOutput
        ((responseEvents (.drawn response message' item call) model now chunks [estimate]).map
          NumberedEvent.event)) ↔
    Chunks.HeadersFirst (Chunks.toolDeltas chunks) := by
  have htext := text_messageEvents (.drawn message tool) requestModel inputTokens chunks
  obtain ⟨blocks, hblocks, hcalls⟩ :=
    readCalls_messageEvents (.drawn message tool) requestModel inputTokens chunks
  have hestimate : [estimate] ≠ [] := by simp
  obtain ⟨houtText, slots, hslots, houtCalls⟩ := completedOutput_responseEvents
    (.drawn response message' item call) model now chunks hestimate
  generalize hmessages :
    messageEvents (.drawn message tool) requestModel inputTokens chunks = es at htext hcalls ⊢
  generalize houtput : completedOutput
    ((responseEvents (.drawn response message' item call) model now chunks [estimate]).map
      NumberedEvent.event) = output at houtText houtCalls ⊢
  generalize hdeltas : Chunks.toolDeltas chunks = deltas at hblocks hcalls hslots houtCalls ⊢
  constructor
  · intro hsame k hk
    obtain ⟨n, hn⟩ := List.mem_iff_getElem?.1 hk
    obtain ⟨i, hblock⟩ := entry_at hblocks hn
    obtain ⟨j, hslot⟩ := entry_at hslots hn
    obtain ⟨hname, -, hid⟩ := hsame.same n k _ _ (by rw [hdeltas]; exact hn)
      (by rw [hcalls, List.getElem?_map, hblock]; rfl)
      (by rw [houtCalls, List.getElem?_map, hslot]; rfl)
    rw [hdeltas] at hid
    refine ⟨?_, ?_⟩
    · intro hsupplied
      have hfirst : Chunks.firstName k deltas = Chunks.suppliedName k deltas := hname
      rw [hfirst]
      exact hsupplied
    · -- without an id in the first delta both surfaces make one up
      intro hsupplied hfirst
      have hids := hid hsupplied
      simp only [hfirst, if_true] at hids
      exact drawn_ids_differ message response message' tool item call i j hids
  · intro hheaders
    have hlength : blocks.length = (Chunks.indices deltas).length := by
      rw [← hblocks, List.length_map]
    have hlength' : slots.length = (Chunks.indices deltas).length := by
      rw [← hslots, List.length_map]
    refine ⟨?_, ?_, ?_, ?_⟩
    · rw [htext, houtText]
    · rw [hcalls, List.length_map, hlength, hdeltas]
    · rw [houtCalls, List.length_map, hlength', hdeltas]
    · intro n k a b hk ha hb
      rw [hdeltas] at hk ⊢
      obtain ⟨i, hblock⟩ := entry_at hblocks hk
      obtain ⟨j, hslot⟩ := entry_at hslots hk
      rw [hcalls, List.getElem?_map, hblock] at ha
      rw [houtCalls, List.getElem?_map, hslot] at hb
      obtain rfl := Option.some.inj ha
      obtain rfl := Option.some.inj hb
      obtain ⟨hname, hid⟩ := hheaders k (List.mem_of_getElem? hk)
      refine ⟨?_, rfl, ?_⟩
      · change Chunks.firstName k deltas = Chunks.suppliedName k deltas
        by_cases hfirst : Chunks.firstName k deltas = ""
        · have hnone : Chunks.suppliedName k deltas = "" := by
            by_contra hsupplied
            exact hname hsupplied hfirst
          rw [hfirst, hnone]
        · exact (Chunks.suppliedName_of_first hfirst).symm
      · intro hsupplied
        simp only [if_neg (hid hsupplied)]

/-- A name that comes on the second delta of its index. -/
def lateName : List ChatCompletionChunk :=
  [sampleChunk { toolCalls := some [{ index := 0, id := some "call_1" }] },
    sampleChunk { toolCalls := some [sampleDelta ""] }]

/-- The Messages stream has opened the block without it. -/
theorem same_turn_late_name :
    ¬ SameTurn lateName
      (messageEvents (.drawn "1" (fun _ => "1")) "m" 0 lateName)
      (completedOutput ((responseEvents (.drawn "1" "1" (fun _ => "1") (fun _ => "1")) "m" 0
        lateName [0]).map NumberedEvent.event)) := by
  intro h
  have hcall := h.same 0 0 ⟨"call_1", "", ""⟩ ⟨"call_1", "ls", ""⟩ (by decide)
    (by decide) (by decide)
  exact absurd hcall.1 (by decide)

end ModelMeld
