import ModelMeld.Proof.UpstreamChunks
import ModelMeld.Proof.Grammar

/-!
# Anthropic to OpenAI and back

`stream_round_trip`: the events of a message, made into chunks and back into
events, are a well-formed stream from which a client reads the message it would
have read, with adjacent text blocks merged and empty ones dropped. The block
boundaries do not travel: what the chunks carry of a block is its items, and the
items of a list of blocks hold exactly the merged blocks.
-/

namespace ModelMeld

/-! ## Merged text blocks -/

/-- One more block for what a client holds: text joins the last text block. -/
def addBlock (held : List ReadBlock) : ReadBlock → List ReadBlock
  | .text s => if s = "" then held else addText held s
  | .toolUse id name input => held ++ [.toolUse id name input]

theorem addText_cons (b c : ReadBlock) (rest : List ReadBlock) (s : String) :
    addText (b :: c :: rest) s = b :: addText (c :: rest) s := by
  unfold addText
  rw [List.getLast?_cons_cons]
  split <;> rfl

theorem addText_twice (held : List ReadBlock) (s t : String) :
    addText (addText held s) t = addText held (s ++ t) := by
  induction held using List.reverseRecOn with
  | nil => exact addText_text [] s t
  | append_singleton init last =>
    cases last with
    | text a => rw [addText_text, addText_text, addText_text, String.append_assoc]
    | toolUse id name input =>
      rw [addText_toolUse, addText_toolUse]
      -- the first text makes a block, which the second joins
      have hnext := addText_text (init ++ [.toolUse id name input]) s t
      rw [List.append_assoc, List.append_assoc] at hnext
      exact hnext

theorem addBlock_empty (held : List ReadBlock) : addBlock held (.text "") = held := rfl

theorem addBlock_text (held : List ReadBlock) {s : String} (h : s ≠ "") :
    addBlock held (.text s) = addText held s := if_neg h

/-- Text added to a text block is text added once the block is held. -/
theorem addBlock_text_append (held : List ReadBlock) (s : String) {t : String} (ht : t ≠ "") :
    addBlock held (.text (s ++ t)) = addText (addBlock held (.text s)) t := by
  have hst : s ++ t ≠ "" := by
    simp [ht]
  rw [addBlock_text held hst]
  by_cases hs : s = ""
  · rw [hs, addBlock_empty, String.empty_append]
  · rw [addBlock_text held hs, addText_twice]

/-- A block is added behind all but the last. -/
theorem addBlock_cons (b c : ReadBlock) (rest : List ReadBlock) (x : ReadBlock) :
    addBlock (b :: c :: rest) x = b :: addBlock (c :: rest) x := by
  cases x with
  | toolUse id name input => rfl
  | text t =>
    by_cases ht : t = ""
    · rw [ht, addBlock_empty, addBlock_empty]
    · rw [addBlock_text _ ht, addBlock_text _ ht, addText_cons]

theorem addBlock_toolUse_cons (id name input : String) (held : List ReadBlock) (x : ReadBlock) :
    addBlock (.toolUse id name input :: held) x = .toolUse id name input :: addBlock held x := by
  cases held with
  | cons c rest => exact addBlock_cons _ c rest x
  | nil =>
    cases x with
    | toolUse id' name' input' => rfl
    | text t =>
      by_cases ht : t = ""
      · rw [ht, addBlock_empty, addBlock_empty]
      · rw [addBlock_text _ ht, addBlock_text _ ht]
        exact addText_toolUse [] id name input t

/-- Text before everything else: it joins a first text block. -/
def addFront (s : String) : List ReadBlock → List ReadBlock
  | .text t :: more => .text (s ++ t) :: more
  | more => if s = "" then more else .text s :: more

theorem mergeTexts_text (s : String) (rest : List ReadBlock) :
    mergeTexts (.text s :: rest) = addFront s (mergeTexts rest) := by
  rw [mergeTexts]
  unfold addFront
  rfl

/-- Text in front and a block behind do not meet. -/
theorem addBlock_addFront (s : String) (held : List ReadBlock) (x : ReadBlock) :
    addBlock (addFront s held) x = addFront s (addBlock held x) := by
  cases held with
  | nil =>
    by_cases hs : s = ""
    · subst hs
      cases x with
      | toolUse id name input => rfl
      | text t =>
        by_cases ht : t = ""
        · rw [ht, addBlock_empty, addBlock_empty]
        · rw [addBlock_text [] ht, addText_nil]
          change addBlock [] (.text t) = [.text ("" ++ t)]
          rw [addBlock_text [] ht, addText_nil, String.empty_append]
    · have hfront : addFront s [] = [.text s] := if_neg hs
      rw [hfront]
      cases x with
      | toolUse id name input => exact (if_neg hs).symm
      | text t =>
        by_cases ht : t = ""
        · rw [ht, addBlock_empty, addBlock_empty, hfront]
        · rw [addBlock_text _ ht, addBlock_text _ ht]
          exact addText_text [] s t
  | cons b more =>
    cases b with
    | text a =>
      have hfront : addFront s (.text a :: more) = .text (s ++ a) :: more := rfl
      rw [hfront]
      cases more with
      | cons c rest => rw [addBlock_cons, addBlock_cons]; rfl
      | nil =>
        cases x with
        | toolUse id name input => rfl
        | text t =>
          by_cases ht : t = ""
          · rw [ht, addBlock_empty, addBlock_empty, hfront]
          · -- both texts join the one block
            have hleft := addText_text [] (s ++ a) t
            have hright := addText_text [] a t
            rw [List.nil_append, List.nil_append] at hleft hright
            rw [addBlock_text _ ht, addBlock_text _ ht, hleft, hright, String.append_assoc]
            rfl
    | toolUse id name input =>
      -- text in front does not join a call
      rw [addBlock_toolUse_cons]
      by_cases hs : s = ""
      · have hfront : ∀ rest, addFront s (.toolUse id name input :: rest) =
            .toolUse id name input :: rest := fun rest => if_pos hs
        rw [hfront, hfront, addBlock_toolUse_cons]
      · have hfront : ∀ rest, addFront s (.toolUse id name input :: rest) =
            .text s :: .toolUse id name input :: rest := fun rest => if_neg hs
        rw [hfront, hfront, addBlock_cons, addBlock_toolUse_cons]

theorem mergeTexts_snoc (x : ReadBlock) : ∀ blocks : List ReadBlock,
    mergeTexts (blocks ++ [x]) = addBlock (mergeTexts blocks) x := by
  intro blocks
  induction blocks with
  | nil =>
    cases x with
    | toolUse id name input => rfl
    | text s => rfl
  | cons b blocks ih =>
    rw [List.cons_append]
    cases b with
    | text s => rw [mergeTexts_text, mergeTexts_text, ih, addBlock_addFront]
    | toolUse id name input => rw [mergeTexts, mergeTexts, ih, addBlock_toolUse_cons]

/-- Blocks are merged as they come. -/
theorem mergeTexts_eq_foldl (blocks : List ReadBlock) :
    mergeTexts blocks = blocks.foldl addBlock [] := by
  induction blocks using List.reverseRecOn with
  | nil => rfl
  | append_singleton blocks x ih => rw [mergeTexts_snoc, ih, List.foldl_append]; rfl

/-! ## What the items of blocks hold -/

namespace AnthropicStreamTranslator

section Content

variable (ids : FreshIds) (tool : ℕ)

/-- The deltas of a text block, whatever text it has so far. -/
theorem foldl_textDeltas (held : List ReadBlock) (keys : List ℤ) :
    ∀ (ds : List ContentBlockDelta) (a : String), (∀ d ∈ ds, d.kind = .text) →
    (ds.flatMap (deltaItems tool)).foldl (addItem ids) (addBlock held (.text a), keys) =
      (addBlock held (ds.foldl ReadBlock.add (.text a)), keys) := by
  intro ds
  induction ds with
  | nil =>
    intro a _
    rfl
  | cons d ds ih =>
    intro a hkinds
    have hrest := fun a' => ih a' (fun d hd => hkinds d (List.mem_cons_of_mem _ hd))
    have hkind := hkinds d List.mem_cons_self
    cases d with
    | inputJsonDelta p => cases hkind
    | textDelta s =>
      rw [List.flatMap_cons, List.foldl_append, List.foldl_cons]
      refine Eq.trans ?_ (hrest (a ++ s))
      by_cases hs : s = ""
      · simp [deltaItems, hs]
      · rw [addBlock_text_append held a hs]
        simp [deltaItems, hs, addItem]

/-- The deltas of the tool block that is held last. -/
theorem foldl_inputDeltas (held : List ReadBlock) {keys : List ℤ} (id name : String)
    (hkey : (tool : ℤ) ∈ keys) :
    ∀ (ds : List ContentBlockDelta) (input : String), (∀ d ∈ ds, d.kind = .toolUse) →
    (ds.flatMap (deltaItems tool)).foldl (addItem ids)
        (held ++ [.toolUse id name input], keys) =
      (held ++ [ds.foldl ReadBlock.add (.toolUse id name input)], keys) := by
  intro ds
  induction ds with
  | nil =>
    intro input _
    rfl
  | cons d ds ih =>
    intro input hkinds
    have hrest := fun input' => ih input' (fun d hd => hkinds d (List.mem_cons_of_mem _ hd))
    have hkind := hkinds d List.mem_cons_self
    cases d with
    | textDelta s => cases hkind
    | inputJsonDelta p =>
      rw [List.flatMap_cons, List.foldl_append, List.foldl_cons]
      refine Eq.trans ?_ (hrest (input ++ p))
      have hitem : addItem ids (held ++ [.toolUse id name input], keys)
          (.tool (inputDelta tool p)) =
            (addInput (held ++ [.toolUse id name input]) p, keys) :=
        addItem_old ids (inputDelta tool p) hkey
      rw [addInput_toolUse] at hitem
      simp [deltaItems, hitem]

end Content

/-- The items of blocks add the blocks, one by one, to what is held. -/
theorem foldl_blockItems (ids : FreshIds) : ∀ (bs : List StreamBlock) (tool : ℕ)
    (held : List ReadBlock) (keys : List ℤ), (∀ b ∈ bs, b.shell.Plain) →
    (∀ k ∈ keys, k < (tool : ℤ)) →
    ((blockItems bs tool).foldl (addItem ids) (held, keys)).1 =
      (bs.map StreamBlock.content).foldl addBlock held := by
  intro bs
  induction bs with
  | nil =>
    intro tool held keys _ _
    rfl
  | cons b bs ih =>
    intro tool held keys hplain hkeys
    have hrest := fun b' hb' => hplain b' (List.mem_cons_of_mem b hb')
    have hb : b.shell.Plain := hplain b List.mem_cons_self
    have hkinds := b.kinds
    rw [List.map_cons, List.foldl_cons]
    unfold blockItems StreamBlock.content
    cases hshell : b.shell with
    | text s =>
      rw [hshell] at hb hkinds
      obtain rfl : s = "" := hb
      have hdeltas := foldl_textDeltas ids tool held keys b.deltas "" hkinds
      rw [addBlock_empty] at hdeltas
      simp only [List.foldl_append, hdeltas]
      exact ih tool _ keys hrest hkeys
    | toolUse id name input =>
      rw [hshell] at hb hkinds
      -- the tool index is larger than those seen, so the header opens a block
      have hnew : (headerDelta tool id name).index ∉ keys := by
        intro hmem
        exact lt_irrefl _ (hkeys _ hmem)
      have hheader : addItem ids (held, keys) (.tool (headerDelta tool id name)) =
          (held ++ [.toolUse id name ""], keys ++ [(tool : ℤ)]) := by
        rw [addItem_new ids _ hnew]
        simp [headerDelta, StreamTranslator.toolId, ToolCallDelta.idText, ToolCallDelta.nameText,
          ToolCallDelta.argumentText, hb.1]
      have hkey : (tool : ℤ) ∈ keys ++ [(tool : ℤ)] := by simp
      have hdeltas := foldl_inputDeltas ids tool held id name hkey b.deltas "" hkinds
      obtain ⟨input', hcontent⟩ := foldl_add_toolUse id name b.deltas ""
      simp only [List.foldl_cons, List.foldl_append, hheader, hdeltas]
      rw [hcontent] at hdeltas ⊢
      simp only [ReadBlock.ofShell, hcontent]
      refine ih (tool + 1) _ _ hrest ?_
      intro k hk
      rcases List.mem_append.1 hk with hk | hk
      · have := hkeys k hk
        omega
      · rw [List.mem_singleton.1 hk]
        omega

/-- **The items of a message hold its blocks, merged.** -/
theorem contentOf_blockItems (ids : FreshIds) (m : UpstreamMessage) :
    contentOf ids (blockItems m.blocks 0) = mergeTexts (m.blocks.map StreamBlock.content) := by
  rw [mergeTexts_eq_foldl]
  exact foldl_blockItems ids m.blocks 0 [] [] m.plain (by simp)

/-! ## The deltas of a tool follow one another -/

theorem contiguousTools_texts {ys : List DeltaItem} (hys : ContiguousTools ys) :
    ∀ xs : List DeltaItem, (∀ x ∈ xs, ∃ s, x = .text s) → ContiguousTools (xs ++ ys) := by
  intro xs
  induction xs with
  | nil =>
    intro _
    exact hys
  | cons x xs ih =>
    intro hxs
    obtain ⟨s, rfl⟩ := hxs x List.mem_cons_self
    rw [List.cons_append, contiguousTools_cons]
    refine ⟨ih (fun y hy => hxs y (List.mem_cons_of_mem _ hy)), ?_⟩
    intro delta hdelta
    cases hdelta

/-- Deltas of one index, then items of others. -/
theorem contiguousTools_group {k : ℤ} {ys : List DeltaItem} (hys : ContiguousTools ys)
    (hother : ∀ y ∈ ys, ¬ y.isOf k) :
    ∀ xs : List DeltaItem, (∀ x ∈ xs, x.isOf k) → ContiguousTools (xs ++ ys) := by
  intro xs
  induction xs with
  | nil =>
    intro _
    exact hys
  | cons x xs ih =>
    intro hxs
    have hrest := fun y hy => hxs y (List.mem_cons_of_mem x hy)
    rw [List.cons_append, contiguousTools_cons]
    refine ⟨ih hrest, ?_⟩
    -- behind the group there is nothing of the index
    rintro delta rfl y hy
    obtain ⟨d, heq, hk⟩ := DeltaItem.isOf_iff.1 (hxs _ List.mem_cons_self)
    obtain rfl := DeltaItem.tool.inj heq
    rw [hk] at hy ⊢
    rw [List.dropWhile_append_of_pos hrest] at hy
    exact hother y ((List.dropWhile_sublist _).subset hy)

/-- The deltas of a tool block are of its index. -/
theorem isOf_deltaItems (tool : ℕ) {ds : List ContentBlockDelta}
    (hkinds : ∀ d ∈ ds, d.kind = .toolUse) :
    ∀ x ∈ ds.flatMap (deltaItems tool), x.isOf (tool : ℤ) := by
  intro x hx
  obtain ⟨d, hd, hx⟩ := List.mem_flatMap.1 hx
  have hkind := hkinds d hd
  cases d with
  | textDelta s => cases hkind
  | inputJsonDelta p =>
    rw [List.mem_singleton.1 hx]
    exact DeltaItem.isOf_iff.2 ⟨_, rfl, rfl⟩

/-- The deltas of a text block are texts. -/
theorem text_deltaItems (tool : ℕ) {ds : List ContentBlockDelta}
    (hkinds : ∀ d ∈ ds, d.kind = .text) :
    ∀ x ∈ ds.flatMap (deltaItems tool), ∃ s, x = .text s := by
  intro x hx
  obtain ⟨d, hd, hx⟩ := List.mem_flatMap.1 hx
  have hkind := hkinds d hd
  cases d with
  | textDelta s =>
    by_cases hs : s = ""
    · simp [deltaItems, hs] at hx
    · rw [deltaItems, if_neg hs] at hx
      exact ⟨s, List.mem_singleton.1 hx⟩
  | inputJsonDelta p => cases hkind

/-- The tool indices of blocks start at the next one. -/
theorem index_blockItems : ∀ (bs : List StreamBlock) (tool : ℕ) {k : ℤ}, k < tool →
    ∀ x ∈ blockItems bs tool, ¬ x.isOf k := by
  intro bs
  induction bs with
  | nil =>
    intro tool k hk x hx
    cases hx
  | cons b bs ih =>
    intro tool k hk x hx
    have hkinds := b.kinds
    unfold blockItems at hx
    cases hshell : b.shell with
    | text s =>
      simp only [hshell, List.mem_append] at hx hkinds
      rcases hx with hx | hx
      · obtain ⟨s, rfl⟩ := text_deltaItems tool hkinds x hx
        simp [DeltaItem.isOf]
      · exact ih tool hk x hx
    | toolUse id name input =>
      simp only [hshell, List.mem_cons, List.mem_append] at hx hkinds
      rcases hx with rfl | hx | hx
      · intro hof
        obtain ⟨d, heq, hindex⟩ := DeltaItem.isOf_iff.1 hof
        obtain rfl := DeltaItem.tool.inj heq
        have hindex : (tool : ℤ) = k := hindex
        omega
      · intro hof
        obtain ⟨d, rfl, hindex⟩ := DeltaItem.isOf_iff.1 (isOf_deltaItems tool hkinds x hx)
        obtain ⟨d', heq, hindex'⟩ := DeltaItem.isOf_iff.1 hof
        obtain rfl := DeltaItem.tool.inj heq
        omega
      · exact ih (tool + 1) (by omega) x hx

theorem contiguousTools_blockItems : ∀ (bs : List StreamBlock) (tool : ℕ),
    ContiguousTools (blockItems bs tool) := by
  intro bs
  induction bs with
  | nil =>
    intro tool before between after first second heq
    simp [blockItems] at heq
  | cons b bs ih =>
    intro tool
    have hkinds := b.kinds
    unfold blockItems
    cases hshell : b.shell with
    | text s =>
      rw [hshell] at hkinds
      exact contiguousTools_texts (ih tool) _ (text_deltaItems tool hkinds)
    | toolUse id name input =>
      rw [hshell] at hkinds
      refine contiguousTools_group (k := tool) (ih (tool + 1))
        (index_blockItems bs (tool + 1) (by omega))
        (.tool (headerDelta tool id name) :: b.deltas.flatMap (deltaItems tool)) ?_
      intro x hx
      rcases List.mem_cons.1 hx with rfl | hx
      · exact DeltaItem.isOf_iff.2 ⟨_, rfl, rfl⟩
      · exact isOf_deltaItems tool hkinds x hx

end AnthropicStreamTranslator

/-! ## What a client reads of a well-formed stream -/

section Reading

variable (m : ReadMessage)

/-- The deltas of the block that was started last. -/
theorem read_deltas (held : List ReadBlock) : ∀ (ds : List ContentBlockDelta) (b : ReadBlock),
    (ds.map (.contentBlockDelta held.length)).foldl ReadMessage.read
        { m with blocks := held ++ [b] } =
      { m with blocks := held ++ [ds.foldl ReadBlock.add b] } := by
  intro ds
  induction ds with
  | nil =>
    intro b
    rfl
  | cons d ds ih =>
    intro b
    -- the block that was started last is the one changed
    have hmodify : (held ++ [b]).modify held.length (·.add d) = held ++ [b.add d] := by
      rw [List.modify_eq_take_cons_drop (by simp)]
      simp
    rw [List.map_cons, List.foldl_cons, List.foldl_cons, ← ih (b.add d)]
    simp only [ReadMessage.read, hmodify]

theorem read_blocks : ∀ (bs : List StreamBlock) (held : List ReadBlock),
    (blockEvents bs held.length).foldl ReadMessage.read { m with blocks := held } =
      { m with blocks := held ++ bs.map StreamBlock.content } := by
  intro bs
  induction bs with
  | nil =>
    intro held
    simp [blockEvents]
  | cons b bs ih =>
    intro held
    have hdeltas := read_deltas m held b.deltas (.ofShell b.shell)
    have hrest := ih (held ++ [b.content])
    rw [List.length_append, List.length_singleton] at hrest
    unfold blockEvents StreamBlock.events StreamBlock.opening
    rw [List.foldl_append, List.foldl_append, List.foldl_cons]
    simp only [ReadMessage.read, List.foldl_cons, List.foldl_nil, hdeltas]
    refine Eq.trans hrest ?_
    simp

end Reading

/-- **What a client reads of a well-formed stream.** -/
theorem readMessage_events (s : MessageStream) :
    readMessage s.events =
      { message := some s.message
        blocks := s.blocks.map StreamBlock.content
        stopReason := s.stopReason
        outputTokens := some s.outputTokens
        stopped := true } := by
  have hblocks := read_blocks { message := some s.message } s.blocks []
  rw [List.length_nil, List.nil_append] at hblocks
  unfold readMessage MessageStream.events
  rw [List.foldl_cons, List.foldl_append]
  refine Eq.trans (congrArg (fun m => List.foldl ReadMessage.read m _) hblocks) ?_
  rfl

/-! ## The round trip -/

namespace AnthropicStreamTranslator

/-- The cache counts that arrive with the first chunk. -/
theorem counts_of_startUsage (usage : AnthropicUsage) :
    ((startUsage usage).bind Usage.promptTokensDetails).bind
        PromptTokensDetails.cacheCreationInputTokens = usage.cacheCreationInputTokens ∧
    ((startUsage usage).bind Usage.promptTokensDetails).bind
        PromptTokensDetails.cacheReadInputTokens = usage.cacheReadInputTokens := by
  unfold startUsage startDetails
  by_cases hnone : usage.cacheCreationInputTokens = none ∧ usage.cacheReadInputTokens = none
  · rw [if_pos hnone]
    by_cases hzero : usage.inputTokens = 0
    · simp [hzero, hnone.1, hnone.2]
    · simp [hzero, hnone.1, hnone.2]
  · rw [if_neg hnone]
    simp

/-- The stop reasons of the map come back, `stop_sequence` as `end_turn`. -/
theorem stopReason_back {s : String} (hs : s ∈ stopReasonMap.map Prod.fst) :
    ∃ f, streamFinish (some s) = some f ∧
      (openaiFinishToAnthropicStop f).name = if s = "stop_sequence" then "end_turn" else s := by
  simp only [stopReasonMap, List.map_cons, List.map_nil, List.mem_cons, List.not_mem_nil,
    or_false] at hs
  rcases hs with rfl | rfl | rfl | rfl | rfl
  · exact ⟨.stop, by decide, rfl⟩
  · exact ⟨.length, by decide, rfl⟩
  · exact ⟨.stop, by decide, rfl⟩
  · exact ⟨.toolCalls, by decide, rfl⟩
  · exact ⟨.contentFilter, by decide, rfl⟩

end AnthropicStreamTranslator

open AnthropicStreamTranslator in
/-- **Anthropic's events, made into chunks and back.** For a message with a stop reason of the map,
however its blocks are cut into deltas, nothing raises, and a client reads of the stream emitted
what it would read of the message, adjacent text blocks merged and empty ones dropped. -/
theorem stream_round_trip (w : WireValues) (ids : FreshIds) (requestModel : String)
    (inputTokens created : ℤ) (m : UpstreamMessage) (es : List ReceivedEvent) (reason : String)
    (hdecodes : Decodes es m.events) (hreason : m.stopReason = some reason)
    (hmap : reason ∈ stopReasonMap.map Prod.fst) :
    (translateEvents w { created := created } es).2 = none ∧
    (∃ s : MessageStream, s.blocks ≠ [] ∧ messageEvents ids requestModel inputTokens
      (translateEvents w { created := created } es).1 = s.events) ∧
    ∃ (message : AnthropicMessagesResponse) (stop : AnthropicStopReason),
      readMessage (messageEvents ids requestModel inputTokens
        (translateEvents w { created := created } es).1) =
          { message := some message
            blocks :=
              if mergeTexts (m.blocks.map StreamBlock.content) = [] then [.text ""]
              else mergeTexts (m.blocks.map StreamBlock.content)
            stopReason := some stop
            outputTokens := some m.outputTokens
            stopped := true } ∧
      message.usage.cacheCreationInputTokens = m.usage.cacheCreationInputTokens ∧
      message.usage.cacheReadInputTokens = m.usage.cacheReadInputTokens ∧
      stop.name = if reason = "stop_sequence" then "end_turn" else reason := by
  obtain ⟨first, rest, hchunks, husage, hitems, husages, hfinishes⟩ :=
    chunks_message (w := w) created hdecodes
  have hcontiguous : ContiguousTools ((first :: rest).flatMap ChatCompletionChunk.items) := by
    rw [hitems]
    exact contiguousTools_blockItems m.blocks 0
  obtain ⟨s, hblocks, hevents, hmessage, hcontents, hstop, htokens⟩ :=
    messageEvents_stream ids requestModel inputTokens first rest hcontiguous
  obtain ⟨f, hf, hname⟩ := stopReason_back hmap
  obtain ⟨hwrite, hread⟩ := counts_of_startUsage m.usage
  have hfinish : Chunks.finishReason (first :: rest) = some f := by
    unfold Chunks.finishReason
    rw [hfinishes, hreason, hf]
    rfl
  have houtput : ((Chunks.usage (first :: rest)).map Usage.completionTokens).getD 0 =
      m.outputTokens := by
    unfold Chunks.usage
    rw [husages, List.getLast?_append]
    rfl
  rw [hitems, contentOf_blockItems] at hcontents
  rw [hchunks]
  refine ⟨rfl, ⟨s, hblocks, hevents⟩, s.message, openaiFinishToAnthropicStop f, ?_, ?_, ?_, hname⟩
  · rw [hevents, readMessage_events, hcontents, hstop, hfinish, htokens, houtput]
    rfl
  · rw [hmessage, ← hwrite, ← husage]
    rfl
  · rw [hmessage, ← hread, ← husage]
    rfl

open AnthropicStreamTranslator in
theorem stream_round_trip_sample :
    sampleMessage.stopReason = some "tool_use" ∧ "tool_use" ∈ stopReasonMap.map Prod.fst ∧
    (translateEvents sampleValues { created := 0 }
      (sampleMessage.received 0 "chatcmpl-1")).2 = none :=
  ⟨rfl, by decide, (stream_round_trip sampleValues (.drawn "1" (fun _ => "1")) "m" 3 0 sampleMessage
    _ "tool_use" (decodes_received sampleMessage 0 "chatcmpl-1") rfl (by decide)).1⟩

end ModelMeld
