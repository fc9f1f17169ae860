import ModelMeld.Spec.WholeMessages
import ModelMeld.Proof.RoundTrip

/-!
# Two decoders of one message

`fromAnthropicResponse_message`: what a whole message is read as.
`turn_message`: what the chunks of a stream of it add up to. The tool calls
always agree; the texts agree when there is at most one of them, since one
decoder puts a line break between texts and the other does not
(`decoders_agree_iff`).
-/

namespace ModelMeld

/-! ## The whole message -/

section Whole

variable (w : WireValues)

/-- The tool call of a block. -/
def MessageBlock.call? : MessageBlock → Option ToolCall
  | .text _ => none
  | .toolUse id name input =>
    some { id := id, function := { name := name, arguments := w.dumps (.obj input) } }

theorem responseContent_blocks {items : List Json} {blocks : List MessageBlock}
    (h : List.Forall₂ ReadsBlock items blocks) :
    responseContent w items =
      .ok ((blocks.filterMap MessageBlock.text?).map .str,
        blocks.filterMap (MessageBlock.call? w)) := by
  induction h with
  | nil => rfl
  | @cons v block items blocks hread hrest ih =>
    cases block with
    | text s =>
      obtain ⟨fields, rfl, htype, htext⟩ := hread
      rw [responseContent, ih]
      simp [Json.asDict, ok_bind, pure_eq, getD_of_get? htype, getD_of_get? htext,
        List.filterMap_cons, MessageBlock.text?, MessageBlock.call?]
    | toolUse id name input =>
      obtain ⟨fields, rfl, htype, hid, hname, hinput⟩ := hread
      rw [responseContent, ih]
      simp [Json.asDict, ok_bind, pure_eq, getD_of_get? htype, getD_of_get? hinput,
        JsonObj.get!, hid, hname, Json.asStr, List.filterMap_cons, MessageBlock.text?,
        MessageBlock.call?]

theorem mapM_asJoined (texts : List String) :
    (texts.map Json.str).mapM Json.asJoined = .ok texts := by
  induction texts with
  | nil => rfl
  | cons s texts ih =>
    rw [List.map_cons, List.mapM_cons, ih]
    rfl

/-- The finish reason of a whole message; none and an empty one are `stop`. -/
def wholeFinish (stopReason : Option String) : FinishReason :=
  match stopReason with
  | none => .stop
  | some s => if s = "" then .stop else (stopReasonMap.lookup s).getD .stop

theorem finishOfStop_wire (stopReason : Option String) :
    finishOfStop
        (if (Json.ofOptStr stopReason).truthy then .ofOptStr stopReason else .str "end_turn") =
      .ok (wholeFinish stopReason) := by
  have hend : stopReasonMap.lookup "end_turn" = some .stop := by decide
  unfold finishOfStop wholeFinish
  cases stopReason with
  | none => simp [Json.ofOptStr, Json.truthy, Json.asKey, ok_bind, pure_eq, hend]
  | some s =>
    by_cases hs : s = ""
    · simp [Json.ofOptStr, Json.truthy, Json.asKey, ok_bind, pure_eq, hs, hend]
    · simp [Json.ofOptStr, Json.truthy, Json.asKey, ok_bind, pure_eq, hs]

/-- The completion of a message. -/
def WholeMessage.completion (now : ℤ) (freshId : String) (m : WholeMessage) : ChatCompletion where
  id := if m.id = "" then freshId else m.id
  created := now
  model := m.model
  choices :=
    [{ index := 0
       message :=
        { content := if m.texts = [] then none else some (join "\n" m.texts)
          toolCalls :=
            if m.blocks.filterMap (MessageBlock.call? w) = [] then none
            else some (m.blocks.filterMap (MessageBlock.call? w)) }
       finishReason := some (wholeFinish m.stopReason) }]
  usage := some
    { promptTokens := m.usage.inputTokens
      completionTokens := m.usage.outputTokens
      totalTokens := m.usage.inputTokens + m.usage.outputTokens
      promptTokensDetails := AnthropicStreamTranslator.startDetails m.usage }

/-- **A dict that reads as a message is decoded, without an error, to its completion.** -/
theorem fromAnthropicResponse_message {d : JsonObj} {m : WholeMessage} (h : ReadsMessage d m)
    (now : ℤ) (freshId : String) :
    fromAnthropicResponse w now freshId d = .ok (m.completion w now freshId) := by
  obtain ⟨items, hcontent, hblocks⟩ := h.content
  obtain ⟨counts, husage, hinput, houtput, hwrite, hread⟩ := h.usage
  unfold fromAnthropicResponse
  simp only [getD_of_get? hcontent, getD_of_get? husage, getD_of_get? hinput,
    getD_of_get? houtput, getD_of_get? h.id, getD_of_get? h.model, h.stopReason, Json.asItems,
    Json.asDict, ok_bind, responseContent_blocks w hblocks, mapM_asJoined, finishOfStop_wire,
    Json.toInt, AnthropicStreamTranslator.promptDetails_wire hwrite hread]
  unfold WholeMessage.completion
  by_cases hempty : m.id = ""
  · simp only [hempty, Json.truthy, if_true, ne_eq, not_true_eq_false, decide_false,
      Bool.false_eq_true, if_false]
    rfl
  · simp only [hempty, Json.truthy, ne_eq, not_false_eq_true, decide_true, if_true, if_false]
    rfl

end Whole

/-! ## The stream of it -/

namespace Chunks

theorem toolsOf_append (xs ys : List DeltaItem) : toolsOf (xs ++ ys) = toolsOf xs ++ toolsOf ys :=
  List.filterMap_append

theorem textOf_append (xs ys : List DeltaItem) : textOf (xs ++ ys) = textOf xs ++ textOf ys := by
  unfold textOf
  rw [List.filterMap_append, String.join_append]

theorem toolsOf_texts {xs : List DeltaItem} (h : ∀ x ∈ xs, ∃ s, x = .text s) : toolsOf xs = [] := by
  unfold toolsOf
  rw [List.filterMap_eq_nil_iff]
  intro x hx
  obtain ⟨s, rfl⟩ := h x hx
  rfl

theorem textOf_tools {k : ℤ} {xs : List DeltaItem} (h : ∀ x ∈ xs, x.isOf k) : textOf xs = "" := by
  unfold textOf
  rw [List.filterMap_eq_nil_iff.2]
  · rfl
  · intro x hx
    obtain ⟨d, rfl, -⟩ := DeltaItem.isOf_iff.1 (h x hx)
    rfl

theorem firstGiven_of_empty {l : List String} (h : ∀ s ∈ l, s = "") : firstGiven l = "" := by
  induction l with
  | nil => rfl
  | cons s l ih =>
    rw [firstGiven, if_pos (h s List.mem_cons_self)]
    exact ih (fun t ht => h t (List.mem_cons_of_mem _ ht))

theorem firstGiven_cons_of_empty (s : String) {l : List String} (h : ∀ t ∈ l, t = "") :
    firstGiven (s :: l) = s := by
  by_cases hs : s = ""
  · rw [firstGiven, if_pos hs, firstGiven_of_empty h, hs]
  · rw [firstGiven, if_neg hs]

/-- The call of a tool index. -/
def callAt (loads : String → Option Json) (deltas : List ToolCallDelta) (k : ℤ) : ParsedCall where
  id := suppliedId k deltas
  name := suppliedName k deltas
  arguments := readArguments loads (arguments k deltas)

/-- Only the deltas of an index count for its call. -/
theorem callAt_congr (loads : String → Option Json) {deltas deltas' : List ToolCallDelta} {k : ℤ}
    (h : deltasAt k deltas = deltasAt k deltas') :
    callAt loads deltas k = callAt loads deltas' k := by
  unfold callAt suppliedId suppliedName arguments
  rw [h]

/-- Deltas of one index first: their call, then those of the others. -/
theorem calls_append (loads : String → Option Json) {now later : List ToolCallDelta} {k : ℤ}
    (hne : now ≠ []) (hnow : ∀ d ∈ now, d.index = k) (hlater : ∀ d ∈ later, d.index ≠ k) :
    (indices (now ++ later)).map (callAt loads (now ++ later)) =
      callAt loads now k :: (indices later).map (callAt loads later) := by
  have hfresh : k ∉ indices later := by
    intro hk
    obtain ⟨d, hd, hindex⟩ := Grouping.mem_keys.1 hk
    exact hlater d hd hindex
  have hkeys : indices (now ++ later) = k :: indices later :=
    Grouping.keys_group_append hne hnow hfresh
  rw [hkeys, List.map_cons]
  congr 1
  · -- the later deltas are of other indices
    refine callAt_congr loads ?_
    unfold deltasAt
    rw [Grouping.group_append, Grouping.group_eq_nil_of_ne hlater, List.append_nil]
  · refine List.map_congr_left ?_
    intro k' hk'
    refine callAt_congr loads ?_
    -- and the first ones of none of theirs
    have hothers : ∀ d ∈ now, d.index ≠ k' := by
      intro d hd hindex
      rw [hnow d hd] at hindex
      exact hfresh (hindex ▸ hk')
    unfold deltasAt
    rw [Grouping.group_append, Grouping.group_eq_nil_of_ne hothers, List.nil_append]

end Chunks

namespace ReadBlock

def text? : ReadBlock → Option String
  | .text s => some s
  | .toolUse _ _ _ => none

def call? (loads : String → Option Json) : ReadBlock → Option ParsedCall
  | .text _ => none
  | .toolUse id name input => some { id := id, name := name, arguments := readArguments loads input }

end ReadBlock

namespace AnthropicStreamTranslator

section Blocks

variable (tool : ℕ)

/-- A text block holds the text of its deltas. -/
theorem content_textDeltas : ∀ (ds : List ContentBlockDelta) (a : String),
    (∀ d ∈ ds, d.kind = .text) →
    ds.foldl ReadBlock.add (.text a) =
      .text (a ++ Chunks.textOf (ds.flatMap (deltaItems tool))) := by
  intro ds
  induction ds with
  | nil =>
    intro a _
    simp [Chunks.textOf]
  | cons d ds ih =>
    intro a hkinds
    have hrest := fun a' => ih a' (fun d hd => hkinds d (List.mem_cons_of_mem _ hd))
    have hkind := hkinds d List.mem_cons_self
    cases d with
    | inputJsonDelta p => cases hkind
    | textDelta s =>
      have hone : Chunks.textOf (deltaItems tool (.textDelta s)) = s := by
        by_cases hs : s = ""
        · simp [deltaItems, hs, Chunks.textOf]
        · simp [deltaItems, hs, Chunks.textOf]
      rw [List.foldl_cons, List.flatMap_cons, Chunks.textOf_append, hone, ← String.append_assoc]
      exact hrest (a ++ s)

/-- A tool block holds the pieces of its deltas. -/
theorem content_inputDeltas (id name : String) : ∀ (ds : List ContentBlockDelta) (a : String),
    (∀ d ∈ ds, d.kind = .toolUse) →
    ∃ ps : List String,
      Chunks.toolsOf (ds.flatMap (deltaItems tool)) = ps.map (inputDelta tool) ∧
      ds.foldl ReadBlock.add (.toolUse id name a) = .toolUse id name (a ++ String.join ps) := by
  intro ds
  induction ds with
  | nil =>
    intro a _
    exact ⟨[], rfl, by simp⟩
  | cons d ds ih =>
    intro a hkinds
    have hkind := hkinds d List.mem_cons_self
    cases d with
    | textDelta s => cases hkind
    | inputJsonDelta p =>
      obtain ⟨ps, hpieces, hcontent⟩ :=
        ih (a ++ p) (fun d hd => hkinds d (List.mem_cons_of_mem _ hd))
      refine ⟨p :: ps, ?_, ?_⟩
      · rw [List.flatMap_cons, Chunks.toolsOf_append, hpieces]
        rfl
      · rw [List.foldl_cons, String.join_cons, ← String.append_assoc]
        exact hcontent

theorem content_of_textShell {b : StreamBlock} {s : String} (h : b.shell = .text s) :
    b.content = .text (s ++ Chunks.textOf (b.deltas.flatMap (deltaItems tool))) := by
  have hkinds := b.kinds
  rw [h] at hkinds
  unfold StreamBlock.content
  rw [h]
  exact content_textDeltas tool b.deltas s hkinds

theorem content_of_toolShell {b : StreamBlock} {id name : String} {input : JsonObj}
    (h : b.shell = .toolUse id name input) :
    ∃ ps : List String,
      Chunks.toolsOf (b.deltas.flatMap (deltaItems tool)) = ps.map (inputDelta tool) ∧
      b.content = .toolUse id name (String.join ps) := by
  have hkinds := b.kinds
  rw [h] at hkinds
  obtain ⟨ps, hpieces, hcontent⟩ := content_inputDeltas tool id name b.deltas "" hkinds
  rw [String.empty_append] at hcontent
  refine ⟨ps, hpieces, ?_⟩
  unfold StreamBlock.content
  rw [h]
  exact hcontent

/-- The call of a tool block. -/
theorem callAt_block (loads : String → Option Json) {id : String} (hid : id ≠ "") (name : String)
    (ps : List String) :
    Chunks.callAt loads (headerDelta tool id name :: ps.map (inputDelta tool)) tool =
      { id := id, name := name, arguments := readArguments loads (String.join ps) } := by
  have hall : Chunks.deltasAt tool (headerDelta tool id name :: ps.map (inputDelta tool)) =
      headerDelta tool id name :: ps.map (inputDelta tool) := by
    refine Grouping.group_eq_self ?_
    intro d hd
    rcases List.mem_cons.1 hd with rfl | hd
    · rfl
    · obtain ⟨p, -, rfl⟩ := List.mem_map.1 hd
      rfl
  have hnoname : ∀ t ∈ (ps.map (inputDelta tool)).map ToolCallDelta.nameText, t = "" := by
    intro t ht
    rw [List.map_map] at ht
    obtain ⟨p, -, rfl⟩ := List.mem_map.1 ht
    rfl
  have hpieces : (ps.map (inputDelta tool)).map ToolCallDelta.argumentText = ps := by
    rw [List.map_map]
    exact List.map_id ps
  unfold Chunks.callAt Chunks.suppliedId Chunks.suppliedName Chunks.arguments
  rw [hall, List.map_cons, List.map_cons, List.map_cons, hpieces,
    Chunks.firstGiven_cons_of_empty _ hnoname, String.join_cons]
  have hfirst : (headerDelta tool id name).idText = id := rfl
  have hargs : (headerDelta tool id name).argumentText = "" := rfl
  rw [hfirst, Chunks.firstGiven, if_neg hid, hargs, String.empty_append]
  rfl

end Blocks

/-- The texts of the blocks are the text of their items. -/
theorem text_blockItems : ∀ (bs : List StreamBlock) (tool : ℕ), (∀ b ∈ bs, b.shell.Plain) →
    Chunks.textOf (blockItems bs tool) =
      String.join ((bs.map StreamBlock.content).filterMap ReadBlock.text?) := by
  intro bs
  induction bs with
  | nil =>
    intro tool _
    rfl
  | cons b bs ih =>
    intro tool hplain
    have hrest := fun b' hb' => hplain b' (List.mem_cons_of_mem b hb')
    have hb : b.shell.Plain := hplain b List.mem_cons_self
    have hkinds := b.kinds
    rw [List.map_cons]
    unfold blockItems
    cases hshell : b.shell with
    | text s =>
      rw [hshell] at hb
      obtain rfl : s = "" := hb
      have hcontent := content_of_textShell tool hshell
      rw [String.empty_append] at hcontent
      simp only [hcontent, Chunks.textOf_append, ih tool hrest, List.filterMap_cons,
        ReadBlock.text?, String.join_cons]
    | toolUse id name input =>
      rw [hshell] at hkinds
      obtain ⟨ps, -, hcontent⟩ := content_of_toolShell tool hshell
      have hheader : Chunks.textOf [.tool (headerDelta tool id name)] = "" := rfl
      simp only [hcontent, List.filterMap_cons, ReadBlock.text?]
      rw [← ih (tool + 1) hrest, ← List.singleton_append, Chunks.textOf_append,
        Chunks.textOf_append, Chunks.textOf_tools (isOf_deltaItems tool hkinds), hheader,
        String.empty_append, String.empty_append]

/-- The calls of the tool blocks are the calls of their items. -/
theorem calls_blockItems (loads : String → Option Json) : ∀ (bs : List StreamBlock) (tool : ℕ),
    (∀ b ∈ bs, b.shell.Plain) →
    (Chunks.indices (Chunks.toolsOf (blockItems bs tool))).map
        (Chunks.callAt loads (Chunks.toolsOf (blockItems bs tool))) =
      (bs.map StreamBlock.content).filterMap (ReadBlock.call? loads) := by
  intro bs
  induction bs with
  | nil =>
    intro tool _
    rfl
  | cons b bs ih =>
    intro tool hplain
    have hrest := fun b' hb' => hplain b' (List.mem_cons_of_mem b hb')
    have hb : b.shell.Plain := hplain b List.mem_cons_self
    have hkinds := b.kinds
    rw [List.map_cons]
    unfold blockItems
    cases hshell : b.shell with
    | text s =>
      rw [hshell] at hkinds
      simp only [content_of_textShell tool hshell, Chunks.toolsOf_append,
        Chunks.toolsOf_texts (text_deltaItems tool hkinds), List.nil_append, ih tool hrest,
        List.filterMap_cons, ReadBlock.call?]
    | toolUse id name input =>
      rw [hshell] at hb
      obtain ⟨ps, hpieces, hcontent⟩ := content_of_toolShell tool hshell
      have htools : Chunks.toolsOf (.tool (headerDelta tool id name) ::
          (b.deltas.flatMap (deltaItems tool) ++ blockItems bs (tool + 1))) =
          (headerDelta tool id name :: ps.map (inputDelta tool)) ++
            Chunks.toolsOf (blockItems bs (tool + 1)) := by
        rw [← List.singleton_append, Chunks.toolsOf_append, Chunks.toolsOf_append, hpieces]
        rfl
      have hnow : ∀ d ∈ headerDelta tool id name :: ps.map (inputDelta tool),
          d.index = (tool : ℤ) := by
        intro d hd
        rcases List.mem_cons.1 hd with rfl | hd
        · rfl
        · obtain ⟨p, -, rfl⟩ := List.mem_map.1 hd
          rfl
      -- the blocks that follow have larger tool indices
      have hlater : ∀ d ∈ Chunks.toolsOf (blockItems bs (tool + 1)), d.index ≠ (tool : ℤ) := by
        intro d hd hindex
        obtain ⟨x, hx, hsome⟩ := List.mem_filterMap.1 hd
        have hother := index_blockItems bs (tool + 1) (k := tool) (by omega) x hx
        cases x with
        | text s => simp at hsome
        | tool d' =>
          obtain rfl : d' = d := by simpa using hsome
          exact hother (DeltaItem.isOf_iff.2 ⟨d', rfl, hindex⟩)
      simp only [hcontent, List.filterMap_cons, ReadBlock.call?]
      rw [htools, Chunks.calls_append loads (by simp) hnow hlater, callAt_block tool loads hb.1,
        ih (tool + 1) hrest]

/-- **The turn that the chunks of a message add up to.** -/
theorem turn_message {w : WireValues} {u : UpstreamMessage} {es : List ReceivedEvent}
    (loads : String → Option Json) (created : ℤ) (hdecodes : Decodes es u.events) :
    (translateEvents w { created := created } es).2 = none ∧
    Chunks.turn loads (translateEvents w { created := created } es).1 =
      { text := String.join ((u.blocks.map StreamBlock.content).filterMap ReadBlock.text?)
        calls := (u.blocks.map StreamBlock.content).filterMap (ReadBlock.call? loads)
        finish := streamFinish u.stopReason } := by
  obtain ⟨first, rest, hchunks, -, hitems, -, hfinishes⟩ :=
    chunks_message (w := w) created hdecodes
  rw [hchunks]
  refine ⟨rfl, ?_⟩
  have htext : Chunks.text (first :: rest) =
      String.join ((u.blocks.map StreamBlock.content).filterMap ReadBlock.text?) := by
    rw [Chunks.text_eq, hitems, text_blockItems u.blocks 0 u.plain]
  have hcalls := calls_blockItems loads u.blocks 0 u.plain
  rw [← hitems] at hcalls
  have hfinish : Chunks.finishReason (first :: rest) = streamFinish u.stopReason := by
    unfold Chunks.finishReason
    rw [hfinishes]
    cases streamFinish u.stopReason <;> rfl
  unfold Chunks.turn
  rw [htext, hfinish]
  exact congrArg (fun calls => AssistantTurn.mk _ calls _) hcalls

end AnthropicStreamTranslator

/-! ## The two readings of a message -/

/-- Line breaks between texts show, unless there is but one text. -/
theorem join_eq_iff (ps : List String) : String.join ps = join "\n" ps ↔ ps.length ≤ 1 := by
  constructor
  · intro h
    -- a line break for each text but the first
    have hlength := length_join "\n" ps
    have hone : "\n".length = 1 := by decide
    rw [← h, String.length_join, hone] at hlength
    omega
  · intro h
    match ps, h with
    | [], _ => rfl
    | [s], _ => simp [join]

section Agree

variable {w : WireValues} {loads : String → Option Json}

theorem texts_of_streamed {bs : List StreamBlock} {blocks : List MessageBlock}
    (h : List.Forall₂ (MessageBlock.StreamedAs loads) bs blocks) :
    (bs.map StreamBlock.content).filterMap ReadBlock.text? =
      blocks.filterMap MessageBlock.text? := by
  induction h with
  | nil => rfl
  | @cons b block bs blocks hblock hrest ih =>
    cases block with
    | text s =>
      have hcontent : b.content = .text s := hblock
      simp only [List.map_cons, List.filterMap_cons, hcontent, ReadBlock.text?,
        MessageBlock.text?, ih]
    | toolUse id name input =>
      obtain ⟨p, hcontent, -⟩ := hblock
      simp only [List.map_cons, List.filterMap_cons, hcontent, ReadBlock.text?,
        MessageBlock.text?, ih]

theorem calls_of_streamed (hempty : loads "" = none) {bs : List StreamBlock}
    {blocks : List MessageBlock}
    (h : List.Forall₂ (MessageBlock.StreamedAs loads) bs blocks)
    (hjson : ∀ input ∈ blocks.filterMap MessageBlock.input?,
      loads (w.dumps (.obj input)) = some (.obj input)) :
    (bs.map StreamBlock.content).filterMap (ReadBlock.call? loads) =
      (blocks.filterMap (MessageBlock.call? w)).map (ToolCall.parsed loads) := by
  induction h with
  | nil => rfl
  | @cons b block bs blocks hblock hrest ih =>
    cases block with
    | text s =>
      have hcontent : b.content = .text s := hblock
      simp only [List.map_cons, List.filterMap_cons, hcontent, ReadBlock.call?,
        MessageBlock.call?]
      exact ih hjson
    | toolUse id name input =>
      obtain ⟨p, hcontent, hread⟩ := hblock
      have hloads : loads (w.dumps (.obj input)) = some (.obj input) :=
        hjson input List.mem_cons_self
      -- the whole message keeps the input as text, which is read again
      have hdumps : w.dumps (.obj input) ≠ "" := by
        intro hnil
        rw [hnil, hempty] at hloads
        cases hloads
      have hparsed : readArguments loads (w.dumps (.obj input)) = some (.obj input) := by
        rw [readArguments, if_neg hdumps, hloads]
      simp only [List.map_cons, List.filterMap_cons, hcontent, ReadBlock.call?,
        MessageBlock.call?, ToolCall.parsed, hread, hparsed]
      congr 1
      exact ih (fun input' hinput => hjson input' (List.mem_cons_of_mem _ hinput))

/-- The finish reasons agree when there is a stop reason. -/
theorem finish_agree_iff (stopReason : Option String) :
    AnthropicStreamTranslator.streamFinish stopReason = some (wholeFinish stopReason) ↔
      ∃ reason, stopReason = some reason ∧ reason ≠ "" := by
  unfold AnthropicStreamTranslator.streamFinish wholeFinish
  cases stopReason with
  | none => simp
  | some s =>
    by_cases hs : s = ""
    · simp [hs]
    · simp [hs]

theorem turn_completion (now : ℤ) (freshId : String) (m : WholeMessage) :
    (m.completion w now freshId).turn loads =
      { text := join "\n" m.texts
        calls := (m.blocks.filterMap (MessageBlock.call? w)).map (ToolCall.parsed loads)
        finish := some (wholeFinish m.stopReason) } := by
  have htext : (if m.texts = [] then none else some (join "\n" m.texts)).getD "" =
      join "\n" m.texts := by
    split
    next h => rw [h]; rfl
    · rfl
  have hcalls : (if m.blocks.filterMap (MessageBlock.call? w) = [] then none
      else some (m.blocks.filterMap (MessageBlock.call? w))).getD [] =
        m.blocks.filterMap (MessageBlock.call? w) := by
    split
    next h => rw [h]; rfl
    · rfl
  unfold ChatCompletion.turn WholeMessage.completion
  simp only [htext, hcalls]

/-- **When the two decoders agree.** For a message and any stream that carries it, both decoders
succeed and say the same turn if and only if the message has at most one text block and its stop
reason is neither absent nor empty. -/
theorem decoders_agree_iff (w : WireValues) (loads : String → Option Json) (m : WholeMessage)
    (u : UpstreamMessage) (response : JsonObj) (es : List ReceivedEvent) (now created : ℤ)
    (freshId : String) (hempty : loads "" = none)
    (hjson : ∀ input ∈ m.inputs, loads (w.dumps (.obj input)) = some (.obj input))
    (hmessage : ReadsMessage response m) (hstreamed : m.StreamedAs loads u)
    (hdecodes : Decodes es u.events) :
    (∃ completion, fromAnthropicResponse w now freshId response = .ok completion ∧
      (AnthropicStreamTranslator.translateEvents w { created := created } es).2 = none ∧
      Chunks.turn loads (AnthropicStreamTranslator.translateEvents w { created := created } es).1 =
        completion.turn loads) ↔
    m.texts.length ≤ 1 ∧ ∃ reason, m.stopReason = some reason ∧ reason ≠ "" := by
  obtain ⟨hnone, hturn⟩ := AnthropicStreamTranslator.turn_message (w := w) loads created hdecodes
  rw [texts_of_streamed hstreamed.blocks, calls_of_streamed hempty hstreamed.blocks hjson,
    hstreamed.stopReason] at hturn
  have hsame : Chunks.turn loads
      (AnthropicStreamTranslator.translateEvents w { created := created } es).1 =
        (m.completion w now freshId).turn loads ↔
      m.texts.length ≤ 1 ∧ ∃ reason, m.stopReason = some reason ∧ reason ≠ "" := by
    rw [hturn, turn_completion, AssistantTurn.mk.injEq, finish_agree_iff, ← join_eq_iff]
    unfold WholeMessage.texts
    simp only [true_and]
  rw [← hsame, fromAnthropicResponse_message w hmessage]
  constructor
  · rintro ⟨completion, hok, -, h⟩
    obtain rfl := Except.ok.inj hok
    exact h
  · intro h
    exact ⟨_, rfl, hnone, h⟩

end Agree

/-! ## Messages for the examples -/

/-- The JSON values of the empty dict. -/
def sampleLoads (s : String) : Option Json := if s = "\x7b\x7d" then some (.obj []) else none

/-- The message that `sampleMessage` carries. -/
def sampleWhole : WholeMessage where
  id := "msg_1"
  model := "m"
  blocks := [.text "Hi", .text "!", .toolUse "toolu_1" "ls" []]
  stopReason := some "tool_use"
  usage := { inputTokens := 3, outputTokens := 5 }

/-- The message without its second text. -/
def oneText : WholeMessage :=
  { sampleWhole with blocks := [.text "Hi", .toolUse "toolu_1" "ls" []] }

def oneTextStream : UpstreamMessage :=
  { sampleMessage with
    blocks :=
      [{ shell := .text "", deltas := [.textDelta "Hi"], kinds := by decide },
        { shell := .toolUse "toolu_1" "ls" [] }]
    plain := by
      intro b hb
      rcases List.mem_cons.1 hb with rfl | hb
      · rfl
      · rw [List.mem_singleton.1 hb]
        exact ⟨by decide, rfl⟩ }

theorem reads_wholeWire (m : WholeMessage) : ReadsMessage m.wire m where
  id := rfl
  model := rfl
  content := by
    refine ⟨m.blocks.map MessageBlock.wire, rfl, ?_⟩
    rw [List.forall₂_map_left_iff, List.forall₂_same]
    intro block hblock
    cases block with
    | text s => exact ⟨_, rfl, rfl, rfl⟩
    | toolUse id name input => exact ⟨_, rfl, rfl, rfl, rfl, rfl⟩
  stopReason := rfl
  usage := ⟨m.usage.wire, rfl, rfl, rfl, rfl, rfl⟩

theorem sampleWhole_streamed : sampleWhole.StreamedAs sampleLoads sampleMessage where
  id := rfl
  model := rfl
  blocks := .cons rfl (.cons rfl (.cons ⟨"\x7b\x7d", by decide, by decide⟩ .nil))
  stopReason := rfl
  inputTokens := rfl
  cacheWrite := rfl
  cacheRead := rfl
  outputTokens := rfl

theorem oneText_streamed : oneText.StreamedAs sampleLoads oneTextStream where
  id := rfl
  model := rfl
  blocks := .cons rfl (.cons ⟨"", by decide, by decide⟩ .nil)
  stopReason := rfl
  inputTokens := rfl
  cacheWrite := rfl
  cacheRead := rfl
  outputTokens := rfl

theorem decoders_agree_sample :
    sampleLoads "" = none ∧
    (∀ input ∈ oneText.inputs, sampleLoads (sampleValues.dumps (.obj input)) = some (.obj input)) ∧
    ∃ completion,
      fromAnthropicResponse sampleValues 0 "chatcmpl-1" oneText.wire = .ok completion ∧
      (AnthropicStreamTranslator.translateEvents sampleValues { created := 0 }
        (oneTextStream.received 0 "chatcmpl-1")).2 = none ∧
      Chunks.turn sampleLoads (AnthropicStreamTranslator.translateEvents sampleValues
        { created := 0 } (oneTextStream.received 0 "chatcmpl-1")).1 =
          completion.turn sampleLoads :=
  ⟨by decide, by decide,
    (decoders_agree_iff sampleValues sampleLoads oneText oneTextStream oneText.wire _ 0 0
      "chatcmpl-1" (by decide) (by decide) (reads_wholeWire oneText) oneText_streamed
      (decodes_received oneTextStream 0 "chatcmpl-1")).2 ⟨by decide, "tool_use", rfl, by decide⟩⟩

/-- Two texts are read as two lines when the message comes whole, as one when it is streamed. -/
theorem decoders_differ :
    ReadsMessage sampleWhole.wire sampleWhole ∧
    sampleWhole.StreamedAs sampleLoads sampleMessage ∧
    Decodes (sampleMessage.received 0 "chatcmpl-1") sampleMessage.events ∧
    ¬ ∃ completion,
      fromAnthropicResponse sampleValues 0 "chatcmpl-1" sampleWhole.wire = .ok completion ∧
      (AnthropicStreamTranslator.translateEvents sampleValues { created := 0 }
        (sampleMessage.received 0 "chatcmpl-1")).2 = none ∧
      Chunks.turn sampleLoads (AnthropicStreamTranslator.translateEvents sampleValues
        { created := 0 } (sampleMessage.received 0 "chatcmpl-1")).1 =
          completion.turn sampleLoads := by
  have hdecodes := decodes_received sampleMessage 0 "chatcmpl-1"
  refine ⟨reads_wholeWire sampleWhole, sampleWhole_streamed, hdecodes, ?_⟩
  rintro ⟨completion, hok, -, hturn⟩
  rw [fromAnthropicResponse_message sampleValues (reads_wholeWire sampleWhole)] at hok
  obtain rfl := Except.ok.inj hok
  rw [turn_completion, (AnthropicStreamTranslator.turn_message sampleLoads 0 hdecodes).2] at hturn
  have htext := congrArg AssistantTurn.text hturn
  exact absurd htext (by decide)

end ModelMeld
