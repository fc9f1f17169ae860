import ModelMeld.Proof.ResponseParity
import ModelMeld.Proof.ToolInputs

/-!
# Streamed and whole messages

`messages_parity_iff`: of a completion that says what a stream of chunks says, a client of the
Messages stream reads the text, the calls with their parsed input, the stop reason and the output
tokens of the message that `to_anthropic_response` makes, iff the first delta of each tool index
carries its name and id, and no arguments are malformed JSON. `to_anthropic_response` wraps those
up, while the stream passes them on as they are.
-/

namespace ModelMeld

open Checked

/-! ## What is compared -/

/-- The input of a streamed call as a client parses it. -/
def readInput (t : PythonText) (arguments : String) : Option JsonObj :=
  if arguments = "" then some []
  else match t.loads arguments with
    | .ok (.obj fields) => some fields
    | _ => none

/-- A streamed call reads as a block; the id only where the block has one. -/
def SameUse (t : PythonText) (block : AnthropicToolUseBlock) (call : ReadCall) : Prop :=
  (block.id ≠ "" → call.id = block.id) ∧ call.name = block.name ∧
    readInput t call.arguments = some block.input

def AnthropicResponseContentBlock.text? : AnthropicResponseContentBlock → Option String
  | .text b => some b.text
  | .toolUse _ => none

/-- The text of a response. -/
def AnthropicMessagesResponse.text (msg : AnthropicMessagesResponse) : String :=
  String.join (msg.content.filterMap AnthropicResponseContentBlock.text?)

/-- The calls of a response. -/
def AnthropicMessagesResponse.uses (msg : AnthropicMessagesResponse) :
    List AnthropicToolUseBlock :=
  msg.content.filterMap AnthropicResponseContentBlock.toolUse?

/-- A client of the stream reads what the whole message says. -/
structure SameMessage (t : PythonText) (whole : AnthropicMessagesResponse)
    (es : List AnthropicStreamEvent) : Prop where
  text : String.join (textDeltas es) = whole.text
  calls : List.Forall₂ (SameUse t) whole.uses (readCalls es)
  ending : messageDeltas es = [(whole.stopReason, whole.usage.outputTokens)]

/-! ## The whole message -/

variable {t : PythonText} {chunks : List ChatCompletionChunk} {completion : ChatCompletion}
  {choice : Choice} {freshId requestModel : String} {whole : AnthropicMessagesResponse}

/-- The blocks are the text and those of the calls, or an empty text. -/
theorem responseBlocks_ok {msg : ResponseMessage} {blocks : List AnthropicResponseContentBlock}
    (h : responseBlocks t msg = .ok blocks) :
    ∃ uses, List.Forall₂ (fun call use => toolCallToAnthropicBlock t call = .ok use)
        msg.calls uses ∧
      blocks = (if msg.content.getD "" = "" ∧ uses ≠ [] then []
        else [.text { text := msg.content.getD "" }]) ++ uses.map .toolUse := by
  unfold responseBlocks at h
  simp only [bind_eq_ok, pure_eq_ok] at h
  obtain ⟨uses, huses, rfl⟩ := h
  refine ⟨uses, mapM_eq_ok.1 huses, ?_⟩
  cases hcontent : msg.content with
  | none => by_cases hnone : uses = [] <;> simp [hnone]
  | some s =>
    by_cases hs : s = ""
    · by_cases hnone : uses = [] <;> simp [hs, hnone]
    · simp [hs]

theorem text_of_blocks (texts : List AnthropicTextBlock) (uses : List AnthropicToolUseBlock) :
    (texts.map AnthropicResponseContentBlock.text ++
      uses.map AnthropicResponseContentBlock.toolUse).filterMap
        AnthropicResponseContentBlock.text? = texts.map AnthropicTextBlock.text := by
  have htexts : texts.filterMap (AnthropicResponseContentBlock.text? ∘ .text) =
      texts.map AnthropicTextBlock.text := by
    rw [← List.filterMap_eq_map]
    rfl
  have huses : uses.filterMap (AnthropicResponseContentBlock.text? ∘ .toolUse) = [] := by
    rw [List.filterMap_eq_nil_iff]
    exact fun _ _ => rfl
  rw [List.filterMap_append, List.filterMap_map, List.filterMap_map, htexts, huses,
    List.append_nil]

/-- What `to_anthropic_response` makes of a first choice: at most one text, and the calls. -/
theorem toAnthropicResponse_ok (hfirst : completion.choices.head? = some choice)
    (h : toAnthropicResponse t freshId completion requestModel = .ok whole) :
    List.Forall₂ (fun call use => toolCallToAnthropicBlock t call = .ok use)
        choice.message.calls whole.uses ∧
      whole.content.filterMap AnthropicResponseContentBlock.text? =
        (if choice.message.content.getD "" = "" ∧ choice.message.calls ≠ [] then []
          else [choice.message.content.getD ""]) ∧
      whole.stopReason = some (stopReasonOf choice.finishReason) ∧
      whole.usage.outputTokens = (completion.usage.map Usage.completionTokens).getD 0 := by
  obtain ⟨rest, hchoices⟩ : ∃ rest, completion.choices = choice :: rest := by
    cases hlist : completion.choices with
    | nil =>
      rw [hlist] at hfirst
      cases hfirst
    | cons c rest =>
      rw [hlist] at hfirst
      exact ⟨rest, by rw [Option.some.inj hfirst]⟩
  unfold toAnthropicResponse at h
  simp only [hchoices, bind_eq_ok, pure_eq_ok] at h
  obtain ⟨blocks, hblocks, rfl⟩ := h
  obtain ⟨uses, huses, rfl⟩ := responseBlocks_ok hblocks
  have hnil : choice.message.calls = [] ↔ uses = [] := by
    rw [← List.length_eq_zero_iff, huses.length_eq, List.length_eq_zero_iff]
  refine ⟨?_, ?_, rfl, rfl⟩
  · unfold AnthropicMessagesResponse.uses
    dsimp only
    rw [List.filterMap_append, List.filterMap_map]
    have hnone : (if choice.message.content.getD "" = "" ∧ uses ≠ [] then []
        else [AnthropicResponseContentBlock.text
          { text := choice.message.content.getD "" }]).filterMap
            AnthropicResponseContentBlock.toolUse? = [] := by
      split <;> rfl
    rw [hnone, List.nil_append]
    have hall : uses.filterMap (AnthropicResponseContentBlock.toolUse? ∘ .toolUse) = uses :=
      List.filterMap_some
    rwa [hall]
  · simp only [ne_eq, hnil]
    split
    · exact text_of_blocks [] uses
    · exact text_of_blocks [{ text := choice.message.content.getD "" }] uses

/-- The arguments of a call are no text that is not JSON. -/
def WellFormedArguments (t : PythonText) (arguments : String) : Prop :=
  arguments ≠ "" → t.loads arguments ≠ .error .decode

/-- A client that parses the arguments itself has the input of the block, unless they are
malformed. -/
theorem readInput_iff {call : ToolCall} {use : AnthropicToolUseBlock}
    (h : toolCallToAnthropicBlock t call = .ok use) :
    readInput t call.function.arguments = some use.input ↔
      WellFormedArguments t call.function.arguments := by
  unfold toolCallToAnthropicBlock at h
  unfold readInput WellFormedArguments
  by_cases hempty : call.function.arguments = ""
  · simp only [hempty, if_true] at h ⊢
    obtain rfl := Except.ok.inj h
    simp
  · simp only [hempty, if_false] at h ⊢
    cases hloads : t.loads call.function.arguments with
    | error e =>
      rw [hloads] at h
      cases e with
      | decode => simp [hempty]
      | other => cases h
    | ok v =>
      rw [hloads] at h
      cases v with
      | obj fields =>
        obtain rfl := Except.ok.inj h
        simp
      | _ => cases h

/-! ## Both -/

/-- Two lists made from one, with what relates their elements known of each element. -/
theorem forall₂_iff_forall_mem {X Y Z : Type} {Q : X → Y → Prop} {R : Y → Z → Prop}
    {S : X → Prop} (g : X → Z) {xs : List X} {ys : List Y} (h : List.Forall₂ Q xs ys)
    (hiff : ∀ x ∈ xs, ∀ y, Q x y → (R y (g x) ↔ S x)) :
    List.Forall₂ R ys (xs.map g) ↔ ∀ x ∈ xs, S x := by
  induction h with
  | nil => simp
  | cons hfirst hrest ih =>
    rw [List.map_cons, List.forall₂_cons, List.forall_mem_cons,
      hiff _ List.mem_cons_self _ hfirst,
      ih (fun x hx y hQ => hiff x (List.mem_cons_of_mem _ hx) y hQ)]

/-- The first delta of an index has its name iff it has one when a name is supplied. -/
theorem Chunks.given_name_iff (k : ℤ) (deltas : List ToolCallDelta) :
    firstName k deltas = suppliedName k deltas ↔
      (suppliedName k deltas ≠ "" → firstName k deltas ≠ "") := by
  by_cases hfirst : firstName k deltas = ""
  · rw [hfirst]
    by_cases hsupplied : suppliedName k deltas = "" <;> simp [hsupplied]
  · have hsame := suppliedName_of_first hfirst
    simp [hsame]

/-- The stop reason and the output tokens are those of the chunks. -/
theorem messageDeltas_messageEvents (ids : FreshIds) (requestModel : String) (inputTokens : ℤ)
    (chunks : List ChatCompletionChunk) :
    messageDeltas (messageEvents ids requestModel inputTokens chunks) =
      [(some (stopReasonOf (Chunks.finishReason chunks)),
        ((Chunks.usage chunks).map Usage.completionTokens).getD 0)] := by
  have htracks := StreamTranslator.tracks_chunks ids requestModel inputTokens chunks
  unfold messageEvents
  generalize StreamTranslator.translateChunks ids
    { requestModel := requestModel, inputTokens := inputTokens } chunks = out at htracks ⊢
  obtain ⟨-, -, -, hclosing⟩ := StreamTranslator.finalize_spec ids out.2
  rw [messageDeltas_append, htracks.unclosed, hclosing, htracks.finish, htracks.tokens,
    finishes_of_steps, usages_of_steps]
  rfl

/-- **Streaming a message or not tells the client the same** iff the first delta of each tool
index carries the name and the id of the call, and no call has arguments that are not JSON. The
completion translates and says what the chunks say; ids made up for calls are no ids of deltas. -/
theorem messages_parity_iff (t : PythonText) (ids : FreshIds) (freshId requestModel : String)
    (inputTokens : ℤ) (chunks : List ChatCompletionChunk) (completion : ChatCompletion)
    (choice : Choice) (whole : AnthropicMessagesResponse)
    (hwhole : Whole chunks completion choice)
    (htranslates : toAnthropicResponse t freshId completion requestModel = .ok whole)
    (hfresh : ∀ i, ∀ delta ∈ Chunks.toolDeltas chunks, delta.idText ≠ ids.tool i) :
    SameMessage t whole (messageEvents ids requestModel inputTokens chunks) ↔
      Chunks.HeadersFirst (Chunks.toolDeltas chunks) ∧
      ∀ k ∈ Chunks.indices (Chunks.toolDeltas chunks),
        WellFormedArguments t (Chunks.arguments k (Chunks.toolDeltas chunks)) := by
  obtain ⟨huses, htexts, hstop, htokens⟩ := toAnthropicResponse_ok hwhole.first htranslates
  have htext : whole.text = choice.message.content.getD "" := by
    unfold AnthropicMessagesResponse.text
    rw [htexts]
    split
    next hempty =>
      rw [hempty.1]
      rfl
    · simp
  have hending := messageDeltas_messageEvents ids requestModel inputTokens chunks
  have hstream := text_messageEvents ids requestModel inputTokens chunks
  obtain ⟨blocks, hkeys, hcalls⟩ := readCalls_messageEvents ids requestModel inputTokens chunks
  have hcompletion : choice.message.calls = blocks.map (fun p =>
      { id := Chunks.suppliedId p.1 (Chunks.toolDeltas chunks)
        function :=
          { name := Chunks.suppliedName p.1 (Chunks.toolDeltas chunks)
            arguments := Chunks.arguments p.1 (Chunks.toolDeltas chunks) } }) := by
    unfold ResponseMessage.calls
    rw [hwhole.calls]
    unfold Chunks.toolCalls
    rw [← hkeys, List.map_map]
    rfl
  rw [hcompletion, List.forall₂_map_left_iff] at huses
  have hsame : SameMessage t whole (messageEvents ids requestModel inputTokens chunks) ↔
      List.Forall₂ (SameUse t) whole.uses
        (readCalls (messageEvents ids requestModel inputTokens chunks)) := by
    constructor
    · exact SameMessage.calls
    · intro h
      refine ⟨?_, h, ?_⟩
      · rw [hstream, htext, hwhole.text]
      · rw [hending, hstop, htokens, hwhole.finish, hwhole.usage]
  have heach : ∀ p ∈ blocks, ∀ use, toolCallToAnthropicBlock t
      { id := Chunks.suppliedId p.1 (Chunks.toolDeltas chunks)
        function :=
          { name := Chunks.suppliedName p.1 (Chunks.toolDeltas chunks)
            arguments := Chunks.arguments p.1 (Chunks.toolDeltas chunks) } } = .ok use →
      (SameUse t use
        { id := if Chunks.firstId p.1 (Chunks.toolDeltas chunks) = "" then ids.tool p.2
            else Chunks.firstId p.1 (Chunks.toolDeltas chunks)
          name := Chunks.firstName p.1 (Chunks.toolDeltas chunks)
          arguments := Chunks.arguments p.1 (Chunks.toolDeltas chunks) } ↔
        ((Chunks.suppliedName p.1 (Chunks.toolDeltas chunks) ≠ "" →
            Chunks.firstName p.1 (Chunks.toolDeltas chunks) ≠ "") ∧
          (Chunks.suppliedId p.1 (Chunks.toolDeltas chunks) ≠ "" →
            Chunks.firstId p.1 (Chunks.toolDeltas chunks) ≠ "")) ∧
        WellFormedArguments t (Chunks.arguments p.1 (Chunks.toolDeltas chunks))) := by
    intro p _ use huse
    obtain ⟨hid, hname⟩ := isBlockOf_of_ok huse
    have hinput := readInput_iff huse
    unfold SameUse
    rw [hid, hname, hinput, Chunks.given_id_iff (hfresh p.2), Chunks.given_name_iff]
    tauto
  rw [hsame, hcalls, forall₂_iff_forall_mem _ huses heach]
  unfold Chunks.HeadersFirst
  rw [← hkeys, List.forall_mem_map, List.forall_mem_map, ← forall₂_and]

/-- Python's JSON on the empty object. -/
def objectTexts : PythonText where
  dumps _ := "\x7b\x7d"
  loads s := if s = "\x7b\x7d" then .ok (.obj []) else .error .decode
  reprStr s := "'" ++ s ++ "'"

/-- The message of the completion that says what `countedChunks` say. -/
def countedMessage : AnthropicMessagesResponse where
  id := "msg_1"
  content := [.text { text := "Hi" }, .toolUse { id := "call_1", name := "ls" }]
  model := "m"
  stopReason := some .endTurn
  usage := { inputTokens := 3, outputTokens := 2 }

theorem messages_parity_counted :
    SameMessage objectTexts countedMessage
      (messageEvents (.drawn "1" (fun _ => "1")) "m" 3 countedChunks) := by
  refine (messages_parity_iff objectTexts (.drawn "1" (fun _ => "1")) "msg_1" "m" 3 countedChunks
    countedCompletion countedChoice countedMessage
    ⟨rfl, by decide, by decide, by decide, by decide⟩
    (by decide) ?_).2 ⟨?_, ?_⟩
  · intro i delta hdelta
    have hids : ∀ delta ∈ Chunks.toolDeltas countedChunks, delta.idText ≠ "toolu_" ++ "1" := by
      decide
    exact hids delta hdelta
  · unfold Chunks.HeadersFirst
    decide
  · unfold WellFormedArguments
    decide

end ModelMeld
