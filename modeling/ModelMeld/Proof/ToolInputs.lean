import ModelMeld.Lib.Checked
import ModelMeld.Spec.AnthropicParams
import ModelMeld.Spec.ToAnthropic

/-!
# The inputs of tool calls

The arguments of a tool call are a text, the input of a `tool_use` block is an
object. Arguments that are empty or no JSON are given an object by either
translation; of JSON that is no object, the response schema refuses what the
parameters let through. A completion translates, and its calls replay as objects,
exactly where every call's arguments fit (`tool_inputs_iff`).
-/

namespace ModelMeld

open Checked

/-- The arguments of the call are empty, no JSON, or the text of an object. -/
def ObjectArguments (t : PythonText) (call : ToolCall) : Prop :=
  call.function.arguments = "" ∨ t.loads call.function.arguments = .error .decode ∨
    ∃ fields, t.loads call.function.arguments = .ok (.obj fields)

variable {t : PythonText}

/-! ## Completions -/

def AnthropicResponseContentBlock.toolUse? :
    AnthropicResponseContentBlock → Option AnthropicToolUseBlock
  | .toolUse block => some block
  | _ => none

/-- The block is that of the call. -/
def IsBlockOf (call : ToolCall) (block : AnthropicToolUseBlock) : Prop :=
  block.id = call.id ∧ block.name = call.function.name

theorem succeeds_toolCallToAnthropicBlock (call : ToolCall) :
    Succeeds (toolCallToAnthropicBlock t call) ↔ ObjectArguments t call := by
  unfold toolCallToAnthropicBlock ObjectArguments
  by_cases hempty : call.function.arguments = ""
  · simp [hempty]
  · simp only [hempty, if_false, false_or]
    cases t.loads call.function.arguments with
    | error e => cases e <;> simp
    | ok v => cases v <;> simp

theorem isBlockOf_of_ok {call : ToolCall} {block : AnthropicToolUseBlock}
    (h : toolCallToAnthropicBlock t call = .ok block) : IsBlockOf call block := by
  unfold toolCallToAnthropicBlock at h
  simp only at h
  split at h
  · obtain rfl := Except.ok.inj h
    exact ⟨rfl, rfl⟩
  · split at h
    · obtain rfl := Except.ok.inj h
      exact ⟨rfl, rfl⟩
    · exact absurd h (by simp)
    · obtain rfl := Except.ok.inj h
      exact ⟨rfl, rfl⟩
    · exact absurd h (by simp)

/-- The calls of a message, when there are any. -/
def ResponseMessage.calls (msg : ResponseMessage) : List ToolCall := msg.toolCalls.getD []

theorem succeeds_responseBlocks (msg : ResponseMessage) :
    Succeeds (responseBlocks t msg) ↔ ∀ call ∈ msg.calls, ObjectArguments t call := by
  have hcalls : Succeeds (msg.calls.mapM (toolCallToAnthropicBlock t)) ↔
      ∀ call ∈ msg.calls, ObjectArguments t call := by
    rw [succeeds_mapM]
    exact forall₂_congr (fun call _ => succeeds_toolCallToAnthropicBlock call)
  unfold responseBlocks
  rw [← hcalls]
  refine (succeeds_bind (P := True) fun blocks _ => ?_).trans (and_iff_left trivial)
  exact iff_of_true (succeeds_ok _) trivial

/-- The `tool_use` blocks are those of the calls, in order. -/
theorem responseBlocks_uses {msg : ResponseMessage} {blocks : List AnthropicResponseContentBlock}
    (h : responseBlocks t msg = .ok blocks) :
    List.Forall₂ IsBlockOf msg.calls
      (blocks.filterMap AnthropicResponseContentBlock.toolUse?) := by
  unfold responseBlocks at h
  simp only [bind_eq_ok, pure_eq_ok] at h
  obtain ⟨uses, huses, hblocks⟩ := h
  have hrel : List.Forall₂ IsBlockOf msg.calls uses :=
    (mapM_eq_ok.1 huses).imp (fun _ _ hblock => isBlockOf_of_ok hblock)
  -- a text is no call, and every call is one
  have htext : ∀ text : List AnthropicResponseContentBlock,
      text.filterMap AnthropicResponseContentBlock.toolUse? = [] →
      (if text ++ uses.map AnthropicResponseContentBlock.toolUse = [] then [.text { text := "" }]
        else text ++ uses.map AnthropicResponseContentBlock.toolUse).filterMap
          AnthropicResponseContentBlock.toolUse? = uses := by
    intro text hnone
    have happend : (text ++ uses.map AnthropicResponseContentBlock.toolUse).filterMap
        AnthropicResponseContentBlock.toolUse? = uses := by
      rw [List.filterMap_append, hnone, List.nil_append, List.filterMap_map]
      exact List.filterMap_some
    split
    · rename_i hnil
      rw [hnil] at happend
      exact happend
    · exact happend
  rw [← hblocks, htext]
  · exact hrel
  · split
    · rfl
    · split <;> rfl

/-! ## Replays -/

/-- The tool calls of a message that is sent back. -/
def Message.calls : Message → List ToolCall
  | .assistant m => m.toolCalls.getD []
  | _ => []

/-- The tool calls a request replays, in order. -/
def ChatCompletionRequest.calls (request : ChatCompletionRequest) : List ToolCall :=
  request.messages.flatMap Message.calls

/-- Identifier, name and input of a `tool_use` block. -/
def ParamBlock.toolUse? : ParamBlock → Option (String × String × Json)
  | .toolUse id name input => some (id, name, input)
  | _ => none

def ParamMessage.toolUses (m : ParamMessage) : List (String × String × Json) :=
  match m.content with
  | .str _ => []
  | .parts blocks => blocks.filterMap ParamBlock.toolUse?

/-- The block is that of the call, and its input is an object. -/
def IsObjectUseOf (call : ToolCall) (use : String × String × Json) : Prop :=
  use.1 = call.id ∧ use.2.1 = call.function.name ∧ ∃ fields, use.2.2 = .obj fields

theorem toolInput_of_objectArguments {call : ToolCall} (h : ObjectArguments t call) :
    ∃ fields, toolInput t call.function.arguments = .ok (.obj fields) := by
  unfold toolInput
  by_cases hempty : call.function.arguments = ""
  · exact ⟨[], by rw [if_pos hempty]⟩
  · rw [if_neg hempty]
    rcases h with h | h | ⟨fields, h⟩
    · exact absurd h hempty
    · exact ⟨_, by rw [h]⟩
    · exact ⟨fields, by rw [h]⟩

/-- The calls of one turn become blocks, one each. -/
theorem mapM_toolUseBlock_uses {calls : List ToolCall}
    (h : ∀ call ∈ calls, ObjectArguments t call) :
    ∃ blocks, calls.mapM (toolUseBlock t) = .ok blocks ∧
      List.Forall₂ IsObjectUseOf calls (blocks.filterMap ParamBlock.toolUse?) := by
  induction calls with
  | nil => exact ⟨[], rfl, List.Forall₂.nil⟩
  | cons call calls ih =>
    rw [List.forall_mem_cons] at h
    obtain ⟨fields, hinput⟩ := toolInput_of_objectArguments h.1
    obtain ⟨blocks, hblocks, hrel⟩ := ih h.2
    have hblock : toolUseBlock t call = .ok (.toolUse call.id call.function.name (.obj fields)) := by
      unfold toolUseBlock
      rw [hinput]
      rfl
    refine ⟨.toolUse call.id call.function.name (.obj fields) :: blocks, ?_, ?_⟩
    · rw [List.mapM_cons, hblock, hblocks]
      rfl
    · exact List.Forall₂.cons ⟨rfl, rfl, fields, rfl⟩ hrel

/-- The text of a turn is no call. -/
theorem assistantText_uses (content : Option (Content TextPart)) :
    (assistantText content).filterMap ParamBlock.toolUse? = [] := by
  unfold assistantText
  split
  · rfl
  · split <;> rfl
  · rfl
  · rfl

theorem translateAssistantContent_uses {m : AssistantMessage}
    (h : ∀ call ∈ m.toolCalls.getD [], ObjectArguments t call) :
    ∃ blocks, translateAssistantContent t m = .ok blocks ∧
      List.Forall₂ IsObjectUseOf (m.toolCalls.getD [])
        (blocks.filterMap ParamBlock.toolUse?) := by
  obtain ⟨calls, hcalls, hrel⟩ := mapM_toolUseBlock_uses h
  have huses : (assistantText m.content ++ calls).filterMap ParamBlock.toolUse? =
      calls.filterMap ParamBlock.toolUse? := by
    rw [List.filterMap_append, assistantText_uses, List.nil_append]
  refine ⟨if assistantText m.content ++ calls = [] then [.text ""]
    else assistantText m.content ++ calls, ?_, ?_⟩
  · unfold translateAssistantContent
    rw [hcalls]
    rfl
  · split
    · rename_i hnil
      rw [hnil] at huses
      rw [← huses] at hrel
      exact hrel
    · rw [huses]
      exact hrel

theorem translateUserContent_uses {content : Content ContentPart} {body : Content ParamBlock}
    (h : translateUserContent content = .ok body) :
    (ParamMessage.mk .user body).toolUses = [] := by
  cases content with
  | str s =>
    obtain rfl := Except.ok.inj h
    rfl
  | parts ps =>
    unfold translateUserContent at h
    simp only [bind_eq_ok, pure_eq_ok, mapM_eq_ok] at h
    obtain ⟨blocks, hblocks, rfl⟩ := h
    unfold ParamMessage.toolUses
    simp only
    induction hblocks with
    | nil => rfl
    | @cons part block ps blocks hone _ ih =>
      cases part with
      | text part =>
        obtain rfl := Except.ok.inj hone
        exact ih
      | image url =>
        obtain rfl := Except.ok.inj hone
        exact ih
      | audio input => exact absurd hone (by simp [translateUserPart])

/-- No other error than that of a text that Python cannot load is of interest. -/
def notLoads : ParamsError → Bool
  | .loads => false
  | _ => true

theorem tolerates_translateUserContent (content : Content ContentPart) :
    Tolerates notLoads (translateUserContent content) := by
  have hpart : ∀ part, Tolerates notLoads (translateUserPart part) := by
    intro part
    cases part with
    | text part => exact tolerates_ok _
    | image url => exact tolerates_ok _
    | audio input => exact (tolerates_error _).2 rfl
  cases content with
  | str s => exact tolerates_ok _
  | parts ps =>
    unfold translateUserContent
    refine (tolerates_bind (P := True) (fun blocks _ => ?_)).2 ⟨?_, fun _ => trivial⟩
    · exact iff_of_true (tolerates_ok _) trivial
    · rw [tolerates_mapM]
      induction ps with
      | nil => trivial
      | cons part ps ih => exact ⟨hpart part, fun _ => ih⟩

/-- The turns of a conversation: no load fails, and the calls become blocks, one each. -/
theorem split_uses {ms : List Message}
    (h : ∀ call ∈ ms.flatMap Message.calls, ObjectArguments t call) :
    Tolerates notLoads (splitSystemAndMessages t ms) ∧
      Ensures (fun r => List.Forall₂ IsObjectUseOf (ms.flatMap Message.calls)
        (r.2.flatMap ParamMessage.toolUses)) (splitSystemAndMessages t ms) := by
  induction ms with
  | nil =>
    refine ⟨tolerates_ok _, fun r hr => ?_⟩
    obtain rfl := Except.ok.inj hr
    exact List.Forall₂.nil
  | cons m ms ih =>
    rw [List.flatMap_cons, List.forall_mem_append] at h
    obtain ⟨htol, hens⟩ := ih h.2
    -- what a turn adds in front of the rest
    have hrest : ∀ g : List String × List ParamMessage → List String × List ParamMessage,
        Tolerates notLoads (splitSystemAndMessages t ms >>= fun r => pure (g r)) := by
      intro g
      refine (tolerates_bind (P := True) fun r _ => ?_).2 ⟨htol, fun _ => trivial⟩
      exact iff_of_true (tolerates_ok _) trivial
    cases m with
    | system m =>
      rw [splitSystemAndMessages, List.flatMap_cons]
      exact ⟨hrest _, ensures_bind fun r hr => ensures_pure (hens r hr)⟩
    | user m =>
      rw [splitSystemAndMessages, List.flatMap_cons]
      refine ⟨(tolerates_bind (P := True) fun body _ => ?_).2
        ⟨tolerates_translateUserContent m.content, fun _ => trivial⟩, ?_⟩
      · exact iff_of_true (hrest _) trivial
      · refine ensures_bind fun body hbody => ensures_bind fun r hr => ensures_pure ?_
        rw [List.flatMap_cons, translateUserContent_uses hbody]
        exact hens r hr
    | assistant m =>
      obtain ⟨blocks, hblocks, hrel⟩ := translateAssistantContent_uses h.1
      rw [splitSystemAndMessages, List.flatMap_cons, hblocks]
      refine ⟨hrest _, ensures_bind fun body hbody => ensures_bind fun r hr => ensures_pure ?_⟩
      obtain rfl := Except.ok.inj hbody
      rw [List.flatMap_cons]
      exact List.rel_append hrel (hens r hr)
    | tool m =>
      rw [splitSystemAndMessages, List.flatMap_cons]
      exact ⟨hrest _, ensures_bind fun r hr => ensures_pure (hens r hr)⟩

theorem toAnthropicParams_uses {request : ChatCompletionRequest}
    (h : ∀ call ∈ request.calls, ObjectArguments t call) :
    Tolerates notLoads (toAnthropicParams t request) ∧
      Ensures (fun params => List.Forall₂ IsObjectUseOf request.calls
        (params.messages.flatMap ParamMessage.toolUses)) (toAnthropicParams t request) := by
  obtain ⟨htol, hens⟩ := split_uses h
  have hchoice : Tolerates notLoads (toolChoiceParam request.toolChoice) := by
    intro e he
    unfold toolChoiceParam at he
    split at he
    · exact absurd he (by simp)
    · rename_i choice _
      cases htranslate : translateToolChoice choice with
      | error e' =>
        rw [htranslate] at he
        obtain rfl := Except.error.inj he
        rfl
      | ok c =>
        rw [htranslate] at he
        exact absurd he (by simp [Except.mapError])
  unfold toAnthropicParams
  refine ⟨(tolerates_bind (P := True) fun r _ => ?_).2 ⟨htol, fun _ => trivial⟩,
    ensures_bind fun r hr => ensures_bind fun choice _ => ensures_pure (hens r hr)⟩
  refine iff_of_true ?_ trivial
  refine (tolerates_bind (P := True) fun c _ => ?_).2 ⟨hchoice, fun _ => trivial⟩
  exact iff_of_true (tolerates_ok _) trivial

/-! ## Both directions -/

/-- **A completion translates, and its calls replay as objects, exactly where the arguments of
every call fit.** -/
theorem tool_inputs_iff (t : PythonText) (freshId requestModel : String)
    {completion : ChatCompletion} {choice : Choice}
    (hchoice : completion.choices.head? = some choice) :
    ((∃ msg, toAnthropicResponse t freshId completion requestModel = .ok msg ∧
        List.Forall₂ IsBlockOf choice.message.calls
          (msg.content.filterMap AnthropicResponseContentBlock.toolUse?)) ∧
      ∀ request : ChatCompletionRequest, request.calls = choice.message.calls →
        toAnthropicParams t request ≠ .error .loads ∧
        ∀ params, toAnthropicParams t request = .ok params →
          List.Forall₂ IsObjectUseOf request.calls
            (params.messages.flatMap ParamMessage.toolUses)) ↔
      ∀ call ∈ choice.message.calls, ObjectArguments t call := by
  obtain ⟨rest, hchoices⟩ : ∃ rest, completion.choices = choice :: rest := by
    cases hlist : completion.choices with
    | nil =>
      rw [hlist] at hchoice
      exact absurd hchoice (by simp)
    | cons first rest =>
      rw [hlist] at hchoice
      exact ⟨rest, by rw [Option.some.inj hchoice]⟩
  have hresponse : ∀ blocks, responseBlocks t choice.message = .ok blocks ↔
      ∃ msg, toAnthropicResponse t freshId completion requestModel = .ok msg ∧
        msg.content = blocks := by
    intro blocks
    unfold toAnthropicResponse
    rw [hchoices]
    simp only [bind_eq_ok, pure_eq_ok]
    constructor
    · intro hblocks
      exact ⟨_, ⟨blocks, hblocks, rfl⟩, rfl⟩
    · rintro ⟨msg, ⟨blocks', hblocks, rfl⟩, rfl⟩
      exact hblocks
  rw [← succeeds_responseBlocks]
  constructor
  · rintro ⟨⟨msg, hmsg, -⟩, -⟩
    exact ⟨msg.content, (hresponse msg.content).2 ⟨msg, hmsg, rfl⟩⟩
  · rintro ⟨blocks, hblocks⟩
    have hfit := (succeeds_responseBlocks choice.message).1 ⟨blocks, hblocks⟩
    obtain ⟨msg, hmsg, rfl⟩ := (hresponse blocks).1 hblocks
    refine ⟨⟨msg, hmsg, responseBlocks_uses hblocks⟩, fun request hreplay => ?_⟩
    rw [← hreplay] at hfit
    obtain ⟨htol, hens⟩ := toAnthropicParams_uses hfit
    exact ⟨fun hloads => absurd (htol _ hloads) (by decide), hens⟩

/-! ## A list for an object -/

/-- Python's JSON on the empty list. -/
def listTexts : PythonText where
  dumps _ := "\x7b\x7d"
  loads s := if s = "[]" then .ok (.arr []) else .error .decode
  reprStr s := "'" ++ s ++ "'"

/-- A completion with one call of a tool. -/
def callingCompletion (arguments : String) : ChatCompletion where
  id := "msg_1"
  created := 0
  model := "m"
  choices := [{ index := 0, message := { toolCalls := some [⟨"call_1", ⟨"search", arguments⟩⟩] } }]

/-- A call that is no JSON is given an object. -/
theorem tool_inputs_iff_malformed :
    ∃ msg, toAnthropicResponse listTexts "msg_2" (callingCompletion "oops") "m" = .ok msg := by
  obtain ⟨⟨msg, hmsg, -⟩, -⟩ := (@tool_inputs_iff listTexts "msg_2" "m"
    (callingCompletion "oops") _ rfl).2 (by
      intro call hcall
      obtain rfl := List.mem_singleton.1 hcall
      exact Or.inr (Or.inl rfl))
  exact ⟨msg, hmsg⟩

/-- A call with the arguments `[]` makes the translation raise, and is replayed with a list. -/
theorem list_arguments_raise :
    toAnthropicResponse listTexts "msg_2" (callingCompletion "[]") "m" = .error .validation ∧
      (toAnthropicParams listTexts
        { model := "m"
          messages := [.assistant { toolCalls := some [⟨"call_1", ⟨"search", "[]"⟩⟩] }] }).map
          AnthropicParams.messages =
        .ok [{ role := .assistant, content := .parts [.toolUse "call_1" "search" (.arr [])] }] :=
  ⟨rfl, rfl⟩

end ModelMeld
