import ModelMeld.Proof.Inbound

/-!
# Tool calls and their answers stand together

Chat completions ask that an assistant message with tool calls is followed right
away by one tool message for each of its calls (`Adjacent`). The Messages
translation keeps a turn's calls in one message and puts its results first, so a
conversation that answers its calls stays answered (`messages_adjacent`). The
Responses translation makes a message of its own of every call, so this holds
exactly when no call is made before the one before it is answered
(`responses_adjacent_iff`).
-/

namespace ModelMeld

open Checked

/-! ## The contract -/

/-- The ids of the calls a message carries. -/
def Message.callIds : Message → List String
  | .assistant m => (m.toolCalls.getD []).map ToolCall.id
  | _ => []

/-- The call a message answers. -/
def Message.answers : Message → Option String
  | .tool m => some m.toolCallId
  | _ => none

/-- The messages that come first answer the calls `ids`, one each, in some order. -/
def AnsweredBy (ids : List String) (rest : List Message) : Prop :=
  ((rest.take ids.length).map Message.answers).Perm (ids.map some)

instance (ids : List String) (rest : List Message) : Decidable (AnsweredBy ids rest) :=
  inferInstanceAs (Decidable (List.Perm _ _))

/-- Every message is followed right away by the answers to its calls. -/
def Adjacent : List Message → Prop
  | [] => True
  | m :: rest => AnsweredBy m.callIds rest ∧ Adjacent rest

instance : (ms : List Message) → Decidable (Adjacent ms)
  | [] => .isTrue trivial
  | m :: rest =>
    have := instDecidableAdjacent rest
    inferInstanceAs (Decidable (AnsweredBy m.callIds rest ∧ Adjacent rest))

/-- A message without calls asks for nothing. -/
theorem adjacent_cons_of_nil {m : Message} {rest : List Message} (h : m.callIds = []) :
    Adjacent (m :: rest) ↔ Adjacent rest := by
  simp [Adjacent, AnsweredBy, h]

theorem adjacent_append_of_nil {ms rest : List Message} (h : ∀ m ∈ ms, m.callIds = []) :
    Adjacent (ms ++ rest) ↔ Adjacent rest := by
  induction ms with
  | nil => simp
  | cons m ms ih =>
    have hm : m.callIds = [] := h m (by simp)
    rw [List.cons_append, adjacent_cons_of_nil hm]
    exact ih (fun m' hm' => h m' (by simp [hm']))

/-! ## Messages -/

/-- The ids of the uses of tools in a turn. -/
def Content.toolUseIds : Content AnthropicRequestContentBlock → List String
  | .str _ => []
  | .parts blocks => blocks.filterMap (fun b => match b with
    | .toolUse u => some u.id
    | _ => none)

/-- The ids the tool results of a turn answer. -/
def Content.toolResultIds : Content AnthropicRequestContentBlock → List String
  | .str _ => []
  | .parts blocks => blocks.filterMap (fun b => match b with
    | .toolResult r => some r.toolUseId
    | _ => none)

/-- Each assistant turn that uses tools is followed by a user turn with exactly their results. -/
def ToolUsesAnswered : List AnthropicMessage → Prop
  | [] => True
  | msg :: rest =>
    (msg.role = .assistant → msg.content.toolUseIds ≠ [] → ∃ next, rest.head? = some next ∧
      next.role = .user ∧ next.content.toolResultIds.Perm msg.content.toolUseIds) ∧
    ToolUsesAnswered rest

/-- The messages of a conversation other than the system ones. -/
def conversation (msgs : List AnthropicMessage) : List AnthropicMessage :=
  msgs.filter (fun msg => msg.role ≠ .system)

variable {t : PythonText}

theorem toolMessages_answers (blocks : List AnthropicRequestContentBlock) :
    (blocks.filterMap toolMessageOf).map Message.answers =
      (Content.parts blocks).toolResultIds.map some := by
  unfold Content.toolResultIds
  rw [List.map_filterMap, List.map_filterMap]
  apply List.filterMap_congr
  intro b _
  cases b <;> rfl

/-- A user turn starts with the answers it has. -/
theorem userBody_answers (content : Content AnthropicRequestContentBlock) (rest : List Message) :
    ((userBody content ++ rest).take content.toolResultIds.length).map Message.answers =
      content.toolResultIds.map some := by
  cases content with
  | str s => simp [Content.toolResultIds]
  | parts blocks =>
    have hlen : (Content.parts blocks).toolResultIds.length =
        (blocks.filterMap toolMessageOf).length := by
      have := congrArg List.length (toolMessages_answers blocks)
      simpa using this.symm
    rw [hlen, userBody, List.append_assoc, List.take_left, toolMessages_answers]

theorem assistantBody_callIds (content : Content AnthropicRequestContentBlock) :
    (Message.assistant (assistantBody t content)).callIds = content.toolUseIds := by
  cases content with
  | str s => rfl
  | parts blocks =>
    have hids : (blocks.filterMap (toolCallOf t)).map ToolCall.id =
        (Content.parts blocks).toolUseIds := by
      unfold Content.toolUseIds
      rw [List.map_filterMap]
      apply List.filterMap_congr
      intro b _
      cases b <;> rfl
    by_cases hc : blocks.filterMap (toolCallOf t) = []
    · rw [← hids]
      simp [Message.callIds, assistantBody, hc]
    · rw [← hids]
      simp [Message.callIds, assistantBody, hc]

theorem userMessageOf_callIds {parts : List TextPart} {m : Message}
    (hm : m ∈ userMessageOf parts) : m.callIds = [] := by
  unfold userMessageOf at hm
  split at hm
  · simp at hm
  · split at hm <;> simp_all [Message.callIds]
  · simp_all [Message.callIds]

theorem userBody_callIds {content : Content AnthropicRequestContentBlock} {m : Message}
    (hm : m ∈ userBody content) : m.callIds = [] := by
  cases content with
  | str s =>
    have : m = .user { content := .str s } := by simpa [userBody] using hm
    rw [this]
    rfl
  | parts blocks =>
    rcases List.mem_append.mp hm with hm | hm
    · obtain ⟨b, -, hb⟩ := List.mem_filterMap.mp hm
      cases b <;> simp [toolMessageOf] at hb
      rw [← hb]
      rfl
    · exact userMessageOf_callIds hm

/-- The body only depends on the conversation. -/
theorem body_conversation (msgs : List AnthropicMessage) :
    (conversation msgs).flatMap (bodyOf t) = msgs.flatMap (bodyOf t) := by
  induction msgs with
  | nil => rfl
  | cons msg rest ih =>
    by_cases hs : msg.role = .system
    · have hnone : bodyOf t msg = [] := by simp [bodyOf, hs]
      simp [conversation, hs, hnone, ← ih]
    · have : conversation (msg :: rest) = msg :: conversation rest := by simp [conversation, hs]
      rw [this, List.flatMap_cons, List.flatMap_cons, ih]

/-- The calls of a turn are answered when the next turn has their results. -/
theorem answered_of_next {ids : List String} {rest : List AnthropicMessage} {next : AnthropicMessage}
    (hnext : rest.head? = some next) (huser : next.role = .user)
    (hids : next.content.toolResultIds.Perm ids) :
    AnsweredBy ids (rest.flatMap (bodyOf t)) := by
  obtain ⟨tail, rfl⟩ : ∃ tail, rest = next :: tail := by
    cases rest with
    | nil => simp at hnext
    | cons m tail => exact ⟨tail, by simpa using hnext⟩
  have hbody : bodyOf t next = userBody next.content := by simp [bodyOf, huser]
  have hanswers := userBody_answers next.content (tail.flatMap (bodyOf t))
  unfold AnsweredBy
  rw [List.flatMap_cons, hbody, ← hids.length_eq, hanswers]
  exact hids.map some

/-- Conversations that answer their calls turn by turn are translated to ones that do so message
by message. -/
theorem adjacent_of_answered {msgs : List AnthropicMessage} (h : ToolUsesAnswered msgs) :
    Adjacent (msgs.flatMap (bodyOf t)) := by
  induction msgs with
  | nil => trivial
  | cons msg rest ih =>
    obtain ⟨hmsg, hrest⟩ := h
    rw [List.flatMap_cons]
    cases hrole : msg.role with
    | user =>
      have hbody : bodyOf t msg = userBody msg.content := by simp [bodyOf, hrole]
      rw [hbody]
      exact (adjacent_append_of_nil (fun m hm => userBody_callIds hm)).mpr (ih hrest)
    | system =>
      have hbody : bodyOf t msg = [] := by simp [bodyOf, hrole]
      rw [hbody]
      exact ih hrest
    | assistant =>
      have hbody : bodyOf t msg = [.assistant (assistantBody t msg.content)] := by
        simp [bodyOf, hrole]
      rw [hbody]
      refine ⟨?_, ih hrest⟩
      rw [assistantBody_callIds]
      by_cases hids : msg.content.toolUseIds = []
      · simp [AnsweredBy, hids]
      · obtain ⟨next, hnext, huser, hperm⟩ := hmsg hrole hids
        exact answered_of_next hnext huser hperm

theorem leadingSystem_callIds {parts : List TextPart} {m : Message} (hm : m ∈ leadingSystem parts) :
    m.callIds = [] := by
  unfold leadingSystem at hm
  split at hm
  · simp at hm
  · split at hm <;> simp_all [Message.callIds]

/-- **On the Messages surface every assistant message with tool calls is followed right away by one
tool message for each call.** -/
theorem messages_adjacent {req : AnthropicMessagesRequest} {out : ChatCompletionRequest}
    (h : fromAnthropicRequest t req = .ok out)
    (ha : ToolUsesAnswered (conversation req.messages)) : Adjacent out.messages := by
  have hout : out.messages =
      leadingSystem (systemFragments req) ++ req.messages.flatMap (bodyOf t) := by
    rw [fromAnthropicRequest_ok h]
    rfl
  rw [hout, adjacent_append_of_nil (fun m hm => leadingSystem_callIds hm), ← body_conversation]
  exact adjacent_of_answered ha

theorem messages_adjacent_two_calls : Adjacent (inbound weatherTexts weatherRequest).messages := by
  apply messages_adjacent weatherRequest_accepted
  have hids : ["t2", "t1"].Perm ["t1", "t2"] := by decide
  simpa [ToolUsesAnswered, conversation, weatherRequest, weatherTurns, Content.toolUseIds,
    Content.toolResultIds] using hids

/-! ## Responses -/

/-- Every call has its output before the next message. -/
def CallsAnswered : List ResponsesInputItem → Prop
  | [] => True
  | item :: rest =>
    (item.isCall → ∃ output ∈ rest.takeWhile (fun i => !i.isMessage),
      output.isOutput ∧ output.callId = item.callId) ∧ CallsAnswered rest

/-- The item after a call is its output. -/
def CallsInTurn : List ResponsesInputItem → Prop
  | [] => True
  | item :: rest =>
    (item.isCall → ∃ next, rest.head? = some next ∧ next.isOutput ∧ next.id = item.id) ∧
    CallsInTurn rest

/-- No call is made before the one before it is answered: the item after each call is its output,
items that become no message aside. -/
def NoParallelCalls : Content ResponsesInputItem → Prop
  | .str _ => True
  | .parts items => CallsInTurn (items.filter ResponsesInputItem.isKept)

variable {v : BodyValues}

/-- The calls and the answer of the message an item becomes. -/
theorem inputItemToMessage_calls {item : ResponsesInputItem} {m : Message}
    (h : inputItemToMessage v item = .ok (some m)) :
    m.callIds = (if item.isCall then [item.id] else []) ∧
      m.answers = (if item.isOutput then some item.id else none) := by
  rcases inputItemToMessage_ok h with ⟨hcall, rfl⟩ | ⟨hout, content, rfl⟩ | ⟨hcall, hout, role, -, rfl⟩
  · simp [ResponsesInputItem.isCall, ResponsesInputItem.isOutput, hcall, Message.callIds,
      Message.answers, itemCall, ResponsesInputItem.id]
  · simp [ResponsesInputItem.isCall, ResponsesInputItem.isOutput, hout, Message.callIds,
      Message.answers, ResponsesInputItem.id]
  · have hids : (toMessage role (itemText item.content)).callIds = [] := by
      unfold toMessage
      split_ifs <;> rfl
    have hanswers : (toMessage role (itemText item.content)).answers = none := by
      unfold toMessage
      split_ifs <;> rfl
    simp [hids, hanswers, ResponsesInputItem.isCall, ResponsesInputItem.isOutput, hcall, hout]

/-- A call is answered right away when the item after it is its output. -/
theorem answeredBy_singleton {id : String} {items : List ResponsesInputItem} {ms : List Message}
    (h : List.Forall₂ (fun item m => inputItemToMessage v item = .ok (some m)) items ms) :
    AnsweredBy [id] ms ↔
      ∃ next, items.head? = some next ∧ next.isOutput ∧ next.id = id := by
  cases h with
  | nil => simp [AnsweredBy]
  | @cons next m items ms hm _ =>
    have hanswers := (inputItemToMessage_calls hm).2
    simp only [AnsweredBy, List.length_singleton, List.take_succ_cons, List.take_zero,
      List.map_cons, List.map_nil, List.perm_singleton, hanswers, List.head?_cons,
      Option.some.injEq, exists_eq_left']
    by_cases ho : next.isOutput = true
    · simp [ho]
    · simp [ho]

theorem adjacent_iff_inTurn {items : List ResponsesInputItem} {ms : List Message}
    (h : List.Forall₂ (fun item m => inputItemToMessage v item = .ok (some m)) items ms) :
    Adjacent ms ↔ CallsInTurn items := by
  induction h with
  | nil => exact Iff.rfl
  | @cons item m items ms hm hrest ih =>
    by_cases hcall : item.isCall = true
    · have hids : m.callIds = [item.id] := by simpa [hcall] using (inputItemToMessage_calls hm).1
      rw [Adjacent, hids, answeredBy_singleton hrest, ih, CallsInTurn]
      simp [hcall]
    · have hids : m.callIds = [] := by simpa [hcall] using (inputItemToMessage_calls hm).1
      rw [adjacent_cons_of_nil hids, ih, CallsInTurn]
      simp [hcall]

theorem instructionsMessage_callIds {instructions : Option String} {m : Message}
    (hm : m ∈ instructionsMessage instructions) : m.callIds = [] := by
  unfold instructionsMessage at hm
  split at hm
  · simp at hm
  · split at hm <;> simp_all [Message.callIds]

/-- **On the Responses surface every assistant message with tool calls is followed right away by
their answers exactly when no call is made before the one before it is answered.** -/
theorem responses_adjacent_iff {req : ResponsesRequest} {out : ChatCompletionRequest}
    (h : fromResponsesRequest v req = .ok out) :
    Adjacent out.messages ↔ NoParallelCalls req.input := by
  obtain ⟨body, hbody, hmessages⟩ := fromResponsesRequest_ok h
  rw [hmessages, adjacent_append_of_nil (fun m hm => instructionsMessage_callIds hm)]
  cases hinput : req.input with
  | str s =>
    rw [hinput] at hbody
    obtain rfl := Except.ok.inj hbody
    simp [NoParallelCalls, Adjacent, AnsweredBy, Message.callIds]
  | parts items =>
    rw [hinput] at hbody
    exact adjacent_iff_inTurn (inputMessages_ok hbody)

def callItem (id name : String) : ResponsesInputItem where
  type := some "function_call"
  callId := some id
  name := some name
  arguments := some "\x7b\x7d"

def outputItem (id output : String) : ResponsesInputItem where
  type := some "function_call_output"
  callId := some id
  output := .str output

def questionItem : ResponsesInputItem where
  role := some "user"
  content := some (.str "The weather, and the time?")

/-- Two calls, each answered before the next, a reasoning item between one and its output. -/
def serialCalls : ResponsesRequest where
  model := "gpt"
  input := .parts [questionItem, callItem "t1" "weather", { type := some "reasoning" },
    outputItem "t1" "sun", callItem "t2" "time", outputItem "t2" "noon"]

theorem responses_adjacent_serial_calls :
    ∃ out, fromResponsesRequest plainValues serialCalls = .ok out ∧ Adjacent out.messages := by
  have hok : fromResponsesRequest plainValues serialCalls = .ok _ := rfl
  refine ⟨_, hok, (responses_adjacent_iff hok).mpr ?_⟩
  simp [serialCalls, NoParallelCalls, CallsInTurn, ResponsesInputItem.isKept,
    ResponsesInputItem.isCall, ResponsesInputItem.isOutput, ResponsesInputItem.id, questionItem,
    callItem, outputItem]

/-- A turn with two calls, then both outputs. -/
def parallelCalls : List ResponsesInputItem :=
  [questionItem, callItem "t1" "weather", callItem "t2" "time", outputItem "t1" "sun",
    outputItem "t2" "noon"]

theorem responses_parallel_not_adjacent :
    CallsAnswered parallelCalls ∧
      ∃ out, fromResponsesRequest plainValues { model := "gpt", input := .parts parallelCalls } =
          .ok out ∧
        ¬ Adjacent out.messages := by
  constructor
  · simp [CallsAnswered, parallelCalls, ResponsesInputItem.isMessage, ResponsesInputItem.isCall,
      ResponsesInputItem.isOutput, questionItem, callItem, outputItem]
  · exact ⟨_, rfl, by decide⟩

end ModelMeld
