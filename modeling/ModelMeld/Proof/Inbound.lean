import ModelMeld.Lib.Checked
import ModelMeld.Spec.FromResponses

/-!
# What the inbound translations yield

`from_anthropic_request` written as an equation: the messages of the client
other than the system ones are translated one by one and in order (`bodyOf`),
behind one leading message with the system fragments (`fromAnthropicRequest_ok`).
`from_responses_request` puts the instructions before the translated items
(`fromResponsesRequest_ok`).
-/

namespace ModelMeld

open Checked

variable {t : PythonText}

/-! ## Joined texts -/

theorem isSubstring_trans {a b c : String} (hab : isSubstring a b = true)
    (hbc : isSubstring b c = true) : isSubstring a c = true := by
  unfold isSubstring at *
  exact decide_eq_true ((of_decide_eq_true hab).trans (of_decide_eq_true hbc))

theorem isSubstring_refl (a : String) : isSubstring a a = true :=
  decide_eq_true (List.infix_refl _)

theorem isSubstring_append_left (a b : String) : isSubstring a (a ++ b) = true := by
  have : a.toList <:+: (a ++ b).toList := by
    rw [String.toList_append]
    exact (List.prefix_append _ _).isInfix
  exact decide_eq_true this

theorem isSubstring_append_right (a b : String) : isSubstring b (a ++ b) = true := by
  have : b.toList <:+: (a ++ b).toList := by
    rw [String.toList_append]
    exact (List.suffix_append _ _).isInfix
  exact decide_eq_true this

/-- A text that has a non-empty part is not empty. -/
theorem ne_empty_of_isSubstring {a b : String} (h : isSubstring a b = true) (ha : a ≠ "") :
    b ≠ "" := by
  rintro rfl
  have hinfix := of_decide_eq_true h
  have : a.toList = [] := List.eq_nil_of_infix_nil (by simpa using hinfix)
  exact ha (String.toList_inj.mp (by simpa using this))

theorem isSubstring_join (sep : String) {s : String} {ss : List String} (hs : s ∈ ss) :
    isSubstring s (join sep ss) = true := by
  induction ss with
  | nil => simp at hs
  | cons a ss ih =>
    cases ss with
    | nil =>
      have : s = a := by simpa using hs
      rw [this]
      exact isSubstring_refl a
    | cons b ss =>
      change isSubstring s (a ++ sep ++ join sep (b :: ss)) = true
      rcases List.mem_cons.mp hs with rfl | hs
      · rw [String.append_assoc]
        exact isSubstring_append_left s _
      · exact isSubstring_trans (ih hs) (isSubstring_append_right (a ++ sep) _)

/-! ## Blocks -/

/-- A tool result as a tool message. -/
def toolMessageOf : AnthropicRequestContentBlock → Option Message
  | .toolResult b => some (.tool
      { content := .str (anthropicToolResultContentToText b.content), toolCallId := b.toolUseId })
  | _ => none

/-- The block when it is a text. -/
def textBlockOf : AnthropicRequestContentBlock → Option AnthropicTextBlock
  | .text b => some b
  | _ => none

/-- A use of a tool as a tool call. -/
def toolCallOf (t : PythonText) : AnthropicRequestContentBlock → Option ToolCall
  | .toolUse b => some { id := b.id, function := { name := b.name, arguments := t.dumps b.input } }
  | _ => none

/-- An accepted user turn has no other blocks than texts and tool results. -/
theorem userBlocks_ok {blocks : List AnthropicRequestContentBlock}
    {r : List Message × List TextPart} (h : userBlocks t blocks = .ok r) :
    r = (blocks.filterMap toolMessageOf, (blocks.filterMap textBlockOf).map textPartOf) := by
  induction blocks generalizing r with
  | nil => simpa [userBlocks, eq_comm] using h
  | cons b rest ih =>
    cases b with
    | text b =>
      simp only [userBlocks, bind_eq_ok, pure_eq_ok] at h
      obtain ⟨r', hr, rfl⟩ := h
      rw [ih hr]
      simp [List.filterMap_cons, toolMessageOf, textBlockOf]
    | toolResult b =>
      simp only [userBlocks, bind_eq_ok, pure_eq_ok] at h
      obtain ⟨r', hr, rfl⟩ := h
      rw [ih hr]
      simp [List.filterMap_cons, toolMessageOf, textBlockOf]
    | image b => simp [userBlocks] at h
    | toolUse b => simp [userBlocks] at h

/-- An accepted assistant turn has no other blocks than texts and uses of tools. -/
theorem assistantBlocks_ok {blocks : List AnthropicRequestContentBlock}
    {r : List String × List ToolCall} (h : assistantBlocks t blocks = .ok r) :
    r = ((blocks.filterMap textBlockOf).map AnthropicTextBlock.text,
      blocks.filterMap (toolCallOf t)) := by
  induction blocks generalizing r with
  | nil => simpa [assistantBlocks, eq_comm] using h
  | cons b rest ih =>
    cases b with
    | text b =>
      simp only [assistantBlocks, bind_eq_ok, pure_eq_ok] at h
      obtain ⟨r', hr, rfl⟩ := h
      rw [ih hr]
      simp [List.filterMap_cons, toolCallOf, textBlockOf]
    | toolUse b =>
      simp only [assistantBlocks, bind_eq_ok, pure_eq_ok] at h
      obtain ⟨r', hr, rfl⟩ := h
      rw [ih hr]
      simp [List.filterMap_cons, toolCallOf, textBlockOf]
    | image b => simp [assistantBlocks] at h
    | toolResult b => simp [assistantBlocks] at h

/-! ## Messages -/

/-- The messages a user turn becomes. -/
def userBody (content : Content AnthropicRequestContentBlock) : List Message :=
  match content with
  | .str s => [.user { content := .str s }]
  | .parts blocks =>
    blocks.filterMap toolMessageOf ++ userMessageOf ((blocks.filterMap textBlockOf).map textPartOf)

/-- The message an assistant turn becomes. -/
def assistantBody (t : PythonText) (content : Content AnthropicRequestContentBlock) :
    AssistantMessage :=
  match content with
  | .str s => { content := some (.str s) }
  | .parts blocks =>
    let texts := (blocks.filterMap textBlockOf).map AnthropicTextBlock.text
    let calls := blocks.filterMap (toolCallOf t)
    { content := if texts = [] then none else some (.str (join "\n" texts))
      toolCalls := if calls = [] then none else some calls }

/-- What a message adds to the body. -/
def bodyOf (t : PythonText) (msg : AnthropicMessage) : List Message :=
  match msg.role with
  | .user => userBody msg.content
  | .assistant => [.assistant (assistantBody t msg.content)]
  | .system => []

/-- What a message adds to the system fragments. -/
def fragmentOf (msg : AnthropicMessage) : Option TextPart :=
  match msg.role with
  | .system => if systemText msg.content = "" then none else some { text := systemText msg.content }
  | _ => none

theorem anthropicUserToOpenai_ok {msg : AnthropicMessage} {ms : List Message}
    (h : anthropicUserToOpenai t msg = .ok ms) : ms = userBody msg.content := by
  unfold anthropicUserToOpenai at h
  cases hc : msg.content with
  | str s =>
    rw [hc] at h
    simpa [userBody, eq_comm] using h
  | parts blocks =>
    rw [hc] at h
    simp only [bind_eq_ok, pure_eq_ok] at h
    obtain ⟨r, hr, rfl⟩ := h
    rw [userBlocks_ok hr]
    rfl

theorem anthropicAssistantToOpenai_ok {msg : AnthropicMessage} {m : Message}
    (h : anthropicAssistantToOpenai t msg = .ok m) :
    m = .assistant (assistantBody t msg.content) := by
  unfold anthropicAssistantToOpenai at h
  cases hc : msg.content with
  | str s =>
    rw [hc] at h
    simpa [assistantBody, eq_comm] using h
  | parts blocks =>
    rw [hc] at h
    simp only [bind_eq_ok, pure_eq_ok] at h
    obtain ⟨r, hr, rfl⟩ := h
    rw [assistantBlocks_ok hr]
    rfl

/-- A message of the body is no system message. -/
theorem userBody_not_system {content : Content AnthropicRequestContentBlock} {m : Message}
    (hm : m ∈ userBody content) : ∀ s, m ≠ .system s := by
  intro s
  cases content with
  | str text =>
    have : m = .user { content := .str text } := by simpa [userBody] using hm
    simp [this]
  | parts blocks =>
    rcases List.mem_append.mp hm with hm | hm
    · obtain ⟨b, -, hb⟩ := List.mem_filterMap.mp hm
      cases b <;> simp [toolMessageOf] at hb
      simp [← hb]
    · unfold userMessageOf at hm
      split at hm
      · simp at hm
      · split at hm <;> simp_all
      · simp_all

theorem bodyOf_not_system {msg : AnthropicMessage} {m : Message} (hm : m ∈ bodyOf t msg) :
    ∀ s, m ≠ .system s := by
  unfold bodyOf at hm
  split at hm
  · exact userBody_not_system hm
  · simp_all
  · simp at hm

/-- The loop over the messages, as two maps. -/
theorem splitMessages_ok {msgs : List AnthropicMessage} {r : List TextPart × List Message}
    (h : splitMessages t msgs = .ok r) :
    r = (msgs.filterMap fragmentOf, msgs.flatMap (bodyOf t)) := by
  induction msgs generalizing r with
  | nil => simpa [splitMessages, eq_comm] using h
  | cons msg rest ih =>
    simp only [splitMessages, bind_eq_ok, pure_eq_ok] at h
    obtain ⟨converted, hc, r', hr, rfl⟩ := h
    rw [ih hr]
    unfold anthropicMessageToOpenai at hc
    cases hrole : msg.role with
    | user =>
      rw [hrole] at hc
      have hms : converted = bodyOf t msg := by
        rw [anthropicUserToOpenai_ok hc, bodyOf, hrole]
      have hno : ∀ m ∈ converted, ∀ s, m ≠ .system s := by
        rw [hms]
        exact fun m hm => bodyOf_not_system hm
      have hfrag : fragmentOf msg = none := by simp [fragmentOf, hrole]
      simp only [List.filterMap_cons, hfrag, List.flatMap_cons, ← hms, Prod.mk.injEq,
        List.append_cancel_right_eq, List.append_left_eq_self, List.filterMap_eq_nil_iff,
        List.filter_eq_self]
      constructor
      · intro m hm
        cases m with
        | system s => exact absurd rfl (hno _ hm s)
        | _ => rfl
      · intro m hm
        cases m with
        | system s => exact absurd rfl (hno _ hm s)
        | _ => rfl
    | assistant =>
      rw [hrole] at hc
      simp only [bind_eq_ok, pure_eq_ok] at hc
      obtain ⟨m, hm, rfl⟩ := hc
      rw [anthropicAssistantToOpenai_ok hm]
      simp [bodyOf, fragmentOf, hrole]
    | system =>
      rw [hrole] at hc
      obtain rfl := Except.ok.inj hc
      by_cases htext : systemText msg.content = ""
      · simp [bodyOf, fragmentOf, hrole, htext]
      · simp [bodyOf, fragmentOf, hrole, htext]

/-! ## The request -/

/-- The texts at the top of a body. -/
def AnthropicMessagesRequest.topTexts (req : AnthropicMessagesRequest) : List String :=
  match req.system with
  | none => []
  | some (.str s) => [s]
  | some (.parts blocks) => blocks.map AnthropicTextBlock.text

/-- The system fragments at the top of the body. -/
def topFragments (req : AnthropicMessagesRequest) : List TextPart :=
  match req.system with
  | none => []
  | some system => (anthropicSystemToParts system).filter
      (fun p => p.text ≠ "" ∨ p.cacheControl.getD [] ≠ [])

/-- All system fragments, in the order in which they are joined. -/
def systemFragments (req : AnthropicMessagesRequest) : List TextPart :=
  topFragments req ++ req.messages.filterMap fragmentOf

/-- An accepted request after translation. -/
def inbound (t : PythonText) (req : AnthropicMessagesRequest) : ChatCompletionRequest where
  model := req.model
  messages := leadingSystem (systemFragments req) ++ req.messages.flatMap (bodyOf t)
  maxTokens := some req.maxTokens
  temperature := req.temperature
  topP := req.topP
  stop := match req.stopSequences with
    | none => none
    | some [] => none
    | some ss => some (.many ss)
  stream := some (req.stream.getD false)
  tools := match req.tools with
    | none => none
    | some [] => none
    | some ts => some (ts.map anthropicToolDefToOpenai)
  toolChoice := req.toolChoice.map anthropicToolChoiceToOpenai
  reasoningEffort := reasoningEffortFromAnthropic req
  user := req.metadata.bind AnthropicMetadata.userId

theorem fromAnthropicRequest_ok {req : AnthropicMessagesRequest} {out : ChatCompletionRequest}
    (h : fromAnthropicRequest t req = .ok out) : out = inbound t req := by
  simp only [fromAnthropicRequest, bind_eq_ok, pure_eq_ok] at h
  obtain ⟨r, hr, rfl⟩ := h
  rw [splitMessages_ok hr]
  rfl

/-! ## The items of the Responses surface -/

namespace ResponsesInputItem

def isCall (item : ResponsesInputItem) : Bool := item.type = some "function_call"

def isOutput (item : ResponsesInputItem) : Bool := item.type = some "function_call_output"

/-- An item that becomes a message. -/
def isKept (item : ResponsesInputItem) : Bool := item.isCall || item.isOutput || item.role.isSome

/-- An item that becomes a message with a role of its own. -/
def isMessage (item : ResponsesInputItem) : Bool :=
  !item.isCall && !item.isOutput && item.role.isSome

/-- An item with the system role, under either name. -/
def isSystem (item : ResponsesInputItem) : Bool :=
  !item.isCall && !item.isOutput &&
    (item.role = some "system" || item.role = some "developer")

/-- The id of the call an item makes or answers. -/
def id (item : ResponsesInputItem) : String := item.callId.getD ""

end ResponsesInputItem

variable {v : BodyValues}

/-- An item becomes a call, an answer, or a message with the role it names. -/
theorem inputItemToMessage_ok {item : ResponsesInputItem} {m : Message}
    (h : inputItemToMessage v item = .ok (some m)) :
    (item.type = some "function_call" ∧
        m = .assistant { content := none, toolCalls := some [itemCall item] }) ∨
      (item.type = some "function_call_output" ∧
        ∃ content, m = .tool { content := content, toolCallId := item.callId.getD "" }) ∨
      (item.type ≠ some "function_call" ∧ item.type ≠ some "function_call_output" ∧
        ∃ role, item.role = some role ∧ m = toMessage role (itemText item.content)) := by
  unfold inputItemToMessage at h
  by_cases hcall : item.type = some "function_call"
  · rw [if_pos hcall] at h
    exact .inl ⟨hcall, (Option.some.inj (Except.ok.inj h)).symm⟩
  · rw [if_neg hcall] at h
    by_cases hout : item.type = some "function_call_output"
    · rw [if_pos hout] at h
      simp only [bind_eq_ok, pure_eq_ok] at h
      obtain ⟨content, -, hm⟩ := h
      exact .inr (.inl ⟨hout, content, (Option.some.inj hm).symm⟩)
    · rw [if_neg hout] at h
      cases hrole : item.role with
      | none => simp [hrole] at h
      | some role =>
        rw [hrole] at h
        exact .inr (.inr ⟨hcall, hout, role, rfl, (Option.some.inj (Except.ok.inj h)).symm⟩)

theorem inputItemToMessage_isSome {item : ResponsesInputItem} {msg : Option Message}
    (h : inputItemToMessage v item = .ok msg) : item.isKept = msg.isSome := by
  unfold inputItemToMessage at h
  unfold ResponsesInputItem.isKept ResponsesInputItem.isCall ResponsesInputItem.isOutput
  by_cases hcall : item.type = some "function_call"
  · rw [if_pos hcall] at h
    obtain rfl := Except.ok.inj h
    simp [hcall]
  · rw [if_neg hcall] at h
    by_cases hout : item.type = some "function_call_output"
    · rw [if_pos hout] at h
      simp only [bind_eq_ok, pure_eq_ok] at h
      obtain ⟨content, -, rfl⟩ := h
      simp [hout]
    · rw [if_neg hout] at h
      cases hrole : item.role with
      | none =>
        rw [hrole] at h
        obtain rfl := Except.ok.inj h
        simp [hcall, hout]
      | some role =>
        rw [hrole] at h
        obtain rfl := Except.ok.inj h
        simp

/-- The items that are kept and the messages they become, side by side. -/
theorem inputMessages_ok {items : List ResponsesInputItem} {ms : List Message}
    (h : inputMessages v items = .ok ms) :
    List.Forall₂ (fun item m => inputItemToMessage v item = .ok (some m))
      (items.filter ResponsesInputItem.isKept) ms := by
  induction items generalizing ms with
  | nil =>
    obtain rfl := Except.ok.inj h
    exact .nil
  | cons item rest ih =>
    simp only [inputMessages, bind_eq_ok, pure_eq_ok] at h
    obtain ⟨msg, hmsg, ms', hms, rfl⟩ := h
    have hkept : item.isKept = msg.isSome := inputItemToMessage_isSome hmsg
    cases msg with
    | none => simpa [hkept] using ih hms
    | some m => simpa [hkept] using ⟨hmsg, ih hms⟩

/-! ## The request of the Responses surface -/

theorem fromResponsesRequest_ok {req : ResponsesRequest}
    {out : ChatCompletionRequest} (h : fromResponsesRequest v req = .ok out) :
    ∃ body, messagesOfInput v req.input = .ok body ∧
      out.messages = instructionsMessage req.instructions ++ body := by
  simp only [fromResponsesRequest, bind_eq_ok, pure_eq_ok] at h
  obtain ⟨body, hbody, tools, -, rfl⟩ := h
  exact ⟨body, hbody, rfl⟩

/-- Python's values as they come up in the examples: floats of one decimal, and booleans. -/
def plainValues : BodyValues where
  strOfFloat q := fixed q 1
  boolField value := match value with
    | .bool b => some b
    | _ => none
  boolField_bool _ := rfl

/-! ## A conversation with tools -/

/-- `{"city": "Paris"}` as Python writes it. -/
def parisInput : String := "\x7b\"city\": \"Paris\"\x7d"

/-- Python's JSON on the empty object and on `{"city": "Paris"}`. -/
def weatherTexts : PythonText where
  dumps d := if d = [("city", .str "Paris")] then parisInput else "\x7b\x7d"
  loads s :=
    if s = parisInput then .ok (.obj [("city", .str "Paris")])
    else if s = "\x7b\x7d" then .ok (.obj [])
    else .error .decode
  reprStr s := "'" ++ s ++ "'"

/-- Two calls in one turn, a system message, and a user turn with both results in the other order,
a text between them. -/
def weatherTurns : List AnthropicMessage :=
  [{ role := .user, content := .str "Weather in Paris, and the time?" },
    { role := .assistant
      content := .parts
        [.text { text := "Let me look." },
          .toolUse { id := "t1", name := "weather", input := [("city", .str "Paris")] },
          .toolUse { id := "t2", name := "time" }] },
    { role := .system, content := .str "Be brief." },
    { role := .user
      content := .parts
        [.toolResult { toolUseId := "t2", content := .str "noon" },
          .text { text := "Well?" },
          .toolResult { toolUseId := "t1", content := .parts [{ text := "sun" }] }] }]

def weatherRequest : AnthropicMessagesRequest where
  model := "claude"
  maxTokens := 100
  messages := weatherTurns

theorem weatherRequest_accepted :
    fromAnthropicRequest weatherTexts weatherRequest = .ok (inbound weatherTexts weatherRequest) :=
  rfl

end ModelMeld
