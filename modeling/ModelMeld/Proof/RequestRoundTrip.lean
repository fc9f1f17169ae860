import ModelMeld.Lib.Neighbours
import ModelMeld.Proof.Inbound
import ModelMeld.Spec.AnthropicParams

/-!
# A Messages request and back

A request that came in on the Messages surface and goes out to Anthropic by way
of the internal request says the same, up to a normal form (`RoundTrip`): user
turns in a row are one turn, a turn has its tool results first, the texts of an
assistant turn are one text before its uses of tools, and the system fragments
are one text. User turns without a block are lost on the way
(`request_round_trip`).
-/

namespace ModelMeld

open Checked Neighbours

/-! ## Normal form -/

/-- A turn, by its role and its blocks. -/
abbrev ParamTurn := ParamRole × List ParamBlock

/-- A message for Anthropic as a turn: a bare string is one text. -/
def ParamMessage.turn (m : ParamMessage) : ParamTurn :=
  match m.content with
  | .str s => (m.role, [.text s])
  | .parts blocks => (m.role, blocks)

/-- A tool result as Anthropic gets it. -/
def resultBlockOf : AnthropicRequestContentBlock → Option ParamBlock
  | .toolResult b => some (.toolResult b.toolUseId (anthropicToolResultContentToText b.content))
  | _ => none

/-- A use of a tool as Anthropic gets it. -/
def useBlockOf : AnthropicRequestContentBlock → Option ParamBlock
  | .toolUse b => some (.toolUse b.id b.name (.obj b.input))
  | _ => none

/-- What a user turn says: its tool results, then its texts. -/
def userSays : Content AnthropicRequestContentBlock → List ParamBlock
  | .str s => [.text s]
  | .parts blocks =>
    blocks.filterMap resultBlockOf ++
      (blocks.filterMap textBlockOf).map (fun b => ParamBlock.text b.text)

/-- The texts of an assistant turn as one. -/
def turnText : Content AnthropicRequestContentBlock → String
  | .str s => s
  | .parts blocks => join "\n" ((blocks.filterMap textBlockOf).map AnthropicTextBlock.text)

/-- The uses of tools of an assistant turn. -/
def turnUses : Content AnthropicRequestContentBlock → List ParamBlock
  | .str _ => []
  | .parts blocks => blocks.filterMap useBlockOf

/-- What an assistant turn says: its texts as one, then its uses of tools. An empty text has no block
of its own unless there is nothing else. -/
def assistantSays (content : Content AnthropicRequestContentBlock) : List ParamBlock :=
  if turnText content = "" ∧ turnUses content = [] then [.text ""]
  else (if turnText content = "" then [] else [.text (turnText content)]) ++ turnUses content

/-- What a message of a client says; system messages are told apart. -/
def AnthropicMessage.turns (msg : AnthropicMessage) : List ParamTurn :=
  match msg.role with
  | .user => [(.user, userSays msg.content)]
  | .assistant => [(.assistant, assistantSays msg.content)]
  | .system => []

def ParamRole.isUser : ParamRole → Bool
  | .user => true
  | .assistant => false

/-- User turns in a row are one turn. -/
def mergeUsers (turns : List ParamTurn) : List ParamTurn := merge ParamRole.isUser turns

/-- The non-empty system texts of a client: those at the top, then those of the messages. -/
def AnthropicMessagesRequest.systemParts (req : AnthropicMessagesRequest) : List String :=
  (req.topTexts ++ (req.messages.filter (fun msg => msg.role = .system)).map
    (fun msg => systemText msg.content)).filter (· ≠ "")

/-- A tool as Anthropic gets it. -/
def AnthropicToolDef.param (tool : AnthropicToolDef) : ParamTool where
  name := tool.name
  description := tool.description.getD ""
  inputSchema := if tool.inputSchema = [] then [("type", .str "object")] else tool.inputSchema

/-- Parameters say what a request says, with the turns `turns`. -/
structure RoundTrip (req : AnthropicMessagesRequest) (turns : List ParamTurn)
    (p : AnthropicParams) : Prop where
  model : p.model = req.model
  maxTokens : p.maxTokens = req.maxTokens
  temperature : p.temperature = req.temperature
  topP : p.topP = req.topP
  stop : p.stopSequences.getD [] = req.stopSequences.getD []
  system : p.system = if req.systemParts = [] then none else some (join "\n\n" req.systemParts)
  tools : p.tools.getD [] = (req.tools.getD []).map AnthropicToolDef.param
  messages : mergeUsers (p.messages.map ParamMessage.turn) = mergeUsers turns

/-! ## Turns -/

/-- The tool inputs of a turn survive Python's JSON. -/
def FaithfulInputs (t : PythonText) (content : Content AnthropicRequestContentBlock) : Prop :=
  match content with
  | .str _ => True
  | .parts blocks => ∀ b, .toolUse b ∈ blocks →
      t.dumps b.input ≠ "" ∧ t.loads (t.dumps b.input) = .ok (.obj b.input)

variable {t : PythonText}

theorem split_append {ms ms' : List Message} {r r' : List String × List ParamMessage}
    (h : splitSystemAndMessages t ms = .ok r) (h' : splitSystemAndMessages t ms' = .ok r') :
    splitSystemAndMessages t (ms ++ ms') = .ok (r.1 ++ r'.1, r.2 ++ r'.2) := by
  induction ms generalizing r with
  | nil =>
    obtain rfl := Except.ok.inj h
    exact h'
  | cons m ms ih =>
    cases m with
    | user m =>
      simp only [splitSystemAndMessages, bind_eq_ok, pure_eq_ok] at h
      obtain ⟨content, hcontent, r, hr, rfl⟩ := h
      simp only [List.cons_append, splitSystemAndMessages, bind_eq_ok, pure_eq_ok]
      exact ⟨content, hcontent, _, ih hr, rfl⟩
    | system m =>
      simp only [splitSystemAndMessages, bind_eq_ok, pure_eq_ok] at h
      obtain ⟨r, hr, rfl⟩ := h
      simp only [List.cons_append, splitSystemAndMessages, bind_eq_ok, pure_eq_ok]
      exact ⟨_, ih hr, rfl⟩
    | assistant m =>
      simp only [splitSystemAndMessages, bind_eq_ok, pure_eq_ok] at h
      obtain ⟨blocks, hblocks, r, hr, rfl⟩ := h
      simp only [List.cons_append, splitSystemAndMessages, bind_eq_ok, pure_eq_ok]
      exact ⟨blocks, hblocks, _, ih hr, rfl⟩
    | tool m =>
      simp only [splitSystemAndMessages, bind_eq_ok, pure_eq_ok] at h
      obtain ⟨r, hr, rfl⟩ := h
      simp only [List.cons_append, splitSystemAndMessages, bind_eq_ok, pure_eq_ok]
      exact ⟨_, ih hr, rfl⟩

/-- The tool results of a turn, one message each. -/
theorem split_toolMessages (blocks : List AnthropicRequestContentBlock) :
    splitSystemAndMessages t (blocks.filterMap toolMessageOf) =
      .ok ([], (blocks.filterMap resultBlockOf).map
        (fun b => { role := .user, content := .parts [b] })) := by
  induction blocks with
  | nil => rfl
  | cons b rest ih =>
    cases b with
    | toolResult b =>
      have hone : splitSystemAndMessages t [.tool
        { content := .str (anthropicToolResultContentToText b.content)
          toolCallId := b.toolUseId }] = .ok _ := rfl
      have hsplit := split_append hone ih
      simpa [List.filterMap_cons, toolMessageOf, resultBlockOf, extractText] using hsplit
    | _ => simpa [List.filterMap_cons, toolMessageOf, resultBlockOf] using ih

theorem split_user {m : UserMessage} {content : Content ParamBlock}
    (h : translateUserContent m.content = .ok content) :
    splitSystemAndMessages t [.user m] = .ok ([], [{ role := .user, content := content }]) := by
  simp only [splitSystemAndMessages, h]
  rfl

theorem translateUserContent_texts (texts : List AnthropicTextBlock) :
    translateUserContent (.parts ((texts.map textPartOf).map ContentPart.text)) =
      .ok (.parts (texts.map (fun b => ParamBlock.text b.text))) := by
  have hmap : ((texts.map textPartOf).map ContentPart.text).mapM translateUserPart =
      .ok (texts.map (fun b => ParamBlock.text b.text)) := by
    rw [mapM_eq_ok, List.forall₂_map_left_iff, List.forall₂_map_left_iff,
      List.forall₂_map_right_iff, List.forall₂_same]
    intro b _
    rfl
  simp only [translateUserContent, hmap]
  rfl

/-- The texts of a turn, as one message when there are some. -/
theorem split_userMessage (texts : List AnthropicTextBlock) :
    ∃ ms, splitSystemAndMessages t (userMessageOf (texts.map textPartOf)) = .ok ([], ms) ∧
      ms.map ParamMessage.turn =
        if texts = [] then []
        else [(ParamRole.user, texts.map (fun b => ParamBlock.text b.text))] := by
  rcases texts with - | ⟨a, - | ⟨b, rest⟩⟩
  · exact ⟨[], rfl, rfl⟩
  · -- a lone text is a bare string unless it carries a breakpoint
    by_cases hcache : (textPartOf a).cacheControl.getD [] = []
    · have hmessage : userMessageOf ([a].map textPartOf) = [.user { content := .str a.text }] :=
        if_pos hcache
      exact ⟨_, hmessage ▸ split_user rfl, rfl⟩
    · have hmessage : userMessageOf ([a].map textPartOf) =
          [.user { content := .parts (([a].map textPartOf).map ContentPart.text) }] :=
        if_neg hcache
      exact ⟨_, hmessage ▸ split_user (translateUserContent_texts [a]), rfl⟩
  · exact ⟨_, split_user (translateUserContent_texts (a :: b :: rest)), rfl⟩

/-- A user turn says the same after the round trip, unless it says nothing: its results and its text
are pieces of one turn. -/
theorem user_round_trip (content : Content AnthropicRequestContentBlock) :
    ∃ ms, splitSystemAndMessages t (userBody content) = .ok ([], ms) ∧
      ∀ rest, (ms.map ParamMessage.turn).foldr (absorb ParamRole.isUser) rest =
        if userSays content = [] then rest
        else absorb ParamRole.isUser (.user, userSays content) rest := by
  cases content with
  | str s => exact ⟨_, split_user rfl, fun rest => rfl⟩
  | parts blocks =>
    obtain ⟨ms, hms, hturns⟩ := split_userMessage (t := t) (blocks.filterMap textBlockOf)
    refine ⟨_, split_append (split_toolMessages blocks) hms, ?_⟩
    intro rest
    obtain ⟨pieces, hpieces⟩ : ∃ pieces, pieces =
        (blocks.filterMap resultBlockOf).map (fun b => [b]) ++
          if blocks.filterMap textBlockOf = [] then []
          else [(blocks.filterMap textBlockOf).map (fun b => ParamBlock.text b.text)] := ⟨_, rfl⟩
    have hmap : (((blocks.filterMap resultBlockOf).map (fun b =>
        ({ role := .user, content := .parts [b] } : ParamMessage)) ++ ms).map
          ParamMessage.turn) = pieces.map (Prod.mk ParamRole.user) := by
      rw [List.map_append, hturns, hpieces, List.map_append]
      congr 1
      · simp [ParamMessage.turn]
      · split_ifs <;> rfl
    have hflat : pieces.flatten = userSays (.parts blocks) := by
      rw [hpieces, List.flatten_append, ← List.flatMap_def, List.flatMap_singleton', userSays]
      congr 1
      split_ifs with htexts <;> simp [htexts]
    have hfull : ∀ piece ∈ pieces, piece ≠ [] := by
      intro piece hpiece
      rw [hpieces] at hpiece
      rcases List.mem_append.mp hpiece with h | h
      · obtain ⟨b, -, rfl⟩ := List.mem_map.mp h
        simp
      · split_ifs at h with htexts
        · simp at h
        · simp_all
    change (((blocks.filterMap resultBlockOf).map _ ++ ms).map ParamMessage.turn).foldr _ _ = _
    rw [hmap, ← hflat]
    by_cases hnil : pieces = []
    · simp [hnil]
    · have hne : pieces.flatten ≠ [] := by
        obtain ⟨piece, hpiece⟩ := List.exists_mem_of_ne_nil _ hnil
        intro hempty
        exact hfull piece hpiece (List.flatten_eq_nil_iff.mp hempty piece hpiece)
      rw [if_neg hne, foldr_absorb_pieces rfl hnil]

theorem assistantBody_text (content : Content AnthropicRequestContentBlock) :
    assistantText (assistantBody t content).content =
      if turnText content = "" then [] else [.text (turnText content)] := by
  cases content with
  | str s => rfl
  | parts blocks =>
    by_cases hnil : (blocks.filterMap textBlockOf).map AnthropicTextBlock.text = []
    · simp only [assistantBody, turnText, hnil]
      rfl
    · simp only [assistantBody, turnText, hnil, if_false]
      rfl

theorem mapM_toolUseBlock {blocks : List AnthropicRequestContentBlock}
    (hjson : FaithfulInputs t (.parts blocks)) :
    (blocks.filterMap (toolCallOf t)).mapM (toolUseBlock t) =
      .ok (blocks.filterMap useBlockOf) := by
  induction blocks with
  | nil => rfl
  | cons b blocks ih =>
    have hrest := ih (fun u hu => hjson u (List.mem_cons_of_mem b hu))
    cases b with
    | toolUse u =>
      obtain ⟨hne, hloads⟩ := hjson u List.mem_cons_self
      have hblock : toolUseBlock t ⟨u.id, ⟨u.name, t.dumps u.input⟩⟩ =
          .ok (.toolUse u.id u.name (.obj u.input)) := by
        unfold toolUseBlock toolInput
        simp only [hne, hloads, if_false]
        rfl
      simp only [List.filterMap_cons, toolCallOf, useBlockOf, List.mapM_cons, bind_eq_ok,
        pure_eq_ok]
      exact ⟨_, hblock, _, hrest, rfl⟩
    | _ => exact hrest

theorem assistantBody_uses {content : Content AnthropicRequestContentBlock}
    (hjson : FaithfulInputs t content) :
    ((assistantBody t content).toolCalls.getD []).mapM (toolUseBlock t) =
      .ok (turnUses content) := by
  cases content with
  | str s => rfl
  | parts blocks =>
    have huses := mapM_toolUseBlock hjson
    rw [turnUses]
    by_cases hnil : blocks.filterMap (toolCallOf t) = []
    · rw [hnil] at huses
      simpa [assistantBody, hnil] using huses
    · simpa [assistantBody, hnil] using huses

/-- An assistant turn says the same after the round trip. -/
theorem assistant_round_trip {content : Content AnthropicRequestContentBlock}
    (hjson : FaithfulInputs t content) :
    translateAssistantContent t (assistantBody t content) = .ok (assistantSays content) := by
  unfold translateAssistantContent assistantSays
  simp only [assistantBody_text, bind_eq_ok, pure_eq_ok]
  refine ⟨turnUses content, assistantBody_uses hjson, ?_⟩
  by_cases htext : turnText content = ""
  · simp [htext]
  · simp [htext]

theorem assistantSays_ne_nil (content : Content AnthropicRequestContentBlock) :
    assistantSays content ≠ [] := by
  unfold assistantSays
  by_cases htext : turnText content = ""
  · by_cases huses : turnUses content = []
    · simp [htext, huses]
    · simp [htext, huses]
  · simp [htext]

/-- What a turn of the conversation puts in front is what it says, if it says something. -/
theorem message_round_trip {msg : AnthropicMessage} (hjson : FaithfulInputs t msg.content) :
    ∃ ms, splitSystemAndMessages t (bodyOf t msg) = .ok ([], ms) ∧
      ∀ rest, (ms.map ParamMessage.turn).foldr (absorb ParamRole.isUser) rest =
        (msg.turns.filter (fun turn => !turn.2.isEmpty)).foldr (absorb ParamRole.isUser) rest := by
  unfold bodyOf AnthropicMessage.turns
  cases hrole : msg.role with
  | system => exact ⟨[], rfl, fun rest => rfl⟩
  | user =>
    obtain ⟨ms, hms, hturns⟩ := user_round_trip (t := t) msg.content
    refine ⟨ms, hms, fun rest => ?_⟩
    rw [hturns]
    by_cases htext : userSays msg.content = []
    · simp [htext]
    · simp [htext]
  | assistant =>
    have hsplit : splitSystemAndMessages t [.assistant (assistantBody t msg.content)] =
        .ok ([], [{ role := .assistant, content := .parts (assistantSays msg.content) }]) := by
      simp only [splitSystemAndMessages, bind_eq_ok, pure_eq_ok]
      exact ⟨_, assistant_round_trip hjson, _, rfl, rfl⟩
    refine ⟨_, hsplit, fun rest => ?_⟩
    simp [ParamMessage.turn, assistantSays_ne_nil]

/-- A conversation says the same after the round trip, up to the turns that say nothing. -/
theorem conversation_round_trip {msgs : List AnthropicMessage}
    (hjson : ∀ msg ∈ msgs, FaithfulInputs t msg.content) :
    ∃ ms, splitSystemAndMessages t (msgs.flatMap (bodyOf t)) = .ok ([], ms) ∧
      mergeUsers (ms.map ParamMessage.turn) =
        mergeUsers ((msgs.flatMap AnthropicMessage.turns).filter (fun turn => !turn.2.isEmpty)) := by
  induction msgs with
  | nil => exact ⟨[], rfl, rfl⟩
  | cons msg rest ih =>
    obtain ⟨ms, hms, hturns⟩ := message_round_trip (hjson msg (by simp))
    obtain ⟨ms', hms', hmerge⟩ := ih (fun m hm => hjson m (by simp [hm]))
    refine ⟨ms ++ ms', split_append hms hms', ?_⟩
    unfold mergeUsers at hmerge ⊢
    rw [List.map_append, List.flatMap_cons, List.filter_append, merge_append, merge_append, hmerge,
      hturns]

/-! ## System text -/

/-- No block at the top carries a breakpoint. -/
def AnthropicMessagesRequest.NoTopBreakpoint (req : AnthropicMessagesRequest) : Prop :=
  match req.system with
  | some (.parts blocks) => ∀ b ∈ blocks, b.cacheControl = false
  | _ => True

theorem topFragments_plain {req : AnthropicMessagesRequest} (h : req.NoTopBreakpoint) :
    topFragments req = (req.topTexts.filter (· ≠ "")).map (fun text => { text := text }) := by
  unfold AnthropicMessagesRequest.NoTopBreakpoint at h
  unfold topFragments AnthropicMessagesRequest.topTexts
  rcases hsystem : req.system with - | s | blocks
  · rfl
  · by_cases hs : s = ""
    · simp [anthropicSystemToParts, hs]
    · simp [anthropicSystemToParts, hs]
  · rw [hsystem] at h
    clear hsystem
    simp only [anthropicSystemToParts]
    induction blocks with
    | nil => rfl
    | cons b rest ih =>
      have hb : textPartOf b = { text := b.text } := by
        simp [textPartOf, dumpCacheControl, h b (by simp)]
      have hrest := ih (fun b' hb' => h b' (by simp [hb']))
      by_cases hs : b.text = ""
      · simpa [hb, hs] using hrest
      · simpa [hb, hs] using hrest

theorem arrayFragments_plain (msgs : List AnthropicMessage) :
    msgs.filterMap fragmentOf =
      (((msgs.filter (fun msg => msg.role = .system)).map (fun msg => systemText msg.content)).filter
        (· ≠ "")).map (fun text => { text := text }) := by
  induction msgs with
  | nil => rfl
  | cons msg rest ih =>
    cases hrole : msg.role with
    | system =>
      by_cases hs : systemText msg.content = ""
      · simpa [fragmentOf, hrole, hs] using ih
      · simpa [fragmentOf, hrole, hs] using ih
    | _ => simpa [fragmentOf, hrole] using ih

theorem systemFragments_plain {req : AnthropicMessagesRequest} (h : req.NoTopBreakpoint) :
    systemFragments req = req.systemParts.map (fun text => { text := text }) := by
  unfold systemFragments AnthropicMessagesRequest.systemParts
  rw [topFragments_plain h, arrayFragments_plain, List.filter_append, List.map_append]

/-- Fragments without breakpoints become one text. -/
theorem split_leadingSystem (texts : List String) :
    splitSystemAndMessages t (leadingSystem (texts.map (fun text => { text := text }))) =
      .ok (if texts = [] then [] else [join "\n\n" texts], []) := by
  by_cases hnil : texts = []
  · subst hnil
    rfl
  · have hlead : leadingSystem (texts.map (fun text => { text := text })) =
        [.system { content := .str (join "\n\n" texts) }] := by
      simp [leadingSystem, hnil, Function.comp_def]
    rw [hlead, if_neg hnil]
    rfl

theorem systemParam_join {texts : List String} (h : ∀ s ∈ texts, s ≠ "") :
    systemParam (if texts = [] then [] else [join "\n\n" texts]) =
      if texts = [] then none else some (join "\n\n" texts) := by
  by_cases hnil : texts = []
  · rw [if_pos hnil, if_pos hnil]
    rfl
  · obtain ⟨s, hs⟩ := List.exists_mem_of_ne_nil _ hnil
    have hne : join "\n\n" texts ≠ "" := ne_empty_of_isSubstring (isSubstring_join "\n\n" hs) (h s hs)
    rw [if_neg hnil, if_neg hnil]
    exact if_neg hne

/-! ## The request -/

theorem toolChoiceParam_inbound (choice : Option AnthropicToolChoice) :
    ∃ c, toolChoiceParam (choice.map anthropicToolChoiceToOpenai) = .ok c := by
  rcases choice with - | (- | - | ⟨name, parallel⟩ | -)
  · exact ⟨_, rfl⟩
  · exact ⟨_, rfl⟩
  · exact ⟨_, rfl⟩
  · by_cases hname : (Json.str name).truthy = true
    · refine ⟨some (.tool (.str name)), mapError_eq_ok.mpr ?_⟩
      simp [anthropicToolChoiceToOpenai, translateToolChoice, JsonObj.getD, JsonObj.get?,
        Json.asDict, hname, List.lookup_cons, bind, Except.bind, pure, Except.pure]
    · refine ⟨some .auto, mapError_eq_ok.mpr ?_⟩
      simp [anthropicToolChoiceToOpenai, translateToolChoice, JsonObj.getD, JsonObj.get?,
        Json.asDict, hname, List.lookup_cons, bind, Except.bind, pure, Except.pure]
  · exact ⟨_, rfl⟩

theorem tools_round_trip (tools : List AnthropicToolDef) :
    (tools.map anthropicToolDefToOpenai).map translateToolDef = tools.map AnthropicToolDef.param := by
  rw [List.map_map]
  apply List.map_congr_left
  intro tool _
  unfold AnthropicToolDef.param
  cases hschema : tool.inputSchema with
  | nil => simp [anthropicToolDefToOpenai, translateToolDef, hschema]
  | cons field fields => simp [anthropicToolDefToOpenai, translateToolDef, hschema]

theorem toAnthropicParams_ok {request : ChatCompletionRequest}
    {split : List String × List ParamMessage} {choice : Option ParamToolChoice}
    (hsplit : splitSystemAndMessages t request.messages = .ok split)
    (hchoice : toolChoiceParam request.toolChoice = .ok choice) :
    ∃ p, toAnthropicParams t request = .ok p ∧ p.model = request.model ∧ p.messages = split.2 ∧
      p.maxTokens = paramMaxTokens request ∧ p.system = systemParam split.1 ∧
      p.temperature = request.temperature ∧ p.topP = request.topP ∧
      p.stopSequences = stopSequencesOf request.stop ∧
      p.tools.getD [] = (request.tools.getD []).map translateToolDef := by
  simp only [toAnthropicParams, bind_eq_ok, pure_eq_ok]
  refine ⟨_, ⟨split, hsplit, choice, hchoice, rfl⟩, rfl, rfl, rfl, rfl, rfl, rfl, rfl, ?_⟩
  rcases request.tools with - | - | ⟨tool, tools⟩ <;> rfl

/-- **A Messages request says the same to Anthropic after the internal request, up to the normal form
and without the user turns that have no block.** -/
theorem request_round_trip {req : AcceptedMessagesRequest} {chat : ChatCompletionRequest}
    (h : fromAnthropicRequest t req.toAnthropicMessagesRequest = .ok chat)
    (hcache : req.NoTopBreakpoint) (hjson : ∀ msg ∈ req.messages, FaithfulInputs t msg.content) :
    ∃ p, toAnthropicParams t chat = .ok p ∧
      RoundTrip req.toAnthropicMessagesRequest
        ((req.messages.flatMap AnthropicMessage.turns).filter (fun turn => !turn.2.isEmpty)) p := by
  obtain rfl := fromAnthropicRequest_ok h
  obtain ⟨ms, hms, hmerge⟩ := conversation_round_trip hjson
  obtain ⟨choice, hchoice⟩ := toolChoiceParam_inbound req.toolChoice
  have hsplit := split_append (split_leadingSystem (t := t) req.systemParts) hms
  rw [← systemFragments_plain hcache] at hsplit
  have hparts : ∀ s ∈ req.systemParts, s ≠ "" := by
    intro s hs
    simpa using (List.mem_filter.mp hs).2
  have hsplit : splitSystemAndMessages t (inbound t req.toAnthropicMessagesRequest).messages = _ :=
    hsplit
  obtain ⟨p, hp, hmodel, hmessages, hmax, hsystem, htemperature, htopP, hstop, htools⟩ :=
    toAnthropicParams_ok hsplit hchoice
  refine ⟨p, hp, hmodel, ?_, htemperature, htopP, ?_, ?_, ?_, ?_⟩
  · have hpos : req.maxTokens ≠ 0 := by
      have := req.maxTokens_pos
      omega
    rw [hmax]
    simp [paramMaxTokens, inbound, hpos]
  · rw [hstop]
    unfold inbound
    rcases req.stopSequences with - | - | ⟨s, ss⟩ <;> rfl
  · rw [hsystem]
    simpa using systemParam_join hparts
  · rw [htools, ← tools_round_trip]
    unfold inbound
    rcases req.tools with - | - | ⟨tool, tools⟩ <;> rfl
  · rw [hmessages]
    simpa using hmerge

/-- A body with a conversation and the sampling fields. -/
def bodyWith (messages : List AnthropicMessage) : AcceptedMessagesRequest where
  model := "claude"
  messages := messages
  maxTokens := 100
  temperature := some (1 / 2)
  temperature_range := by norm_num
  topP := some (9 / 10)
  topP_range := by norm_num
  topK := some 40

theorem weather_round_trip :
    ∃ p, toAnthropicParams weatherTexts
        (inbound weatherTexts (bodyWith weatherTurns).toAnthropicMessagesRequest) =
          .ok p ∧
      RoundTrip (bodyWith weatherTurns).toAnthropicMessagesRequest
        ((weatherTurns.flatMap AnthropicMessage.turns).filter (fun turn => !turn.2.isEmpty)) p := by
  apply request_round_trip
  · rfl
  · trivial
  · intro msg hmsg
    simp only [bodyWith, weatherTurns, List.mem_cons, List.not_mem_nil, or_false] at hmsg
    rcases hmsg with rfl | rfl | rfl | rfl
    · trivial
    · intro b hb
      simp only [List.mem_cons, reduceCtorEq, AnthropicRequestContentBlock.toolUse.injEq,
        List.not_mem_nil, or_false, false_or] at hb
      rcases hb with rfl | rfl
      · exact ⟨by decide, by decide⟩
      · exact ⟨by decide, by decide⟩
    · trivial
    · intro b hb
      simp at hb

/-- Two assistant turns with an empty user turn between them. -/
def silentTurn : List AnthropicMessage :=
  [{ role := .assistant, content := .str "One." }, { role := .user, content := .parts [] },
    { role := .assistant, content := .str "Two." }]

theorem silent_turn_lost :
    ∃ chat p, fromAnthropicRequest weatherTexts
        (bodyWith silentTurn).toAnthropicMessagesRequest = .ok chat ∧
      toAnthropicParams weatherTexts chat = .ok p ∧
      ¬ RoundTrip (bodyWith silentTurn).toAnthropicMessagesRequest
        (silentTurn.flatMap AnthropicMessage.turns) p := by
  refine ⟨_, _, rfl, rfl, fun h => ?_⟩
  exact absurd h.messages (by decide)

end ModelMeld
