import ModelMeld.Proof.MessageParity
import ModelMeld.Proof.Inbound

/-!
# Conversations on the Messages surface

`messages_retold`: a client that sends back the messages it was given, and adds to them, is refused
only for what it added; and each answer it sends back is dispatched as one assistant message with
the text of the completion and its calls, whose arguments are the JSON the client was shown.
-/

namespace ModelMeld

open Checked

/-! ## What a client sends back -/

def AnthropicResponseContentBlock.sentBack :
    AnthropicResponseContentBlock → AnthropicRequestContentBlock
  | .text b => .text b
  | .toolUse b => .toolUse b

/-- A message in the messages of the next request. -/
def AnthropicMessagesResponse.sentBack (msg : AnthropicMessagesResponse) : AnthropicMessage where
  role := .assistant
  content := .parts (msg.content.map AnthropicResponseContentBlock.sentBack)

/-- One round of a conversation: the completion, its message as the client is given it, and the
messages the client adds for the next round. -/
structure MessageRound where
  completion : ChatCompletion
  choice : Choice
  reply : AnthropicMessagesResponse
  added : List AnthropicMessage

/-- The messages after some rounds, of a client that sends the whole conversation each time. -/
def sentMessages (opening : List AnthropicMessage) (rounds : List MessageRound) :
    List AnthropicMessage :=
  opening ++ rounds.flatMap (fun round => round.reply.sentBack :: round.added)

/-- The reply is the message of the completion, and its inputs survive `json.dumps`. -/
structure MessageRound.Told (t : PythonText) (round : MessageRound) : Prop where
  first : round.completion.choices.head? = some round.choice
  made : ∃ freshId model,
    toAnthropicResponse t freshId round.completion model = .ok round.reply
  json : ∀ use ∈ round.reply.uses, t.loads (t.dumps use.input) = .ok (.obj use.input)

/-- What the arguments of a call come back as: the same JSON; an object for none; and for a text
that is no JSON, an object that holds it. -/
def SameArguments (t : PythonText) (arguments arguments' : String) : Prop :=
  if arguments = "" then t.loads arguments' = .ok (.obj [])
  else match t.loads arguments with
    | .ok v => t.loads arguments' = .ok v
    | .error _ => t.loads arguments' = .ok (.obj [("_raw_arguments", .str arguments)])

/-- A call that comes back as another. -/
def SameToolCall (t : PythonText) (call call' : ToolCall) : Prop :=
  call'.id = call.id ∧ call'.function.name = call.function.name ∧
    SameArguments t call.function.arguments call'.function.arguments

/-- An assistant message that says what the model said. -/
structure Retold (t : PythonText) (said : ResponseMessage) (m : AssistantMessage) : Prop where
  text : m.content = if said.content.getD "" = "" ∧ said.calls ≠ [] then none
    else some (.str (said.content.getD ""))
  calls : List.Forall₂ (SameToolCall t) said.calls (m.toolCalls.getD [])

variable {t : PythonText}

/-! ## One answer -/

theorem sameArguments_of_block {call : ToolCall} {use : AnthropicToolUseBlock}
    (h : toolCallToAnthropicBlock t call = .ok use)
    (hjson : t.loads (t.dumps use.input) = .ok (.obj use.input)) :
    SameArguments t call.function.arguments (t.dumps use.input) := by
  unfold toolCallToAnthropicBlock at h
  unfold SameArguments
  by_cases hempty : call.function.arguments = ""
  · simp only [hempty, if_true] at h ⊢
    obtain rfl := Except.ok.inj h
    exact hjson
  · simp only [hempty, if_false] at h ⊢
    cases hloads : t.loads call.function.arguments with
    | error e =>
      rw [hloads] at h
      cases e with
      | decode =>
        obtain rfl := Except.ok.inj h
        exact hjson
      | other => cases h
    | ok v =>
      rw [hloads] at h
      cases v with
      | obj fields =>
        obtain rfl := Except.ok.inj h
        exact hjson
      | _ => cases h

/-- The blocks of a reply, sent back: its texts and its calls. -/
theorem sentBack_blocks (blocks : List AnthropicResponseContentBlock) :
    ((blocks.map AnthropicResponseContentBlock.sentBack).filterMap textBlockOf).map
        AnthropicTextBlock.text = blocks.filterMap AnthropicResponseContentBlock.text? ∧
      (blocks.map AnthropicResponseContentBlock.sentBack).filterMap (toolCallOf t) =
        (blocks.filterMap AnthropicResponseContentBlock.toolUse?).map (fun use =>
          { id := use.id, function := { name := use.name, arguments := t.dumps use.input } }) := by
  induction blocks with
  | nil => exact ⟨rfl, rfl⟩
  | cons block blocks ih =>
    cases block with
    | text b =>
      refine ⟨?_, ih.2⟩
      exact congrArg (b.text :: ·) ih.1
    | toolUse b =>
      refine ⟨ih.1, ?_⟩
      exact congrArg (_ :: ·) ih.2

theorem assistantBlocks_sentBack (blocks : List AnthropicResponseContentBlock) :
    Succeeds (assistantBlocks t (blocks.map AnthropicResponseContentBlock.sentBack)) := by
  induction blocks with
  | nil => exact ⟨_, rfl⟩
  | cons block blocks ih =>
    obtain ⟨⟨texts, calls⟩, hrest⟩ := ih
    cases block with
    | text b =>
      refine ⟨(b.text :: texts, calls), ?_⟩
      simp only [List.map_cons, AnthropicResponseContentBlock.sentBack, assistantBlocks, hrest]
      rfl
    | toolUse b =>
      refine ⟨(texts, { id := b.id, function := ⟨b.name, t.dumps b.input⟩ } :: calls), ?_⟩
      simp only [List.map_cons, AnthropicResponseContentBlock.sentBack, assistantBlocks, hrest]
      rfl

/-- **An answer sent back says what the model said.** -/
theorem MessageRound.Told.retold {round : MessageRound} (h : round.Told t) :
    Retold t round.choice.message (assistantBody t round.reply.sentBack.content) := by
  obtain ⟨freshId, model, hmade⟩ := h.made
  obtain ⟨huses, htexts, -, -⟩ := toAnthropicResponse_ok h.first hmade
  obtain ⟨htext, hcalls⟩ := sentBack_blocks (t := t) round.reply.content
  unfold assistantBody AnthropicMessagesResponse.sentBack
  dsimp only
  rw [htext, htexts, hcalls]
  constructor
  · dsimp only
    split <;> rfl
  · dsimp only
    have hsame : List.Forall₂ (SameToolCall t) round.choice.message.calls
        (round.reply.uses.map (fun use =>
          { id := use.id, function := { name := use.name, arguments := t.dumps use.input } })) := by
      rw [List.forall₂_map_right_iff]
      -- each block with what is known of its input
      have hboth := (List.forall₂_and_left _ _).2 ⟨h.json, huses.flip⟩
      refine (hboth.imp ?_).flip
      rintro use call ⟨hjson, hblock⟩
      obtain ⟨hid, hname⟩ := isBlockOf_of_ok hblock
      exact ⟨hid, hname, sameArguments_of_block hblock hjson⟩
    unfold AnthropicMessagesResponse.uses at hsame
    split
    next hnone => rwa [hnone] at hsame
    · exact hsame

/-! ## The conversation -/

/-- The loop over the messages succeeds where each message does. -/
theorem succeeds_splitMessages (msgs : List AnthropicMessage) :
    Succeeds (splitMessages t msgs) ↔
      ∀ msg ∈ msgs, Succeeds (anthropicMessageToOpenai t msg) := by
  induction msgs with
  | nil => simp [splitMessages]
  | cons msg msgs ih =>
    unfold splitMessages
    rw [List.forall_mem_cons, ← ih]
    refine succeeds_bind fun converted _ => ?_
    rw [succeeds_bind (P := True) (fun split _ => by simp [pure, Except.pure]), and_true]

theorem succeeds_fromAnthropicRequest (req : AnthropicMessagesRequest) :
    Succeeds (fromAnthropicRequest t req) ↔
      ∀ msg ∈ req.messages, Succeeds (anthropicMessageToOpenai t msg) := by
  unfold fromAnthropicRequest
  rw [← succeeds_splitMessages]
  dsimp only
  rw [succeeds_bind (P := True) (fun split _ => by simp [pure, Except.pure]), and_true]

theorem succeeds_sentBack (msg : AnthropicMessagesResponse) :
    Succeeds (anthropicMessageToOpenai t msg.sentBack) := by
  obtain ⟨⟨texts, calls⟩, hblocks⟩ := assistantBlocks_sentBack (t := t) msg.content
  unfold anthropicMessageToOpenai anthropicAssistantToOpenai AnthropicMessagesResponse.sentBack
  dsimp only
  rw [hblocks]
  exact ⟨_, rfl⟩

/-- Answers add nothing to the system fragments. -/
theorem fragments_sentMessages (opening : List AnthropicMessage) (rounds : List MessageRound) :
    (sentMessages opening rounds).filterMap fragmentOf =
      (opening ++ rounds.flatMap MessageRound.added).filterMap fragmentOf := by
  unfold sentMessages
  rw [List.filterMap_append, List.filterMap_append]
  congr 1
  induction rounds with
  | nil => rfl
  | cons round rounds ih =>
    have hreply : fragmentOf round.reply.sentBack = none := rfl
    rw [List.flatMap_cons, List.flatMap_cons, List.filterMap_append, List.filterMap_append, ih,
      List.filterMap_cons, hreply]

theorem bodies_sentMessages (opening : List AnthropicMessage) (rounds : List MessageRound) :
    (sentMessages opening rounds).flatMap (bodyOf t) =
      opening.flatMap (bodyOf t) ++
        (List.zipWith (fun round answer => .assistant answer :: round.added.flatMap (bodyOf t))
          rounds (rounds.map (fun round =>
            assistantBody t round.reply.sentBack.content))).flatten := by
  unfold sentMessages
  rw [List.flatMap_append]
  congr 1
  induction rounds with
  | nil => rfl
  | cons round rounds ih =>
    rw [List.flatMap_cons, List.flatMap_append, ih]
    rfl

/-- **A conversation is retold**: the request is refused only for what the client itself wrote,
and dispatched with the system fragments in front, the opening, and for each round one assistant
message that says what the model said and the messages the client added to it. -/
theorem messages_retold (t : PythonText) (req : AnthropicMessagesRequest)
    (opening : List AnthropicMessage) (rounds : List MessageRound)
    (htold : ∀ round ∈ rounds, round.Told t) :
    (Succeeds (fromAnthropicRequest t { req with messages := sentMessages opening rounds }) ↔
      ∀ msg ∈ opening ++ rounds.flatMap MessageRound.added,
        Succeeds (anthropicMessageToOpenai t msg)) ∧
    ∀ out, fromAnthropicRequest t { req with messages := sentMessages opening rounds } =
        .ok out →
      ∃ answers, List.Forall₂ (fun round answer => Retold t round.choice.message answer)
          rounds answers ∧
        out.messages =
          leadingSystem (topFragments req ++
            (opening ++ rounds.flatMap MessageRound.added).filterMap fragmentOf) ++
          opening.flatMap (bodyOf t) ++
          (List.zipWith (fun round answer => .assistant answer :: round.added.flatMap (bodyOf t))
            rounds answers).flatten := by
  constructor
  · rw [succeeds_fromAnthropicRequest]
    unfold sentMessages
    simp only [List.forall_mem_append, List.forall_mem_flatMap, List.forall_mem_cons,
      succeeds_sentBack, true_and]
  · intro out hout
    refine ⟨rounds.map (fun round => assistantBody t round.reply.sentBack.content), ?_, ?_⟩
    · rw [List.forall₂_map_right_iff, List.forall₂_same]
      exact fun round hround => (htold round hround).retold
    · rw [fromAnthropicRequest_ok hout]
      unfold inbound systemFragments
      dsimp only
      rw [fragments_sentMessages, bodies_sentMessages, ← List.append_assoc]
      rfl

/-- A round answered with text and a call, whose result the client adds. -/
def countedRound : MessageRound where
  completion := countedCompletion
  choice := countedChoice
  reply := countedMessage
  added := [{ role := .user
              content := .parts [.toolResult { toolUseId := "call_1", content := .str "a" }] }]

theorem messages_retold_counted :
    Succeeds (fromAnthropicRequest objectTexts
      { model := "m"
        messages := sentMessages [{ role := .user, content := .str "ls" }] [countedRound]
        maxTokens := 8 }) := by
  have htold : ∀ round ∈ [countedRound], round.Told objectTexts := by
    intro round hround
    rw [List.mem_singleton.1 hround]
    refine ⟨rfl, ⟨"msg_1", "m", by decide⟩, ?_⟩
    intro use huse
    have hinput : ∀ use ∈ countedMessage.uses, use.input = [] := by decide
    rw [hinput use huse]
    rfl
  refine (messages_retold objectTexts { model := "m", messages := [], maxTokens := 8 }
    [{ role := .user, content := .str "ls" }] [countedRound] htold).1.2 ?_
  intro msg hmsg
  rcases List.mem_cons.1 hmsg with rfl | hmsg
  · exact ⟨_, rfl⟩
  · rw [List.mem_singleton.1 hmsg]
    exact ⟨_, rfl⟩

end ModelMeld
