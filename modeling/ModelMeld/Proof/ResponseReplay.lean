import ModelMeld.Proof.ResponseParity
import ModelMeld.Proof.Inbound

/-!
# Conversations on the Responses surface

`conversation_dispatched_iff`: a client that sends back what it was given, whole or streamed, and adds
to it, has the messages of the whole conversation dispatched: the opening, and for each round the
answer as the model gave it and what the client added.
-/

namespace ModelMeld

open Checked

variable {v : BodyValues}

/-- The items of an input are read one after the other. -/
theorem inputMessages_append_ok {items items' : List ResponsesInputItem} {ms : List Message} :
    inputMessages v (items ++ items') = .ok ms ↔
      ∃ ms₁ ms₂, inputMessages v items = .ok ms₁ ∧ inputMessages v items' = .ok ms₂ ∧
        ms = ms₁ ++ ms₂ := by
  induction items generalizing ms with
  | nil =>
    rw [List.nil_append]
    constructor
    · intro h
      exact ⟨[], ms, rfl, h, rfl⟩
    · rintro ⟨ms₁, ms₂, h₁, h₂, rfl⟩
      obtain rfl := Except.ok.inj h₁
      exact h₂
  | cons item items ih =>
    simp only [List.cons_append, inputMessages, bind_eq_ok, pure_eq_ok, ih]
    constructor
    · rintro ⟨msg, hmsg, -, ⟨ms₁, ms₂, h₁, h₂, rfl⟩, rfl⟩
      exact ⟨msg.toList ++ ms₁, ms₂, ⟨msg, hmsg, ms₁, h₁, rfl⟩, h₂, by simp⟩
    · rintro ⟨-, ms₂, ⟨msg, hmsg, ms₁, h₁, rfl⟩, h₂, rfl⟩
      exact ⟨msg, hmsg, ms₁ ++ ms₂, ⟨ms₁, ms₂, h₁, h₂, rfl⟩, by simp⟩

/-- Rounds of items are read round by round. -/
theorem inputMessages_flatMap_ok {X : Type} (f : X → List ResponsesInputItem) {xs : List X}
    {ms : List Message} :
    inputMessages v (xs.flatMap f) = .ok ms ↔
      ∃ parts, List.Forall₂ (fun x part => inputMessages v (f x) = .ok part) xs parts ∧
        ms = parts.flatten := by
  induction xs generalizing ms with
  | nil =>
    rw [List.flatMap_nil]
    constructor
    · intro h
      obtain rfl := Except.ok.inj h
      exact ⟨[], .nil, rfl⟩
    · rintro ⟨parts, hparts, rfl⟩
      cases hparts
      rfl
  | cons x xs ih =>
    simp only [List.flatMap_cons, inputMessages_append_ok, ih]
    constructor
    · rintro ⟨ms₁, -, h₁, ⟨parts, hparts, rfl⟩, rfl⟩
      exact ⟨ms₁ :: parts, .cons h₁ hparts, rfl⟩
    · rintro ⟨parts, hparts, rfl⟩
      cases hparts with
      | cons hpart hrest => exact ⟨_, _, hpart, ⟨_, hrest, rfl⟩, rfl⟩

/-! ## One answer -/

/-- The message an output item is read as. -/
def ResponseItem.toMessage : ResponseItem → Message
  | .message _ _ content => saidText (join "" content)
  | .functionCall _ callId name arguments =>
    saidCall { id := callId, function := { name := name, arguments := arguments } }

theorem inputItemToMessage_replayed (v : BodyValues) (item : ResponseItem) :
    inputItemToMessage v item.replayed = .ok (some item.toMessage) := by
  cases item with
  | functionCall id callId name arguments => rfl
  | message status id content =>
    have htexts : content.map ((fun part : ResponsesContentPart => part.text.getD "") ∘
        (fun text => { type := "output_text", text := some text })) = content := by
      refine (List.map_congr_left ?_).trans (List.map_id content)
      exact fun _ _ => rfl
    unfold inputItemToMessage ResponseItem.replayed
    simp only [Option.some.injEq, String.reduceEq, if_false]
    unfold toMessage ResponseItem.toMessage saidText itemText
    simp only [String.reduceEq, or_self, if_false, if_true, List.map_map, htexts]

theorem inputMessages_replayed (v : BodyValues) (output : List ResponseItem) :
    inputMessages v (output.map ResponseItem.replayed) =
      .ok (output.map ResponseItem.toMessage) := by
  induction output with
  | nil => rfl
  | cons item output ih =>
    rw [List.map_cons]
    unfold inputMessages
    rw [inputItemToMessage_replayed, ih]
    rfl

theorem messages_functionCallItems (ids : ResponseIds) (calls : List ToolCall) : ∀ i : ℕ,
    (functionCallItems ids i calls).map ResponseItem.toMessage = calls.map saidCall := by
  induction calls with
  | nil => intro i; rfl
  | cons tc calls ih =>
    intro i
    unfold functionCallItems
    rw [List.map_cons, List.map_cons, ih]
    rfl

/-- **What the model answered is read back from the whole output.** -/
theorem messages_responseOutput (ids : ResponseIds) (choices : List Choice) :
    (responseOutput ids choices).map ResponseItem.toMessage = answerMessages choices := by
  unfold responseOutput answerMessages
  cases choices with
  | nil => rfl
  | cons choice rest =>
    have htext : (messageItems ids choice.message.content).map ResponseItem.toMessage =
        if choice.message.content.getD "" = "" then []
        else [saidText (choice.message.content.getD "")] := by
      rw [messageItems_eq]
      split <;> rfl
    have hcalls := messages_functionCallItems ids (choice.message.toolCalls.getD [])
      (messageItems ids choice.message.content).length
    generalize hitems : messageItems ids choice.message.content ++ functionCallItems ids
      (messageItems ids choice.message.content).length (choice.message.toolCalls.getD []) = items
    have hmessages : items.map ResponseItem.toMessage =
        (if choice.message.content.getD "" = "" then []
          else [saidText (choice.message.content.getD "")]) ++
        (choice.message.toolCalls.getD []).map saidCall := by
      rw [← hitems, List.map_append, htext, hcalls]
    simp only [hitems, ← hmessages]
    by_cases hnone : items = []
    · rw [if_pos hnone, if_pos (by rw [hnone]; rfl)]
      rfl
    · rw [if_neg hnone, if_neg (by simpa using hnone)]

/-- Items that say the same are read as the same message, when a call has its id. -/
theorem SameItem.toMessage {item item' : ResponseItem} (h : SameItem item item')
    (hid : ∀ id callId name arguments, item = .functionCall id callId name arguments →
      callId ≠ "") : item'.toMessage = item.toMessage := by
  cases item with
  | message status id content =>
    cases item' with
    | message status' id' content' =>
      obtain ⟨-, rfl⟩ := h
      rfl
    | functionCall id' callId' name' arguments' => exact h.elim
  | functionCall id callId name arguments =>
    cases item' with
    | message status' id' content' => exact h.elim
    | functionCall id' callId' name' arguments' =>
      obtain ⟨hsame, rfl, rfl⟩ := h
      obtain rfl := hsame (hid id callId _ _ rfl)
      rfl

theorem messages_of_same {items items' : List ResponseItem}
    (h : List.Forall₂ SameItem items items')
    (hids : ∀ id callId name arguments, .functionCall id callId name arguments ∈ items →
      callId ≠ "") :
    items'.map ResponseItem.toMessage = items.map ResponseItem.toMessage := by
  induction h with
  | nil => rfl
  | cons hitem hrest ih =>
    rw [List.map_cons, List.map_cons]
    congr 1
    · refine hitem.toMessage ?_
      rintro id callId name arguments rfl
      exact hids id callId name arguments List.mem_cons_self
    · refine ih ?_
      intro id callId name arguments hmem
      exact hids id callId name arguments (List.mem_cons_of_mem _ hmem)

/-- The calls of the whole output are those of the first choice. -/
theorem call_mem_responseOutput {ids : ResponseIds} {choices : List Choice}
    {id callId name arguments : String}
    (h : .functionCall id callId name arguments ∈ responseOutput ids choices) :
    ∃ choice ∈ choices.head?, ∃ tc ∈ choice.message.toolCalls.getD [], tc.id = callId := by
  unfold responseOutput at h
  cases choices with
  | nil => simp at h
  | cons choice rest =>
    dsimp only at h
    refine ⟨choice, rfl, ?_⟩
    split at h
    · simp at h
    · rcases List.mem_append.1 h with h | h
      · -- the text is a message
        rw [messageItems_eq] at h
        split at h
        · exact absurd h List.not_mem_nil
        · simp at h
      · obtain ⟨id', tc, htc, heq⟩ := mem_functionCallItems h
        exact ⟨tc, htc, (ResponseItem.functionCall.inj heq).2.1.symm⟩

/-- The client of a round has the whole output of the completion, or one streamed to the same
effect when the model gave every call an id. -/
def Round.Told (round : Round) : Prop :=
  ∃ ids, round.output = responseOutput ids round.choices ∨
    (List.Forall₂ SameItem (responseOutput ids round.choices) round.output ∧
      ∀ choice ∈ round.choices.head?, ∀ tc ∈ choice.message.toolCalls.getD [], tc.id ≠ "")

theorem Round.Told.messages {round : Round} (h : round.Told) :
    round.output.map ResponseItem.toMessage = answerMessages round.choices := by
  obtain ⟨ids, hwhole | ⟨hsame, hids⟩⟩ := h
  · rw [hwhole, messages_responseOutput]
  · rw [← messages_responseOutput ids]
    refine messages_of_same hsame ?_
    intro id callId name arguments hmem
    obtain ⟨choice, hchoice, tc, htc, rfl⟩ := call_mem_responseOutput hmem
    exact hids choice hchoice tc htc

/-! ## The conversation -/

/-- What one round adds to the messages. -/
theorem round_ok {round : Round} (htold : round.Told) {part : List Message} :
    inputMessages v (round.output.map ResponseItem.replayed ++ round.added) = .ok part ↔
      ∃ added, inputMessages v round.added = .ok added ∧
        part = answerMessages round.choices ++ added := by
  rw [inputMessages_append_ok, inputMessages_replayed, htold.messages]
  constructor
  · rintro ⟨answer, added, hanswer, hadded, rfl⟩
    obtain rfl := Except.ok.inj hanswer
    exact ⟨added, hadded, rfl⟩
  · rintro ⟨added, hadded, rfl⟩
    exact ⟨_, added, rfl, hadded, rfl⟩

theorem rounds_ok {rounds : List Round} (htold : ∀ round ∈ rounds, round.Told)
    {parts : List (List Message)} :
    List.Forall₂ (fun round part => inputMessages v
      (round.output.map ResponseItem.replayed ++ round.added) = .ok part) rounds parts ↔
      ∃ added, List.Forall₂ (fun round part => inputMessages v round.added = .ok part) rounds
          added ∧
        parts = List.zipWith (fun round part => answerMessages round.choices ++ part) rounds
          added := by
  induction rounds generalizing parts with
  | nil =>
    rw [List.forall₂_nil_left_iff]
    constructor
    · rintro rfl
      exact ⟨[], .nil, rfl⟩
    · rintro ⟨added, -, rfl⟩
      rfl
  | cons round rounds ih =>
    have hround := htold round List.mem_cons_self
    have hrounds : ∀ round ∈ rounds, round.Told :=
      fun round hmem => htold round (List.mem_cons_of_mem _ hmem)
    simp only [List.forall₂_cons_left_iff, round_ok hround, ih hrounds]
    constructor
    · rintro ⟨-, -, ⟨part, hpart, rfl⟩, ⟨added, hadded, rfl⟩, rfl⟩
      exact ⟨part :: added, ⟨part, added, hpart, hadded, rfl⟩, rfl⟩
    · rintro ⟨-, ⟨part, added, hpart, hadded, rfl⟩, rfl⟩
      exact ⟨_, _, ⟨part, hpart, rfl⟩, ⟨added, hadded, rfl⟩, rfl⟩

/-- **The whole conversation is dispatched**, and nothing else: the instructions, the opening, and
for each round the answer the model gave and what the client added to it; the request is refused
only for what the client itself wrote. -/
theorem conversation_dispatched_iff (v : BodyValues) (req : ResponsesRequest)
    (opening : List ResponsesInputItem) (rounds : List Round)
    (htold : ∀ round ∈ rounds, round.Told) (ms : List Message) :
    (∃ out, fromResponsesRequest v { req with input := .parts (sentBack opening rounds) } =
        .ok out ∧ out.messages = ms) ↔
      Succeeds (toChatTools v req.tools) ∧
      ∃ opened added, inputMessages v opening = .ok opened ∧
        List.Forall₂ (fun round part => inputMessages v round.added = .ok part) rounds added ∧
        ms = instructionsMessage req.instructions ++ opened ++
          (List.zipWith (fun round part => answerMessages round.choices ++ part) rounds
            added).flatten := by
  have hbody : ∀ body, inputMessages v (sentBack opening rounds) = .ok body ↔
      ∃ opened added, inputMessages v opening = .ok opened ∧
        List.Forall₂ (fun round part => inputMessages v round.added = .ok part) rounds added ∧
        body = opened ++ (List.zipWith (fun round part => answerMessages round.choices ++ part)
          rounds added).flatten := by
    intro body
    unfold sentBack
    rw [inputMessages_append_ok]
    simp only [inputMessages_flatMap_ok, rounds_ok htold]
    constructor
    · rintro ⟨opened, -, hopened, ⟨-, ⟨added, hadded, rfl⟩, rfl⟩, rfl⟩
      exact ⟨opened, added, hopened, hadded, rfl⟩
    · rintro ⟨opened, added, hopened, hadded, rfl⟩
      exact ⟨opened, _, hopened, ⟨_, ⟨added, hadded, rfl⟩, rfl⟩, rfl⟩
  simp only [fromResponsesRequest, messagesOfInput, bind_eq_ok, pure_eq_ok, hbody]
  constructor
  · rintro ⟨-, ⟨-, ⟨opened, added, hopened, hadded, rfl⟩, tools, htools, rfl⟩, rfl⟩
    exact ⟨⟨tools, htools⟩, opened, added, hopened, hadded, (List.append_assoc _ _ _).symm⟩
  · rintro ⟨⟨tools, htools⟩, opened, added, hopened, hadded, rfl⟩
    exact ⟨_, ⟨_, ⟨opened, added, hopened, hadded, rfl⟩, tools, htools, rfl⟩,
      (List.append_assoc _ _ _).symm⟩

/-- A round answered with text and a call, whose result the client adds. -/
def sampleRound : Round where
  choices := [countedChoice]
  output := responseOutput sampleIds [countedChoice]
  added := [{ type := some "function_call_output", callId := some "call_1", output := .str "a" }]

theorem conversation_dispatched_sample :
    ∃ out, fromResponsesRequest plainValues
        { model := "m"
          input := .parts (sentBack [{ role := some "user", content := some (.str "ls") }]
            [sampleRound]) } = .ok out ∧
      out.messages = [.user { content := .str "ls" }, saidText "Hi",
        saidCall { id := "call_1", function := ⟨"ls", "\x7b\x7d"⟩ },
        .tool { content := .str "a", toolCallId := "call_1" }] := by
  have htold : ∀ round ∈ [sampleRound], round.Told := by
    intro round hround
    rw [List.mem_singleton.1 hround]
    exact ⟨sampleIds, .inl rfl⟩
  refine (conversation_dispatched_iff plainValues { model := "m", input := .str "" }
    [{ role := some "user", content := some (.str "ls") }] [sampleRound] htold _).2 ⟨⟨none, rfl⟩,
      [.user { content := .str "ls" }], [[.tool { content := .str "a", toolCallId := "call_1" }]],
      rfl, .cons rfl .nil, rfl⟩

end ModelMeld
