import ModelMeld.Proof.DumpedMessages
import ModelMeld.Proof.SystemPosition
import ModelMeld.Proof.ToolAdjacency
import ModelMeld.Proof.ToolInputs
import ModelMeld.Spec.CodexPassthrough
import ModelMeld.Spec.Policy

/-!
# Tool loops on the Codex passthrough

`input_keeps_tools_iff`: what is sent to the backend determines the roles and the texts of a
conversation, and its calls and results iff it has none. An item carries the role and the content
of its message, and neither the calls of an assistant message nor the call that a tool message
answers.
-/

namespace ModelMeld

/-! ## Contents -/

theorem field_injective (key : String) : Function.Injective (field key) := by
  intro value value' h
  cases value with
  | none => cases value' with
    | none => rfl
    | some v' => simp [field] at h
  | some v => cases value' with
    | none => simp [field] at h
    | some v' => simpa [field] using h

theorem TextPart.dump_injective : Function.Injective TextPart.dump := by
  rintro ⟨text, cacheControl⟩ ⟨text', cacheControl'⟩ h
  simp only [TextPart.dump, List.cons_append, List.nil_append, Json.obj.injEq, List.cons.injEq,
    Prod.mk.injEq, Json.str.injEq, true_and] at h
  have hcontrol : cacheControl = cacheControl' :=
    Option.map_injective (fun _ _ hobj => Json.obj.inj hobj) (field_injective _ h.2)
  rw [h.1, hcontrol]

theorem dump_image_injective :
    Function.Injective (fun url : ImageUrl => (ContentPart.image url).dump) := by
  rintro ⟨url, detail⟩ ⟨url', detail'⟩ h
  simp only [ContentPart.dump, Json.obj.injEq, List.cons.injEq, Prod.mk.injEq, Json.str.injEq,
    true_and, and_true] at h
  have hdetail : detail = detail' :=
    Option.map_injective (fun _ _ hvalue => ImageDetail.value_injective (Json.str.inj hvalue))
      (field_injective _ h.2)
  rw [h.1, hdetail]

theorem dump_audio_injective :
    Function.Injective (fun input : InputAudio => (ContentPart.audio input).dump) := by
  rintro ⟨data, format⟩ ⟨data', format'⟩ h
  simp only [ContentPart.dump, Json.obj.injEq, List.cons.injEq, Prod.mk.injEq, Json.str.injEq,
    true_and, and_true] at h
  rw [h.1, AudioFormat.value_injective h.2]

theorem ContentPart.dump_injective : Function.Injective ContentPart.dump := by
  intro p p' h
  -- the kinds differ by the field `type`
  cases p with
  | text p => cases p' with
    | text p' => rw [TextPart.dump_injective h]
    | image url' => simp [ContentPart.dump, TextPart.dump] at h
    | audio input' => simp [ContentPart.dump, TextPart.dump] at h
  | image url => cases p' with
    | text p' => simp [ContentPart.dump, TextPart.dump] at h
    | image url' => rw [dump_image_injective h]
    | audio input' => simp [ContentPart.dump] at h
  | audio input => cases p' with
    | text p' => simp [ContentPart.dump, TextPart.dump] at h
    | image url' => simp [ContentPart.dump] at h
    | audio input' => rw [dump_audio_injective h]

theorem Content.dump_injective {P : Type} {part : P → Json} (hpart : Function.Injective part) :
    Function.Injective (Content.dump part) := by
  intro c c' h
  cases c with
  | str s => cases c' with
    | str s' => rw [Json.str.inj h]
    | parts ps' => simp [Content.dump] at h
  | parts ps => cases c' with
    | str s' => simp [Content.dump] at h
    | parts ps' => rw [List.map_injective_iff.2 hpart (Json.arr.inj h)]

/-! ## Items -/

namespace Message

/-- The system messages have no item, and every other message has one. -/
theorem isSome_responsesItem (m : Message) : m.responsesItem.isSome = !m.isSystem := by
  cases m with
  | system m => rfl
  | user m => rfl
  | assistant m => rfl
  | tool m => rfl

/-- The role and the content of a message can be read off its item. -/
theorem same_of_responsesItem {m m' : Message} (hm : m.isSystem = false)
    (h : m.responsesItem = m'.responsesItem) :
    m'.role = m.role ∧ m'.contentTexts = m.contentTexts := by
  cases m with
  | system m => simp [isSystem] at hm
  | user m => cases m' with
    | user m' =>
      simp only [responsesItem, Option.some.injEq, List.cons.injEq, Prod.mk.injEq, true_and,
        and_true] at h
      have hcontent := Content.dump_injective ContentPart.dump_injective h
      exact ⟨rfl, by simp only [contentTexts, hcontent]⟩
    | _ => simp [responsesItem] at h
  | assistant m => cases m' with
    | assistant m' =>
      simp only [responsesItem, Option.some.injEq, List.cons.injEq, true_and] at h
      have hcontent : m.content = m'.content :=
        Option.map_injective (Content.dump_injective TextPart.dump_injective)
          (field_injective _ h)
      exact ⟨rfl, by simp only [contentTexts, hcontent]⟩
    | _ => simp [responsesItem] at h
  | tool m => cases m' with
    | tool m' =>
      simp only [responsesItem, Option.some.injEq, List.cons.injEq, Prod.mk.injEq, true_and,
        and_true] at h
      have hcontent := Content.dump_injective TextPart.dump_injective h
      exact ⟨rfl, by simp only [contentTexts, hcontent]⟩
    | _ => simp [responsesItem] at h

/-- A message without its calls, or for another call. -/
def withOtherTools : Message → Message
  | .assistant m => .assistant { m with toolCalls := none }
  | .tool m => .tool { m with toolCallId := m.toolCallId ++ "'" }
  | m => m

section OtherTools

variable (m : Message)

@[simp] theorem isSystem_withOtherTools : m.withOtherTools.isSystem = m.isSystem := by
  cases m <;> rfl

@[simp] theorem systemParts_withOtherTools : m.withOtherTools.systemParts = m.systemParts := by
  cases m <;> rfl

@[simp] theorem responsesItem_withOtherTools :
    m.withOtherTools.responsesItem = m.responsesItem := by
  cases m <;> rfl

@[simp] theorem calls_withOtherTools : m.withOtherTools.calls = [] := by
  cases m <;> rfl

theorem answers_withOtherTools (h : m.answers ≠ none) : m.withOtherTools.answers ≠ m.answers := by
  cases m with
  | tool m =>
    intro hsame
    have hlength := congrArg String.length (Option.some.inj hsame)
    rw [String.length_append] at hlength
    have hone : "'".length = 1 := rfl
    omega
  | _ => exact absurd rfl h

end OtherTools

end Message

namespace ChatCompletionRequest

/-- The conversation without its system messages. -/
def turns (r : ChatCompletionRequest) : List Message := r.messages.filter (fun m => !m.isSystem)

def withOtherTools (r : ChatCompletionRequest) : ChatCompletionRequest :=
  r.withMessages (r.messages.map Message.withOtherTools)

theorem turns_withOtherTools (r : ChatCompletionRequest) :
    r.withOtherTools.turns = r.turns.map Message.withOtherTools := by
  change (r.messages.map Message.withOtherTools).filter _ = _
  rw [List.filter_map]
  unfold turns
  congr 2
  funext m
  simp

end ChatCompletionRequest

/-- Nothing of the calls is in what is sent. -/
theorem messagesToResponsesInput_withOtherTools (r : ChatCompletionRequest) :
    messagesToResponsesInput r.withOtherTools = messagesToResponsesInput r := by
  have hitems : r.withOtherTools.messages.filterMap Message.responsesItem =
      r.messages.filterMap Message.responsesItem := by
    change (r.messages.map Message.withOtherTools).filterMap _ = _
    rw [List.filterMap_map]
    congr 1
    funext m
    simp
  have hparts : r.withOtherTools.messages.flatMap Message.systemParts =
      r.messages.flatMap Message.systemParts := by
    change (r.messages.map Message.withOtherTools).flatMap _ = _
    rw [List.flatMap_map]
    congr 1
    funext m
    simp
  unfold messagesToResponsesInput
  rw [hitems, hparts]

/-! ## What the input determines -/

/-- One turn of a conversation and another that is read in its place. -/
structure SameReplay (m m' : Message) : Prop where
  role : m'.role = m.role
  text : m'.contentTexts = m.contentTexts
  calls : m.calls ≠ [] → m'.calls = m.calls
  answers : m.answers ≠ none → m'.answers = m.answers

/-- A request with the same input and instructions has the same turns, with the same calls where
this one has calls and the same results where it has results. -/
def ChatCompletionRequest.InputKeepsTools (r : ChatCompletionRequest) : Prop :=
  ∀ r' : ChatCompletionRequest, messagesToResponsesInput r' = messagesToResponsesInput r →
    List.Forall₂ SameReplay r.turns r'.turns

theorem map_filter_isSome {α β : Type*} (f : α → Option β) (l : List α) :
    (l.filter (fun a => (f a).isSome)).map f = (l.filterMap f).map some := by
  induction l with
  | nil => rfl
  | cons a l ih =>
    cases ha : f a with
    | none =>
      rw [List.filter_cons_of_neg (by simp [ha]), List.filterMap_cons_none ha, ih]
    | some b =>
      rw [List.filter_cons_of_pos (by simp [ha]), List.filterMap_cons_some ha, List.map_cons,
        List.map_cons, ha, ih]

/-- The turns have their items, one by one. -/
theorem turns_responsesItem (r : ChatCompletionRequest) :
    r.turns.map Message.responsesItem = (messagesToResponsesInput r).1.map some := by
  have hsome : (fun m : Message => !m.isSystem) = fun m => m.responsesItem.isSome := by
    funext m
    rw [Message.isSome_responsesItem]
  unfold ChatCompletionRequest.turns
  rw [hsome]
  exact map_filter_isSome Message.responsesItem r.messages

theorem forall₂_responsesItem {r r' : ChatCompletionRequest}
    (h : messagesToResponsesInput r' = messagesToResponsesInput r) :
    List.Forall₂ (fun m m' : Message => m.responsesItem = m'.responsesItem) r.turns r'.turns := by
  have hitems : r.turns.map Message.responsesItem = r'.turns.map Message.responsesItem := by
    rw [turns_responsesItem, turns_responsesItem, h]
  rw [← List.forall₂_eq_eq_eq, List.forall₂_map_left_iff, List.forall₂_map_right_iff] at hitems
  exact hitems

/-- **The input determines the tool loop of a conversation iff the conversation has none.** -/
theorem input_keeps_tools_iff (r : ChatCompletionRequest) :
    r.InputKeepsTools ↔ ∀ m ∈ r.messages, m.calls = [] ∧ m.answers = none := by
  constructor
  · intro hkeeps m hm
    by_cases hsystem : m.isSystem = true
    · cases m with
      | system m => exact ⟨rfl, rfl⟩
      | _ => simp [Message.isSystem] at hsystem
    · have hturns := hkeeps r.withOtherTools (messagesToResponsesInput_withOtherTools r)
      rw [r.turns_withOtherTools, List.forall₂_map_right_iff, List.forall₂_same] at hturns
      have hturn := hturns m (List.mem_filter.2 ⟨hm, by simpa using hsystem⟩)
      constructor
      · by_contra hcalls
        have hnone := hturn.calls hcalls
        rw [Message.calls_withOtherTools] at hnone
        exact hcalls hnone.symm
      · by_contra hanswers
        exact m.answers_withOtherTools hanswers (hturn.answers hanswers)
  · intro hnone r' hsame
    have hitems := forall₂_responsesItem hsame
    rw [List.forall₂_iff_get] at hitems ⊢
    obtain ⟨hlength, hitems⟩ := hitems
    refine ⟨hlength, ?_⟩
    intro i hi hi'
    have hmem := List.mem_filter.1 (List.get_mem r.turns ⟨i, hi⟩)
    obtain ⟨hcalls, hanswers⟩ := hnone _ hmem.1
    obtain ⟨hrole, htext⟩ :=
      Message.same_of_responsesItem (by simpa using hmem.2) (hitems i hi hi')
    exact ⟨hrole, htext, fun hsome => absurd hcalls hsome, fun hsome => absurd hanswers hsome⟩

/-- A call and its result: two loops with other names are sent alike. -/
theorem tool_loop_not_determined :
    ¬∀ r : ChatCompletionRequest, r.InputKeepsTools := by
  intro h
  have hturns := h
    { model := "gpt-5.4",
      messages := [.user { content := .str "list the files" },
        .assistant { toolCalls := some [⟨"call_1", ⟨"ls", "{}"⟩⟩] },
        .tool { content := .str "main.py", toolCallId := "call_1" }] }
    { model := "gpt-5.4",
      messages := [.user { content := .str "list the files" },
        .assistant {},
        .tool { content := .str "main.py", toolCallId := "call_2" }] } rfl
  rw [List.forall₂_iff_get] at hturns
  have hcalls := (hturns.2 1 (by decide) (by decide)).calls (by decide)
  exact absurd hcalls (by decide)

end ModelMeld
