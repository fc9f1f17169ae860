import ModelMeld.Proof.Inbound
import ModelMeld.Spec.Memory

/-!
# Where the system text ends up

Adapters expect one system message, in front, with all that the client and the
memory have to say there (`SystemPlaced`). The Messages translation gathers the
client's fragments into one message, but memory puts its own message and the
turns it replays before it; the Responses translation gathers nothing. So the
placing holds exactly when the sources do not meet (`system_placed_iff`).
-/

namespace ModelMeld

open Checked

/-! ## The placing -/

def Message.isSystem : Message → Bool
  | .system _ => true
  | _ => false

/-- A text stands in a system message, or in one part of it. -/
def SystemMessage.Contains (m : SystemMessage) (fragment : String) : Prop :=
  match m.content with
  | .str s => isSubstring fragment s = true
  | .parts ps => ∃ p ∈ ps, isSubstring fragment p.text = true

/-- There is at most one system message, it comes first, and it has every fragment. -/
structure SystemPlaced (ms : List Message) (fragments : List String) : Prop where
  front : ∀ m ∈ ms.tail, m.isSystem = false
  complete : ∀ f ∈ fragments, ∃ s, ms.head? = some (.system s) ∧ s.Contains f

/-- So there is at most one system message. -/
theorem SystemPlaced.atMostOne {ms : List Message} {fragments : List String}
    (h : SystemPlaced ms fragments) : (ms.filter Message.isSystem).length ≤ 1 := by
  cases ms with
  | nil => simp
  | cons m rest =>
    have hrest : rest.filter Message.isSystem = [] := by
      rw [List.filter_eq_nil_iff]
      intro m' hm'
      simpa using h.front m' hm'
    by_cases hm : m.isSystem = true
    · simp [hm, hrest]
    · simp [hm, hrest]

/-! ## Memory -/

namespace MemoryContext

/-- What memory puts before the messages. -/
def injected (ctx : MemoryContext) : List Message :=
  (if ctx.renderSystemMessage = "" then []
    else [.system { content := .str ctx.renderSystemMessage }]) ++
    ctx.recentTurns.filterMap replay

/-- The memory text, when there is one. -/
def texts (ctx : MemoryContext) : List String :=
  if ctx.renderSystemMessage = "" then [] else [ctx.renderSystemMessage]

/-- Memory has neither a text nor a turn to replay. -/
def AddsNothing (ctx : MemoryContext) : Prop :=
  ctx.renderSystemMessage = "" ∧ ∀ turn ∈ ctx.recentTurns, turn.role = .system ∨ turn.role = .tool

theorem injected_eq_nil_iff (ctx : MemoryContext) : ctx.injected = [] ↔ ctx.AddsNothing := by
  have hreplay : ctx.recentTurns.filterMap replay = [] ↔
      ∀ turn ∈ ctx.recentTurns, turn.role = .system ∨ turn.role = .tool := by
    rw [List.filterMap_eq_nil_iff]
    apply forall₂_congr
    intro turn _
    unfold replay
    cases turn.role <;> simp
  unfold injected AddsNothing
  rw [List.append_eq_nil_iff, hreplay]
  by_cases htext : ctx.renderSystemMessage = ""
  · simp [htext]
  · simp [htext]

theorem replay_not_system {turn : Turn} {m : Message} (h : replay turn = some m) :
    m.isSystem = false := by
  unfold replay at h
  cases hrole : turn.role <;> simp [hrole] at h <;> simp [← h, Message.isSystem]

/-- Memory puts at most one system message, first and with its text. -/
theorem injected_placed (ctx : MemoryContext) : SystemPlaced ctx.injected ctx.texts := by
  have hreplayed : ∀ m ∈ ctx.recentTurns.filterMap replay, m.isSystem = false := by
    intro m hm
    obtain ⟨turn, -, h⟩ := List.mem_filterMap.mp hm
    exact replay_not_system h
  unfold injected texts
  by_cases htext : ctx.renderSystemMessage = ""
  · rw [if_pos htext, if_pos htext, List.nil_append]
    exact ⟨fun m hm => hreplayed m (List.mem_of_mem_tail hm), by simp⟩
  · rw [if_neg htext, if_neg htext]
    refine ⟨fun m hm => hreplayed m hm, ?_⟩
    intro f hf
    obtain rfl : f = ctx.renderSystemMessage := by simpa using hf
    exact ⟨_, rfl, isSubstring_refl _⟩

end MemoryContext

theorem inject_messages (request : ChatCompletionRequest) (ctx : MemoryContext) :
    (injectIntoRequest request ctx).messages = ctx.injected ++ request.messages := by
  unfold injectIntoRequest
  by_cases hctx : ctx.hasContent = true
  · rw [if_pos hctx]
    rfl
  · rw [if_neg hctx]
    obtain ⟨⟨hfacts, hsummary⟩, hturns⟩ :
        (ctx.facts = [] ∧ ctx.summary = none) ∧ ctx.recentTurns = [] := by
      simpa [MemoryContext.hasContent] using hctx
    have hnil : ctx.injected = [] := by
      simp [MemoryContext.injected, MemoryContext.renderSystemMessage, hfacts, hsummary, hturns]
    rw [hnil, List.nil_append]

/-- Memory and the client's system messages do not go together. -/
theorem placed_inject_iff {ms : List Message} {fragments : List String} (ctx : MemoryContext)
    (hnone : (∀ m ∈ ms, m.isSystem = false) → fragments = []) :
    SystemPlaced (ctx.injected ++ ms) (fragments ++ ctx.texts) ↔
      (ctx.AddsNothing ∧ SystemPlaced ms fragments) ∨ ∀ m ∈ ms, m.isSystem = false := by
  have hctx := ctx.injected_placed
  rw [← ctx.injected_eq_nil_iff]
  cases hinj : ctx.injected with
  | nil =>
    have htexts : ctx.texts = [] := by
      by_contra hne
      obtain ⟨f, hf⟩ := List.exists_mem_of_ne_nil _ hne
      obtain ⟨s, hs, -⟩ := hctx.complete f hf
      simp [hinj] at hs
    rw [htexts, List.nil_append, List.append_nil]
    constructor
    · exact fun h => .inl ⟨rfl, h⟩
    · rintro (⟨-, h⟩ | h)
      · exact h
      · exact ⟨fun m hm => h m (List.mem_of_mem_tail hm), by simp [hnone h]⟩
  | cons first rest =>
    rw [hinj] at hctx
    constructor
    · intro h
      refine .inr (fun m hm => h.front m ?_)
      simp [hm]
    · rintro (⟨h, -⟩ | h)
      · simp at h
      · rw [hnone h, List.nil_append]
        refine ⟨?_, ?_⟩
        · intro m hm
          rcases List.mem_append.mp (show m ∈ rest ++ ms from hm) with hm | hm
          · exact hctx.front m hm
          · exact h m hm
        · intro f hf
          obtain ⟨s, hs, hcontains⟩ := hctx.complete f hf
          exact ⟨s, by simpa using hs, hcontains⟩

/-! ## Messages -/

/-- The texts of a message in the array, when it is a system message. -/
def AnthropicMessage.systemTexts (msg : AnthropicMessage) : List String :=
  match msg.role, msg.content with
  | .system, .str s => [s]
  | .system, .parts blocks => (blocks.filterMap textBlockOf).map AnthropicTextBlock.text
  | _, _ => []

/-- The system fragments of a client of the Messages surface. -/
def AnthropicMessagesRequest.systemTexts (req : AnthropicMessagesRequest) : List String :=
  (req.topTexts ++ req.messages.flatMap AnthropicMessage.systemTexts).filter (· ≠ "")

variable {t : PythonText} {v : BodyValues}

theorem topTexts_fragments {req : AnthropicMessagesRequest} {f : String} (hf : f ∈ req.topTexts)
    (hne : f ≠ "") : ∃ part ∈ topFragments req, isSubstring f part.text = true := by
  unfold AnthropicMessagesRequest.topTexts at hf
  unfold topFragments
  rcases hsystem : req.system with - | s | blocks
  · simp [hsystem] at hf
  · obtain rfl : f = s := by simpa [hsystem] using hf
    refine ⟨{ text := f }, ?_, isSubstring_refl f⟩
    simp [anthropicSystemToParts, hne]
  · rw [hsystem] at hf
    obtain ⟨b, hb, rfl⟩ := List.mem_map.mp hf
    refine ⟨textPartOf b, ?_, isSubstring_refl _⟩
    apply List.mem_filter.mpr
    exact ⟨List.mem_map_of_mem hb, by simp [textPartOf, hne]⟩

theorem systemTexts_fragments {msg : AnthropicMessage} {f : String} (hf : f ∈ msg.systemTexts)
    (hne : f ≠ "") : ∃ part, fragmentOf msg = some part ∧ isSubstring f part.text = true := by
  have hsub : msg.role = .system ∧ isSubstring f (systemText msg.content) = true := by
    unfold AnthropicMessage.systemTexts at hf
    split at hf
    · next s hrole hcontent =>
      obtain rfl : f = s := by simpa using hf
      refine ⟨hrole, ?_⟩
      rw [hcontent]
      exact isSubstring_refl f
    · next blocks hrole hcontent =>
      obtain ⟨b, hb, rfl⟩ := List.mem_map.mp hf
      obtain ⟨block, hblock, htext⟩ := List.mem_filterMap.mp hb
      obtain rfl : block = .text b := by
        cases block <;> simp [textBlockOf] at htext
        rw [htext]
      refine ⟨hrole, ?_⟩
      rw [hcontent]
      apply isSubstring_join
      exact List.mem_filter.mpr ⟨List.mem_map_of_mem (f := blockText) hblock, by simpa using hne⟩
    · simp at hf
  obtain ⟨hrole, hsub⟩ := hsub
  have htext : systemText msg.content ≠ "" := ne_empty_of_isSubstring hsub hne
  exact ⟨{ text := systemText msg.content }, by simp [fragmentOf, hrole, htext], hsub⟩

/-- Every text a client gives is part of a fragment that is gathered. -/
theorem clientTexts_fragments {req : AnthropicMessagesRequest} {f : String}
    (hf : f ∈ req.systemTexts) :
    ∃ part ∈ systemFragments req, isSubstring f part.text = true := by
  obtain ⟨hmem, hne⟩ := List.mem_filter.mp hf
  have hne : f ≠ "" := by simpa using hne
  unfold systemFragments
  rcases List.mem_append.mp hmem with htop | harray
  · obtain ⟨part, hpart, hsub⟩ := topTexts_fragments htop hne
    exact ⟨part, List.mem_append_left _ hpart, hsub⟩
  · obtain ⟨msg, hmsg, htexts⟩ := List.mem_flatMap.mp harray
    obtain ⟨part, hpart, hsub⟩ := systemTexts_fragments htexts hne
    exact ⟨part, List.mem_append_right _ (List.mem_filterMap.mpr ⟨msg, hmsg, hpart⟩), hsub⟩

/-- The leading message has all fragments, whichever form it takes. -/
theorem leadingSystem_contains {parts : List TextPart} (hne : parts ≠ []) :
    ∃ s, leadingSystem parts = [.system s] ∧
      ∀ part ∈ parts, ∀ f, isSubstring f part.text = true → s.Contains f := by
  unfold leadingSystem
  rw [if_neg hne]
  split_ifs
  · exact ⟨_, rfl, fun part hpart f hf => ⟨part, hpart, hf⟩⟩
  · refine ⟨_, rfl, fun part hpart f hf => ?_⟩
    have hjoin := isSubstring_join "\n\n" (List.mem_map_of_mem (f := TextPart.text) hpart)
    exact isSubstring_trans hf hjoin

/-- The Messages translation places the client's system text. -/
theorem inbound_placed (req : AnthropicMessagesRequest) :
    SystemPlaced (inbound t req).messages req.systemTexts := by
  have hbody : ∀ m ∈ req.messages.flatMap (bodyOf t), m.isSystem = false := by
    intro m hm
    obtain ⟨msg, -, hm⟩ := List.mem_flatMap.mp hm
    cases m with
    | system s => exact absurd rfl (bodyOf_not_system hm s)
    | _ => rfl
  by_cases hnil : systemFragments req = []
  · have hmessages : (inbound t req).messages = req.messages.flatMap (bodyOf t) := by
      simp [inbound, hnil, leadingSystem]
    rw [hmessages]
    refine ⟨fun m hm => hbody m (List.mem_of_mem_tail hm), ?_⟩
    intro f hf
    obtain ⟨part, hpart, -⟩ := clientTexts_fragments hf
    simp [hnil] at hpart
  · obtain ⟨s, hs, hcontains⟩ := leadingSystem_contains hnil
    have hmessages : (inbound t req).messages = .system s :: req.messages.flatMap (bodyOf t) := by
      simp [inbound, hs]
    rw [hmessages]
    refine ⟨hbody, ?_⟩
    intro f hf
    obtain ⟨part, hpart, hsub⟩ := clientTexts_fragments hf
    exact ⟨s, rfl, hcontains part hpart f hsub⟩

/-- There is no system message exactly when there is no fragment. -/
theorem inbound_no_system_iff (req : AnthropicMessagesRequest) :
    (∀ m ∈ (inbound t req).messages, m.isSystem = false) ↔ systemFragments req = [] := by
  constructor
  · intro h
    by_contra hne
    obtain ⟨s, hs, -⟩ := leadingSystem_contains hne
    have := h (.system s) (by simp [inbound, hs])
    simp [Message.isSystem] at this
  · intro hnil m hm
    have hm : m ∈ req.messages.flatMap (bodyOf t) := by
      simpa [inbound, hnil, leadingSystem] using hm
    obtain ⟨msg, -, hm⟩ := List.mem_flatMap.mp hm
    cases m with
    | system s => exact absurd rfl (bodyOf_not_system hm s)
    | _ => rfl

/-- On the Messages surface the placing holds exactly when the client sends no system text or memory
adds nothing. -/
theorem messages_placed_iff {req : AnthropicMessagesRequest} {chat : ChatCompletionRequest}
    (h : fromAnthropicRequest t req = .ok chat) (ctx : MemoryContext) :
    SystemPlaced (injectIntoRequest chat ctx).messages (req.systemTexts ++ ctx.texts) ↔
      ctx.AddsNothing ∨ systemFragments req = [] := by
  obtain rfl := fromAnthropicRequest_ok h
  have hnone : (∀ m ∈ (inbound t req).messages, m.isSystem = false) → req.systemTexts = [] := by
    intro hno
    by_contra hne
    obtain ⟨f, hf⟩ := List.exists_mem_of_ne_nil _ hne
    obtain ⟨part, hpart, -⟩ := clientTexts_fragments hf
    simp [(inbound_no_system_iff req).mp hno] at hpart
  rw [inject_messages, placed_inject_iff ctx hnone, inbound_no_system_iff]
  simp [inbound_placed]

/-! ## Responses -/

namespace ResponsesRequest

def items (req : ResponsesRequest) : List ResponsesInputItem :=
  match req.input with
  | .str _ => []
  | .parts items => items

/-- The system fragments of a client of the Responses surface. -/
def systemTexts (req : ResponsesRequest) : List String :=
  (req.instructions.toList ++
    (req.items.filter ResponsesInputItem.isSystem).map (fun item => itemText item.content)).filter
      (· ≠ "")

/-- The client has no system text at all. -/
def NoSystem (req : ResponsesRequest) : Prop :=
  req.instructions.getD "" = "" ∧ ∀ item ∈ req.items, item.isSystem = false

/-- The client has its system text in one place: in the instructions, or in the first item. -/
def OneSystem (req : ResponsesRequest) : Prop :=
  if req.instructions.getD "" = "" then
    ∀ item ∈ (req.items.filter ResponsesInputItem.isKept).tail, item.isSystem = false
  else ∀ item ∈ req.items, item.isSystem = false

end ResponsesRequest

/-- The message of a system item has its text; another item becomes no system message. -/
theorem inputItemToMessage_system {item : ResponsesInputItem} {m : Message}
    (h : inputItemToMessage v item = .ok (some m)) :
    m.isSystem = item.isSystem ∧
      (item.isSystem = true → m = .system { content := .str (itemText item.content) }) := by
  rcases inputItemToMessage_ok h with
    ⟨hcall, rfl⟩ | ⟨hout, content, rfl⟩ | ⟨hcall, hout, role, hrole, rfl⟩
  · simp [Message.isSystem, ResponsesInputItem.isSystem, ResponsesInputItem.isCall, hcall]
  · simp [Message.isSystem, ResponsesInputItem.isSystem, ResponsesInputItem.isOutput, hout]
  · have hitem : item.isSystem = decide (role = "system" ∨ role = "developer") := by
      simp [ResponsesInputItem.isSystem, ResponsesInputItem.isCall, ResponsesInputItem.isOutput,
        hcall, hout, hrole]
    rw [hitem]
    unfold toMessage
    by_cases hsystem : role = "system" ∨ role = "developer"
    · simp [hsystem, Message.isSystem]
    · rw [if_neg hsystem]
      split_ifs <;> simp [hsystem, Message.isSystem]

theorem forall_not_system_iff {items : List ResponsesInputItem} {ms : List Message}
    (h : List.Forall₂ (fun item m => inputItemToMessage v item = .ok (some m)) items ms) :
    (∀ m ∈ ms, m.isSystem = false) ↔ ∀ item ∈ items, item.isSystem = false := by
  induction h with
  | nil => simp
  | cons hm _ ih => simp [(inputItemToMessage_system hm).1, ih]

theorem isKept_of_isSystem {item : ResponsesInputItem} (h : item.isSystem = true) :
    item.isKept = true := by
  have hrole : item.role.isSome = true := by
    cases hr : item.role with
    | none => simp [ResponsesInputItem.isSystem, hr] at h
    | some role => rfl
  simp [ResponsesInputItem.isKept, hrole]

theorem forall_kept_iff {items : List ResponsesInputItem} :
    (∀ item ∈ items.filter ResponsesInputItem.isKept, item.isSystem = false) ↔
      ∀ item ∈ items, item.isSystem = false := by
  constructor
  · intro h item hitem
    by_contra hsystem
    have hsystem : item.isSystem = true := by simpa using hsystem
    have := h item (List.mem_filter.mpr ⟨hitem, isKept_of_isSystem hsystem⟩)
    simp [hsystem] at this
  · exact fun h item hitem => h item (List.mem_of_mem_filter hitem)

/-- The body of a request has a system message where the input has a system item. -/
theorem body_not_system_iff {req : ResponsesRequest} {body : List Message}
    (h : messagesOfInput v req.input = .ok body) :
    ((∀ m ∈ body, m.isSystem = false) ↔ ∀ item ∈ req.items, item.isSystem = false) ∧
      ((∀ m ∈ body.tail, m.isSystem = false) ↔
        ∀ item ∈ (req.items.filter ResponsesInputItem.isKept).tail, item.isSystem = false) := by
  unfold ResponsesRequest.items
  cases hinput : req.input with
  | str s =>
    rw [hinput] at h
    obtain rfl := Except.ok.inj h
    simp [Message.isSystem]
  | parts items =>
    rw [hinput] at h
    have hitems := inputMessages_ok h
    refine ⟨(forall_not_system_iff hitems).trans forall_kept_iff, ?_⟩
    apply forall_not_system_iff (v := v)
    change List.Forall₂ _ (items.filter ResponsesInputItem.isKept).tail body.tail
    generalize items.filter ResponsesInputItem.isKept = kept at hitems
    cases hitems with
    | nil => exact .nil
    | cons _ hrest => exact hrest

/-- The first message is that of a lone system item, with its text. -/
theorem body_head {req : ResponsesRequest} {body : List Message}
    (h : messagesOfInput v req.input = .ok body)
    (hrest : ∀ item ∈ (req.items.filter ResponsesInputItem.isKept).tail, item.isSystem = false)
    {item : ResponsesInputItem} (hitem : item ∈ req.items) (hsystem : item.isSystem = true) :
    body.head? = some (.system { content := .str (itemText item.content) }) := by
  have hkept : item ∈ req.items.filter ResponsesInputItem.isKept :=
    List.mem_filter.mpr ⟨hitem, isKept_of_isSystem hsystem⟩
  unfold ResponsesRequest.items at hrest hkept
  cases hinput : req.input with
  | str s => simp [hinput] at hkept
  | parts items =>
    rw [hinput] at h hrest hkept
    have hitems := inputMessages_ok h
    change ∀ item ∈ (items.filter ResponsesInputItem.isKept).tail, item.isSystem = false at hrest
    change item ∈ items.filter ResponsesInputItem.isKept at hkept
    generalize items.filter ResponsesInputItem.isKept = kept at hitems hrest hkept
    cases hitems with
    | nil => simp at hkept
    | @cons first m rest ms hm _ =>
      rcases List.mem_cons.mp hkept with rfl | hlater
      · rw [(inputItemToMessage_system hm).2 hsystem]
        rfl
      · have := hrest item hlater
        simp [hsystem] at this

theorem instructionsMessage_eq (instructions : Option String) :
    instructionsMessage instructions =
      if instructions.getD "" = "" then []
      else [.system { content := .str (instructions.getD "") }] := by
  cases instructions with
  | none => rfl
  | some s => rfl

/-- Without memory, the Responses surface places the system text exactly when it comes from one
place. -/
theorem responses_translated_placed_iff {req : ResponsesRequest} {body : List Message}
    (h : messagesOfInput v req.input = .ok body) :
    SystemPlaced (instructionsMessage req.instructions ++ body) req.systemTexts ↔
      req.OneSystem := by
  obtain ⟨hall, htail⟩ := body_not_system_iff h
  rw [instructionsMessage_eq]
  unfold ResponsesRequest.OneSystem
  by_cases hinstr : req.instructions.getD "" = ""
  · rw [if_pos hinstr, if_pos hinstr, List.nil_append, ← htail]
    refine ⟨fun hp => hp.front, fun hfront => ⟨hfront, ?_⟩⟩
    intro f hf
    obtain ⟨hmem, hne⟩ := List.mem_filter.mp hf
    rcases List.mem_append.mp hmem with hi | hitems
    · have : req.instructions = some f := by simpa using hi
      simp [this] at hinstr
      simp [hinstr] at hne
    · obtain ⟨item, hitem, rfl⟩ := List.mem_map.mp hitems
      obtain ⟨hitem, hsystem⟩ := List.mem_filter.mp hitem
      exact ⟨_, body_head h (htail.mp hfront) hitem hsystem, isSubstring_refl _⟩
  · rw [if_neg hinstr, if_neg hinstr, ← hall]
    refine ⟨fun hp => hp.front, fun hfront => ⟨hfront, ?_⟩⟩
    intro f hf
    obtain ⟨hmem, -⟩ := List.mem_filter.mp hf
    refine ⟨_, rfl, ?_⟩
    rcases List.mem_append.mp hmem with hi | hitems
    · have : req.instructions = some f := by simpa using hi
      rw [this]
      exact isSubstring_refl f
    · obtain ⟨item, hitem, rfl⟩ := List.mem_map.mp hitems
      obtain ⟨hitem, hsystem⟩ := List.mem_filter.mp hitem
      have := hall.mp hfront item hitem
      simp [hsystem] at this

theorem responses_no_system_iff {req : ResponsesRequest} {body : List Message}
    (h : messagesOfInput v req.input = .ok body) :
    (∀ m ∈ instructionsMessage req.instructions ++ body, m.isSystem = false) ↔ req.NoSystem := by
  rw [List.forall_mem_append, (body_not_system_iff h).1, instructionsMessage_eq]
  unfold ResponsesRequest.NoSystem
  apply and_congr_left'
  split_ifs with hinstr
  · simp [hinstr]
  · simp [hinstr, Message.isSystem]

/-- A client without system items and instructions has no fragments. -/
theorem systemTexts_of_noSystem {req : ResponsesRequest} (h : req.NoSystem) :
    req.systemTexts = [] := by
  obtain ⟨hinstr, hitems⟩ := h
  have hnone : req.items.filter ResponsesInputItem.isSystem = [] := by
    rw [List.filter_eq_nil_iff]
    intro item hitem
    simp [hitems item hitem]
  unfold ResponsesRequest.systemTexts
  cases hi : req.instructions with
  | none => simp [hnone]
  | some s =>
    have : s = "" := by simpa [hi] using hinstr
    simp [hnone, this]

/-- On the Responses surface the placing holds exactly when the client's system text is in one place
and memory adds nothing, or there is none. -/
theorem responses_placed_iff {req : ResponsesRequest} {chat : ChatCompletionRequest}
    (h : fromResponsesRequest v req = .ok chat) (ctx : MemoryContext) :
    SystemPlaced (injectIntoRequest chat ctx).messages (req.systemTexts ++ ctx.texts) ↔
      (ctx.AddsNothing ∧ req.OneSystem) ∨ req.NoSystem := by
  obtain ⟨body, hbody, hmessages⟩ := fromResponsesRequest_ok h
  have hno := responses_no_system_iff hbody
  rw [inject_messages, hmessages,
    placed_inject_iff ctx (fun hnone => systemTexts_of_noSystem (hno.mp hnone)),
    responses_translated_placed_iff hbody, hno]

/-! ## Both surfaces -/

/-- **What is dispatched has one system message, in front and with all there is to say, exactly when
the client's system text comes from one place and memory does not come before it.** -/
theorem system_placed_iff (t : PythonText) (v : BodyValues) (ctx : MemoryContext) :
    (∀ req chat, fromAnthropicRequest t req = .ok chat →
      (SystemPlaced (injectIntoRequest chat ctx).messages (req.systemTexts ++ ctx.texts) ↔
        ctx.AddsNothing ∨ systemFragments req = [])) ∧
    (∀ req chat, fromResponsesRequest v req = .ok chat →
      (SystemPlaced (injectIntoRequest chat ctx).messages (req.systemTexts ++ ctx.texts) ↔
        (ctx.AddsNothing ∧ req.OneSystem) ∨ req.NoSystem)) :=
  ⟨fun _ _ h => messages_placed_iff h ctx, fun _ _ h => responses_placed_iff h ctx⟩

/-- A client of the Responses surface with instructions and a developer item. -/
def instructed : ResponsesRequest where
  model := "gpt"
  input := .parts
    [{ role := some "developer", content := some (.str "Answer in French.") },
      { role := some "user", content := some (.str "Weather?") }]
  instructions := some "Be brief."

/-- Without the developer item. -/
def briefOnly : ResponsesRequest :=
  { instructed with input := .str "Weather?" }

/-- Memory with one fact. -/
def rememberedCity : MemoryContext where
  facts := [{ key := "city", value := "Paris" }]

/-- Memory with one turn to replay. -/
def rememberedTurn : MemoryContext where
  recentTurns := [{ role := .user, content := "Hello." }]

theorem system_placed_one_source :
    ∃ chat, fromResponsesRequest plainValues briefOnly = .ok chat ∧
      SystemPlaced (injectIntoRequest chat {}).messages
        (briefOnly.systemTexts ++ MemoryContext.texts {}) := by
  have hok : fromResponsesRequest plainValues briefOnly = .ok _ := rfl
  refine ⟨_, hok, ((system_placed_iff weatherTexts plainValues {}).2 briefOnly _ hok).mpr ?_⟩
  have hnothing : MemoryContext.AddsNothing {} := by
    simp [MemoryContext.AddsNothing, MemoryContext.renderSystemMessage]
  have hone : briefOnly.OneSystem := by
    simp [ResponsesRequest.OneSystem, ResponsesRequest.items, briefOnly]
  exact .inl ⟨hnothing, hone⟩

theorem system_not_placed :
    (∃ chat, fromAnthropicRequest weatherTexts weatherRequest = .ok chat ∧
      ¬ SystemPlaced (injectIntoRequest chat rememberedCity).messages
        (weatherRequest.systemTexts ++ rememberedCity.texts)) ∧
    (∃ chat, fromResponsesRequest plainValues instructed = .ok chat ∧
      ¬ SystemPlaced (injectIntoRequest chat {}).messages
        (instructed.systemTexts ++ MemoryContext.texts {})) ∧
    (∃ chat, fromAnthropicRequest weatherTexts weatherRequest = .ok chat ∧
      ¬ SystemPlaced (injectIntoRequest chat rememberedTurn).messages
        (weatherRequest.systemTexts ++ rememberedTurn.texts)) := by
  refine ⟨⟨_, rfl, fun h => ?_⟩, ⟨_, rfl, fun h => ?_⟩, ⟨_, rfl, fun h => ?_⟩⟩
  · exact absurd h.atMostOne (by decide)
  · exact absurd h.atMostOne (by decide)
  · -- the replayed turn comes first
    exact absurd (h.front _ List.mem_cons_self) (by decide)

end ModelMeld
