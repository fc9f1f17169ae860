import ModelMeld.Proof.ScrubComplete

/-!
# What scrubbing keeps of a request

`Message.mapTexts` changes the texts of a message and nothing else.
`scrub_request` builds every message anew, and it does as much exactly for the
requests that have nothing to lose (`scrub_frame_iff`): no field a client added,
no `cache_control`, no empty list of tool calls and no empty refusal. The rest of
such a request stays as it is; a text stays where no pattern matches in what the
patterns are shown of it.
-/

namespace ModelMeld

open Regex DefaultPatterns

/-! ## Changing the texts only -/

def TextPart.mapText (f : String → String) (part : TextPart) : TextPart :=
  { part with text := f part.text }

def ContentPart.mapText (f : String → String) : ContentPart → ContentPart
  | .text part => .text (part.mapText f)
  | .image url => .image url
  | .audio input => .audio input

def Content.mapTexts {P : Type} (f : String → String) (part : P → P) : Content P → Content P
  | .str text => .str (f text)
  | .parts ps => .parts (ps.map part)

def ToolCall.mapText (f : String → String) (call : ToolCall) : ToolCall :=
  { call with function := { call.function with arguments := f call.function.arguments } }

/-- A message with each of its texts changed, everything else kept. -/
def Message.mapTexts (f : String → String) : Message → Message
  | .system m => .system { m with content := m.content.mapTexts f (TextPart.mapText f) }
  | .user m => .user { m with content := m.content.mapTexts f (ContentPart.mapText f) }
  | .assistant m => .assistant
      { m with
        content := m.content.map (Content.mapTexts f (TextPart.mapText f))
        toolCalls := m.toolCalls.map (List.map (ToolCall.mapText f))
        refusal := m.refusal.map f }
  | .tool m => .tool { m with content := m.content.mapTexts f (TextPart.mapText f) }

def ChatCompletionRequest.mapTexts (f : String → String) (request : ChatCompletionRequest) :
    ChatCompletionRequest :=
  { request with messages := request.messages.map (Message.mapTexts f) }

/-! ## Messages with nothing to lose -/

def Content.All {P : Type} (q : P → Prop) : Content P → Prop
  | .str _ => True
  | .parts ps => ∀ part ∈ ps, q part

def TextPart.Unmarked (part : TextPart) : Prop := part.cacheControl = none

def ContentPart.Unmarked : ContentPart → Prop
  | .text part => part.Unmarked
  | _ => True

/-- No field a client added, no `cache_control`, no empty list of tool calls, no empty refusal. -/
def Message.Plain : Message → Prop
  | .system m => m.extra = [] ∧ m.content.All TextPart.Unmarked
  | .user m => m.extra = [] ∧ m.content.All ContentPart.Unmarked
  | .assistant m => m.extra = [] ∧ (∀ content ∈ m.content, content.All TextPart.Unmarked) ∧
      m.toolCalls ≠ some [] ∧ m.refusal ≠ some ""
  | .tool m => m.extra = [] ∧ m.content.All TextPart.Unmarked

def ChatCompletionRequest.Plain (request : ChatCompletionRequest) : Prop :=
  ∀ message ∈ request.messages, message.Plain

/-! ## The scrubber -/

section Frame

variable (s : RegexScrubber)

theorem scrubTextPart_eq_iff (part : TextPart) :
    s.scrubTextPart part = part.mapText s.scrubText ↔ part.Unmarked := by
  unfold RegexScrubber.scrubTextPart TextPart.mapText TextPart.Unmarked
  rw [TextPart.mk.injEq]
  constructor
  · rintro ⟨-, h⟩
    exact h.symm
  · intro h
    exact ⟨rfl, h.symm⟩

theorem scrubPart_eq_iff (part : ContentPart) :
    s.scrubPart part = part.mapText s.scrubText ↔ part.Unmarked := by
  cases part with
  | text part =>
    unfold RegexScrubber.scrubPart ContentPart.mapText ContentPart.Unmarked
    rw [ContentPart.text.injEq]
    exact scrubTextPart_eq_iff s part
  | image url => exact iff_of_true rfl trivial
  | audio input => exact iff_of_true rfl trivial

theorem scrubStrOrParts_eq_iff (content : Content TextPart) :
    s.scrubStrOrParts content = content.mapTexts s.scrubText (TextPart.mapText s.scrubText) ↔
      content.All TextPart.Unmarked := by
  cases content with
  | str text => exact iff_of_true rfl trivial
  | parts ps =>
    unfold RegexScrubber.scrubStrOrParts Content.mapTexts Content.All
    rw [Content.parts.injEq, List.map_inj_left]
    exact forall₂_congr (fun part _ => scrubTextPart_eq_iff s part)

theorem scrubToolCall_eq (call : ToolCall) : s.scrubToolCall call = call.mapText s.scrubText := rfl

theorem scrubMessage_eq_iff (message : Message) :
    s.scrubMessage message = message.mapTexts s.scrubText ↔ message.Plain := by
  cases message with
  | system m =>
    unfold RegexScrubber.scrubMessage Message.mapTexts Message.Plain
    rw [Message.system.injEq, SystemMessage.mk.injEq, scrubStrOrParts_eq_iff]
    constructor
    · rintro ⟨hcontent, -, hextra⟩
      exact ⟨hextra.symm, hcontent⟩
    · rintro ⟨hextra, hcontent⟩
      exact ⟨hcontent, rfl, hextra.symm⟩
  | user m =>
    unfold RegexScrubber.scrubMessage Message.mapTexts Message.Plain
    rw [Message.user.injEq, UserMessage.mk.injEq]
    refine (and_congr (c := m.content.All ContentPart.Unmarked) ?hcontent Iff.rfl).trans ?_
    case hcontent =>
      cases m.content with
      | str text => exact iff_of_true rfl trivial
      | parts ps =>
        unfold Content.mapTexts Content.All
        simp only [Content.parts.injEq, List.map_inj_left]
        exact forall₂_congr (fun part _ => scrubPart_eq_iff s part)
    constructor
    · rintro ⟨hparts, -, hextra⟩
      exact ⟨hextra.symm, hparts⟩
    · rintro ⟨hextra, hparts⟩
      exact ⟨hparts, rfl, hextra.symm⟩
  | assistant m =>
    have hcontent : m.content.map s.scrubStrOrParts =
          m.content.map (Content.mapTexts s.scrubText (TextPart.mapText s.scrubText)) ↔
        ∀ content ∈ m.content, content.All TextPart.Unmarked := by
      cases m.content with
      | none => simp
      | some content =>
        rw [Option.map_some, Option.map_some, Option.some.injEq, scrubStrOrParts_eq_iff]
        simp
    unfold RegexScrubber.scrubMessage Message.mapTexts Message.Plain
    rw [Message.assistant.injEq, AssistantMessage.mk.injEq, hcontent]
    refine (and_congr Iff.rfl (and_congr Iff.rfl (and_congr (c := m.toolCalls ≠ some []) ?hcalls
      (and_congr (c := m.refusal ≠ some "") ?hrefusal Iff.rfl)))).trans ?_
    case hcalls =>
      rcases m.toolCalls with - | ⟨- | ⟨call, calls⟩⟩
      · simp
      · simp
      · simp [scrubToolCall_eq]
    case hrefusal =>
      cases m.refusal with
      | none => simp
      | some text =>
        by_cases htext : text = ""
        · simp [htext]
        · simp [htext]
    constructor
    · rintro ⟨hparts, -, htools, hrefused, hextra⟩
      exact ⟨hextra.symm, hparts, htools, hrefused⟩
    · rintro ⟨hextra, hparts, htools, hrefused⟩
      exact ⟨hparts, rfl, htools, hrefused, hextra.symm⟩
  | tool m =>
    unfold RegexScrubber.scrubMessage Message.mapTexts Message.Plain
    rw [Message.tool.injEq, ToolMessage.mk.injEq, scrubStrOrParts_eq_iff]
    constructor
    · rintro ⟨hcontent, -, hextra⟩
      exact ⟨hextra.symm, hcontent⟩
    · rintro ⟨hextra, hcontent⟩
      exact ⟨hcontent, rfl, hextra.symm⟩

/-- The scrubbed request is the request with its texts scrubbed where nothing can be lost. -/
theorem scrubRequest_eq_iff (request : ChatCompletionRequest) :
    (s.scrubRequest request).1 = request.mapTexts s.scrubText ↔ request.Plain := by
  unfold RegexScrubber.scrubRequest ChatCompletionRequest.withMessages
    ChatCompletionRequest.mapTexts ChatCompletionRequest.Plain
  simp only [ChatCompletionRequest.mk.injEq, and_true, true_and, List.map_inj_left]
  exact forall₂_congr (fun message _ => scrubMessage_eq_iff s message)

end Frame

/-! ## Texts that stay -/

section Texts

open RegexScrubber (messageTexts)

variable {f : String → String}

theorem textPart_mapText_eq_self_iff (part : TextPart) :
    part.mapText f = part ↔ f part.text = part.text := by
  cases part with
  | mk text mark =>
    unfold TextPart.mapText
    rw [TextPart.mk.injEq, and_iff_left rfl]

theorem toolCall_mapText_eq_self_iff (call : ToolCall) :
    call.mapText f = call ↔ f call.function.arguments = call.function.arguments := by
  rcases call with ⟨id, ⟨name, arguments⟩⟩
  unfold ToolCall.mapText
  rw [ToolCall.mk.injEq, and_iff_right rfl, FunctionCall.mk.injEq, and_iff_right rfl]

theorem map_eq_self_iff {α : Type} {g : α → α} {l : List α} :
    l.map g = l ↔ ∀ x ∈ l, g x = x := by
  conv_lhs => rhs; rw [← List.map_id l]
  exact List.map_inj_left

theorem content_mapTexts_eq_self_iff (content : Content TextPart) :
    content.mapTexts f (TextPart.mapText f) = content ↔
      ∀ text ∈ (match content with
        | .str text => [text]
        | .parts ps => ps.map TextPart.text), f text = text := by
  cases content with
  | str text =>
    unfold Content.mapTexts
    rw [Content.str.injEq, List.forall_mem_singleton]
  | parts ps =>
    unfold Content.mapTexts
    simp only [Content.parts.injEq, map_eq_self_iff, textPart_mapText_eq_self_iff,
      List.forall_mem_map]

/-- A message whose texts stay is unchanged. -/
theorem message_mapTexts_eq_self_iff (hempty : f "" = "") (message : Message) :
    message.mapTexts f = message ↔ ∀ text ∈ messageTexts message, f text = text := by
  cases message with
  | system m =>
    rcases m with ⟨content, name, extra⟩
    unfold Message.mapTexts
    rw [Message.system.injEq, SystemMessage.mk.injEq, and_iff_left ⟨rfl, rfl⟩]
    exact content_mapTexts_eq_self_iff content
  | user m =>
    rcases m with ⟨text | ps, name, extra⟩
    · unfold Message.mapTexts messageTexts Content.mapTexts
      simp
    · unfold Message.mapTexts messageTexts Content.mapTexts
      simp only [Message.user.injEq, UserMessage.mk.injEq, and_true, Content.parts.injEq,
        map_eq_self_iff, List.mem_filterMap]
      constructor
      · rintro h text ⟨part, hpart, htext⟩
        cases part with
        | text part =>
          obtain rfl := Option.some.inj htext
          exact (textPart_mapText_eq_self_iff part).1 (ContentPart.text.inj (h _ hpart))
        | image url => exact absurd htext (by simp)
        | audio input => exact absurd htext (by simp)
      · intro h part hpart
        cases part with
        | text part =>
          have hpartText := h part.text ⟨.text part, hpart, rfl⟩
          exact congrArg ContentPart.text ((textPart_mapText_eq_self_iff part).2 hpartText)
        | image url => rfl
        | audio input => rfl
  | assistant m =>
    rcases m with ⟨content, name, calls, refusal, extra⟩
    unfold Message.mapTexts messageTexts
    simp only [Message.assistant.injEq, AssistantMessage.mk.injEq, and_true, true_and,
      List.forall_mem_append, and_assoc]
    refine and_congr ?_ (and_comm.trans (and_congr ?_ ?_))
    · cases content with
      | none => simp
      | some content =>
        rw [Option.map_some, Option.some.injEq, content_mapTexts_eq_self_iff]
        cases content <;> rfl
    · cases refusal with
      | none => simp
      | some text =>
        by_cases htext : text = ""
        · simp [htext, hempty]
        · simp [htext]
    · cases calls with
      | none => simp
      | some calls =>
        simp only [Option.map_some, Option.some.injEq, map_eq_self_iff,
          toolCall_mapText_eq_self_iff, List.forall_mem_map]
  | tool m =>
    rcases m with ⟨content, id, extra⟩
    unfold Message.mapTexts
    rw [Message.tool.injEq, ToolMessage.mk.injEq, and_iff_left ⟨rfl, rfl⟩]
    exact content_mapTexts_eq_self_iff content

theorem request_mapTexts_eq_self_iff (hempty : f "" = "") (request : ChatCompletionRequest) :
    request.mapTexts f = request ↔
      ∀ text ∈ request.messages.flatMap messageTexts, f text = text := by
  have hmessages : request.mapTexts f = request ↔
      request.messages.map (Message.mapTexts f) = request.messages := by
    unfold ChatCompletionRequest.mapTexts
    constructor
    · exact fun h => congrArg ChatCompletionRequest.messages h
    · intro h
      rw [h]
  rw [hmessages, map_eq_self_iff, List.forall_mem_flatMap]
  exact forall₂_congr (fun message _ => message_mapTexts_eq_self_iff hempty message)

end Texts

/-! ## What the default patterns leave alone -/

section Default

variable {u : UnicodeClasses}

/-- One pattern of a table, by its placeholder. -/
def subOne (u : UnicodeClasses) (text : String) (p : String × Expr) : String :=
  (compile u p.2).sub (RegexScrubber.redactLabel p.1) text

/-- A placeholder leaves a bracket more than it finds. -/
theorem count_le_subOne {p : String × Expr} (hp : p ∈ patterns u) (text : String) :
    text.toList.count '<' ≤ (subOne u text p).toList.count '<' ∧
      ((subOne u text p).toList.count '<' ≤ text.toList.count '<' →
        NoMatch u.isWord p.2 none text.toList) := by
  have hred := redactable_patterns p hp
  have hmem : '<' ∈ (RegexScrubber.redactLabel p.1).toList :=
    List.mem_of_mem_head? (head_redactLabel p.1)
  unfold subOne compile
  rw [String.toList_ofList]
  exact (replaced_sub hred.separated.ne_nil _ text.toList).count_le hred.separated.ne_nil
    hred.opens hmem

theorem count_le_foldl {ps : List (String × Expr)} (hps : ps ⊆ patterns u) (text : String) :
    text.toList.count '<' ≤ (ps.foldl (subOne u) text).toList.count '<' := by
  induction ps generalizing text with
  | nil => exact le_refl _
  | cons p ps ih =>
    rw [List.cons_subset] at hps
    have hone := (count_le_subOne hps.1 text).1
    have hrest := ih hps.2 (subOne u text p)
    rw [List.foldl_cons]
    omega

theorem noMatch_of_foldl_eq {ps : List (String × Expr)} (hps : ps ⊆ patterns u) {text : String}
    (h : ps.foldl (subOne u) text = text) :
    ∀ p ∈ ps, NoMatch u.isWord p.2 none text.toList := by
  induction ps with
  | nil => exact fun p hp => absurd hp List.not_mem_nil
  | cons p ps ih =>
    rw [List.cons_subset] at hps
    rw [List.foldl_cons] at h
    -- the rest takes no bracket away, so the first pattern added none
    have hrest := count_le_foldl hps.2 (subOne u text p)
    rw [h] at hrest
    have hno := (count_le_subOne hps.1 text).2 hrest
    have hself : subOne u text p = text := by
      have hsub := sub_eq_self (RegexScrubber.redactLabel p.1).toList
        (redactable_patterns p hps.1).separated.ne_nil hno
      exact (congrArg String.ofList hsub).trans String.ofList_toList
    rw [hself] at h
    rw [List.forall_mem_cons]
    exact ⟨hno, ih hps.2 h⟩

theorem subAll_eq_self_iff (text : String) : (RegexScrubber.default u).subAll text = text ↔
    ∀ p ∈ patterns u, NoMatch u.isWord p.2 none text.toList := by
  refine ⟨fun h => ?_, subAll_eq_self⟩
  rw [subAll_default] at h
  exact noMatch_of_foldl_eq (List.Subset.refl _) h

/-- What the patterns are shown of a text. -/
def shown (text : String) : List Char :=
  if maxScrubLength < text.length then text.toList.take maxScrubLength else text.toList

theorem scrubText_eq_self_iff (text : String) : (RegexScrubber.default u).scrubText text = text ↔
    ∀ p ∈ patterns u, NoMatch u.isWord p.2 none (shown text) := by
  unfold RegexScrubber.scrubText shown
  split
  · rename_i hlong
    have hsplit : String.ofList (text.toList.take maxScrubLength) ++
        String.ofList (text.toList.drop maxScrubLength) = text := by
      rw [← String.ofList_append, List.take_append_drop, String.ofList_toList]
    have hcancel : (RegexScrubber.default u).subAll
          (String.ofList (text.toList.take maxScrubLength)) ++
          String.ofList (text.toList.drop maxScrubLength) = text ↔
        (RegexScrubber.default u).subAll (String.ofList (text.toList.take maxScrubLength)) =
          String.ofList (text.toList.take maxScrubLength) := by
      conv_lhs => rhs; rw [← hsplit]
      exact String.append_left_inj _
    rw [hcancel, subAll_eq_self_iff, String.toList_ofList]
  · exact subAll_eq_self_iff text

/-- The texts of a request that are scrubbed. -/
def ChatCompletionRequest.texts (request : ChatCompletionRequest) : List String :=
  request.messages.flatMap RegexScrubber.messageTexts

/-- No default pattern matches in a text of the request. -/
def NoMatchIn (u : UnicodeClasses) (request : ChatCompletionRequest) : Prop :=
  ∀ text ∈ request.texts, ∀ p ∈ patterns u, NoMatch u.isWord p.2 none text.toList

/-- Nor in what is left of a text that is cut. -/
def NoMatchInCuts (u : UnicodeClasses) (request : ChatCompletionRequest) : Prop :=
  ∀ text ∈ request.texts, maxScrubLength < text.length →
    ∀ p ∈ patterns u, NoMatch u.isWord p.2 none (text.toList.take maxScrubLength)

theorem request_scrubText_eq_self_iff {request : ChatCompletionRequest}
    (hno : NoMatchIn u request) :
    request.mapTexts (RegexScrubber.default u).scrubText = request ↔ NoMatchInCuts u request := by
  have hempty : (RegexScrubber.default u).scrubText "" = "" := by
    rw [scrubText_eq_self_iff]
    intro p hp a w b hsplit hmatch
    have hnil : w = [] := (List.append_eq_nil_iff.1 (List.append_eq_nil_iff.1 hsplit.symm).1).2
    exact (redactable_patterns p hp).separated.ne_nil hmatch hnil
  rw [request_mapTexts_eq_self_iff hempty]
  refine forall₂_congr (fun text htext => ?_)
  rw [scrubText_eq_self_iff]
  unfold shown
  split
  · rename_i hlong
    exact ⟨fun h _ => h, fun h => h hlong⟩
  · rename_i hshort
    exact iff_of_true (hno text htext) (fun hlong => absurd hlong hshort)

end Default

/-- **Scrubbing keeps all but the texts exactly where there is nothing to lose**, for every
scrubber; and a request in which no default pattern matches comes back as it is exactly where, in
addition, none matches in what is left of a text that is cut. -/
theorem scrub_frame_iff (request : ChatCompletionRequest) :
    (∀ s : RegexScrubber, (s.scrubRequest request).1 = request.mapTexts s.scrubText ↔
      request.Plain) ∧
    ∀ u : UnicodeClasses,
      ((RegexScrubber.default u).scrubRequest request).1 =
          request.mapTexts (RegexScrubber.default u).scrubText ∧
        (NoMatchIn u request → ((RegexScrubber.default u).scrubRequest request).1 = request) ↔
      request.Plain ∧ (NoMatchIn u request → NoMatchInCuts u request) := by
  refine ⟨fun s => scrubRequest_eq_iff s request, fun u => ?_⟩
  rw [scrubRequest_eq_iff]
  refine and_congr_right (fun hplain => ?_)
  rw [(scrubRequest_eq_iff _ request).2 hplain]
  exact forall_congr' (fun hno => request_scrubText_eq_self_iff hno)

/-- A system message with one part, marked as a cache breakpoint. -/
def markedRequest : ChatCompletionRequest where
  model := "m"
  messages := [.system { content := .parts [⟨"a", some [("type", .str "ephemeral")]⟩] }]

/-- The marker is lost, whatever the part says. -/
theorem marker_lost :
    ((RegexScrubber.default UnicodeClasses.ascii).scrubRequest markedRequest).1 ≠
      markedRequest.mapTexts (RegexScrubber.default UnicodeClasses.ascii).scrubText := by
  rw [Ne, scrubRequest_eq_iff]
  intro hplain
  have hmark := (hplain _ (List.mem_singleton_self _)).2 _ (List.mem_singleton_self _)
  exact absurd hmark (by simp [TextPart.Unmarked])

end ModelMeld
