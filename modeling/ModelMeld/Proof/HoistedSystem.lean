import ModelMeld.Lib.Checked
import ModelMeld.Spec.NativeDict

/-!
# Hoisting the system messages of a native body

* `hoist_system_entries_iff`: no system entry is left in the messages and every text follows the
  top-level system iff there is no system entry or one of them has a text. When all of them are
  without text, hoisting returns before it takes them out.
* `hoistSystemEntries_native`: on the dictionary of a native body this is `hoistSystemMessages`.
-/

namespace ModelMeld

open Checked

/-! ## The loop -/

section Loop

variable {msgs : List Json}

/-- The texts of the system entries. -/
def systemTexts (msgs : List Json) : Except ReadError (List String) :=
  (msgs.filter isSystemEntry).mapM entryText

/-- What is kept. -/
def otherEntries (msgs : List Json) : List Json := msgs.filter (fun m => !isSystemEntry m)

theorem hoistLoop_eq (msgs : List Json) :
    hoistLoop msgs = do
      let texts ← systemTexts msgs
      return (texts.filter (· ≠ ""), otherEntries msgs) := by
  unfold systemTexts otherEntries
  induction msgs with
  | nil => rfl
  | cons m rest ih =>
    unfold hoistLoop
    by_cases hm : isSystemEntry m = true
    · rw [if_pos hm, ih, List.filter_cons_of_pos hm, List.filter_cons_of_neg (by simp [hm]),
        List.mapM_cons]
      cases entryText m with
      | error e => rfl
      | ok text =>
        cases (rest.filter isSystemEntry).mapM entryText with
        | error e => rfl
        | ok texts =>
          by_cases htext : text = ""
          · simp [htext, bind, Except.bind, pure, Except.pure]
          · simp [htext, bind, Except.bind, pure, Except.pure]
    · rw [if_neg hm, ih, List.filter_cons_of_neg hm, List.filter_cons_of_pos (by simp [hm])]
      cases (rest.filter isSystemEntry).mapM entryText with
      | error e => rfl
      | ok texts => rfl

theorem systemTexts_eq_ok {texts : List String} :
    systemTexts msgs = .ok texts ↔
      List.Forall₂ (fun m text => entryText m = .ok text) (msgs.filter isSystemEntry) texts :=
  mapM_eq_ok

/-- The loop returns when every system entry can be read. -/
theorem exists_systemTexts (h : ∀ m ∈ msgs, isSystemEntry m = true → Succeeds (entryText m)) :
    ∃ texts, systemTexts msgs = .ok texts := by
  refine succeeds_mapM.2 ?_
  intro m hm
  obtain ⟨hm, hsystem⟩ := List.mem_filter.1 hm
  exact h m hm hsystem

/-- There is something to hoist when a system entry has a text. -/
theorem hoisted_eq_nil_iff {texts : List String} (h : systemTexts msgs = .ok texts) :
    texts.filter (· ≠ "") = [] ↔
      ∀ m ∈ msgs, isSystemEntry m = true → entryText m = .ok "" := by
  rw [systemTexts_eq_ok, List.forall₂_iff_get] at h
  obtain ⟨hlength, hread⟩ := h
  rw [List.filter_eq_nil_iff]
  constructor
  · intro hempty m hm hsystem
    obtain ⟨⟨i, hi⟩, hget⟩ := List.get_of_mem (List.mem_filter.2 ⟨hm, hsystem⟩)
    have htext := hread i hi (by omega)
    have hnone := hempty _ (List.get_mem texts ⟨i, by omega⟩)
    rw [hget] at htext
    rw [htext]
    simpa using hnone
  · intro hempty text htext
    obtain ⟨⟨i, hi⟩, hget⟩ := List.get_of_mem htext
    have hi' : i < (msgs.filter isSystemEntry).length := by omega
    have hmem := List.mem_filter.1 (List.get_mem (msgs.filter isSystemEntry) ⟨i, hi'⟩)
    have hnone := hempty _ hmem.1 hmem.2
    rw [hread i hi' hi, Except.ok.injEq, hget] at hnone
    simpa using hnone

end Loop

/-! ## The top-level system -/

/-- A string, a list of blocks, or nothing. -/
def IsTopSystem : Json → Prop
  | .null | .str _ | .arr _ => True
  | _ => False

/-- The existing system first, and then the texts. -/
def SystemFollows (existing : Json) (texts : List String) (system : Json) : Prop :=
  match existing with
  | .null => system = if texts = [] then .null else .str (join "\n\n" texts)
  | .str s => system = .str (s ++ String.join (texts.map (fun t => "\n\n" ++ t)))
  | .arr blocks => system = .arr (blocks ++ texts.map hoistedBlock)
  | _ => False

theorem join_cons (sep s : String) : ∀ ss : List String,
    join sep (s :: ss) = s ++ String.join (ss.map (fun t => sep ++ t)) := by
  intro ss
  induction ss generalizing s with
  | nil => simp [join, String.join]
  | cons t ss ih =>
    change s ++ sep ++ join sep (t :: ss) = _
    rw [ih t, List.map_cons, String.join_cons, String.append_assoc, String.append_assoc]

theorem systemFollows_nil {existing : Json} (h : IsTopSystem existing) :
    SystemFollows existing [] existing := by
  cases existing with
  | null => rfl
  | str s => simp [SystemFollows, String.join]
  | arr blocks => simp [SystemFollows]
  | _ => exact h.elim

/-- What hoisting sets does follow. -/
theorem systemFollows_hoisted {existing : Json} (h : IsTopSystem existing) {texts : List String}
    (htexts : texts ≠ []) :
    ∃ system, hoistedSystem existing texts = some system ∧ SystemFollows existing texts system := by
  cases existing with
  | null => exact ⟨_, rfl, by simp [SystemFollows, htexts]⟩
  | str s => exact ⟨_, rfl, by simp only [SystemFollows, join_cons]⟩
  | arr blocks => exact ⟨_, rfl, rfl⟩
  | _ => exact h.elim

/-! ## Hoisting -/

/-- No system entry is left, the others stand as they did, and the system texts follow the
top-level system; no other parameter changes. -/
structure HoistComplete (params : OrderedDict String Json) (msgs : List Json)
    (out : OrderedDict String Json) : Prop where
  messages : ∃ kept, out.get? "messages" = some (.arr kept) ∧ kept = otherEntries msgs ∧
    ∀ m ∈ kept, isSystemEntry m = false
  system : ∃ texts, systemTexts msgs = .ok texts ∧
    SystemFollows (params.getD "system" .null) (texts.filter (· ≠ "")) (out.getD "system" .null)
  others : ∀ key, key ≠ "messages" → key ≠ "system" → out.get? key = params.get? key

section Hoist

variable {params : OrderedDict String Json} {msgs : List Json}

theorem not_system_of_mem_otherEntries {m : Json} (h : m ∈ otherEntries msgs) :
    isSystemEntry m = false := by
  simpa using (List.mem_filter.1 h).2

theorem otherEntries_of_no_system (h : ∀ m ∈ msgs, isSystemEntry m = false) :
    otherEntries msgs = msgs := by
  refine List.filter_eq_self.2 ?_
  intro m hm
  simp [h m hm]

/-- What hoisting returns when the messages can be read. -/
theorem hoistSystemEntries_eq (hmsgs : params.get? "messages" = some (.arr msgs))
    {texts : List String} (htexts : systemTexts msgs = .ok texts) :
    hoistSystemEntries params = .ok (
      if texts.filter (· ≠ "") = [] then params
      else
        let kept := params.insert "messages" (.arr (otherEntries msgs))
        match hoistedSystem (kept.getD "system" .null) (texts.filter (· ≠ "")) with
        | some system => kept.insert "system" system
        | none => kept) := by
  unfold hoistSystemEntries
  simp only [hmsgs, hoistLoop_eq, htexts, bind, Except.bind, pure, Except.pure]
  by_cases hnil : texts.filter (· ≠ "") = []
  · rw [if_pos hnil, if_pos hnil]
  · rw [if_neg hnil, if_neg hnil]
    cases hoistedSystem ((params.insert "messages" (.arr (otherEntries msgs))).getD "system" .null)
        (texts.filter (· ≠ "")) with
    | none => rfl
    | some system => rfl

theorem hoistComplete_of_text (hmsgs : params.get? "messages" = some (.arr msgs))
    (htop : IsTopSystem (params.getD "system" .null)) {texts : List String}
    (htexts : systemTexts msgs = .ok texts) (hsome : texts.filter (· ≠ "") ≠ []) :
    ∃ out, hoistSystemEntries params = .ok out ∧ HoistComplete params msgs out := by
  have hsystem : (params.insert "messages" (.arr (otherEntries msgs))).getD "system" .null =
      params.getD "system" .null := by
    unfold OrderedDict.getD
    rw [OrderedDict.get?_insert, if_neg (by decide)]
  obtain ⟨system, hset, hfollows⟩ := systemFollows_hoisted htop hsome
  rw [hoistSystemEntries_eq hmsgs htexts, if_neg hsome]
  simp only [hsystem, hset]
  refine ⟨_, rfl, ⟨otherEntries msgs, ?_, rfl, fun m hm => not_system_of_mem_otherEntries hm⟩,
    ⟨texts, htexts, ?_⟩, ?_⟩
  · rw [OrderedDict.get?_insert, if_neg (by decide), OrderedDict.get?_insert_self]
  · unfold OrderedDict.getD at hfollows ⊢
    rw [OrderedDict.get?_insert_self]
    exact hfollows
  · intro key hmessages hkey
    rw [OrderedDict.get?_insert, if_neg hkey, OrderedDict.get?_insert, if_neg hmessages]

theorem hoistComplete_of_no_system (hmsgs : params.get? "messages" = some (.arr msgs))
    (htop : IsTopSystem (params.getD "system" .null))
    (hnone : ∀ m ∈ msgs, isSystemEntry m = false) :
    ∃ out, hoistSystemEntries params = .ok out ∧ HoistComplete params msgs out := by
  have htexts : systemTexts msgs = .ok [] := by
    unfold systemTexts
    rw [List.filter_eq_nil_iff.2 (fun m hm => by simp [hnone m hm])]
    rfl
  have hkept := otherEntries_of_no_system hnone
  rw [hoistSystemEntries_eq hmsgs htexts]
  refine ⟨params, rfl, ⟨msgs, hmsgs, hkept.symm, hnone⟩, ⟨[], htexts, ?_⟩, fun _ _ _ => rfl⟩
  exact systemFollows_nil htop

/-- **Hoisting is complete iff there is no system entry, or one of them has a text** (and their
texts are texts). -/
theorem hoist_system_entries_iff (hmsgs : params.get? "messages" = some (.arr msgs))
    (htop : IsTopSystem (params.getD "system" .null)) :
    (∃ out, hoistSystemEntries params = .ok out ∧ HoistComplete params msgs out) ↔
      (∀ m ∈ msgs, isSystemEntry m = true → Succeeds (entryText m)) ∧
        ((∀ m ∈ msgs, isSystemEntry m = false) ∨
          ∃ m ∈ msgs, isSystemEntry m = true ∧ entryText m ≠ .ok "") := by
  constructor
  · rintro ⟨out, hout, hcomplete⟩
    obtain ⟨texts, htexts, _⟩ := hcomplete.system
    refine ⟨?_, ?_⟩
    · intro m hm hsystem
      exact succeeds_mapM.1 ⟨texts, htexts⟩ m (List.mem_filter.2 ⟨hm, hsystem⟩)
    · rw [hoistSystemEntries_eq hmsgs htexts, Except.ok.injEq] at hout
      by_cases hnil : texts.filter (· ≠ "") = []
      · -- nothing is hoisted, and nothing is taken out
        rw [if_pos hnil] at hout
        obtain ⟨kept, hkept, _, hnone⟩ := hcomplete.messages
        rw [← hout, hmsgs, Option.some.injEq, Json.arr.injEq] at hkept
        exact .inl (hkept ▸ hnone)
      · right
        by_contra hempty
        push Not at hempty
        exact hnil ((hoisted_eq_nil_iff htexts).2 hempty)
  · rintro ⟨hread, hnone | ⟨m, hm, hsystem, htext⟩⟩
    · exact hoistComplete_of_no_system hmsgs htop hnone
    · obtain ⟨texts, htexts⟩ := exists_systemTexts hread
      refine hoistComplete_of_text hmsgs htop htexts ?_
      intro hnil
      exact htext ((hoisted_eq_nil_iff htexts).1 hnil m hm hsystem)

end Hoist

/-- A user message and a system message. -/
def notedMessages (note : String) : List Json :=
  [.obj [("role", .str "user"), ("content", .str "hi")],
    .obj [("role", .str "system"), ("content", .str note)]]

def notedParams (note : String) : OrderedDict String Json :=
  .ofPairs [("messages", .arr (notedMessages note)), ("system", .arr [hoistedBlock "Base."])]

theorem hoist_system_entries_iff_one_text :
    ∃ out, hoistSystemEntries (notedParams "Be brief.") = .ok out ∧
      HoistComplete (notedParams "Be brief.") (notedMessages "Be brief.") out := by
  have htop : IsTopSystem ((notedParams "Be brief.").getD "system" .null) := trivial
  refine (hoist_system_entries_iff (by decide) htop).2 ⟨?_, .inr
    ⟨.obj [("role", .str "system"), ("content", .str "Be brief.")], by decide, by decide,
      by decide⟩⟩
  intro m hm hsystem
  rcases List.mem_pair.1 hm with rfl | rfl
  · exact absurd hsystem (by decide)
  · exact ⟨"Be brief.", by decide⟩

/-- A system message without text stays where it is. -/
theorem empty_system_entry_left :
    ¬∀ (params : OrderedDict String Json) (msgs : List Json),
      params.get? "messages" = some (.arr msgs) → IsTopSystem (params.getD "system" .null) →
        ∃ out, hoistSystemEntries params = .ok out ∧ HoistComplete params msgs out := by
  intro h
  obtain ⟨out, hout, hcomplete⟩ := h (notedParams "") (notedMessages "") (by decide) trivial
  obtain ⟨kept, hkept, hothers, _⟩ := hcomplete.messages
  have hleft : hoistSystemEntries (notedParams "") = .ok (notedParams "") := by decide
  rw [hleft, Except.ok.injEq] at hout
  rw [← hout, hothers] at hkept
  exact absurd hkept (by decide)

/-! ## Native bodies -/

theorem lookup_field (key : String) (value : Option Json) : (field key value).lookup key = value := by
  cases value with
  | none => rfl
  | some v => simp [field]

namespace AnthropicRequestContentBlock

/-- What a block of another kind, or a text block, adds to the text. -/
theorem blockTexts_dump : ∀ blocks : List AnthropicRequestContentBlock,
    Json.blockTexts (blocks.map dump) = .ok (blocks.filterMap (fun b => match b with
      | .text b => some b.text
      | _ => none)) := by
  intro blocks
  induction blocks with
  | nil => rfl
  | cons b rest ih =>
    rw [List.map_cons]
    cases b with
    | text b =>
      have htype : JsonObj.getD b.dump "type" .null = .str "text" := rfl
      have htext : JsonObj.getD b.dump "text" (.str "") = .str b.text := rfl
      simp only [dump, Json.blockTexts, htype, htext, if_true, ih, List.filterMap_cons]
      rfl
    | image b =>
      have htype : JsonObj.getD b.dump "type" .null = .str "image" := rfl
      simp [dump, Json.blockTexts, htype, ih]
    | toolUse b =>
      have htype : JsonObj.getD b.dump "type" .null = .str "tool_use" := rfl
      simp [dump, Json.blockTexts, htype, ih]
    | toolResult b =>
      have htype : JsonObj.getD b.dump "type" .null = .str "tool_result" := rfl
      simp [dump, Json.blockTexts, htype, ih]

end AnthropicRequestContentBlock

namespace AnthropicMessage

theorem isSystemEntry_dump (m : AnthropicMessage) :
    isSystemEntry m.dump = decide (m.role = .system) := by
  obtain ⟨role, content, extra⟩ := m
  cases role with
  | user => simp [dump, isSystemEntry, JsonObj.getD, JsonObj.get?, AnthropicRole.value]
  | assistant => simp [dump, isSystemEntry, JsonObj.getD, JsonObj.get?, AnthropicRole.value]
  | system => simp [dump, isSystemEntry, JsonObj.getD, JsonObj.get?, AnthropicRole.value]

theorem entryText_dump (m : AnthropicMessage) : entryText m.dump = .ok (nativeText m.content) := by
  have hcontent : entryText m.dump =
      (m.content.dump AnthropicRequestContentBlock.dump).blockText := rfl
  rw [hcontent]
  cases m.content with
  | str s => rfl
  | parts blocks =>
    simp only [Content.dump, Json.blockText, AnthropicRequestContentBlock.blockTexts_dump]
    rfl

end AnthropicMessage

theorem systemTexts_dump (messages : List AnthropicMessage) :
    systemTexts (messages.map AnthropicMessage.dump) =
      .ok ((messages.filter (fun m => m.role = .system)).map (fun m => nativeText m.content)) := by
  have hsystem : (messages.map AnthropicMessage.dump).filter isSystemEntry =
      (messages.filter (fun m => m.role = .system)).map AnthropicMessage.dump := by
    rw [List.filter_map]
    congr 2
    funext m
    exact m.isSystemEntry_dump
  rw [systemTexts_eq_ok, hsystem, List.forall₂_map_left_iff, List.forall₂_map_right_iff,
    List.forall₂_same]
  intro m _
  exact m.entryText_dump

theorem otherEntries_dump (messages : List AnthropicMessage) :
    otherEntries (messages.map AnthropicMessage.dump) =
      (messages.filter (fun m => m.role ≠ .system)).map AnthropicMessage.dump := by
  unfold otherEntries
  rw [List.filter_map]
  congr 2
  funext m
  simp [m.isSystemEntry_dump]

/-- The two entries of a native body, in their order. -/
theorem entries_hoistedEntries (params : NativeParams) :
    params.hoistedEntries.entries =
      ("messages", .arr (params.messages.map AnthropicMessage.dump)) ::
        field "system" (params.system.map (Content.dump (fun block => .obj block.dump))) := by
  unfold NativeParams.hoistedEntries
  refine OrderedDict.entries_ofPairs ?_
  cases params.system with
  | none => simp [field]
  | some system => simp [field]

/-- The new value of `system` is that of the typed parameters. -/
theorem hoistedSystem_dump (system : Option (Content AnthropicTextBlock)) (texts : List String) :
    hoistedSystem (((system.map (Content.dump (fun block => .obj block.dump)))).getD .null) texts =
      some (Content.dump (fun block : AnthropicTextBlock => .obj block.dump) (match system with
        | none => .str (join "\n\n" texts)
        | some (.str existing) => .str (join "\n\n" (existing :: texts))
        | some (.parts existing) => .parts (existing ++ texts.map (fun t => { text := t })))) := by
  cases system with
  | none => rfl
  | some system => cases system with
    | str s => rfl
    | parts blocks =>
      simp only [Option.map_some, Option.getD_some, Content.dump, hoistedSystem, List.map_append,
        List.map_map]
      rfl

/-- **On the dictionary of a native body, hoisting is `hoistSystemMessages`.** -/
theorem hoistSystemEntries_native (params : NativeParams) :
    hoistSystemEntries params.hoistedEntries =
      .ok (hoistSystemMessages params).hoistedEntries := by
  have hmsgs : params.hoistedEntries.get? "messages" =
      some (.arr (params.messages.map AnthropicMessage.dump)) := by
    unfold OrderedDict.get?
    rw [entries_hoistedEntries]
    rfl
  have hsystem : (params.hoistedEntries.insert "messages"
      (.arr (otherEntries (params.messages.map AnthropicMessage.dump)))).getD "system" .null =
      (params.system.map (Content.dump (fun block => .obj block.dump))).getD .null := by
    unfold OrderedDict.getD
    rw [OrderedDict.get?_insert, if_neg (by decide)]
    unfold OrderedDict.get?
    rw [entries_hoistedEntries]
    exact congrArg (Option.getD · Json.null) (lookup_field "system" _)
  have htexts : ((params.messages.filter (fun m => m.role = .system)).map
      (fun m => nativeText m.content)).filter (· ≠ "") = hoistedTexts params.messages := rfl
  rw [hoistSystemEntries_eq hmsgs (systemTexts_dump params.messages), htexts]
  unfold hoistSystemMessages
  by_cases hnil : hoistedTexts params.messages = []
  · simp only [hnil, if_true]
  · simp only [hnil, if_false, hsystem, hoistedSystem_dump]
    rw [Except.ok.injEq]
    refine OrderedDict.ext ?_
    rw [entries_hoistedEntries]
    change OrderedDict.setEntry "system" _ (OrderedDict.setEntry "messages" _
      params.hoistedEntries.entries) = _
    rw [entries_hoistedEntries, otherEntries_dump]
    cases params.system with
    | none => rfl
    | some system => rfl

end ModelMeld
