import ModelMeld.Proof.Dictionaries

/-!
# Dumped messages

Two decoded messages are dumped to the same dictionary exactly when they agree:
the same role, the same content part by part, and the same other fields
(`Message.same_dump_iff`).
-/

namespace ModelMeld

/-! ## Contents -/

def TextPart.declared (p : TextPart) : List (String × Option Json) :=
  [("type", some (.str "text")), ("text", some (.str p.text)),
    ("cache_control", p.cacheControl.map .obj)]

theorem TextPart.dump_eq (p : TextPart) : p.dump = .obj (dict p.declared []) := by
  rw [TextPart.declared, dict_cons, dict_cons, dict_cons]
  simp [TextPart.dump, field, dict]

theorem TextPart.namedDict {p : TextPart} (h : p.Decoded) : NamedDict p.declared [] := by
  apply namedDict_of_values
  · simp [TextPart.declared]
  · simp only [TextPart.declared, List.forall_mem_cons]
    exact ⟨uniqueKeys_some (uniqueKeys_str _), uniqueKeys_some (uniqueKeys_str _),
      uniqueKeys_map h, by simp⟩

theorem TextPart.uniqueKeys_dump {p : TextPart} (h : p.Decoded) : p.dump.UniqueKeys := by
  rw [TextPart.dump_eq]
  exact (TextPart.namedDict h).uniqueKeys

theorem TextPart.same_dump_iff {p p' : TextPart} (h : p.Decoded) (h' : p'.Decoded) :
    Json.Same p.dump p'.dump ↔ p.Same p' := by
  have hnames : p.declared.map Prod.fst = p'.declared.map Prod.fst := rfl
  have hdict := same_dict_iff hnames (TextPart.namedDict h) (TextPart.namedDict h')
  have hcache : Option.Rel Json.Same (p.cacheControl.map .obj) (p'.cacheControl.map .obj) ↔
      Option.Rel JsonObj.Same p.cacheControl p'.cacheControl :=
    rel_map_iff (fun _ _ _ _ => Iff.rfl)
  rw [TextPart.dump_eq, TextPart.dump_eq]
  refine Iff.trans hdict ?_
  simp only [TextPart.declared, List.map_cons, List.map_nil, List.forall₂_cons, rel_some_iff,
    same_str, hcache, List.Forall₂.nil, same_nil, and_true, true_and]
  exact ⟨fun ⟨htext, hcontrol⟩ => ⟨htext, hcontrol⟩, fun hsame => ⟨hsame.text, hsame.cacheControl⟩⟩

theorem ImageDetail.value_injective {d d' : ImageDetail} (h : d.value = d'.value) : d = d' := by
  cases d <;> cases d' <;> first | rfl | simp [ImageDetail.value] at h

theorem AudioFormat.value_injective {f f' : AudioFormat} (h : f.value = f'.value) : f = f' := by
  cases f <;> cases f' <;> first | rfl | simp [AudioFormat.value] at h

def ImageUrl.declared (url : ImageUrl) : List (String × Option Json) :=
  [("url", some (.str url.url)), ("detail", url.detail.map (fun d => .str d.value))]

theorem ImageUrl.namedDict (url : ImageUrl) : NamedDict url.declared [] := by
  apply namedDict_of_values
  · simp [ImageUrl.declared]
  · simp only [ImageUrl.declared, List.forall_mem_cons]
    exact ⟨uniqueKeys_some (uniqueKeys_str _), uniqueKeys_map (fun _ _ => uniqueKeys_str _), by simp⟩

theorem ImageUrl.same_iff (url url' : ImageUrl) :
    (dict url.declared []).Same (dict url'.declared []) ↔ url = url' := by
  have hnames : url.declared.map Prod.fst = url'.declared.map Prod.fst := rfl
  have hdetail : Option.Rel Json.Same (url.detail.map (fun d => .str d.value))
      (url'.detail.map (fun d => .str d.value)) ↔ url.detail = url'.detail := by
    apply rel_map_eq_iff
    intro d d'
    rw [same_str]
    exact ⟨ImageDetail.value_injective, congrArg _⟩
  refine Iff.trans (same_dict_iff hnames url.namedDict url'.namedDict) ?_
  simp only [ImageUrl.declared, List.map_cons, List.map_nil, List.forall₂_cons, rel_some_iff,
    same_str, hdetail, List.Forall₂.nil, same_nil, and_true]
  obtain ⟨text, detail⟩ := url
  obtain ⟨text', detail'⟩ := url'
  rw [ImageUrl.mk.injEq]

def InputAudio.declared (input : InputAudio) : List (String × Option Json) :=
  [("data", some (.str input.data)), ("format", some (.str input.format.value))]

theorem InputAudio.namedDict (input : InputAudio) : NamedDict input.declared [] := by
  apply namedDict_of_values
  · simp [InputAudio.declared]
  · simp only [InputAudio.declared, List.forall_mem_cons]
    exact ⟨uniqueKeys_some (uniqueKeys_str _), uniqueKeys_some (uniqueKeys_str _), by simp⟩

theorem InputAudio.same_iff (input input' : InputAudio) :
    (dict input.declared []).Same (dict input'.declared []) ↔ input = input' := by
  have hnames : input.declared.map Prod.fst = input'.declared.map Prod.fst := rfl
  have hformat : input.format.value = input'.format.value ↔ input.format = input'.format :=
    ⟨AudioFormat.value_injective, congrArg _⟩
  refine Iff.trans (same_dict_iff hnames input.namedDict input'.namedDict) ?_
  simp only [InputAudio.declared, List.map_cons, List.map_nil, List.forall₂_cons, rel_some_iff,
    same_str, hformat, List.Forall₂.nil, same_nil, and_true]
  obtain ⟨data, format⟩ := input
  obtain ⟨data', format'⟩ := input'
  rw [InputAudio.mk.injEq]

/-- The dictionary of a part that holds another one. -/
def wrapped (kind : String) (inner : JsonObj) : List (String × Option Json) :=
  [("type", some (.str kind)), (kind, some (.obj inner))]

theorem wrapped_namedDict {kind : String} (hkind : kind ≠ "type") {inner : JsonObj}
    (h : inner.UniqueKeys) : NamedDict (wrapped kind inner) [] := by
  apply namedDict_of_values
  · simp [wrapped, hkind.symm]
  · simp only [wrapped, List.forall_mem_cons]
    exact ⟨uniqueKeys_some (uniqueKeys_str _), uniqueKeys_some h, by simp⟩

theorem wrapped_same_iff {kind : String} (hkind : kind ≠ "type") {inner inner' : JsonObj}
    (h : inner.UniqueKeys) (h' : inner'.UniqueKeys) :
    (dict (wrapped kind inner) []).Same (dict (wrapped kind inner') []) ↔ inner.Same inner' := by
  have hnames : (wrapped kind inner).map Prod.fst = (wrapped kind inner').map Prod.fst := rfl
  refine Iff.trans (same_dict_iff hnames (wrapped_namedDict hkind h) (wrapped_namedDict hkind h')) ?_
  simp only [wrapped, List.map_cons, List.map_nil, List.forall₂_cons, rel_some_iff, same_str,
    List.Forall₂.nil, same_nil, and_true, true_and]
  exact Iff.rfl

theorem dump_image_eq (url : ImageUrl) :
    (ContentPart.image url).dump = .obj (dict (wrapped "image_url" (dict url.declared [])) []) := by
  obtain ⟨text, detail⟩ := url
  cases detail <;> rfl

theorem dump_audio_eq (input : InputAudio) : (ContentPart.audio input).dump =
    .obj (dict (wrapped "input_audio" (dict input.declared [])) []) := rfl

theorem ContentPart.uniqueKeys_dump {p : ContentPart} (h : p.Decoded) : p.dump.UniqueKeys := by
  cases p with
  | text p => exact TextPart.uniqueKeys_dump h
  | image url =>
    rw [dump_image_eq]
    exact (wrapped_namedDict (by decide) url.namedDict.uniqueKeys).uniqueKeys
  | audio input =>
    rw [dump_audio_eq]
    exact (wrapped_namedDict (by decide) input.namedDict.uniqueKeys).uniqueKeys

theorem same_image_iff (url url' : ImageUrl) :
    Json.Same (ContentPart.image url).dump (ContentPart.image url').dump ↔ url = url' := by
  rw [dump_image_eq, dump_image_eq, ← url.same_iff url']
  exact wrapped_same_iff (by decide) url.namedDict.uniqueKeys url'.namedDict.uniqueKeys

theorem same_audio_iff (input input' : InputAudio) :
    Json.Same (ContentPart.audio input).dump (ContentPart.audio input').dump ↔ input = input' := by
  rw [dump_audio_eq, dump_audio_eq, ← input.same_iff input']
  exact wrapped_same_iff (by decide) input.namedDict.uniqueKeys input'.namedDict.uniqueKeys

/-- The kind of a part, as its dictionary names it. -/
def ContentPart.type : ContentPart → String
  | .text _ => "text"
  | .image _ => "image_url"
  | .audio _ => "input_audio"

/-- Dictionaries that are equal have the same first field, where the keys of both begin alike. -/
theorem same_head {key : String} {value value' : Json} {d d' : JsonObj}
    (h : Json.Same (.obj ((key, value) :: d)) (.obj ((key, value') :: d'))) :
    Json.Same value value' := by
  rw [Json.Same, Json.SameFields] at h
  obtain ⟨-, ⟨v, hv, hsame⟩, -⟩ := h
  rw [List.lookup_cons, beq_self_eq_true] at hv
  rw [Option.some.inj hv]
  exact hsame

theorem ContentPart.dump_type (p : ContentPart) :
    ∃ rest, p.dump = .obj (("type", .str p.type) :: rest) := by
  cases p with
  | text p => exact ⟨_, rfl⟩
  | image url => exact ⟨_, rfl⟩
  | audio input => exact ⟨_, rfl⟩

theorem ContentPart.same_dump_iff {p p' : ContentPart} (h : p.Decoded) (h' : p'.Decoded) :
    Json.Same p.dump p'.dump ↔ p.Same p' := by
  have htypes : Json.Same p.dump p'.dump → p.type = p'.type := by
    intro hsame
    obtain ⟨rest, hrest⟩ := p.dump_type
    obtain ⟨rest', hrest'⟩ := p'.dump_type
    rw [hrest, hrest'] at hsame
    exact (same_str _ _).mp (same_head hsame)
  cases p with
  | text p =>
    cases p' with
    | text p' => exact TextPart.same_dump_iff h h'
    | image url' => exact ⟨fun hs => absurd (htypes hs) (by simp [ContentPart.type]), fun hs => (by cases hs)⟩
    | audio input' => exact ⟨fun hs => absurd (htypes hs) (by simp [ContentPart.type]), fun hs => (by cases hs)⟩
  | image url =>
    cases p' with
    | text p' => exact ⟨fun hs => absurd (htypes hs) (by simp [ContentPart.type]), fun hs => (by cases hs)⟩
    | image url' =>
      rw [same_image_iff, ContentPart.Same, ContentPart.image.injEq]
      simp
    | audio input' => exact ⟨fun hs => absurd (htypes hs) (by simp [ContentPart.type]), fun hs => (by cases hs)⟩
  | audio input =>
    cases p' with
    | text p' => exact ⟨fun hs => absurd (htypes hs) (by simp [ContentPart.type]), fun hs => (by cases hs)⟩
    | image url' => exact ⟨fun hs => absurd (htypes hs) (by simp [ContentPart.type]), fun hs => (by cases hs)⟩
    | audio input' =>
      rw [same_audio_iff, ContentPart.Same, ContentPart.audio.injEq]
      simp

section Contents

variable {P : Type} {part : P → Json} {decoded : P → Prop} {same : P → P → Prop}

theorem Content.uniqueKeys_dump (hpart : ∀ p, decoded p → (part p).UniqueKeys) {c : Content P}
    (h : c.Decoded decoded) : (c.dump part).UniqueKeys := by
  cases c with
  | str s => exact uniqueKeys_str s
  | parts ps => exact uniqueKeys_arr_map (fun p hp => hpart p (h p hp))

theorem Content.same_dump_iff
    (hpart : ∀ p p', decoded p → decoded p' → (Json.Same (part p) (part p') ↔ same p p'))
    {c c' : Content P} (h : c.Decoded decoded) (h' : c'.Decoded decoded) :
    Json.Same (c.dump part) (c'.dump part) ↔ c.Same same c' := by
  cases c with
  | str s =>
    cases c' with
    | str s' => exact same_str s s'
    | parts ps' => simp [Content.dump, Content.Same, Json.Same]
  | parts ps =>
    cases c' with
    | str s' => simp [Content.dump, Content.Same, Json.Same]
    | parts ps' => exact same_arr_map_iff (fun p hp p' hp' => hpart p p' (h p hp) (h' p' hp'))

end Contents

/-! ## Messages -/

def FunctionCall.declared (f : FunctionCall) : List (String × Option Json) :=
  [("name", some (.str f.name)), ("arguments", some (.str f.arguments))]

theorem FunctionCall.namedDict (f : FunctionCall) : NamedDict f.declared [] := by
  apply namedDict_of_values
  · simp [FunctionCall.declared]
  · simp only [FunctionCall.declared, List.forall_mem_cons]
    exact ⟨uniqueKeys_some (uniqueKeys_str _), uniqueKeys_some (uniqueKeys_str _), by simp⟩

theorem FunctionCall.same_dump_iff (f f' : FunctionCall) : Json.Same f.dump f'.dump ↔ f = f' := by
  have hnames : f.declared.map Prod.fst = f'.declared.map Prod.fst := rfl
  refine Iff.trans (same_dict_iff hnames f.namedDict f'.namedDict) ?_
  simp only [FunctionCall.declared, List.map_cons, List.map_nil, List.forall₂_cons, rel_some_iff,
    same_str, List.Forall₂.nil, same_nil, and_true]
  obtain ⟨name, arguments⟩ := f
  obtain ⟨name', arguments'⟩ := f'
  rw [FunctionCall.mk.injEq]

def ToolCall.declared (c : ToolCall) : List (String × Option Json) :=
  [("id", some (.str c.id)), ("type", some (.str "function")), ("function", some c.function.dump)]

theorem ToolCall.namedDict (c : ToolCall) : NamedDict c.declared [] := by
  apply namedDict_of_values
  · simp [ToolCall.declared]
  · have hfunction : c.function.dump.UniqueKeys := c.function.namedDict.uniqueKeys
    simp only [ToolCall.declared, List.forall_mem_cons]
    exact ⟨uniqueKeys_some (uniqueKeys_str _), uniqueKeys_some (uniqueKeys_str _),
      uniqueKeys_some hfunction, by simp⟩

theorem ToolCall.uniqueKeys_dump (c : ToolCall) : c.dump.UniqueKeys := c.namedDict.uniqueKeys

theorem ToolCall.same_dump_iff (c c' : ToolCall) : Json.Same c.dump c'.dump ↔ c = c' := by
  have hnames : c.declared.map Prod.fst = c'.declared.map Prod.fst := rfl
  refine Iff.trans (same_dict_iff hnames c.namedDict c'.namedDict) ?_
  simp only [ToolCall.declared, List.map_cons, List.map_nil, List.forall₂_cons, rel_some_iff,
    same_str, FunctionCall.same_dump_iff, List.Forall₂.nil, same_nil, and_true, true_and]
  obtain ⟨id, function⟩ := c
  obtain ⟨id', function'⟩ := c'
  rw [ToolCall.mk.injEq]

theorem same_toolCalls_iff (cs cs' : List ToolCall) :
    Json.Same (.arr (cs.map ToolCall.dump)) (.arr (cs'.map ToolCall.dump)) ↔ cs = cs' := by
  rw [← forall₂_eq_iff]
  exact same_arr_map_iff (fun c _ c' _ => c.same_dump_iff c')

/-- The declared fields of a message. -/
def Message.declared : Message → List (String × Option Json)
  | .system m => [("role", some (.str "system")), ("content", some (m.content.dump TextPart.dump)),
      ("name", m.name.map .str)]
  | .user m => [("role", some (.str "user")), ("content", some (m.content.dump ContentPart.dump)),
      ("name", m.name.map .str)]
  | .assistant m => [("role", some (.str "assistant")),
      ("content", m.content.map (fun c => c.dump TextPart.dump)), ("name", m.name.map .str),
      ("tool_calls", m.toolCalls.map (fun cs => .arr (cs.map ToolCall.dump))),
      ("refusal", m.refusal.map .str)]
  | .tool m => [("role", some (.str "tool")), ("content", some (m.content.dump TextPart.dump)),
      ("tool_call_id", some (.str m.toolCallId))]

/-- The fields a client added. -/
def Message.added : Message → JsonObj
  | .system m => m.extra
  | .user m => m.extra
  | .assistant m => m.extra
  | .tool m => m.extra

theorem Message.dump_eq (m : Message) : m.dump = .obj (dict m.declared (dumpExtra m.added)) := by
  cases m <;>
    simp only [Message.dump, Message.declared, Message.added, dict_cons, field, List.append_assoc,
      List.cons_append, List.nil_append] <;> rfl

theorem DecodedExtra.namedDict {declared : List (String × Option Json)} {extra : JsonObj}
    (h : DecodedExtra (declared.map Prod.fst) extra) (hnodup : (declared.map Prod.fst).Nodup)
    (hvalues : ∀ p ∈ declared, ∀ v ∈ p.2, v.UniqueKeys) :
    NamedDict declared (dumpExtra extra) where
  nodup := hnodup
  added := fun p hp => h.added p (List.mem_of_mem_filter hp)
  values := hvalues
  unique := uniqueKeys_sublist List.filter_sublist h.unique

theorem uniqueKeys_text {c : Content TextPart} (h : c.Decoded TextPart.Decoded) :
    (c.dump TextPart.dump).UniqueKeys :=
  Content.uniqueKeys_dump (fun _ hp => TextPart.uniqueKeys_dump hp) h

theorem Message.namedDict {m : Message} (h : m.Decoded) :
    NamedDict m.declared (dumpExtra m.added) := by
  have hstr : ∀ o : Option String, ∀ v ∈ o.map Json.str, v.UniqueKeys := fun _ =>
    uniqueKeys_map (fun _ _ => uniqueKeys_str _)
  have hsome : ∀ s : String, ∀ v ∈ some (Json.str s), v.UniqueKeys := fun _ =>
    uniqueKeys_some (uniqueKeys_str _)
  cases m with
  | system m =>
    have hextra : DecodedExtra ((Message.system m).declared.map Prod.fst) m.extra := h.2
    apply hextra.namedDict (by simp [Message.declared])
    simp only [Message.declared, List.forall_mem_cons]
    exact ⟨hsome _, uniqueKeys_some (uniqueKeys_text h.1), hstr _, by simp⟩
  | user m =>
    have hcontent : (m.content.dump ContentPart.dump).UniqueKeys :=
      Content.uniqueKeys_dump (fun _ hp => ContentPart.uniqueKeys_dump hp) h.1
    have hextra : DecodedExtra ((Message.user m).declared.map Prod.fst) m.extra := h.2
    apply hextra.namedDict (by simp [Message.declared])
    simp only [Message.declared, List.forall_mem_cons]
    exact ⟨hsome _, uniqueKeys_some hcontent, hstr _, by simp⟩
  | assistant m =>
    have hextra : DecodedExtra ((Message.assistant m).declared.map Prod.fst) m.extra := h.2
    apply hextra.namedDict (by simp [Message.declared])
    simp only [Message.declared, List.forall_mem_cons]
    exact ⟨hsome _, uniqueKeys_map (fun c hc => uniqueKeys_text (h.1 c hc)), hstr _,
      uniqueKeys_map (fun _ _ => uniqueKeys_arr_map (fun c _ => c.uniqueKeys_dump)), hstr _, by simp⟩
  | tool m =>
    have hextra : DecodedExtra ((Message.tool m).declared.map Prod.fst) m.extra := h.2
    apply hextra.namedDict (by simp [Message.declared])
    simp only [Message.declared, List.forall_mem_cons]
    exact ⟨hsome _, uniqueKeys_some (uniqueKeys_text h.1), hsome _, by simp⟩

theorem Message.uniqueKeys_dump {m : Message} (h : m.Decoded) : m.dump.UniqueKeys := by
  rw [Message.dump_eq]
  exact (Message.namedDict h).uniqueKeys

def Message.role : Message → String
  | .system _ => "system"
  | .user _ => "user"
  | .assistant _ => "assistant"
  | .tool _ => "tool"

theorem Message.dump_role (m : Message) : ∃ rest, m.dump = .obj (("role", .str m.role) :: rest) := by
  cases m with
  | system m => exact ⟨_, rfl⟩
  | user m => exact ⟨_, rfl⟩
  | assistant m => exact ⟨_, rfl⟩
  | tool m => exact ⟨_, rfl⟩

theorem Message.role_of_same {m m' : Message} (h : Json.Same m.dump m'.dump) : m.role = m'.role := by
  obtain ⟨rest, hrest⟩ := m.dump_role
  obtain ⟨rest', hrest'⟩ := m'.dump_role
  rw [hrest, hrest'] at h
  exact (same_str _ _).mp (same_head h)

theorem same_text_content_iff {c c' : Content TextPart} (h : c.Decoded TextPart.Decoded)
    (h' : c'.Decoded TextPart.Decoded) :
    Json.Same (c.dump TextPart.dump) (c'.dump TextPart.dump) ↔ c.Same TextPart.Same c' :=
  Content.same_dump_iff (fun _ _ hp hp' => TextPart.same_dump_iff hp hp') h h'

/-- Two messages have the same dictionary exactly when they agree. -/
theorem Message.same_dump_iff {m m' : Message} (h : m.Decoded) (h' : m'.Decoded) :
    Json.Same m.dump m'.dump ↔ m.Same m' := by
  have hdict : m.declared.map Prod.fst = m'.declared.map Prod.fst →
      (Json.Same m.dump m'.dump ↔ List.Forall₂ (Option.Rel Json.Same) (m.declared.map Prod.snd)
        (m'.declared.map Prod.snd) ∧ SameExtra m.added m'.added) := by
    intro hnames
    rw [Message.dump_eq, Message.dump_eq]
    exact same_dict_iff hnames (Message.namedDict h) (Message.namedDict h')
  by_cases hrole : m.role = m'.role
  · cases m with
    | system m =>
      cases m' with
      | system m' =>
        rw [hdict rfl]
        simp only [Message.declared, Message.added, List.map_cons, List.map_nil, List.forall₂_cons,
          rel_some_iff, same_str, same_text_content_iff h.1 h'.1, rel_map_eq_iff same_str,
          List.Forall₂.nil, and_true, true_and, Message.Same]
        exact ⟨fun ⟨⟨hc, hn⟩, he⟩ => ⟨hc, hn, he⟩, fun hs => ⟨⟨hs.content, hs.name⟩, hs.extra⟩⟩
      | _ => simp [Message.role] at hrole
    | user m =>
      cases m' with
      | user m' =>
        have hcontent : Json.Same (m.content.dump ContentPart.dump)
            (m'.content.dump ContentPart.dump) ↔ m.content.Same ContentPart.Same m'.content :=
          Content.same_dump_iff (fun _ _ hp hp' => ContentPart.same_dump_iff hp hp') h.1 h'.1
        rw [hdict rfl]
        simp only [Message.declared, Message.added, List.map_cons, List.map_nil, List.forall₂_cons,
          rel_some_iff, same_str, hcontent, rel_map_eq_iff same_str, List.Forall₂.nil, and_true,
          true_and, Message.Same]
        exact ⟨fun ⟨⟨hc, hn⟩, he⟩ => ⟨hc, hn, he⟩, fun hs => ⟨⟨hs.content, hs.name⟩, hs.extra⟩⟩
      | _ => simp [Message.role] at hrole
    | assistant m =>
      cases m' with
      | assistant m' =>
        have hcontent : Option.Rel Json.Same (m.content.map (fun c => c.dump TextPart.dump))
            (m'.content.map (fun c => c.dump TextPart.dump)) ↔
            Option.Rel (Content.Same TextPart.Same) m.content m'.content :=
          rel_map_iff (fun c hc c' hc' => same_text_content_iff (h.1 c hc) (h'.1 c' hc'))
        rw [hdict rfl]
        simp only [Message.declared, Message.added, List.map_cons, List.map_nil, List.forall₂_cons,
          rel_some_iff, same_str, hcontent, rel_map_eq_iff same_str,
          rel_map_eq_iff same_toolCalls_iff, List.Forall₂.nil, and_true, true_and, Message.Same]
        exact ⟨fun ⟨⟨hc, hn, ht, hr⟩, he⟩ => ⟨hc, hn, ht, hr, he⟩,
          fun hs => ⟨⟨hs.content, hs.name, hs.toolCalls, hs.refusal⟩, hs.extra⟩⟩
      | _ => simp [Message.role] at hrole
    | tool m =>
      cases m' with
      | tool m' =>
        rw [hdict rfl]
        simp only [Message.declared, Message.added, List.map_cons, List.map_nil, List.forall₂_cons,
          rel_some_iff, same_str, same_text_content_iff h.1 h'.1, List.Forall₂.nil, and_true,
          true_and, Message.Same]
        exact ⟨fun ⟨⟨hc, hn⟩, he⟩ => ⟨hc, hn, he⟩, fun hs => ⟨⟨hs.content, hs.toolCallId⟩, hs.extra⟩⟩
      | _ => simp [Message.role] at hrole
  · constructor
    · intro hsame
      exact absurd (Message.role_of_same hsame) hrole
    · intro hsame
      cases m <;> cases m' <;> first | exact absurd rfl hrole | exact hsame.elim

end ModelMeld
