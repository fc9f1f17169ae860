import ModelMeld.Lib.Lines
import ModelMeld.Proof.DumpedMessages
import ModelMeld.Spec.Postgres

/-!
# What a key of the exact-match cache stands for

A key is a text made of the tenant and a digest of the request with its keys
sorted. Where the digest tells the sorted dictionaries of two requests apart,
their keys are equal exactly when the tenants are, the pinned models are, and the
requests agree on every other field that is kept (`exact_keys_iff`).
-/

namespace ModelMeld

/-! ## Parameters -/

theorem ResponseFormatType.value_injective {a b : ResponseFormatType} (h : a.value = b.value) :
    a = b := by
  cases a <;> cases b <;> first | rfl | simp [ResponseFormatType.value] at h

theorem ReasoningEffort.value_injective {a b : ReasoningEffort} (h : a.value = b.value) :
    a = b := by
  cases a <;> cases b <;> first | rfl | simp [ReasoningEffort.value] at h

def ResponseFormat.declared (f : ResponseFormat) : List (String × Option Json) :=
  [("type", some (.str f.type.value)), ("json_schema", f.jsonSchema.map .obj)]

theorem ResponseFormat.dump_eq (f : ResponseFormat) : f.dump = .obj (dict f.declared []) := by
  obtain ⟨type, schema⟩ := f
  cases schema <;> rfl

theorem ResponseFormat.namedDict {f : ResponseFormat}
    (h : ∀ d ∈ f.jsonSchema, JsonObj.UniqueKeys d) : NamedDict f.declared [] := by
  apply namedDict_of_values
  · simp [ResponseFormat.declared]
  · simp only [ResponseFormat.declared, List.forall_mem_cons]
    exact ⟨uniqueKeys_some (uniqueKeys_str _), uniqueKeys_map h, by simp⟩

theorem ResponseFormat.same_dump_iff {f f' : ResponseFormat}
    (h : ∀ d ∈ f.jsonSchema, JsonObj.UniqueKeys d)
    (h' : ∀ d ∈ f'.jsonSchema, JsonObj.UniqueKeys d) : Json.Same f.dump f'.dump ↔ f.Same f' := by
  have hnames : f.declared.map Prod.fst = f'.declared.map Prod.fst := rfl
  have htype : f.type.value = f'.type.value ↔ f.type = f'.type :=
    ⟨ResponseFormatType.value_injective, congrArg _⟩
  have hschema : Option.Rel Json.Same (f.jsonSchema.map .obj) (f'.jsonSchema.map .obj) ↔
      Option.Rel JsonObj.Same f.jsonSchema f'.jsonSchema :=
    rel_map_iff (fun _ _ _ _ => Iff.rfl)
  rw [ResponseFormat.dump_eq, ResponseFormat.dump_eq]
  refine Iff.trans (same_dict_iff hnames (namedDict h) (namedDict h')) ?_
  simp only [ResponseFormat.declared, List.map_cons, List.map_nil, List.forall₂_cons, rel_some_iff,
    same_str, htype, hschema, List.Forall₂.nil, same_nil, and_true]
  exact ⟨fun ⟨ht, hs⟩ => ⟨ht, hs⟩, fun hs => ⟨hs.type, hs.jsonSchema⟩⟩

theorem Stop.same_dump_iff (s s' : Stop) : Json.Same s.dump s'.dump ↔ s = s' := by
  cases s with
  | one s =>
    cases s' with
    | one s' => rw [Stop.dump, Stop.dump, same_str, Stop.one.injEq]
    | many ss' => simp [Stop.dump, Json.Same]
  | many ss =>
    cases s' with
    | one s' => simp [Stop.dump, Json.Same]
    | many ss' =>
      rw [Stop.many.injEq, ← forall₂_eq_iff]
      exact same_arr_map_iff (fun a _ b _ => same_str a b)

theorem Stop.uniqueKeys_dump (s : Stop) : s.dump.UniqueKeys := by
  cases s with
  | one s => exact uniqueKeys_str s
  | many ss => exact uniqueKeys_arr_map (fun s _ => uniqueKeys_str s)

theorem ToolChoice.same_dump_iff (c c' : ToolChoice) : Json.Same c.dump c'.dump ↔ c.Same c' := by
  cases c with
  | mode s =>
    cases c' with
    | mode s' => exact same_str s s'
    | named choice' => simp [ToolChoice.dump, ToolChoice.Same, Json.Same]
  | named choice =>
    cases c' with
    | mode s' => simp [ToolChoice.dump, ToolChoice.Same, Json.Same]
    | named choice' => exact Iff.rfl

theorem ToolChoice.uniqueKeys_dump {c : ToolChoice} (h : c.Decoded) : c.dump.UniqueKeys := by
  cases c with
  | mode s => exact uniqueKeys_str s
  | named choice => exact h

/-- `dict[str, int]` as a dictionary of JSON values. -/
def intFields (b : List (String × ℤ)) : JsonObj := b.map (fun p => (p.1, .int p.2))

theorem intFields_uniqueKeys {b : List (String × ℤ)} (h : (b.map Prod.fst).Nodup) :
    (intFields b).UniqueKeys := by
  unfold JsonObj.UniqueKeys intFields
  rw [Json.UniqueKeys, List.map_map, Json.uniqueFields_iff]
  refine ⟨h, ?_⟩
  intro p hp
  obtain ⟨q, -, rfl⟩ := List.mem_map.mp hp
  simp [Json.UniqueKeys]

theorem same_intFields_iff {b b' : List (String × ℤ)} (h : (b.map Prod.fst).Nodup)
    (h' : (b'.map Prod.fst).Nodup) : (intFields b).Same (intFields b') ↔ b.Perm b' := by
  have hsorted : ∀ c : List (String × ℤ), (intFields c).map Json.sortedInside = intFields c := by
    intro c
    unfold intFields
    rw [List.map_map]
    rfl
  rw [same_iff_perm (intFields_uniqueKeys h) (intFields_uniqueKeys h'), hsorted, hsorted]
  constructor
  · intro hperm
    apply (List.map_perm_map_iff ?_).mp hperm
    rintro ⟨k, n⟩ ⟨k', n'⟩ heq
    obtain ⟨hk, hn⟩ := Prod.mk.inj heq
    exact Prod.ext hk (Json.int.inj hn)
  · exact fun hperm => hperm.map _

theorem hasTools_nil {r : ChatCompletionRequest} (h : r.hasTools = false) :
    ∀ ts ∈ r.tools, ts = [] := by
  intro ts hts
  have hts : r.tools = some ts := hts
  unfold ChatCompletionRequest.hasTools at h
  rw [hts] at h
  cases ts with
  | nil => rfl
  | cons t ts => simp at h

theorem same_tools_iff {r r' : ChatCompletionRequest} (h : r.hasTools = false)
    (h' : r'.hasTools = false) :
    Option.Rel Json.Same (r.tools.map (fun ts => .arr (ts.map Tool.dump)))
      (r'.tools.map (fun ts => .arr (ts.map Tool.dump))) ↔ r.tools = r'.tools := by
  rw [← rel_eq_iff]
  apply rel_map_iff
  intro ts hts ts' hts'
  rw [hasTools_nil h ts hts, hasTools_nil h' ts' hts']
  simp [Json.Same, Json.SameItems]

/-! ## Requests -/

/-- The declared fields of a request but the model, in the order they are written. -/
def ChatCompletionRequest.declared (r : ChatCompletionRequest) : List (String × Option Json) :=
  [("messages", some (.arr (r.messages.map Message.dump))),
    ("frequency_penalty", r.frequencyPenalty.map .float),
    ("logit_bias", r.logitBias.map (fun b => .obj (intFields b))),
    ("logprobs", r.logprobs.map .bool), ("top_logprobs", r.topLogprobs.map .int),
    ("max_tokens", r.maxTokens.map .int),
    ("max_completion_tokens", r.maxCompletionTokens.map .int), ("n", r.n.map .int),
    ("presence_penalty", r.presencePenalty.map .float),
    ("response_format", r.responseFormat.map ResponseFormat.dump), ("seed", r.seed.map .int),
    ("stop", r.stop.map Stop.dump), ("stream", r.stream.map .bool),
    ("stream_options", r.streamOptions.map StreamOptions.dump),
    ("temperature", r.temperature.map .float), ("top_p", r.topP.map .float),
    ("tools", r.tools.map (fun ts => .arr (ts.map Tool.dump))),
    ("tool_choice", r.toolChoice.map ToolChoice.dump),
    ("parallel_tool_calls", r.parallelToolCalls.map .bool), ("user", r.user.map .str),
    ("reasoning_effort", r.reasoningEffort.map (fun e => .str e.value))]

/-- The fields that a key is made of. -/
def ChatCompletionRequest.keyed (r : ChatCompletionRequest) (model : String) :
    List (String × Option Json) :=
  ("model", some (.str model)) :: r.declared.filter (fun p => p.1 ∉ nonSemanticFields)

theorem dump_eq_dict (r : ChatCompletionRequest) :
    r.dump = dict (("model", some (.str r.model)) :: r.declared) (dumpExtra r.extra) := by
  have hnil : dict [] (dumpExtra r.extra) = dumpExtra r.extra := rfl
  unfold ChatCompletionRequest.declared ChatCompletionRequest.dump
  simp only [dict_cons]
  rw [hnil]
  simp only [List.append_assoc]
  unfold intFields
  rfl

theorem filter_dict (keep : String → Bool) (declared : List (String × Option Json))
    (extra : JsonObj) : (dict declared extra).filter (fun p => keep p.1) =
      dict (declared.filter (fun p => keep p.1)) (extra.filter (fun p => keep p.1)) := by
  induction declared with
  | nil => rfl
  | cons p declared ih =>
    obtain ⟨key, value⟩ := p
    rw [dict_cons, List.filter_append, ih, List.filter_cons]
    cases hkey : keep key with
    | true =>
      simp only [if_true, dict_cons]
      congr 1
      cases value <;> simp [field, hkey]
    | false =>
      cases value <;> simp [field, hkey]

theorem declared_names (r : ChatCompletionRequest) :
    "model" :: r.declared.map Prod.fst = requestFields := rfl

theorem keyed_names (r : ChatCompletionRequest) (model : String) :
    (r.keyed model).map Prod.fst = requestFields.filter (· ∉ nonSemanticFields) := by
  have hmodel : "model" ∉ nonSemanticFields := by decide
  rw [← declared_names r, ChatCompletionRequest.keyed, List.map_cons,
    List.filter_cons_of_pos (by simpa using hmodel), List.filter_map]
  simp only [Function.comp_def]

variable {r r' : ChatCompletionRequest} {served served' : Option String}

theorem keyed_values (r : ChatCompletionRequest) (model : String) : (r.keyed model).map Prod.snd =
    [some (.str model), some (.arr (r.messages.map Message.dump)), r.frequencyPenalty.map .float,
      r.logitBias.map (fun b => .obj (intFields b)), r.logprobs.map .bool, r.topLogprobs.map .int,
      r.maxTokens.map .int, r.maxCompletionTokens.map .int, r.n.map .int,
      r.presencePenalty.map .float, r.responseFormat.map ResponseFormat.dump, r.seed.map .int,
      r.stop.map Stop.dump, r.temperature.map .float, r.topP.map .float,
      r.tools.map (fun ts => .arr (ts.map Tool.dump)), r.toolChoice.map ToolChoice.dump,
      r.parallelToolCalls.map .bool, r.reasoningEffort.map (fun e => .str e.value)] := by
  unfold ChatCompletionRequest.keyed ChatCompletionRequest.declared
  simp [nonSemanticFields]

/-- The pinned model and the kept fields, as a dictionary. -/
theorem canonicalize_eq (h : ∀ p ∈ r.extra, p.1 ∉ requestFields) :
    canonicalize r served = dict (r.keyed (pinnedModel r served)) r.keyedExtra := by
  have hmodel : "model" ∉ nonSemanticFields := by decide
  have hraw : r.dump.filter (fun p => p.1 ∉ nonSemanticFields) =
      dict (r.keyed r.model) r.keyedExtra := by
    rw [dump_eq_dict, filter_dict (fun key => decide (key ∉ nonSemanticFields)),
      List.filter_cons_of_pos (by simpa using hmodel)]
    rfl
  have hkeys : ∀ p ∈ dict (r.declared.filter (fun p => p.1 ∉ nonSemanticFields)) r.keyedExtra,
      p.1 ≠ "model" := by
    intro p hp hname
    rcases List.mem_append.mp hp with hdeclared | hextra
    · obtain ⟨q, hq, hfield⟩ := List.mem_filterMap.mp hdeclared
      obtain ⟨v, -, rfl⟩ := Option.map_eq_some_iff.mp hfield
      have hmem : q.1 ∈ r.declared.map Prod.fst :=
        List.mem_map_of_mem (List.mem_of_mem_filter hq)
      rw [hname] at hmem
      have hnodup : requestFields.Nodup := by decide
      rw [← declared_names r, List.nodup_cons] at hnodup
      exact hnodup.1 hmem
    · apply h p (List.mem_of_mem_filter (List.mem_of_mem_filter hextra))
      rw [hname]
      exact List.mem_cons_self
  have hpin : ∀ m : String, (dict (r.keyed r.model) r.keyedExtra).map
      (fun p => if p.1 = "model" then ("model", Json.str m) else p) =
      dict (r.keyed m) r.keyedExtra := by
    intro m
    have hrest : (dict (r.declared.filter (fun p => p.1 ∉ nonSemanticFields)) r.keyedExtra).map
        (fun p => if p.1 = "model" then ("model", Json.str m) else p) =
        dict (r.declared.filter (fun p => p.1 ∉ nonSemanticFields)) r.keyedExtra := by
      refine Eq.trans (List.map_congr_left ?_) (List.map_id _)
      intro p hp
      exact if_neg (hkeys p hp)
    rw [ChatCompletionRequest.keyed, ChatCompletionRequest.keyed, dict_cons, dict_cons,
      List.map_append, hrest]
    rfl
  unfold canonicalize pinnedModel
  rw [hraw]
  cases served with
  | none => rfl
  | some m =>
    rw [Option.getD_some]
    by_cases hm : m = ""
    · rw [if_pos hm]
      simp only [if_pos hm]
    · rw [if_neg hm]
      simp only [if_neg hm]
      exact hpin m

namespace DecodedRequest

variable (d d' : DecodedRequest)

theorem values (h : d.request.hasTools = false) :
    ∀ p ∈ d.request.declared, ∀ v ∈ p.2, v.UniqueKeys := by
  have hint : ∀ o : Option ℤ, ∀ v ∈ o.map Json.int, v.UniqueKeys := fun _ =>
    uniqueKeys_map (fun _ _ => by simp [Json.UniqueKeys])
  have hfloat : ∀ o : Option ℚ, ∀ v ∈ o.map Json.float, v.UniqueKeys := fun _ =>
    uniqueKeys_map (fun _ _ => by simp [Json.UniqueKeys])
  have hbool : ∀ o : Option Bool, ∀ v ∈ o.map Json.bool, v.UniqueKeys := fun _ =>
    uniqueKeys_map (fun _ _ => by simp [Json.UniqueKeys])
  have hmessages : Json.UniqueKeys (.arr (d.request.messages.map Message.dump)) :=
    uniqueKeys_arr_map (fun m hm => Message.uniqueKeys_dump (d.messages m hm))
  have hformat : ∀ v ∈ d.request.responseFormat.map ResponseFormat.dump, v.UniqueKeys := by
    apply uniqueKeys_map
    intro f hf
    rw [ResponseFormat.dump_eq]
    exact (ResponseFormat.namedDict (d.responseFormat f hf)).uniqueKeys
  have hoptions : ∀ o : StreamOptions, o.dump.UniqueKeys := by
    rintro ⟨usage⟩
    cases usage <;>
      simp [StreamOptions.dump, field, Json.UniqueKeys, Json.UniqueFields]
  have htools : ∀ ts ∈ d.request.tools, Json.UniqueKeys (.arr (ts.map Tool.dump)) := by
    intro ts hts
    rw [hasTools_nil h ts hts]
    exact uniqueKeys_arr_map (by simp)
  simp only [ChatCompletionRequest.declared, List.forall_mem_cons]
  exact ⟨uniqueKeys_some hmessages, hfloat _,
    uniqueKeys_map (fun b hb => intFields_uniqueKeys (d.logitBias b hb)), hbool _, hint _, hint _,
    hint _, hint _, hfloat _, hformat, hint _, uniqueKeys_map (fun s _ => s.uniqueKeys_dump),
    hbool _, uniqueKeys_map (fun o _ => hoptions o), hfloat _, hfloat _, uniqueKeys_map htools,
    uniqueKeys_map (fun c hc => ToolChoice.uniqueKeys_dump (d.toolChoice c hc)), hbool _,
    uniqueKeys_map (fun _ _ => uniqueKeys_str _), uniqueKeys_map (fun _ _ => uniqueKeys_str _),
    by simp⟩

theorem namedDict (h : d.request.hasTools = false) (model : String) :
    NamedDict (d.request.keyed model) d.request.keyedExtra where
  nodup := by
    rw [keyed_names]
    decide
  added := by
    intro p hp hmem
    rw [keyed_names] at hmem
    exact d.extra.added p (List.mem_of_mem_filter (List.mem_of_mem_filter hp))
      (List.mem_of_mem_filter hmem)
  values := by
    intro p hp
    rcases List.mem_cons.mp hp with rfl | hp
    · exact uniqueKeys_some (uniqueKeys_str _)
    · exact d.values h p (List.mem_of_mem_filter hp)
  unique := uniqueKeys_sublist (List.filter_sublist.trans List.filter_sublist) d.extra.unique

theorem same_messages_iff :
    Json.Same (.arr (d.request.messages.map Message.dump))
      (.arr (d'.request.messages.map Message.dump)) ↔
      List.Forall₂ Message.Same d.request.messages d'.request.messages :=
  same_arr_map_iff (fun m hm m' hm' => Message.same_dump_iff (d.messages m hm) (d'.messages m' hm'))

theorem same_logitBias_iff :
    Option.Rel Json.Same (d.request.logitBias.map (fun b => .obj (intFields b)))
      (d'.request.logitBias.map (fun b => .obj (intFields b))) ↔
      Option.Rel List.Perm d.request.logitBias d'.request.logitBias :=
  rel_map_iff (fun b hb b' hb' => same_intFields_iff (d.logitBias b hb) (d'.logitBias b' hb'))

theorem same_responseFormat_iff :
    Option.Rel Json.Same (d.request.responseFormat.map ResponseFormat.dump)
      (d'.request.responseFormat.map ResponseFormat.dump) ↔
      Option.Rel ResponseFormat.Same d.request.responseFormat d'.request.responseFormat :=
  rel_map_iff (fun f hf f' hf' =>
    ResponseFormat.same_dump_iff (d.responseFormat f hf) (d'.responseFormat f' hf'))

theorem same_effort (a b : ReasoningEffort) : Json.Same (.str a.value) (.str b.value) ↔ a = b := by
  rw [same_str]
  exact ⟨ReasoningEffort.value_injective, congrArg _⟩

/-- **Canonical dictionaries are equal exactly when the pinned models are, and the kept fields
are.** -/
theorem same_canonical_iff (h : d.request.hasTools = false) (h' : d'.request.hasTools = false)
    (served served' : Option String) :
    (canonicalize d.request served).Same (canonicalize d'.request served') ↔
      pinnedModel d.request served = pinnedModel d'.request served' ∧
        d.request.SameFields d'.request := by
  have hnames : (d.request.keyed (pinnedModel d.request served)).map Prod.fst =
      (d'.request.keyed (pinnedModel d'.request served')).map Prod.fst := by
    rw [keyed_names, keyed_names]
  rw [canonicalize_eq d.extra.added, canonicalize_eq d'.extra.added,
    same_dict_iff hnames (d.namedDict h _) (d'.namedDict h' _), keyed_values, keyed_values]
  simp only [List.forall₂_cons, List.Forall₂.nil, rel_some_iff, same_str, d.same_messages_iff d',
    d.same_logitBias_iff d', d.same_responseFormat_iff d', rel_map_eq_iff same_float,
    rel_map_eq_iff same_bool, rel_map_eq_iff same_int, rel_map_eq_iff Stop.same_dump_iff,
    same_tools_iff h h', rel_map_iff (fun a _ b _ => ToolChoice.same_dump_iff a b),
    rel_map_eq_iff same_effort, and_true]
  constructor
  · rintro ⟨⟨hmodel, hmessages, hfrequency, hbias, hlogprobs, htop, hmax, hcompletion, hn, hpresence,
      hformat, hseed, hstop, htemperature, htopP, htools, hchoice, hparallel, heffort⟩, hextra⟩
    exact ⟨hmodel, hmessages, hfrequency, hbias, hlogprobs, htop, hmax, hcompletion, hn, hpresence,
      hformat, hseed, hstop, htemperature, htopP, htools, hchoice, hparallel, heffort, hextra⟩
  · rintro ⟨hmodel, hs⟩
    exact ⟨⟨hmodel, hs.messages, hs.frequencyPenalty, hs.logitBias, hs.logprobs, hs.topLogprobs,
      hs.maxTokens, hs.maxCompletionTokens, hs.n, hs.presencePenalty, hs.responseFormat, hs.seed,
      hs.stop, hs.temperature, hs.topP, hs.tools, hs.toolChoice, hs.parallelToolCalls,
      hs.reasoningEffort⟩, hs.extra⟩

/-- The digests of two requests, where SHA-256 tells their sorted dictionaries apart. -/
theorem digest_eq_iff {sha256 : Json → String} (h : d.request.hasTools = false)
    (h' : d'.request.hasTools = false) {served served' : Option String}
    (hsha : sortedDigest sha256 (canonicalize d.request served) =
        sortedDigest sha256 (canonicalize d'.request served') →
      Json.sortKeys (.obj (canonicalize d.request served)) =
        Json.sortKeys (.obj (canonicalize d'.request served'))) :
    sortedDigest sha256 (canonicalize d.request served) =
        sortedDigest sha256 (canonicalize d'.request served') ↔
      pinnedModel d.request served = pinnedModel d'.request served' ∧
        d.request.SameFields d'.request := by
  have hunique : ∀ (e : DecodedRequest), e.request.hasTools = false → ∀ s : Option String,
      (canonicalize e.request s).UniqueKeys := by
    intro e he s
    rw [canonicalize_eq e.extra.added]
    exact (e.namedDict he _).uniqueKeys
  have hsorted := Json.same_iff_sortKeys _ _ (hunique d h served) (hunique d' h' served')
  rw [← d.same_canonical_iff d' h h', JsonObj.Same, hsorted]
  exact ⟨hsha, congrArg sha256⟩

end DecodedRequest

/-! ## Keys -/

/-- The cases in which `cache_key_for_request` returns a key. -/
theorem cacheKeyText_eq {sha256 : Json → String} {r : ChatCompletionRequest}
    {tenantId served : Option String} (h : (cacheKeyText sha256 r tenantId served).isSome = true) :
    r.hasTools = false ∧ cacheKeyText sha256 r tenantId served =
      some ("gateway:cache:v1:" ++
        (if tenantId.getD "" = "" then "__anon__" else tenantId.getD "") ++ ":" ++
          sortedDigest sha256 (canonicalize r served)) := by
  unfold cacheKeyText cacheKeyForRequest at *
  split at h
  · simp at h
  · split at h
    · simp at h
    · split at h
      · simp at h
      · next hstream htools hmany =>
        refine ⟨by simpa using htools, ?_⟩
        rw [if_neg hstream, if_neg htools, if_neg hmany]
        rfl

/-- A valid tenant id is not empty and has no colon in it. -/
theorem validTenantId_chars {tenantId : String} (h : validTenantId tenantId = true) :
    tenantId ≠ "" ∧ ':' ∉ tenantId.toList := by
  unfold validTenantId at h
  simp only [Bool.or_eq_true, Bool.and_eq_true, decide_eq_true_eq] at h
  rcases h with rfl | ⟨⟨hne, -⟩, hall⟩
  · decide
  · refine ⟨hne, fun hmem => ?_⟩
    have hcolon := List.all_eq_true.mp hall ':' hmem
    revert hcolon
    decide

/-- SHA-256 and the sorted JSON text tell two canonical dictionaries apart. -/
def DigestsApart (sha256 : Json → String) (c c' : JsonObj) : Prop :=
  sortedDigest sha256 c = sortedDigest sha256 c' →
    Json.sortKeys (.obj c) = Json.sortKeys (.obj c')

/-- **Two keys are equal exactly when the tenants are, the pinned models are, and the requests agree
on every other field but `stream`, `stream_options`, `user` and `metadata`.** -/
theorem exact_keys_iff (sha256 : Json → String) (d d' : DecodedRequest) (tenantId tenantId' : String)
    (served served' : Option String) (htenant : validTenantId tenantId = true)
    (htenant' : validTenantId tenantId' = true)
    (hkey : (cacheKeyText sha256 d.request (some tenantId) served).isSome = true)
    (hkey' : (cacheKeyText sha256 d'.request (some tenantId') served').isSome = true)
    (hsha : DigestsApart sha256 (canonicalize d.request served) (canonicalize d'.request served')) :
    cacheKeyText sha256 d.request (some tenantId) served =
        cacheKeyText sha256 d'.request (some tenantId') served' ↔
      tenantId = tenantId' ∧ pinnedModel d.request served = pinnedModel d'.request served' ∧
        d.request.SameFields d'.request := by
  obtain ⟨htools, heq⟩ := cacheKeyText_eq hkey
  obtain ⟨htools', heq'⟩ := cacheKeyText_eq hkey'
  obtain ⟨hne, hcolon⟩ := validTenantId_chars htenant
  obtain ⟨hne', hcolon'⟩ := validTenantId_chars htenant'
  rw [heq, heq', Option.getD_some, Option.getD_some, if_neg hne, if_neg hne', Option.some.injEq,
    ← d.digest_eq_iff d' htools htools' hsha]
  constructor
  · intro htext
    have hlists := congrArg String.toList htext
    simp only [String.toList_append, List.append_assoc] at hlists
    obtain ⟨hbucket, hdigest⟩ :=
      Lines.before_sep_inj hcolon hcolon' (List.append_cancel_left hlists)
    exact ⟨String.toList_inj.mp hbucket, String.toList_inj.mp hdigest⟩
  · rintro ⟨rfl, hdigest⟩
    rw [hdigest]

/-- A decoded request of one message; the user and the metadata differ from call to call. -/
def haikuFrom (user call : String) : DecodedRequest where
  request :=
    { model := "auto", messages := [.user { content := .str "a haiku" }], user := some user,
      extra := [("metadata", .str call)] }
  messages := by
    intro m hm
    rw [List.mem_singleton] at hm
    subst hm
    exact ⟨trivial, uniqueKeys_nil, by simp⟩
  logitBias := by simp
  responseFormat := by simp
  toolChoice := by simp
  extra := ⟨uniqueKeys_cons.mpr ⟨by simp, uniqueKeys_str _, uniqueKeys_nil⟩, by simp [requestFields]⟩

/-- SHA-256 of the one text the witness below takes it of. -/
def haikuDigest (_ : Json) : String :=
  "0a41acde81d70a32a937ce6706a5e364689a46c33eff0dc87eff4bbd91207b1d"

theorem exact_keys_iff_haiku :
    cacheKeyText haikuDigest (haikuFrom "alice" "1").request (some "acme") (some "qwen3-coder") =
      cacheKeyText haikuDigest (haikuFrom "bob" "2").request (some "acme")
        (some "qwen3-coder") := by
  have hmessage : Message.Same (.user { content := .str "a haiku" })
      (.user { content := .str "a haiku" }) := ⟨rfl, rfl, same_nil⟩
  have hfields : (haikuFrom "alice" "1").request.SameFields (haikuFrom "bob" "2").request :=
    { messages := .cons hmessage .nil, frequencyPenalty := rfl, logitBias := .none, logprobs := rfl,
      topLogprobs := rfl, maxTokens := rfl, maxCompletionTokens := rfl, n := rfl,
      presencePenalty := rfl, responseFormat := .none, seed := rfl, stop := rfl, temperature := rfl,
      topP := rfl, tools := rfl, toolChoice := .none, parallelToolCalls := rfl,
      reasoningEffort := rfl, extra := same_nil }
  exact (exact_keys_iff haikuDigest (haikuFrom "alice" "1") (haikuFrom "bob" "2") "acme" "acme"
    (some "qwen3-coder") (some "qwen3-coder") (by decide) (by decide) rfl rfl (fun _ => rfl)).mpr
    ⟨rfl, rfl, hfields⟩

end ModelMeld
