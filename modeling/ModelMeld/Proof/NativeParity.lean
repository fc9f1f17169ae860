import ModelMeld.Proof.Inbound
import ModelMeld.Spec.NativeParams

/-!
# The native body on both paths

A Messages request that goes to Anthropic is reconciled with the model that
serves it before it is sent. The path without streaming reconciles it without a
registry row, the path with streaming with any row of the model, and both name
the canonical model while the internal request names the provider's slug. So the
two paths send the same, and send it to the wire model, exactly when none of
these matters for the body (`native_parity_iff`).
-/

namespace ModelMeld

open Checked

/-! ## What the paths should agree on -/

/-- A body is reconciled when the decision names another model than the client. -/
def Substituted (body : AnthropicMessagesRequest) (decision : RoutingDecision) : Prop :=
  decision.modelIdOverride.getD "" ≠ "" ∧ decision.modelIdOverride.getD "" ≠ body.model

instance (body : AnthropicMessagesRequest) (decision : RoutingDecision) :
    Decidable (Substituted body decision) := inferInstanceAs (Decidable (_ ∧ _))

/-- The row of the model and the provider that serve a decision. -/
def servedRow (registry : Option ModelRegistry) (decision : RoutingDecision) : Option ModelEntry :=
  registry.bind (fun r =>
    r.byKey.get? (decision.modelIdOverride.getD "", decision.adapter.name))

/-- A number of tokens within the bound of a row. -/
def ModelEntry.clamp (row : Option ModelEntry) (maxTokens : ℤ) : ℤ :=
  match row.bind ModelEntry.maxOutputTokens with
  | none => maxTokens
  | some bound => min maxTokens bound

/-- The tokens a body may ask for: within the bound of the row that serves it when the model was
substituted, as they are otherwise. -/
def reconciledMaxTokens (registry : Option ModelRegistry) (body : AnthropicMessagesRequest)
    (decision : RoutingDecision) : ℤ :=
  if Substituted body decision then
    ModelEntry.clamp (servedRow registry decision) body.maxTokens
  else body.maxTokens

/-- The two paths send the same but for `stream`, to the wire model, and within its bound. -/
structure NativeParity (registry : Option ModelRegistry) (body : AnthropicMessagesRequest)
    (decision : RoutingDecision) (wireModel : String) (plain streamed : NativeParams) : Prop where
  same : { plain with stream := none } = { streamed with stream := none }
  model : plain.model = wireModel
  maxTokens : plain.maxTokens = reconciledMaxTokens registry body decision

theorem NativeParity.same_maxTokens {registry : Option ModelRegistry}
    {body : AnthropicMessagesRequest} {decision : RoutingDecision} {wireModel : String}
    {plain streamed : NativeParams}
    (h : NativeParity registry body decision wireModel plain streamed) :
    plain.maxTokens = streamed.maxTokens := by
  have := congrArg NativeParams.maxTokens h.same
  exact this

theorem NativeParity.same_extraBody {registry : Option ModelRegistry}
    {body : AnthropicMessagesRequest} {decision : RoutingDecision} {wireModel : String}
    {plain streamed : NativeParams}
    (h : NativeParity registry body decision wireModel plain streamed) :
    plain.extraBody = streamed.extraBody := by
  have := congrArg NativeParams.extraBody h.same
  exact this

/-- The canonical model is also the name on the wire. -/
def WireIsCanonical (body : AnthropicMessagesRequest) (decision : RoutingDecision) : Prop :=
  match decision.modelIdOverride with
  | none => True
  | some modelId =>
    (if decision.providerModelId.getD "" = "" then modelId else decision.providerModelId.getD "") =
      if modelId = "" then body.model else modelId

/-- Reconciling the body with either row, or with none, comes to the same. -/
structure RowsAgree (registry : Option ModelRegistry) (body : AnthropicMessagesRequest)
    (decision : RoutingDecision) : Prop where
  served : ModelEntry.clamp (servedRow registry decision) body.maxTokens = body.maxTokens
  looked : ModelEntry.clamp (servedEntry registry decision) body.maxTokens = body.maxTokens
  reasoning : (∃ row, servedEntry registry decision = some row ∧
      row.reasoningInterface = "anthropic_adaptive") →
    ∀ field ∈ body.extra, field.1 ∉ reasoningTunedFields

/-! ## The adapter -/

variable {auth : Authorisation} {adapter : ProviderAdapter} {request : ChatCompletionRequest}
  {native body : AnthropicMessagesRequest} {headers : List (String × String)}

/-- Hoisting only touches the messages and the system text. -/
theorem hoistSystemMessages_frame (params : NativeParams) :
    (hoistSystemMessages params).model = params.model ∧
      (hoistSystemMessages params).maxTokens = params.maxTokens ∧
      (hoistSystemMessages params).extraBody = params.extraBody := by
  unfold hoistSystemMessages
  by_cases hnil : hoistedTexts params.messages = []
  · simp [hnil]
  · simp [hnil]

theorem buildParams_eq :
    (buildParams adapter request native).model = adapter.servedModel.getD native.model ∧
      (buildParams adapter request native).maxTokens = native.maxTokens ∧
      (buildParams adapter request native).extraBody = nativeExtras request native :=
  hoistSystemMessages_frame _

/-- One native body gives the same parameters on both paths, but for `stream`. -/
theorem params_same :
    { chatParams auth adapter request native headers with stream := none } =
      { streamChatParams auth adapter request native headers with stream := none } := by
  cases auth <;> rfl

theorem chatParams_eq (auth : Authorisation) (adapter : ProviderAdapter)
    (request : ChatCompletionRequest) (native : AnthropicMessagesRequest)
    (headers : List (String × String)) :
    (chatParams auth adapter request native headers).model =
        adapter.servedModel.getD native.model ∧
      (chatParams auth adapter request native headers).maxTokens = native.maxTokens ∧
      (chatParams auth adapter request native headers).extraBody = nativeExtras request native := by
  cases auth <;> exact buildParams_eq

theorem streamChatParams_eq (auth : Authorisation) (adapter : ProviderAdapter)
    (request : ChatCompletionRequest) (native : AnthropicMessagesRequest)
    (headers : List (String × String)) :
    (streamChatParams auth adapter request native headers).maxTokens = native.maxTokens ∧
      (streamChatParams auth adapter request native headers).extraBody =
        nativeExtras request native := by
  cases auth <;> exact buildParams_eq.2

/-! ## The body -/

variable {decision : RoutingDecision} {entry : Option ModelEntry}

/-- The extra fields a reconciled body keeps. -/
def keptExtra (entry : Option ModelEntry) (extra : JsonObj) : JsonObj :=
  extra.filter (fun field => field.1 ∉ contextTunedFields ++
    (if (match entry with
      | none => false
      | some e => decide (e.reasoningInterface = "anthropic_adaptive")) then []
    else reasoningTunedFields))

theorem nativeBody_of_not_substituted (h : ¬ Substituted body decision) :
    nativeBodyForUpstream body decision.modelIdOverride entry = body := by
  unfold Substituted at h
  unfold nativeBodyForUpstream
  rw [if_pos]
  by_contra hno
  exact h (not_or.mp hno)

/-- A body reconciled with a row. -/
def reconciledBody (body : AnthropicMessagesRequest) (decision : RoutingDecision)
    (entry : Option ModelEntry) : AnthropicMessagesRequest :=
  { body with
    model := decision.modelIdOverride.getD ""
    maxTokens := ModelEntry.clamp entry body.maxTokens
    extra := keptExtra entry body.extra }

theorem nativeBody_of_substituted (h : Substituted body decision) :
    nativeBodyForUpstream body decision.modelIdOverride entry =
      reconciledBody body decision entry := by
  unfold nativeBodyForUpstream
  rw [if_neg (not_or.mpr h)]
  unfold reconciledBody ModelEntry.clamp keptExtra
  cases entry.bind ModelEntry.maxOutputTokens with
  | none => rfl
  | some bound =>
    have hmin : (if bound < body.maxTokens then bound else body.maxTokens) =
        min body.maxTokens bound := by
      split_ifs with hlt <;> omega
    exact congrArg (fun n => ({ body with
      model := decision.modelIdOverride.getD ""
      maxTokens := n
      extra := keptExtra entry body.extra } : AnthropicMessagesRequest)) hmin

/-- Dropping the reasoning fields too comes to the same when the row cannot take them, or when the
client sent none. -/
theorem keptExtra_eq_iff {extra : JsonObj} :
    keptExtra none extra = keptExtra entry extra ↔
      ((∃ row, entry = some row ∧ row.reasoningInterface = "anthropic_adaptive") →
        ∀ field ∈ extra, field.1 ∉ reasoningTunedFields) := by
  cases entry with
  | none => simp
  | some row =>
    by_cases hkeep : row.reasoningInterface = "anthropic_adaptive"
    · have hfields : ∀ k ∈ reasoningTunedFields, k ∉ contextTunedFields := by decide
      simp only [keptExtra, hkeep, decide_true, if_true, List.append_nil]
      constructor
      · intro heq _ field hfield hmem
        have hin : field ∈ extra.filter (fun field => field.1 ∉ contextTunedFields) :=
          List.mem_filter.mpr ⟨hfield, by simpa using hfields _ hmem⟩
        rw [← heq] at hin
        have := (List.mem_filter.mp hin).2
        simp [hmem] at this
      · intro hno
        apply List.filter_congr
        intro field hfield
        have := hno ⟨row, rfl, hkeep⟩ field hfield
        simp [this]
    · have hdrop : keptExtra (some row) extra = keptExtra none extra := by
        simp [keptExtra, hkeep]
      rw [hdrop]
      simp [hkeep]

/-! ## Both paths -/

variable {t : PythonText} {outgoing : ChatCompletionRequest} {registry : Option ModelRegistry}

/-- The request a handler dispatches: with what memory adds, and scrubbed for the adapter. -/
def outgoingFor (chat : ChatCompletionRequest) (memory : MemoryContext)
    (decision : RoutingDecision) (scrubber : Option RegexScrubber) : ChatCompletionRequest :=
  (maybeScrub (injectIntoRequest chat memory) decision scrubber).1

theorem outgoingFor_model (chat : ChatCompletionRequest) (memory : MemoryContext)
    (scrubber : Option RegexScrubber) :
    (outgoingFor chat memory decision scrubber).model = chat.model := by
  have hinject : (injectIntoRequest chat memory).model = chat.model := by
    unfold injectIntoRequest
    split_ifs <;> rfl
  unfold outgoingFor maybeScrub
  cases scrubber with
  | none => exact hinject
  | some s =>
    simp only
    split_ifs
    · exact hinject
    · exact hinject

/-- The name on the wire, and the canonical one. -/
theorem wire_canonical_iff (hmodel : outgoing.model = body.model) :
    (if decision.modelIdOverride.getD "" = "" then body.model
      else decision.modelIdOverride.getD "") = (applyModelOverride outgoing decision).model ↔
      WireIsCanonical body decision := by
  unfold WireIsCanonical applyModelOverride
  cases decision.modelIdOverride with
  | none => simp [hmodel]
  | some modelId =>
    simp only [Option.getD_some]
    have hwire : ∀ wire : String,
        (if wire = outgoing.model then outgoing else outgoing.withModel wire).model = wire := by
      intro wire
      split_ifs with hw
      · exact hw.symm
      · rfl
    rw [hwire, eq_comm]

/-- The extra fields go along when the internal request is for the model of the body. -/
theorem nativeExtras_reconciled (hwire : decision.modelIdOverride.getD "" = request.model) :
    nativeExtras request (reconciledBody body decision entry) = keptExtra entry body.extra := by
  unfold nativeExtras
  rw [if_neg]
  · rfl
  · rintro ⟨-, hne⟩
    exact hne hwire

/-- The paths of a substituted body, reconciled without a row and with the row that is looked up. -/
theorem parity_of_substituted (hsub : Substituted body decision)
    (hpin : adapter.servedModel = none) :
    NativeParity registry body decision request.model
        (chatParams auth adapter request (reconciledBody body decision none) headers)
        (streamChatParams auth adapter request
          (reconciledBody body decision (servedEntry registry decision)) headers) ↔
      decision.modelIdOverride.getD "" = request.model ∧
        (Substituted body decision → RowsAgree registry body decision) := by
  obtain ⟨hm, hmax, hextra⟩ :=
    chatParams_eq auth adapter request (reconciledBody body decision none) headers
  obtain ⟨hmax', hextra'⟩ := streamChatParams_eq auth adapter request
    (reconciledBody body decision (servedEntry registry decision)) headers
  rw [hpin] at hm
  have hreconciled : reconciledMaxTokens registry body decision =
      ModelEntry.clamp (servedRow registry decision) body.maxTokens := if_pos hsub
  constructor
  · intro h
    have hwire : decision.modelIdOverride.getD "" = request.model := hm.symm.trans h.model
    rw [nativeExtras_reconciled hwire] at hextra hextra'
    refine ⟨hwire, fun _ => ⟨?_, ?_, ?_⟩⟩
    · exact (hreconciled.symm.trans h.maxTokens.symm).trans hmax
    · exact (hmax'.symm.trans h.same_maxTokens.symm).trans hmax
    · rw [← keptExtra_eq_iff]
      exact (hextra.symm.trans h.same_extraBody).trans hextra'
  · rintro ⟨hwire, hrows⟩
    have hrows := hrows hsub
    have hbody : reconciledBody body decision (servedEntry registry decision) =
        reconciledBody body decision none := by
      unfold reconciledBody
      rw [hrows.looked, ← keptExtra_eq_iff.mpr hrows.reasoning]
      rfl
    refine ⟨?_, hm.trans hwire, ?_⟩
    · rw [hbody]
      exact params_same
    · rw [hmax, hreconciled, hrows.served]
      rfl

/-- The parameters of both paths, for an adapter that pins no model. -/
theorem parity_iff (auth : Authorisation) (registry : Option ModelRegistry)
    (headers : List (String × String)) (hmodel : outgoing.model = body.model)
    (hpin : adapter.servedModel = none) :
    NativeParity registry body decision (applyModelOverride outgoing decision).model
        (chatParams auth adapter (applyModelOverride outgoing decision)
          (nativeBodyForUpstream body decision.modelIdOverride none) headers)
        (streamChatParams auth adapter (applyModelOverride outgoing decision)
          (nativeBodyForUpstream body decision.modelIdOverride (servedEntry registry decision))
          headers) ↔
      WireIsCanonical body decision ∧ (Substituted body decision → RowsAgree registry body decision) := by
  rw [← wire_canonical_iff hmodel]
  by_cases hsub : Substituted body decision
  · rw [nativeBody_of_substituted hsub, nativeBody_of_substituted hsub, if_neg hsub.1]
    exact parity_of_substituted hsub hpin
  · rw [nativeBody_of_not_substituted hsub, nativeBody_of_not_substituted hsub]
    have hname : (if decision.modelIdOverride.getD "" = "" then body.model
        else decision.modelIdOverride.getD "") = body.model := by
      split_ifs with hempty
      · rfl
      · by_contra hne
        exact hsub ⟨hempty, hne⟩
    obtain ⟨hm, hmax, -⟩ :=
      chatParams_eq auth adapter (applyModelOverride outgoing decision) body headers
    rw [hpin] at hm
    rw [hname]
    constructor
    · exact fun h => ⟨hm.symm.trans h.model, fun h' => absurd h' hsub⟩
    · rintro ⟨hwire, -⟩
      exact ⟨params_same, hm.trans hwire, by rw [hmax, reconciledMaxTokens, if_neg hsub]⟩

/-- **The upstream parameters of the two paths differ in `stream` only and name the wire model exactly
when that is the canonical model and neither row changes what is sent.** -/
theorem native_parity_iff {chat : ChatCompletionRequest}
    (h : fromAnthropicRequest t body = .ok chat) (memory : MemoryContext)
    (scrubber : Option RegexScrubber) (hadapter : decision.adapter.isAnthropic = true)
    (hpin : decision.adapter.servedModel = none) (registry : Option ModelRegistry)
    (auth : Authorisation) (headers : List (String × String)) :
    ∃ plain streamed,
      (dispatchChat (outgoingFor chat memory decision scrubber) body decision).params
        (chatParams auth) headers = some plain ∧
      (tryOpenStreamNative registry (outgoingFor chat memory decision scrubber) body decision).params
        (streamChatParams auth) headers = some streamed ∧
      (NativeParity registry body decision
          (applyModelOverride (outgoingFor chat memory decision scrubber) decision).model
          plain streamed ↔
        WireIsCanonical body decision ∧
          (Substituted body decision → RowsAgree registry body decision)) := by
  have hmodel : (outgoingFor chat memory decision scrubber).model = body.model := by
    rw [outgoingFor_model, fromAnthropicRequest_ok h]
    rfl
  refine ⟨_, _, ?_, ?_, parity_iff auth registry headers hmodel hpin⟩
  · simp [Dispatch.params, dispatchChat, nativeDispatch, hadapter]
  · simp [Dispatch.params, tryOpenStreamNative, nativeDispatch, hadapter]

/-- A row of Anthropic's with a bound on its tokens, under a slug when there is one. -/
def haikuRow (slug : Option String) : ModelEntry where
  modelId := "claude-haiku"
  provider := "anthropic"
  providerModelId := slug.getD ""
  contextWindow := 200000
  costPerMInput := 1
  costPerMOutput := 5
  maxOutputTokens := some 8192

def haikuRegistry (slug : Option String) : ModelRegistry := ⟨[haikuRow slug], true⟩

/-- A decision for that row. -/
def haikuDecision (slug : Option String) : RoutingDecision where
  tier := .cloud
  adapter := ⟨.anthropic, none, "key"⟩
  policyApplied := .capability
  rationale := "pick"
  modelIdOverride := some "claude-haiku"
  providerModelId := slug

/-- A client that asks for another model, and for so many tokens. -/
def opusBody (maxTokens : ℤ) : AnthropicMessagesRequest where
  model := "claude-opus"
  maxTokens := maxTokens
  messages := [{ role := .user, content := .str "Weather?" }]

/-- What the client's request is dispatched as. -/
def opusOutgoing (maxTokens : ℤ) (slug : Option String) : ChatCompletionRequest :=
  outgoingFor (inbound weatherTexts (opusBody maxTokens)) {} (haikuDecision slug) none

/-- What the path without streaming sends for it. -/
def opusPlain (maxTokens : ℤ) (slug : Option String) : Option NativeParams :=
  (dispatchChat (opusOutgoing maxTokens slug) (opusBody maxTokens) (haikuDecision slug)).params
    (chatParams .apiKey) []

/-- What the path with streaming sends for it. -/
def opusStreamed (maxTokens : ℤ) (slug : Option String) : Option NativeParams :=
  (tryOpenStreamNative (some (haikuRegistry slug)) (opusOutgoing maxTokens slug) (opusBody maxTokens)
    (haikuDecision slug)).params (streamChatParams .apiKey) []

theorem native_parity_within_bound :
    ∃ plain streamed, opusPlain 4096 none = some plain ∧ opusStreamed 4096 none = some streamed ∧
      NativeParity (some (haikuRegistry none)) (opusBody 4096) (haikuDecision none) "claude-haiku"
        plain streamed := by
  have hin : fromAnthropicRequest weatherTexts (opusBody 4096) =
      .ok (inbound weatherTexts (opusBody 4096)) := rfl
  have hadapter : (haikuDecision none).adapter.isAnthropic = true := rfl
  obtain ⟨plain, streamed, hplain, hstreamed, hiff⟩ :=
    native_parity_iff hin {} none hadapter rfl (some (haikuRegistry none)) .apiKey []
  refine ⟨plain, streamed, hplain, hstreamed, hiff.mpr ⟨rfl, fun _ => ⟨by decide, by decide, ?_⟩⟩⟩
  intro _ field hfield
  simp [opusBody] at hfield

/-- More tokens than the row allows are clamped on one path only; the slug is sent on neither. -/
theorem native_parity_broken :
    (∃ plain streamed, opusPlain 32000 none = some plain ∧ opusStreamed 32000 none = some streamed ∧
      ¬ NativeParity (some (haikuRegistry none)) (opusBody 32000) (haikuDecision none)
        (applyModelOverride (opusOutgoing 32000 none) (haikuDecision none)).model plain streamed) ∧
    (∃ plain streamed, opusPlain 4096 (some "claude-haiku-4-5") = some plain ∧
      opusStreamed 4096 (some "claude-haiku-4-5") = some streamed ∧
      ¬ NativeParity (some (haikuRegistry (some "claude-haiku-4-5"))) (opusBody 4096)
        (haikuDecision (some "claude-haiku-4-5"))
        (applyModelOverride (opusOutgoing 4096 (some "claude-haiku-4-5"))
          (haikuDecision (some "claude-haiku-4-5"))).model plain streamed) := by
  refine ⟨⟨_, _, rfl, rfl, fun h => ?_⟩, ⟨_, _, rfl, rfl, fun h => ?_⟩⟩
  · exact absurd h.same_maxTokens (by decide)
  · exact absurd h.model (by decide)

end ModelMeld
