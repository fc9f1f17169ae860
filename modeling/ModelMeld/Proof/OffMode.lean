import ModelMeld.Proof.Coverage
import ModelMeld.Proof.Scrubbing
import ModelMeld.Spec.Providers

/-!
# Requests of mode OFF

A request whose identity has mode OFF should go out as if nothing were stored.
The tiered provider reads the mode; the Mem0 provider does not, and puts what its
search finds before the request. So the request goes out as over an empty memory
exactly when that provider has nothing to search for, finds nothing, or the
upstream is handed the client's own body (`off_silent_iff`).
-/

namespace ModelMeld

/-- What an adapter makes its upstream request from: the native body and the model, where there is
one, and the request otherwise. -/
def Dispatch.basis (d : Dispatch) : (AnthropicMessagesRequest × String) ⊕ ChatCompletionRequest :=
  match d.native with
  | some body => .inl (body, d.request.model)
  | none => .inr d.request

namespace MemoryProvider

variable {M : Type}

/-- Nothing the provider finds gets into the request; `native` is whether a native body goes out in
its place. -/
def Unseen (provider : MemoryProvider M) (identity : MemoryIdentity)
    (request : ChatCompletionRequest) (native : Bool) : Prop :=
  match provider with
  | .tiered _ => True
  | .mem0 engine memory => ∀ sessionId ∈ identity.sessionId, lastUserText request ≠ "" →
      ∀ result ∈ engine.search memory identity.tenantId sessionId (lastUserText request),
        ∃ texts, extractMemoryTexts engine.str result = some texts ∧ (texts = [] ∨ native = true)

end MemoryProvider

namespace Gateway

variable {σ ε D M : Type}

/-- What goes out to the adapter of a decision, made under the primary one; `none` where the
retrieval raises. -/
def goesOut (g : Gateway σ ε D) (provider : MemoryProvider M) (identity : MemoryIdentity)
    (outside : Outside ε) (request : ChatCompletionRequest) (call : Call)
    (primary d : RoutingDecision) : Option ((AnthropicMessagesRequest × String) ⊕ ChatCompletionRequest) :=
  (provider.retrieve identity request).map (fun context =>
    (g.sendFor (g.outgoingFor { outside with memory := context } request primary) call d).basis)

/-- Whether a call to the adapter of a decision hands it the client's own body. -/
def goesNative (call : Call) (d : RoutingDecision) : Bool :=
  match call with
  | .messages _ => d.adapter.isAnthropic
  | _ => false

end Gateway

/-! ## Contexts -/

theorem silent_of_off {identity : MemoryIdentity} (h : identity.mode = .off) :
    identity.silent = true := by
  simp [MemoryIdentity.silent, h]

theorem injected_silent {identity : MemoryIdentity} (h : identity.silent = true)
    (config : AssembleConfig) (readings : Option StoreReadings) :
    (assembleContext config identity readings).injected = {} := by
  unfold assembleContext
  rw [if_pos h]
  rfl

theorem extract_of_no_rows {str : PyValue → String} {result : PyValue}
    (h : memoryRows result = some []) :
    extractMemoryTexts str result = some [] := by
  unfold extractMemoryTexts
  rw [h]
  rfl

namespace MemoryProvider

variable {M : Type} {identity : MemoryIdentity}

/-- An empty memory gives nothing to inject. -/
theorem retrieve_emptied (hoff : identity.mode = .off) (provider : MemoryProvider M)
    (request : ChatCompletionRequest) : provider.emptied.retrieve identity request = some {} := by
  cases provider with
  | tiered store =>
    cases store with
    | none => rfl
    | some readings =>
      change some (assembleContext {} identity _).injected = some {}
      rw [injected_silent (silent_of_off hoff)]
  | mem0 engine memory =>
    change engine.retrieve engine.empty identity request = some {}
    unfold Mem0Engine.retrieve
    split
    · rfl
    · next sessionId hsession =>
      simp only
      split
      · rfl
      · split
        · rfl
        · next result hsearch =>
          rw [extract_of_no_rows (engine.search_empty _ _ _ _ hsearch)]
          rfl

end MemoryProvider

/-! ## Injected memories -/

theorem relevantMemories_not_blank (texts : List String) : strip (relevantMemories texts) ≠ "" := by
  have hhead : "Relevant memories from this session:\n".toList =
      'R' :: "elevant memories from this session:\n".toList := by simp
  apply strip_ne_empty
  unfold StartsSolid relevantMemories
  rw [String.toList_append, hhead, List.cons_append]
  exact ⟨'R', _, rfl, by decide⟩

/-- A summary that is not blank is put before the request. -/
theorem inject_summary {text : String} (h : strip text ≠ "") (request : ChatCompletionRequest) :
    ∃ m, (injectIntoRequest request { summary := some text }).messages = m :: request.messages := by
  have hrender : ({ summary := some text } : MemoryContext).renderSystemMessage ≠ "" := by
    unfold MemoryContext.renderSystemMessage
    simp [h]
  unfold injectIntoRequest
  rw [if_pos (by simp [MemoryContext.hasContent])]
  simp only [if_neg hrender]
  exact ⟨_, rfl⟩

theorem messages_applyModelOverride (request : ChatCompletionRequest) (d : RoutingDecision) :
    (applyModelOverride request d).messages = request.messages := by
  obtain ⟨model, hmodel⟩ := applyModelOverride_withModel request d
  rw [hmodel]
  rfl

namespace Gateway

variable {σ ε D M : Type} {g : Gateway σ ε D} {outside : Outside ε}
  {request : ChatCompletionRequest} {call : Call} {primary d : RoutingDecision}

variable (g outside request primary) in
/-- What goes out differs from the request in its messages only, and scrubbing keeps their number. -/
theorem outgoingFor_messages (context : MemoryContext) :
    ∃ ms, g.outgoingFor { outside with memory := context } request primary =
      request.withMessages ms ∧
        ms.length = (injectIntoRequest request context).messages.length := by
  have hinject : injectIntoRequest request context =
      request.withMessages (injectIntoRequest request context).messages := by
    unfold injectIntoRequest
    split <;> rfl
  have hscrub : ∀ s : RegexScrubber, (s.scrubRequest (injectIntoRequest request context)).1 =
      request.withMessages ((injectIntoRequest request context).messages.map s.scrubMessage) := by
    intro s
    rw [hinject]
    rfl
  unfold outgoingFor maybeScrub
  split
  · exact ⟨_, hinject, rfl⟩
  · next s hs =>
    split
    · exact ⟨_, hscrub s, List.length_map _⟩
    · exact ⟨_, hinject, rfl⟩

/-- The client's own body goes out whatever stands in the messages. -/
theorem basis_native (h : goesNative call d = true) (ms ms' : List Message) :
    (g.sendFor (request.withMessages ms) call d).basis =
      (g.sendFor (request.withMessages ms') call d).basis := by
  cases call with
  | messages body =>
    have ha : d.adapter.isAnthropic = true := h
    have hstreaming : (request.withMessages ms).streaming = (request.withMessages ms').streaming := rfl
    have hmodel : (applyModelOverride (request.withMessages ms) d).model =
        (applyModelOverride (request.withMessages ms') d).model := by
      cases hoverride : d.modelIdOverride with
      | none => simp only [applyModelOverride, hoverride]; rfl
      | some modelId =>
        rw [CapabilityRouter.applyModelOverride_eq hoverride,
          CapabilityRouter.applyModelOverride_eq hoverride]
        rfl
    unfold sendFor
    simp only [hstreaming]
    split
    · simp only [tryOpenStreamNative, nativeDispatch, Dispatch.basis, if_pos ha, hmodel]
    · simp only [dispatchChat, nativeDispatch, Dispatch.basis, if_pos ha, hmodel]
  | chat body => cases h
  | responses stream body => cases h

/-- Elsewhere it is the request that goes out, with all its messages. -/
theorem basis_request (h : goesNative call d = false) (outgoing : ChatCompletionRequest) :
    (g.sendFor outgoing call d).basis = .inr (applyModelOverride outgoing d) := by
  have hnative : (g.sendFor outgoing call d).native = none := by
    cases call with
    | messages body =>
      have ha : d.adapter.isAnthropic = false := h
      unfold sendFor
      split
      · simp [tryOpenStreamNative, nativeDispatch, ha]
      · simp [dispatchChat, nativeDispatch, ha]
    | chat body => rfl
    | responses stream body => rfl
  unfold Dispatch.basis
  rw [hnative, sendFor_request]

variable (g outside request call primary d) in
/-- **Memories that are injected go unseen exactly where the client's own body goes out.** -/
theorem memories_unseen_iff (texts : List String) :
    (g.sendFor (g.outgoingFor { outside with memory :=
        { summary := some (relevantMemories texts) } } request primary) call d).basis =
      (g.sendFor (g.outgoingFor { outside with memory := {} } request primary) call d).basis ↔
        goesNative call d = true := by
  obtain ⟨ms, hms, hlen⟩ := outgoingFor_messages g outside request primary
    { summary := some (relevantMemories texts) }
  obtain ⟨ms', hms', hlen'⟩ := outgoingFor_messages g outside request primary {}
  rw [hms, hms']
  cases hnative : goesNative call d with
  | true => exact iff_of_true (basis_native hnative ms ms') rfl
  | false =>
    rw [basis_request hnative, basis_request hnative]
    refine iff_of_false (fun heq => ?_) Bool.false_ne_true
    -- the memories are one message more
    obtain ⟨m, hm⟩ := inject_summary (relevantMemories_not_blank texts) request
    have hinjected : ms.length = request.messages.length + 1 := by
      rw [hlen, hm, List.length_cons]
    have hplain : ms'.length = request.messages.length := hlen'
    have hmessages := congrArg (fun r => r.messages.length) (Sum.inr.inj heq)
    simp only [messages_applyModelOverride] at hmessages
    have hlengths : ms.length = ms'.length := hmessages
    omega

/-- **A request of mode OFF goes out as over an empty memory exactly when the provider finds nothing
for it, or the client's own body goes out.** -/
theorem off_silent_iff (g : Gateway σ ε D) (provider : MemoryProvider M) (identity : MemoryIdentity)
    (hoff : identity.mode = .off) (outside : Outside ε) (request : ChatCompletionRequest)
    (call : Call) (primary d : RoutingDecision) :
    g.goesOut provider identity outside request call primary d =
        g.goesOut provider.emptied identity outside request call primary d ↔
      provider.Unseen identity request (goesNative call d) := by
  unfold goesOut
  rw [provider.retrieve_emptied hoff]
  cases provider with
  | tiered store =>
    have hsame : (MemoryProvider.tiered store : MemoryProvider M).retrieve identity request =
        some {} := by
      cases store with
      | none => rfl
      | some readings => exact congrArg some (injected_silent (silent_of_off hoff) _ _)
    rw [hsame]
    exact ⟨fun _ => trivial, fun _ => rfl⟩
  | mem0 engine memory =>
    change Option.map _ (engine.retrieve memory identity request) = _ ↔ _
    unfold Mem0Engine.retrieve MemoryProvider.Unseen
    cases hsession : identity.sessionId with
    | none =>
      simp
    | some sessionId =>
      simp only [Option.mem_some_iff, forall_eq']
      by_cases hquery : lastUserText request = ""
      · simp [hquery]
      · simp only [if_neg hquery]
        cases hsearch : engine.search memory identity.tenantId sessionId (lastUserText request) with
        | none => simp
        | some result =>
          simp only [Option.mem_some_iff, forall_eq']
          cases htexts : extractMemoryTexts engine.str result with
          | none => simp [hquery]
          | some texts =>
            simp only [Option.map_some, Option.some.injEq]
            by_cases hnil : texts = []
            · simp [hnil]
            · simp only [if_neg hnil]
              have hunseen := memories_unseen_iff g outside request call primary d texts
              simp [hunseen, hquery, hnil]

/-! ## A session of mode OFF with Mem0 -/

/-- A library that finds everything it stores. -/
def noteEngine : Mem0Engine (List String) where
  search memory _ _ _ :=
    some (.obj [("results", .arr (memory.map (fun m => .obj [("memory", .str m)])))])
  empty := []
  str _ := ""
  search_empty := by
    intro tenantId sessionId query result h
    rw [← Option.some.inj h]
    rfl

def offIdentity : MemoryIdentity :=
  { tenantId := "acme", sessionId := some "s", mode := .off }

def greeting : ChatCompletionRequest :=
  { model := "auto", messages := [.user { content := .str "hello" }] }

def openaiDecision : RoutingDecision :=
  { tier := .cloud, adapter := { cls := .openai }, policyApplied := .single,
    rationale := "single_adapter:openai" }

theorem off_silent_iff_greeting :
    (scrubbingGateway { cls := .openai }).goesOut (.mem0 noteEngine ["Alice"]) offIdentity allDown
        greeting (.chat greeting) openaiDecision openaiDecision =
      (scrubbingGateway { cls := .openai }).goesOut
        (MemoryProvider.mem0 noteEngine ["Alice"]).emptied offIdentity allDown
        greeting (.chat greeting) openaiDecision openaiDecision ↔
      (MemoryProvider.mem0 noteEngine ["Alice"]).Unseen offIdentity greeting false :=
  off_silent_iff (scrubbingGateway { cls := .openai }) (.mem0 noteEngine ["Alice"]) offIdentity rfl
    allDown greeting (.chat greeting) openaiDecision openaiDecision

/-- The note about Alice goes out with a request of mode OFF. -/
theorem off_request_with_memories : offIdentity.mode = .off ∧
    (scrubbingGateway { cls := .openai }).goesOut (.mem0 noteEngine ["Alice"]) offIdentity allDown
        greeting (.chat greeting) openaiDecision openaiDecision ≠
      (scrubbingGateway { cls := .openai }).goesOut
        (MemoryProvider.mem0 noteEngine ["Alice"]).emptied offIdentity allDown
        greeting (.chat greeting) openaiDecision openaiDecision := by
  refine ⟨rfl, fun h => ?_⟩
  have hlengths := congrArg (fun out => out.map (fun basis => match basis with
    | .inl _ => 0
    | .inr r => r.messages.length)) h
  have hone : some 2 = some 1 := hlengths
  cases hone

end Gateway

end ModelMeld
