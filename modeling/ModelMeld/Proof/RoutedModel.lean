import ModelMeld.Proof.ServedAnswers
import ModelMeld.Proof.Stream

/-!
# The model a response names

The header names the model of the decision that was answered; the body names
what a handler pinned, translated with the first decision's model, or cached.

* `headersOf_routedModel`: the header;
* `handling_names`: one response;
* `routed_model_named`: along a run in which no handler takes one of four branches, every response
  names the model of its header.
-/

namespace ModelMeld

/-- The models a response body names. -/
def ReplyBody.models : ReplyBody → List String
  | .completion c => [c.model]
  | .message m => [m.model]
  | .chatStream events => events.filterMap (fun ev => match ev with
    | .data chunk => some chunk.model
    | .done => none)
  | .messageStream events => events.filterMap (fun ev => match ev with
    | .messageStart msg => some msg.model
    | _ => none)
  | .response _ model => [model]
  | .responseStream model _ => [model]

/-- Every model the body names is the one in the `x-modelmeld-routed-model` header. -/
def Reply.NamesRouted (reply : Reply) : Prop :=
  ∀ m ∈ reply.body.models, reply.headers.lookup "x-modelmeld-routed-model" = some m

/-- Every row's id is what the header calls its model. -/
def CanonicalIds (registry : ModelRegistry) : Prop :=
  ∀ e ∈ registry.rows, e.modelId ≠ "" ∧ latin1Safe e.modelId = e.modelId ∧
    canonicalModelIdForHeader (some e.modelId) e.provider (some registry) = some e.modelId

theorem toAnthropicResponse_model {t : PythonText} {freshId model : String} {c : ChatCompletion}
    {msg : AnthropicMessagesResponse} (h : toAnthropicResponse t freshId c model = .ok msg) :
    msg.model = model := by
  unfold toAnthropicResponse at h
  cases hc : c.choices with
  | nil => rw [hc] at h; cases h
  | cons choice rest =>
    rw [hc] at h
    simp only [bind, Except.bind] at h
    split at h
    · cases h
    · cases h
      rfl

namespace Gateway

variable {σ ε D : Type} [DecidableEq D] {g : Gateway σ ε D} {st : GatewayState σ D}
  {inbound : Inbound} {outside : Outside ε} {call : Call}

/-! ## The header -/

/-- A decision that serves `m`, under which the header has `m`. -/
structure Names (g : Gateway σ ε D) (d : RoutingDecision) (m : String) : Prop where
  override : d.modelIdOverride = some m
  nonempty : m ≠ ""
  routed : routedModel d g.modelRegistry = some m
  latin1 : latin1Safe m = m

omit [DecidableEq D] in
theorem servedModel_of_names {d : RoutingDecision} {m : String} (h : Names g d m)
    (outgoing : ChatCompletionRequest) : servedModel d outgoing = m := by
  unfold servedModel
  rw [h.override, Option.getD_some, if_neg h.nonempty]

omit [DecidableEq D] in
theorem pinCompletion_model {d : RoutingDecision} {m : String} (h : Names g d m)
    (completion : ChatCompletion) : (g.pinCompletion d completion).model = m := by
  unfold pinCompletion
  rw [h.routed]
  by_cases hm : completion.model = m
  · simp [hm]
  · simp [hm]

theorem pinChunkModel_model {m : String} (hm : m ≠ "") {chunk : ChatCompletionChunk}
    (hchunk : chunk.model ≠ "") : (pinChunkModel chunk (some m)).model = m := by
  unfold pinChunkModel
  by_cases hsame : chunk.model = m
  · simp [hsame]
  · simp [hm, hchunk, hsame]

variable (inbound outside) in
omit [DecidableEq D] in
/-- **The header names the model the decision serves.** -/
theorem headersOf_routedModel {d : RoutingDecision} {m : String} (h : Names g d m)
    (request : ChatCompletionRequest) (primary : RoutingDecision) (call : Call)
    (failoverFrom : Option Tier) :
    (g.headersOf inbound outside request primary call d failoverFrom).lookup
      "x-modelmeld-routed-model" = some m := by
  unfold headersOf headersFor routingHeaders
  rw [h.routed]
  simp [List.lookup_cons, h.latin1]

/-- More headers after it do not hide it. -/
theorem lookup_append_of_some {hs more : Headers} {name value : String}
    (h : hs.lookup name = some value) : (hs ++ more).lookup name = some value := by
  rw [List.lookup_append, h]
  rfl

/-! ## One response -/

/-- No handler takes one of the four branches on which header and body part: a streamed chunk that
names no model is not pinned; `/v1/messages` names the model of the first decision, streaming or
not, when the fallback answers; the chat handler caches what the fallback answers under the first
decision's model; and `/v1/messages` caches a completion under the model its upstream names. -/
structure KeepsNames (g : Gateway σ ε D) (st : GatewayState σ D) (inbound : Inbound)
    (outside : Outside ε) (call : Call) : Prop where
  chunks : ∀ r request primary st' d stream, call = .chat r →
    Routed g st inbound outside call request primary st' →
    streams (g.outgoingFor outside request primary) call = true →
    AnsweredBy g st'.router outside (g.outgoingFor outside request primary) call primary
      outside.stream d stream →
    ∀ chunk ∈ stream.chunks, chunk.model ≠ ""
  messageStream : ∀ body request primary st' d stream, call = .messages body →
    Routed g st inbound outside call request primary st' →
    streams (g.outgoingFor outside request primary) call = true →
    AnsweredBy g st'.router outside (g.outgoingFor outside request primary) call primary
      outside.stream d stream →
    servedModel d (g.outgoingFor outside request primary) =
      servedModel primary (g.outgoingFor outside request primary)
  message : ∀ body request primary st' st'' d completion msg, call = .messages body →
    Missed g st inbound outside call request primary st' st'' →
    AnsweredBy g st'.router outside (g.outgoingFor outside request primary) call primary
      outside.chat d completion →
    toAnthropicResponse g.texts outside.fresh.message completion
      (servedModel primary (g.outgoingFor outside request primary)) = .ok msg →
    servedModel d (g.outgoingFor outside request primary) =
      servedModel primary (g.outgoingFor outside request primary)
  chatWrite : ∀ r request primary st' st'' d completion, call = .chat r →
    Missed g st inbound outside call request primary st' st'' →
    isRequestSemanticallyCacheable (g.outgoingFor outside request primary) = true →
    Keeps st'' outside →
    AnsweredBy g st'.router outside (g.outgoingFor outside request primary) call primary
      outside.chat d completion →
    servedModel d (g.outgoingFor outside request primary) =
      servedModel primary (g.outgoingFor outside request primary)
  messageWrite : ∀ body request primary st' st'' d completion, call = .messages body →
    Missed g st inbound outside call request primary st' st'' →
    isRequestSemanticallyCacheable (g.outgoingFor outside request primary) = true →
    Keeps st'' outside →
    AnsweredBy g st'.router outside (g.outgoingFor outside request primary) call primary
      outside.chat d completion →
    completion.model = servedModel primary (g.outgoingFor outside request primary)

/-- The decisions a call is dispatched through serve a model that the header names. -/
structure DecisionsNamed (g : Gateway σ ε D) (st : GatewayState σ D) (inbound : Inbound)
    (outside : Outside ε) (call : Call) : Prop where
  primary : ∀ request primary st', Routed g st inbound outside call request primary st' →
    ∃ m, Names g primary m
  fallback : ∀ request primary st' d, Routed g st inbound outside call request primary st' →
    g.fallbackFor st'.router outside (g.outgoingFor outside request primary) call primary = some d →
    ∃ m, Names g d m

omit [DecidableEq D] in
theorem names_of_answeredBy {α : Type} (h : DecisionsNamed g st inbound outside call)
    {request : ChatCompletionRequest} {primary d : RoutingDecision} {st' : GatewayState σ D}
    (hrouted : Routed g st inbound outside call request primary st')
    {answer : ℕ → Dispatch → Upstream α} {v : α}
    (hby : AnsweredBy g st'.router outside (g.outgoingFor outside request primary) call primary
      answer d v) : ∃ m, Names g d m := by
  rcases hby with ⟨rfl, -⟩ | ⟨hfb, -⟩
  · exact h.primary request d st' hrouted
  · exact h.fallback request primary st' d hrouted hfb

/-- What is written under a model names it. -/
theorem writes_names (hnamed : DecisionsNamed g st inbound outside call)
    (hkeeps : KeepsNames g st inbound outside call) {m : String} {answer : Answer}
    (hw : Writes g st inbound outside call m answer) : answer.completion.model = m := by
  obtain ⟨request, primary, st', st'', d, f, completion, hmiss, hok, hcacheable, hkept, rfl, rfl⟩ :=
    hw
  have hby := missed_answeredBy hmiss hok
  obtain ⟨m, hd⟩ := names_of_answeredBy hnamed hmiss.routed hby
  cases call with
  | chat r =>
    rw [← hkeeps.chatWrite r request primary st' st'' d completion rfl hmiss hcacheable hkept hby,
      servedModel_of_names hd]
    exact pinCompletion_model hd completion
  | messages body =>
    exact hkeeps.messageWrite body request primary st' st'' d completion rfl hmiss hcacheable hkept
      hby
  | responses stream r => cases hmiss.looksUp

theorem streamReply_names (hkeeps : KeepsNames g st inbound outside call)
    {request : ChatCompletionRequest} {primary d : RoutingDecision} {st' : GatewayState σ D}
    (hrouted : Routed g st inbound outside call request primary st')
    (hstreams : streams (g.outgoingFor outside request primary) call = true)
    {stream : ChunkStream}
    (hby : AnsweredBy g st'.router outside (g.outgoingFor outside request primary) call primary
      outside.stream d stream) {m : String} (hd : Names g d m) (failoverFrom : Option Tier) :
    (g.streamReply st' outside (g.outgoingFor outside request primary) primary
      (g.headersOf inbound outside request primary call d failoverFrom) call d stream).NamesRouted := by
  have hheader := headersOf_routedModel inbound outside hd request primary call failoverFrom
  cases call with
  | chat r =>
    -- each chunk is pinned to the model of the header
    have hchunks := hkeeps.chunks r request primary st' d stream rfl hrouted hstreams hby
    intro m' hm'
    obtain ⟨ev, hev, hname⟩ := List.mem_filterMap.1 hm'
    rw [hd.routed] at hev
    have hmodel : m' = m := by
      rcases List.mem_append.1 hev with hev | hev
      · obtain ⟨chunk, hmem, rfl⟩ := List.mem_map.1 hev
        rw [← Option.some.inj hname]
        exact pinChunkModel_model hd.nonempty (hchunks chunk hmem)
      · rw [List.mem_singleton.1 hev] at hname
        cases hname
    rw [hmodel]
    exact lookup_append_of_some hheader
  | messages body =>
    -- only the start of a message names a model
    have hsame := hkeeps.messageStream body request primary st' d stream rfl hrouted hstreams hby
    intro m' hm'
    obtain ⟨ev, hev, hname⟩ := List.mem_filterMap.1 hm'
    have hmodel : m' = m := by
      cases ev with
      | messageStart msg =>
        rw [← Option.some.inj hname, sseAnthropicStream_names hev, ← hsame,
          servedModel_of_names hd]
      | _ => cases hname
    rw [hmodel]
    exact lookup_append_of_some hheader
  | responses stream' r =>
    intro m' hm'
    have hbody : m' = (routedModel d g.modelRegistry).getD
        (g.outgoingFor outside request primary).model := List.mem_singleton.1 hm'
    rw [hbody, hd.routed, Option.getD_some]
    exact hheader

omit [DecidableEq D] in
/-- A completion that names the header's model, handed out as it is or translated. -/
theorem completionReply_names {headers : Headers} {served m : String} {completion : ChatCompletion}
    {reply : Reply} (h : g.completionReply outside headers served call completion = .ok reply)
    (hheader : headers.lookup "x-modelmeld-routed-model" = some m)
    (hmodel : (∀ body, call ≠ .messages body) → completion.model = m)
    (hserved : ∀ body msg, call = .messages body →
      toAnthropicResponse g.texts outside.fresh.message completion served = .ok msg → served = m) :
    reply.NamesRouted := by
  cases call with
  | chat r =>
    cases h
    intro m' hm'
    rw [List.mem_singleton.1 hm', hmodel (by rintro _ ⟨⟩)]
    exact hheader
  | messages body =>
    unfold completionReply messageReply at h
    cases ht : toAnthropicResponse g.texts outside.fresh.message completion served with
    | error e => rw [ht] at h; cases h
    | ok msg =>
      rw [ht] at h
      cases h
      intro m' hm'
      -- the message bears the model it was translated for
      rw [List.mem_singleton.1 hm', toAnthropicResponse_model ht, hserved body msg rfl ht]
      exact hheader
  | responses stream r =>
    cases h
    intro m' hm'
    rw [List.mem_singleton.1 hm', hmodel (by rintro _ ⟨⟩)]
    exact hheader

/-- **A response names the model of its header, when a cached answer it returns names the model it
was looked up for.** -/
theorem handling_names (hnamed : DecisionsNamed g st inbound outside call)
    (hkeeps : KeepsNames g st inbound outside call) {handled : Handled σ D}
    (hd : Handling g st inbound outside call handled)
    (hhit : ∀ m answer, handled.hit = some (m, answer) → answer.completion.model = m)
    {reply : Reply} (hreply : handled.reply = .ok reply) : reply.NamesRouted := by
  cases hd with
  | rejected e => cases hreply
  | unrouted request e st' hr => cases hreply
  | streamed request primary st' hrouted hstreams =>
    obtain ⟨d, f, stream, hok, hreply⟩ := replyOf_ok hreply
    have hby := streamAttemptFor_ok hstreams hok
    obtain ⟨m, hm⟩ := names_of_answeredBy hnamed hrouted hby
    cases hreply
    exact streamReply_names hkeeps hrouted hstreams hby hm f
  | hit request primary st' st'' answer status hrouted hlooks hfound =>
    obtain ⟨m, hm⟩ := hnamed.primary request primary st' hrouted
    have hserved := servedModel_of_names hm (g.outgoingFor outside request primary)
    refine completionReply_names (m := m) hreply ?_ ?_ ?_
    · exact headersOf_routedModel inbound outside hm request primary call none
    · intro _
      rw [← hserved]
      exact hhit _ _ rfl
    · intro _ _ _ _
      exact hserved
  | missed request primary st' st'' hrouted hlooks hmissed =>
    obtain ⟨d, f, completion, hok, hreply⟩ := replyOf_ok hreply
    have hby := missed_answeredBy ⟨hrouted, hlooks, hmissed⟩ hok
    obtain ⟨m, hm⟩ := names_of_answeredBy hnamed hrouted hby
    refine completionReply_names (m := m) hreply ?_ ?_ ?_
    · exact lookup_append_of_some (headersOf_routedModel inbound outside hm request primary call f)
    · intro hcall
      cases call with
      | messages body => exact absurd rfl (hcall body)
      | _ => exact pinCompletion_model hm completion
    · intro body msg hcall ht
      subst hcall
      rw [← hkeeps.message body request primary st' st'' d completion msg rfl
        ⟨hrouted, hlooks, hmissed⟩ hby ht]
      exact servedModel_of_names hm _
  | uncached request primary st' hrouted hlooks hstreams =>
    obtain ⟨d, f, completion, hok, hreply⟩ := replyOf_ok hreply
    have hby := chatAttemptFor_ok hstreams hok
    obtain ⟨m, hm⟩ := names_of_answeredBy hnamed hrouted hby
    refine completionReply_names (m := m) hreply ?_ ?_ ?_
    · exact headersOf_routedModel inbound outside hm request primary call f
    · intro hcall
      cases call with
      | messages body => exact absurd rfl (hcall body)
      | _ => exact pinCompletion_model hm completion
    · intro body msg hcall _
      subst hcall
      -- `/v1/messages` looks into the caches whenever it does not stream
      have hs : (g.outgoingFor outside request primary).streaming = false := hstreams
      have hl : (!(g.outgoingFor outside request primary).streaming) = false := hlooks
      rw [hs] at hl
      cases hl

/-! ## Under the capability router -/

section Capability

variable {r : CapabilityRouter} {g : Gateway HealthCache Readings D}
  {st : GatewayState HealthCache D} {outside : Outside Readings}

/-- The gateway routes by the capability router, and has its registry, whose ids are canonical. -/
structure UnderCapability (g : Gateway HealthCache Readings D) (r : CapabilityRouter) : Prop where
  router : g.router = r.toRouter
  registry : g.modelRegistry = some r.scout.registry
  ids : CanonicalIds r.scout.registry

omit [DecidableEq D] in
theorem names_of_row (hg : UnderCapability g r) {d : RoutingDecision} {e : ModelEntry}
    (he : e ∈ r.scout.registry.rows) (hmodel : d.modelIdOverride = some e.modelId)
    (hadapter : d.adapter.name = e.provider) : Names g d e.modelId := by
  obtain ⟨hne, hlatin, hcanonical⟩ := hg.ids e he
  refine ⟨hmodel, hne, ?_, hlatin⟩
  unfold routedModel
  rw [hmodel, hg.registry, hadapter]
  simp only
  rw [if_neg hne, hcanonical, Option.getD_some, if_neg hne]

omit [DecidableEq D] in
/-- Every decision of the walk serves the model of a row of its adapter's provider. -/
theorem names_of_resolve (hg : UnderCapability g r) {cap : CapabilityDecision}
    (hcap : CapabilityRouter.NamesRow r cap) {failoverFrom : Option String}
    {extra : Option AdapterMap} {rd : Readings} {cache : HealthCache} {d : RoutingDecision}
    (h : (r.resolveOrFail cap failoverFrom extra rd cache).1 = .ok d) : ∃ m, Names g d m := by
  rcases CapabilityRouter.resolveOrFail_ok h with ⟨adapter, hp, rfl⟩ |
    ⟨skip, cache', stop, hp, hw, rfl⟩
  · obtain ⟨-, ha⟩ := CapabilityRouter.tryPrimary_ok hp
    obtain ⟨e, he, hid, hprov, -⟩ := hcap
    refine ⟨e.modelId, names_of_row hg he ?_ ?_⟩
    · rw [CapabilityRouter.buildDecision_modelIdOverride, hid]
    · rw [CapabilityRouter.buildDecision_adapter, CapabilityRouter.getAdapter_name ha, hprov]
  · obtain ⟨-, hl, -, ha⟩ := CapabilityRouter.walkFallbacks_ok _ _ _ _ hw
    refine ⟨_, names_of_row hg (ModelRegistry.mem_rows_of_get hl) ?_ ?_⟩
    · rw [CapabilityRouter.buildDecision_modelIdOverride, (ModelRegistry.modelId_of_get hl).1]
    · exact CapabilityRouter.getAdapter_name ha

variable (st outside call) in
omit [DecidableEq D] in
theorem decisionsNamed (hg : UnderCapability g r) (hpass : inbound.passthrough = none) :
    DecisionsNamed g st inbound outside call := by
  have hroute : ∀ request primary st', Routed g st inbound outside call request primary st' →
      ∃ cap, CapabilityRouter.NamesRow r cap ∧ (r.resolveOrFail cap none inbound.byok
        outside.routing st.router).1 = .ok primary := by
    intro request primary st' hrouted
    have hr := hrouted.routed
    unfold routeRequest activeRouter at hr
    rw [hpass, hg.router] at hr
    have hok : (r.route st.router outside.routing request inbound.hints inbound.byok).1 =
        .ok primary := by
      simp only at hr
      split at hr
      · rename_i hres
        cases hr
        exact congrArg Prod.fst hres
      · cases hr
    obtain ⟨cap, hc, hres⟩ := CapabilityRouter.route_ok hok
    exact ⟨cap, CapabilityRouter.namesRow_of_choose hc, hres⟩
  constructor
  · intro request primary st' hrouted
    obtain ⟨cap, hcap, hres⟩ := hroute request primary st' hrouted
    exact names_of_resolve hg hcap hres
  · intro request primary st' d hrouted hfb
    obtain ⟨cap, hcap, hres⟩ := hroute request primary st' hrouted
    obtain ⟨cap', hcap', hrow⟩ := CapabilityRouter.namesRow_of_resolve hcap hres
    -- the fallback is looked for among the rows of the same decision
    obtain ⟨error, hfb⟩ := fallbackFor_some hfb
    rw [hg.router] at hfb
    have hfb : (r.routeAfterFailure st'.router outside.failover primary
      (g.outgoingFor outside request primary) (some error) none).1 = some d := hfb
    obtain ⟨-, cap'', hcap'', hres'⟩ := CapabilityRouter.routeAfterFailure_some hfb
    rw [hcap'] at hcap''
    cases hcap''
    exact names_of_resolve hg hrow hres'

/-- **Along a run in which every handler keeps its names, every response names the model of its
header.** -/
theorem routed_model_named (r : CapabilityRouter) (g : Gateway HealthCache Readings D)
    (hg : UnderCapability g r) (hdigest : DigestSeparatesModels g.digest) (cache : HealthCache)
    (maxEntries : Option ℕ) (semantic : Bool) (events : List (GatewayEvent Readings))
    (hpass : ∀ ev ∈ events, ev.inbound.passthrough = none)
    (hrun : Runs.Along g.serve (fun t ev => KeepsNames g t.state ev.inbound ev.outside ev.call)
      ⟨.started cache maxEntries semantic, []⟩ events) :
    ∀ h ∈ (Runs.run g.serve ⟨.started cache maxEntries semantic, []⟩ events).handled,
      ∀ reply, h.reply = .ok reply → reply.NamesRouted := by
  have hinv := Runs.run_invariant g.serve
    (fun t => TraceHolds g (fun m answer => answer.completion.model = m) t ∧
      ∀ h ∈ t.handled, ∀ reply, h.reply = .ok reply → reply.NamesRouted)
    ?_ events _ ⟨traceHolds_started cache maxEntries semantic, fun _ h => nomatch h⟩
    (Runs.along_and events _ hpass hrun)
  · exact hinv.2
  · rintro t ev ⟨ht, hreplies⟩ ⟨hnone, hkeeps⟩
    have hnamed := decisionsNamed ev.call t.state ev.outside hg hnone
    have ht' := serve_holds hdigest ht (fun m answer hw => writes_names hnamed hkeeps hw)
    refine ⟨ht', ?_⟩
    intro h hh reply hreply
    rcases List.mem_append.1 hh with hold | hnew
    · exact hreplies h hold reply hreply
    · rw [List.mem_singleton.1 hnew] at hreply
      refine handling_names hnamed hkeeps (handle_handling _ _ _ _ ev.call) ?_ hreply
      exact ht'.hits _ (List.mem_append_right _ (List.mem_singleton.2 rfl))

end Capability

theorem localFirst_underCapability :
    UnderCapability localFirst (CapabilityRouter.ownKey [{ cls := .vllm }, { cls := .anthropic }])
    where
  router := rfl
  registry := rfl
  ids := by
    unfold CanonicalIds
    decide

/-- A chat request that is not failed over keeps its names. -/
theorem plainEvent_keepsNames (st : GatewayState HealthCache JsonObj) (now : ℚ)
    (first : Upstream ChatCompletion) :
    KeepsNames localFirst st (plainEvent now first .raised).inbound
      (plainEvent now first .raised).outside (plainEvent now first .raised).call where
  chunks := by rintro r request primary st' d stream - - - (⟨-, hby⟩ | ⟨-, hby⟩) <;> cases hby
  messageStream := by rintro body request primary st' d stream ⟨⟩
  message := by rintro body request primary st' st'' d completion msg ⟨⟩
  chatWrite := by
    rintro r request primary st' st'' d completion - - - - (⟨rfl, -⟩ | ⟨-, hby⟩)
    · rfl
    · cases hby
  messageWrite := by rintro body request primary st' st'' d completion ⟨⟩

/-- The second response is a cached one. -/
theorem plain_requests_named :
    (Runs.run localFirst.serve bothCaches
        [plainEvent 0 (.ok (answerNaming "Qwen/Qwen3-Coder-480B")) .raised,
          plainEvent 60 .raised .raised]).handled.map (fun h => h.reply.toOption.map
            (fun reply => reply.headers.lookup "x-modelmeld-cache")) =
        [some (some "miss"), some (some "hit")] ∧
      ∀ h ∈ (Runs.run localFirst.serve bothCaches
          [plainEvent 0 (.ok (answerNaming "Qwen/Qwen3-Coder-480B")) .raised,
            plainEvent 60 .raised .raised]).handled,
        ∀ reply, h.reply = .ok reply → reply.NamesRouted := by
  refine ⟨by decide +kernel, routed_model_named
    (CapabilityRouter.ownKey [{ cls := .vllm }, { cls := .anthropic }]) localFirst
    localFirst_underCapability (fun _ _ h => congrArg (fun c => JsonObj.get? c "model") h)
    (fun _ => none) (some 16) true _ ?_
    ⟨plainEvent_keepsNames _ _ _, plainEvent_keepsNames _ _ _, trivial⟩⟩
  intro ev hev
  simp only [List.mem_cons, List.not_mem_nil, or_false] at hev
  rcases hev with rfl | rfl <;> rfl

/-- A one-word request to `/v1/messages` that vLLM refuses and Anthropic answers. -/
def failedOverMessage : GatewayEvent Readings where
  outside := upstreamsAt 0 (.failed ⟨.transient, "429"⟩) (.ok (answerNaming "claude-haiku"))
  call := .messages (plainBody "qwen3-coder" "hi")

/-- The body names the model that failed. -/
theorem failed_over_message_misnamed :
    UnderCapability localFirst
        (CapabilityRouter.ownKey [{ cls := .vllm }, { cls := .anthropic }]) ∧
      failedOverMessage.inbound.passthrough = none ∧
      ¬ ∀ h ∈ (Runs.run localFirst.serve bothCaches [failedOverMessage]).handled,
        ∀ reply, h.reply = .ok reply → reply.NamesRouted := by
  refine ⟨localFirst_underCapability, rfl, ?_⟩
  intro h
  have hrun : (Runs.run localFirst.serve bothCaches [failedOverMessage]).handled.map
      (fun h => h.reply.toOption.map (fun reply => (reply.body.models,
        reply.headers.lookup "x-modelmeld-routed-model"))) =
      [some (["qwen3-coder"], some "claude-haiku")] := by decide +kernel
  obtain ⟨handled, rest, hsplit, hview, -⟩ := List.map_eq_cons_iff.1 hrun
  obtain ⟨reply, hreply, hpair⟩ := Option.map_eq_some_iff.1 hview
  obtain ⟨hmodels, hheader⟩ := Prod.mk.inj hpair
  have hok : handled.reply = .ok reply := by
    cases hr : handled.reply with
    | error e => rw [hr] at hreply; cases hreply
    | ok r => rw [hr] at hreply; cases hreply; rfl
  have hnamed := h handled (by rw [hsplit]; exact List.mem_cons_self) reply hok "qwen3-coder"
    (by rw [hmodels]; exact List.mem_cons_self)
  rw [hheader] at hnamed
  exact absurd hnamed (by decide)

end Gateway

end ModelMeld
