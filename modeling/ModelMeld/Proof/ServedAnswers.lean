import ModelMeld.Proof.Caches
import ModelMeld.Proof.Scrubbing
import ModelMeld.Proof.FirstUsable

/-!
# Who produced a cached answer

The key of a cache entry is computed from the first decision, before the
dispatch; the answer may come from the fallback.

* `missed_answeredBy`: who answers a call that missed the caches;
* `cached_answers_served`: along a run in which no cacheable call is answered by a fallback of
  another model, every cached answer was produced for the model it is kept under.
-/

namespace ModelMeld

namespace Gateway

variable {σ ε D : Type} [DecidableEq D] {g : Gateway σ ε D} {st st' st'' : GatewayState σ D}
  {inbound : Inbound} {outside : Outside ε} {call : Call} {request : ChatCompletionRequest}
  {primary : RoutingDecision}

/-- A call that missed the caches is answered by the first decision or by the fallback. -/
theorem missed_answeredBy (hmiss : Missed g st inbound outside call request primary st' st'')
    {d : RoutingDecision} {f : Option Tier} {completion : ChatCompletion}
    (hok : (g.chatAttemptFor st''.router outside (g.outgoingFor outside request primary) call
      primary).outcome = .ok (d, f, completion)) :
    AnsweredBy g st'.router outside (g.outgoingFor outside request primary) call primary
      outside.chat d completion := by
  rw [lookedUp_router hmiss.missed] at hok
  exact chatAttemptFor_ok (streams_of_looksUp hmiss.looksUp) hok

/-- The call writes to a cache what a fallback of another model than the first one answers. -/
def FailsOverToOther (g : Gateway σ ε D) (st : GatewayState σ D) (inbound : Inbound)
    (outside : Outside ε) (call : Call) : Prop :=
  ∃ request primary st' st'' fallback completion,
    Missed g st inbound outside call request primary st' st'' ∧
    isRequestSemanticallyCacheable (g.outgoingFor outside request primary) = true ∧
    Keeps st'' outside ∧
    g.fallbackFor st'.router outside (g.outgoingFor outside request primary) call primary =
      some fallback ∧
    outside.chat 1 (g.sendFor (g.outgoingFor outside request primary) call fallback) =
      .ok completion ∧
    servedModel fallback (g.outgoingFor outside request primary) ≠
      servedModel primary (g.outgoingFor outside request primary)

/-- Without such a failover, what is written under a model was produced for it. -/
theorem writes_producedBy (h : ¬ FailsOverToOther g st inbound outside call) {m : String}
    {answer : Answer} (hw : Writes g st inbound outside call m answer) : answer.producedBy = m := by
  obtain ⟨request, primary, st', st'', d, f, completion, hmiss, hok, hcacheable, hkeeps, rfl, rfl⟩
    := hw
  rcases missed_answeredBy hmiss hok with ⟨rfl, -⟩ | ⟨hfb, hanswer⟩
  · rfl
  · by_contra hne
    exact h ⟨request, primary, st', st'', d, completion, hmiss, hcacheable, hkeeps, hfb, hanswer,
      hne⟩

/-- **Along a run in which nothing that a fallback of another model answers is written to a cache,
every cached answer was produced for the model it is kept under, and so was every hit for the model
it is attributed to.** -/
theorem cached_answers_served (g : Gateway σ ε D) (hdigest : DigestSeparatesModels g.digest)
    (s : σ) (maxEntries : Option ℕ) (semantic : Bool) (events : List (GatewayEvent ε))
    (hrun : Runs.Along g.serve
      (fun t ev => ¬ FailsOverToOther g t.state ev.inbound ev.outside ev.call)
      ⟨.started s maxEntries semantic, []⟩ events) :
    TraceHolds g (fun m answer => answer.producedBy = m)
      (Runs.run g.serve ⟨.started s maxEntries semantic, []⟩ events) := by
  refine serve_caches hdigest s maxEntries semantic events (Runs.along_mono ?_ events _ hrun)
  intro t ev hno m answer hw
  exact writes_producedBy hno hw

/-! ## A gateway over the capability router -/

def capabilityGateway (r : CapabilityRouter) : Gateway HealthCache Readings JsonObj where
  router := r.toRouter
  scrubber := none
  modelRegistry := some r.scout.registry
  digest := id
  texts := plainTexts
  safeErrorDetail := id

/-- A gateway whose requests go to vLLM and fail over to Anthropic. -/
def localFirst : Gateway HealthCache Readings JsonObj :=
  capabilityGateway (CapabilityRouter.ownKey [{ cls := .vllm }, { cls := .anthropic }])

def bothCaches : GatewayTrace HealthCache JsonObj :=
  ⟨.started (fun _ => none) (some 16) true, []⟩

/-- An answer that names its model. -/
def answerNaming (model : String) : ChatCompletion where
  id := "chatcmpl-0"
  created := 0
  model := model
  choices := [{ index := 0, message := { content := some "hello" }, finishReason := some .stop }]

/-- Every adapter is up. -/
def upAt (now : ℚ) : Readings where
  failedAt := now
  now _ := now
  health _ _ := true

/-- A time at which every adapter is up, and what the two dispatches are answered with. -/
def upstreamsAt (now : ℚ) (first second : Upstream ChatCompletion) : Outside Readings where
  routing := upAt now
  failover := upAt now
  chat i _ := if i = 0 then first else second
  stream _ _ := .raised
  getAt := now
  setAt := now

/-- A one-word request. -/
def plainEvent (now : ℚ) (first second : Upstream ChatCompletion) : GatewayEvent Readings where
  outside := upstreamsAt now first second
  call := .chat (CapabilityScout.plainRequest "qwen3-coder")

/-- The second of two equal requests is a hit. -/
theorem second_request_served :
    TraceHolds localFirst (fun m answer => answer.producedBy = m)
        (Runs.run localFirst.serve bothCaches
          [plainEvent 0 (.ok (answerNaming "qwen3-coder")) .raised, plainEvent 60 .raised .raised]) ∧
      (Runs.run localFirst.serve bothCaches
        [plainEvent 0 (.ok (answerNaming "qwen3-coder")) .raised,
          plainEvent 60 .raised .raised]).handled.map (fun h => h.hit.map Prod.fst) =
        [none, some "qwen3-coder"] := by
  refine ⟨cached_answers_served localFirst (fun _ _ h => congrArg (fun c => JsonObj.get? c "model") h)
    (fun _ => none) (some 16) true _ ⟨?_, ?_, trivial⟩, by decide +kernel⟩
  · rintro ⟨_, _, _, _, _, _, _, _, _, _, hanswer, _⟩
    cases hanswer
  · rintro ⟨_, _, _, _, _, _, _, _, _, _, hanswer, _⟩
    cases hanswer

/-- A rate-limited local model is answered for by Anthropic; a minute later a request for the local
model hits that answer. -/
theorem fallback_answer_cached_as_primary :
    ¬ TraceHolds localFirst (fun m answer => answer.producedBy = m)
      (Runs.run localFirst.serve bothCaches
        [plainEvent 0 (.failed ⟨.transient, "429"⟩) (.ok (answerNaming "claude-haiku")),
          plainEvent 60 .raised .raised]) := by
  intro h
  have hrun : (Runs.run localFirst.serve bothCaches
      [plainEvent 0 (.failed ⟨.transient, "429"⟩) (.ok (answerNaming "claude-haiku")),
        plainEvent 60 .raised .raised]).handled.map
          (fun h => h.hit.map (fun p => (p.1, p.2.producedBy))) =
      [none, some ("qwen3-coder", "claude-haiku")] := by decide +kernel
  obtain ⟨first, rest, hsplit, -, hrest⟩ := List.map_eq_cons_iff.1 hrun
  obtain ⟨second, rest', rfl, hhit, -⟩ := List.map_eq_cons_iff.1 hrest
  obtain ⟨⟨m, answer⟩, hhit, hpair⟩ := Option.map_eq_some_iff.1 hhit
  obtain ⟨rfl, hby⟩ := Prod.mk.inj hpair
  have hsame := h.hits second (by rw [hsplit]; simp) _ _ hhit
  rw [hby] at hsame
  exact absurd hsame (by decide)

end Gateway

end ModelMeld
