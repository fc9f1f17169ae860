import ModelMeld.Proof.CompletionEvents
import ModelMeld.Proof.RoutedModel
import ModelMeld.Spec.Metrics

/-!
# What is spent

A run of requests, with what each obtained from upstream beside it. A success is
charged at the rate of whatever row `get` finds for the model, also when a cache
answered; so the total is what the rows that served cost, in every state of a
run, exactly when at each success the two rates are the same or there are no
tokens (`spend_accounted_iff`). The breakdown by model adds up in any case
(`MetricsCollector.Balanced`).
-/

namespace ModelMeld

/-! ## The breakdown by model -/

/-- The breakdown by model adds up to the totals. -/
structure MetricsSnapshot.AddsUp (s : MetricsSnapshot) : Prop where
  requests : (s.perModel.map (fun m => m.2.requestCount)).sum = s.totalRequestCount
  input : (s.perModel.map (fun m => m.2.inputTokens)).sum = s.totalInputTokens
  output : (s.perModel.map (fun m => m.2.outputTokens)).sum = s.totalOutputTokens
  tokens : (s.perModel.map (fun m => m.2.totalTokens)).sum = s.totalTokens
  cost : (s.perModel.map (fun m => m.2.costUsd)).sum = s.totalCostUsd

namespace MetricsCollector

/-- The lists of the models add up to the totals. -/
structure Balanced (c : MetricsCollector) : Prop where
  requests : (c.modelStats.entries.map (fun e => e.2.requestCount)).sum =
    (c.wireCounts.entries.map (fun e => e.2)).sum
  input : (c.modelStats.entries.map (fun e => e.2.inputTokens)).sum = c.inputTokens
  output : (c.modelStats.entries.map (fun e => e.2.outputTokens)).sum = c.outputTokens
  cost : (c.modelStats.entries.map (fun e => e.2.costUsd)).sum = c.costUsd

theorem balanced_new : Balanced {} where
  requests := rfl
  input := rfl
  output := rfl
  cost := rfl

/-- A quantity of the models after one more request: it grows by the request's. -/
theorem sum_add {M : Type} [AddCancelCommMonoid M] (stats : OrderedDict String ModelStats)
    (f : ModelStats → M) (x : M) (r : MetricsRecord) (key : String)
    (hadd : ∀ s : ModelStats, f (s.add r) = f s + x) (hzero : f {} = 0) :
    ((stats.insert key ((stats.getD key {}).add r)).entries.map (fun e => f e.2)).sum =
      (stats.entries.map (fun e => f e.2)).sum + x := by
  have hsum := OrderedDict.sum_insert f stats key ((stats.getD key {}).add r)
  have hold : ((stats.get? key).map f).getD 0 = f (stats.getD key {}) := by
    unfold OrderedDict.getD
    cases stats.get? key with
    | none => simp [hzero]
    | some s => rfl
  rw [hadd, hold, add_comm (f _) x, ← add_assoc] at hsum
  exact add_right_cancel hsum

theorem Balanced.record {c : MetricsCollector} (h : Balanced c) (r : MetricsRecord) :
    Balanced (c.record r) := by
  refine ⟨?_, ?_, ?_, ?_⟩
  · have hwire := OrderedDict.sum_insert (fun n : ℕ => n) c.wireCounts r.wireFormat
      (c.wireCounts.getD r.wireFormat 0 + 1)
    have hold : ((c.wireCounts.get? r.wireFormat).map (fun n : ℕ => n)).getD 0 =
        c.wireCounts.getD r.wireFormat 0 := by
      unfold OrderedDict.getD
      cases c.wireCounts.get? r.wireFormat <;> rfl
    have hmodels := sum_add c.modelStats ModelStats.requestCount 1 r
      (if r.modelId = "" then "unknown" else r.modelId) (fun _ => rfl) rfl
    have := h.requests
    simp only [MetricsCollector.record]
    omega
  · exact (sum_add c.modelStats ModelStats.inputTokens r.inputTokens r _ (fun _ => rfl) rfl).trans
      (congrArg (· + r.inputTokens) h.input)
  · exact (sum_add c.modelStats ModelStats.outputTokens r.outputTokens r _ (fun _ => rfl)
      rfl).trans (congrArg (· + r.outputTokens) h.output)
  · exact (sum_add c.modelStats ModelStats.costUsd r.costUsd r _ (fun _ => rfl) rfl).trans
      (congrArg (· + r.costUsd) h.cost)

theorem Balanced.foldl {c : MetricsCollector} (h : Balanced c) (rs : List MetricsRecord) :
    Balanced (rs.foldl MetricsCollector.record c) := by
  induction rs generalizing c with
  | nil => exact h
  | cons r rs ih => exact ih (h.record r)

theorem costUsd_foldl (c : MetricsCollector) (rs : List MetricsRecord) :
    (rs.foldl MetricsCollector.record c).costUsd =
      c.costUsd + (rs.map MetricsRecord.costUsd).sum := by
  induction rs generalizing c with
  | nil => simp
  | cons r rs ih =>
    rw [List.foldl_cons, ih, List.map_cons, List.sum_cons, ← add_assoc]
    rfl

theorem Balanced.addsUp {c : MetricsCollector} (h : Balanced c) (now : ℚ) :
    (c.snapshot now).AddsUp := by
  have hper : ∀ {M : Type} [AddCommMonoid M] (f : ModelMetrics → M),
      ((c.snapshot now).perModel.map (fun m => f m.2)).sum =
        (c.modelStats.entries.map (fun e => f (modelMetrics e.2))).sum := by
    intro M _ f
    simp only [snapshot, List.map_map]
    rfl
  refine ⟨?_, ?_, ?_, ?_, ?_⟩
  · exact (hper ModelMetrics.requestCount).trans h.requests
  · exact (hper ModelMetrics.inputTokens).trans h.input
  · exact (hper ModelMetrics.outputTokens).trans h.output
  · refine (hper ModelMetrics.totalTokens).trans ?_
    exact List.sum_map_add.trans (congrArg₂ (· + ·) h.input h.output)
  · exact (hper ModelMetrics.costUsd).trans h.cost

end MetricsCollector

/-! ## What a request is answered with -/

/-- The answer a success is recorded for. -/
structure Answered where
  /-- A cache gave it, and no upstream. -/
  cached : Bool
  outgoing : ChatCompletionRequest
  decision : RoutingDecision
  totalTokens : ℤ

/-- The blended rate of a row; nothing is charged without one. -/
def rateOf (row : Option ModelEntry) : ℚ := (row.map ModelEntry.blendedCostPerM).getD 0

namespace Answered

/-- The row of the model and the provider that served. -/
def servedBy (registry : Option ModelRegistry) (a : Answered) : Option ModelEntry :=
  registry.bind (fun r => r.byKey.get?
    (resolveModelServed a.outgoing (some a.decision), a.decision.adapter.name))

/-- What an upstream completion costs. -/
def cost (registry : Option ModelRegistry) (a : Answered) : ℚ :=
  (a.totalTokens : ℚ) / 1000000 * rateOf (a.servedBy registry)

/-- What is owed for an answer: nothing for one from a cache. -/
def owed (registry : Option ModelRegistry) (a : Answered) : ℚ :=
  if a.cached then 0 else a.cost registry

/-- The row that `_record_metrics` looks up. -/
def lookedUp (registry : Option ModelRegistry) (a : Answered) : Option ModelEntry :=
  let served := resolveModelServed a.outgoing (some a.decision)
  let modelId := if served = "" then a.decision.adapter.name else served
  if modelId = "" then none else registry.bind (fun r => r.get modelId)

/-- What is recorded as its cost. -/
def charged (registry : Option ModelRegistry) (a : Answered) : ℚ :=
  (a.totalTokens : ℚ) / 1000000 * rateOf (a.lookedUp registry)

/-- There are no tokens, or the rate that is looked up is that of who served: none, for a cache. -/
def RateStands (registry : Option ModelRegistry) (a : Answered) : Prop :=
  a.totalTokens = 0 ∨
    rateOf (a.lookedUp registry) = if a.cached then 0 else rateOf (a.servedBy registry)

instance (registry : Option ModelRegistry) (a : Answered) : Decidable (a.RateStands registry) :=
  inferInstanceAs (Decidable (_ ∨ _))

theorem charged_eq_owed_iff (registry : Option ModelRegistry) (a : Answered) :
    a.charged registry = a.owed registry ↔ a.RateStands registry := by
  unfold charged owed cost RateStands
  by_cases htokens : a.totalTokens = 0
  · simp [htokens]
  · have hne : (a.totalTokens : ℚ) / 1000000 ≠ 0 :=
      div_ne_zero (by exact_mod_cast htokens) (by norm_num)
    cases a.cached with
    | true => simp [htokens]
    | false => simp [htokens]

end Answered

/-- The tokens a completion is recorded with. -/
def completionTokens (completion : ChatCompletion) : ℤ :=
  (completion.usage.map Usage.totalTokens).getD 0

/-- The tokens a stream is recorded with. -/
def streamTokens (stream : ChunkStream) : ℤ :=
  ((Chunks.usage stream.chunks).map Usage.totalTokens).getD
    (stream.chunks.map chunkContentTokens).sum

namespace Gateway

variable {σ ε D : Type} [DecidableEq D]

/-- What a call that is routed is answered with; a stream once it has been read to its end. `st` is
the state after the routing. -/
def routedAnswer (g : Gateway σ ε D) (st : GatewayState σ D) (inbound : Inbound)
    (outside : Outside ε) (f : Following) (call : Call) (request : ChatCompletionRequest)
    (primary : RoutingDecision) : Option Answered :=
  let f := f.entering (wireFormat call)
  let outgoing := g.outgoingFor outside request primary
  let served := servedModel primary outgoing
  if streams outgoing call then
    match (g.streamAttemptFor st.router outside outgoing call primary).outcome with
    | .error _ => none
    | .ok (d, _, stream) =>
      if stream.breaksOff = false ∧
          f.client.stays ((g.streamRoute outside f outgoing primary call d).frames stream).length then
        some ⟨false, outgoing, d, streamTokens stream⟩
      else none
  else
    match g.cachedFor st inbound outside outgoing call served with
    | (some (answer, _), _) => some ⟨true, outgoing, primary, completionTokens answer.completion⟩
    | (none, st) =>
      match (g.chatAttemptFor st.router outside outgoing call primary).outcome with
      | .error _ => none
      | .ok (d, _, completion) => some ⟨false, outgoing, d, completionTokens completion⟩

/-- What a call is answered with. -/
def answered (g : Gateway σ ε D) (st : GatewayState σ D) (inbound : Inbound) (outside : Outside ε)
    (f : Following) (call : Call) : Option Answered :=
  match g.internal call with
  | none => none
  | some request =>
    if refused inbound (requestedModel call) then none
    else
      match g.routing st inbound outside request with
      | (.error _, _) => none
      | (.ok primary, s) =>
        g.routedAnswer { st with router := s } inbound outside f call request primary

end Gateway

/-! ## What is recorded of it -/

/-- What a list of records costs. -/
def recordedCost (recorded : Recorded) : ℚ := (recorded.metrics.map MetricsRecord.costUsd).sum

/-- What is charged for an answer, if there is one. -/
def chargedFor (registry : Option ModelRegistry) (answer : Option Answered) : ℚ :=
  (answer.map (Answered.charged registry)).getD 0

section Recording

variable {ctx : FireContext} {registry : Option ModelRegistry} {wireFormat : String}
  {outgoing : ChatCompletionRequest} {d : RoutingDecision} {redactions : List Redaction}
  {failoverFrom : Option Tier}

theorem recordedCost_recordSuccess (hctx : ctx.metrics = some ⟨registry, wireFormat⟩)
    (cached : Bool) (input output total : ℤ) (cacheStatus : Option String) :
    recordedCost (ctx.recordSuccess ⟨outgoing, some d, redactions, failoverFrom⟩ input output total
      cacheStatus) = Answered.charged registry ⟨cached, outgoing, d, total⟩ := by
  unfold recordedCost FireContext.recordSuccess FireContext.recordMetrics
  simp only [hctx, List.map_cons, List.map_nil, List.sum_cons, List.sum_nil, add_zero]
  unfold Answered.charged rateOf Answered.lookedUp
  simp only [Option.map_some, Option.getD_some]
  cases (if (if resolveModelServed outgoing (some d) = "" then d.adapter.name else
      resolveModelServed outgoing (some d)) = "" then none else
    registry.bind fun r => r.get (if resolveModelServed outgoing (some d) = "" then d.adapter.name
      else resolveModelServed outgoing (some d))) with
  | none => simp
  | some row => rfl

theorem recordedCost_fireSuccess (hctx : ctx.metrics = some ⟨registry, wireFormat⟩) (cached : Bool)
    (completion : ChatCompletion) (cacheStatus : Option String) :
    recordedCost (ctx.fireSuccess ⟨outgoing, some d, redactions, failoverFrom⟩ completion
      cacheStatus) =
        Answered.charged registry ⟨cached, outgoing, d, completionTokens completion⟩ := by
  unfold FireContext.fireSuccess completionTokens
  cases completion.usage with
  | none => exact recordedCost_recordSuccess hctx cached _ _ _ _
  | some usage => exact recordedCost_recordSuccess hctx cached _ _ _ _

theorem recordedCost_fireFailure (args : FireArgs) (error errorType : String) :
    recordedCost (ctx.fireFailure args error errorType) = 0 := rfl

theorem recordedCost_streamedOutcome {f : Following}
    (hctx : f.ctx.metrics = some ⟨registry, wireFormat⟩) (route : StreamRoute)
    (stream : ChunkStream) :
    recordedCost (streamedOutcome f ⟨outgoing, some d, redactions, failoverFrom⟩ route
      stream).recorded =
        chargedFor registry (if stream.breaksOff = false ∧
            f.client.stays (route.frames stream).length then
          some ⟨false, outgoing, d, streamTokens stream⟩ else none) := by
  unfold streamedOutcome Client.leaves recordStream
  cases hstays : f.client.stays (route.frames stream).length with
  | false => simp [recordedCost, chargedFor]
  | true =>
    cases hbreaks : stream.breaksOff with
    | true => simp [recordedCost_fireFailure, chargedFor]
    | false =>
      have hsuccess : ∀ usage : Option Usage,
          recordedCost (f.ctx.fireSuccessStream ⟨outgoing, some d, redactions, failoverFrom⟩
            (stream.chunks.map chunkContentTokens).sum usage) =
          Answered.charged registry ⟨false, outgoing, d,
            (usage.map Usage.totalTokens).getD (stream.chunks.map chunkContentTokens).sum⟩ := by
        intro usage
        unfold FireContext.fireSuccessStream
        cases usage with
        | none => exact recordedCost_recordSuccess hctx false _ _ _ _
        | some usage => exact recordedCost_recordSuccess hctx false _ _ _ _
      simpa [chargedFor, streamTokens] using hsuccess (Chunks.usage stream.chunks)

theorem recordedCost_recordUnanswered {σ ε α : Type} (rt : Router σ ε) (s : σ) (e : ε)
    (secondText : AdapterError → String) (send : RoutingDecision → Dispatch)
    (answer : ℕ → Dispatch → Upstream α) (decision : RoutingDecision) :
    recordedCost (recordUnanswered rt s e ctx redactions secondText send answer decision
      outgoing) = 0 := by
  unfold recordUnanswered
  cases answer 0 (send decision) with
  | ok v => rfl
  | raised => rfl
  | failed primary =>
    simp only
    rcases (rt.fallback s e decision outgoing primary).1 with _ | fallback
    · rfl
    · simp only
      cases answer 1 (send fallback) <;> rfl

end Recording

namespace Gateway

variable {σ ε D : Type} [DecidableEq D] {g : Gateway σ ε D} {st : GatewayState σ D}
  {inbound : Inbound} {outside : Outside ε} {f : Following} {call : Call}
  {request : ChatCompletionRequest} {registry : Option ModelRegistry} {wire : String}

theorem recordedCost_routedOutcome (hctx : f.ctx.metrics = some ⟨registry, wire⟩)
    (primary : RoutingDecision) :
    recordedCost (g.routedOutcome st inbound outside f call request primary).recorded =
      chargedFor registry (g.routedAnswer st inbound outside f call request primary) := by
  have hctx' : (f.entering (wireFormat call)).ctx.metrics =
      some ⟨registry, wireFormat call⟩ := by
    unfold Following.entering
    simp only [hctx, Option.map_some]
  unfold routedOutcome routedAnswer
  simp only
  split
  · unfold siteOutcome
    cases (g.streamAttemptFor st.router outside (g.outgoingFor outside request primary) call
        primary).outcome with
    | error e => exact recordedCost_recordUnanswered _ _ _ _ _ _ _
    | ok answer => exact recordedCost_streamedOutcome hctx' _ _
  · rcases g.cachedFor st inbound outside (g.outgoingFor outside request primary) call
      (servedModel primary (g.outgoingFor outside request primary)) with
      ⟨_ | ⟨answer, status⟩, st'⟩
    · simp only
      unfold siteOutcome
      cases (g.chatAttemptFor st'.router outside (g.outgoingFor outside request primary) call
          primary).outcome with
      | error e => exact recordedCost_recordUnanswered _ _ _ _ _ _ _
      | ok answer =>
        obtain ⟨d, failoverFrom, completion⟩ := answer
        -- pinning the model leaves the usage alone
        have hkept : completionTokens (g.kept call d completion) = completionTokens completion := by
          unfold kept pinCompletion
          split
          · rfl
          · split
            · rfl
            · split_ifs <;> rfl
        rw [chargedFor, Option.map_some, Option.getD_some, ← hkept]
        exact recordedCost_fireSuccess hctx' false _ _
    · exact recordedCost_fireSuccess hctx' true _ _

theorem answered_refused (hrefused : refused inbound (requestedModel call) = true) :
    g.answered st inbound outside f call = none := by
  unfold answered
  cases g.internal call with
  | none => rfl
  | some request => simp only [hrefused, if_true]

/-- A call whose model is not allowed leaves no record. -/
theorem outcome_refused (hrefused : refused inbound (requestedModel call) = true) :
    g.outcome st inbound outside f call = {} := by
  unfold requestedModel at hrefused
  cases call with
  | chat body => simp only [outcome, chatOutcome, hrefused, if_true]
  | messages body =>
    simp only [outcome, messagesOutcome, hrefused, if_true]
    cases fromAnthropicRequest g.texts body.toAnthropicMessagesRequest <;> rfl
  | responses stream body => simp only [outcome, responsesOutcome, hrefused, if_true]

/-- A call that does not translate leaves no record. -/
theorem outcome_untranslated (hinternal : g.internal call = none) :
    g.outcome st inbound outside f call = {} := by
  cases call with
  | chat body => cases hinternal
  | messages body =>
    have hnone : (fromAnthropicRequest g.texts body.toAnthropicMessagesRequest).toOption = none :=
      hinternal
    simp only [outcome, messagesOutcome]
    cases hbody : fromAnthropicRequest g.texts body.toAnthropicMessagesRequest with
    | error e => rfl
    | ok request =>
      rw [hbody] at hnone
      cases hnone
  | responses stream body => cases hinternal

/-- **What the records of a call cost is what is charged for its answer.** -/
theorem recordedCost_outcome (hctx : f.ctx.metrics = some ⟨registry, wire⟩) :
    recordedCost (g.outcome st inbound outside f call).recorded =
      chargedFor registry (g.answered st inbound outside f call) := by
  by_cases hrefused : refused inbound (requestedModel call) = true
  · rw [outcome_refused hrefused, answered_refused hrefused]
    rfl
  · have hallowed : refused inbound (requestedModel call) = false := by simpa using hrefused
    cases hinternal : g.internal call with
    | none =>
      rw [outcome_untranslated hinternal]
      simp only [answered, hinternal]
      rfl
    | some request =>
      have hreaches : Reaches g inbound call request := ⟨hinternal, hallowed⟩
      simp only [answered, hinternal, hallowed, Bool.false_eq_true, if_false]
      rcases hrouting : g.routing st inbound outside request with ⟨e | primary, s⟩
      · rw [outcome_unrouted hreaches hrouting]
        rfl
      · rw [outcome_routed hreaches hrouting]
        exact recordedCost_routedOutcome hctx primary

end Gateway

/-! ## Runs -/

/-- A request, with what is read for its records. -/
structure SpendEvent (ε : Type) where
  event : GatewayEvent ε
  following : Following

/-- The state and the collector a run of requests has reached, and as a ghost the completions that
were obtained from upstream. -/
structure SpendTrace (σ D : Type) where
  state : GatewayState σ D
  collector : MetricsCollector := {}
  obtained : List Answered := []

/-- Records go to the collector of the app, with the registry of the app. -/
def Following.metered (f : Following) (registry : Option ModelRegistry) : Following :=
  { f with ctx := { f.ctx with metrics := some { registry := registry, wireFormat := "" } } }

namespace Gateway

variable {σ ε D : Type} [DecidableEq D]

/-- What the request of an event is answered with. -/
def answeredAt (g : Gateway σ ε D) (t : SpendTrace σ D) (ev : SpendEvent ε) : Option Answered :=
  g.answered t.state ev.event.inbound ev.event.outside (ev.following.metered g.modelRegistry)
    ev.event.call

/-- One request of a run. -/
def spend (g : Gateway σ ε D) (t : SpendTrace σ D) (ev : SpendEvent ε) : SpendTrace σ D :=
  let following := ev.following.metered g.modelRegistry
  let outcome := g.outcome t.state ev.event.inbound ev.event.outside following ev.event.call
  { state := (g.handle t.state ev.event.inbound ev.event.outside ev.event.call).state
    collector := outcome.recorded.metrics.foldl MetricsCollector.record t.collector
    obtained := t.obtained ++ (g.answeredAt t ev).toList.filter (fun a => !a.cached) }

/-- The total is what the completions obtained cost, and the breakdown adds up to the totals. -/
def SpendAccounted (g : Gateway σ ε D) (t : SpendTrace σ D) : Prop :=
  ∀ now, (t.collector.snapshot now).totalCostUsd =
      (t.obtained.map (Answered.cost g.modelRegistry)).sum ∧
    (t.collector.snapshot now).AddsUp

/-- The answer of the request, if it has one, is charged at the rate of who served it. -/
def RatesStand (g : Gateway σ ε D) (t : SpendTrace σ D) (ev : SpendEvent ε) : Prop :=
  ∀ a ∈ g.answeredAt t ev, a.RateStands g.modelRegistry

instance (g : Gateway σ ε D) (t : SpendTrace σ D) (ev : SpendEvent ε) :
    Decidable (g.RatesStand t ev) :=
  inferInstanceAs (Decidable (∀ a ∈ g.answeredAt t ev, a.RateStands g.modelRegistry))

variable {g : Gateway σ ε D} {t : SpendTrace σ D} {ev : SpendEvent ε}

theorem costUsd_spend : (g.spend t ev).collector.costUsd =
    t.collector.costUsd + chargedFor g.modelRegistry (g.answeredAt t ev) := by
  have hcost : recordedCost (g.outcome t.state ev.event.inbound ev.event.outside
      (ev.following.metered g.modelRegistry) ev.event.call).recorded =
        chargedFor g.modelRegistry (g.answeredAt t ev) := recordedCost_outcome rfl
  rw [← hcost]
  exact MetricsCollector.costUsd_foldl _ _

theorem obtained_spend : ((g.spend t ev).obtained.map (Answered.cost g.modelRegistry)).sum =
    (t.obtained.map (Answered.cost g.modelRegistry)).sum +
      ((g.answeredAt t ev).map (Answered.owed g.modelRegistry)).getD 0 := by
  simp only [spend, List.map_append, List.sum_append]
  congr 1
  cases g.answeredAt t ev with
  | none => rfl
  | some a =>
    cases hcached : a.cached with
    | true => simp [Answered.owed, hcached]
    | false => simp [Answered.owed, hcached]

/-- A request keeps the total right exactly when its rate stands. -/
theorem costUsd_step (h : t.collector.costUsd =
      (t.obtained.map (Answered.cost g.modelRegistry)).sum) :
    ((g.spend t ev).collector.costUsd =
        ((g.spend t ev).obtained.map (Answered.cost g.modelRegistry)).sum) ↔
      g.RatesStand t ev := by
  rw [costUsd_spend, obtained_spend, h, add_right_inj]
  unfold RatesStand chargedFor
  cases g.answeredAt t ev with
  | none => simp
  | some a => simpa using a.charged_eq_owed_iff g.modelRegistry

omit [DecidableEq D] in
theorem spendAccounted_of_balanced (hbalanced : t.collector.Balanced) :
    g.SpendAccounted t ↔
      t.collector.costUsd = (t.obtained.map (Answered.cost g.modelRegistry)).sum := by
  constructor
  · intro h
    exact (h 0).1
  · intro h now
    exact ⟨h, hbalanced.addsUp now⟩

/-- **In every state of a run the total is what the completions obtained cost at the rates of the
rows that served them, exactly when at every success the rate that is looked up is that rate.** -/
theorem spend_accounted_iff (g : Gateway σ ε D) (start : GatewayState σ D)
    (es : List (SpendEvent ε)) :
    (∀ fs, fs <+: es → g.SpendAccounted (Runs.run g.spend { state := start } fs)) ↔
      Runs.Along g.spend g.RatesStand { state := start } es := by
  have hrun := Runs.run_always_iff g.spend (P := g.RatesStand)
    (fun t => t.collector.Balanced) g.SpendAccounted (fun t ev h => h.foldl _) ?_ es
    { state := start } MetricsCollector.balanced_new
  · rw [hrun]
    refine and_iff_right fun now => ⟨rfl, MetricsCollector.balanced_new.addsUp now⟩
  · intro t ev hbalanced h
    rw [spendAccounted_of_balanced hbalanced] at h
    rw [spendAccounted_of_balanced (hbalanced.foldl _)]
    exact costUsd_step h

/-! ## Requests that are charged wrongly -/

/-- A one-word chat request, answered with a completion of a million tokens. -/
def millionTokens (now : ℚ) : SpendEvent Readings where
  event := plainEvent now (.ok { answerNaming "qwen3-coder" with
    usage := some { promptTokens := 600000, completionTokens := 400000, totalTokens := 1000000 } })
    .raised
  following := followed .reads

/-- A completion from upstream is charged at the rate of who served it. -/
theorem spend_accounted_sample :
    (∀ fs, fs <+: [millionTokens 0] →
      localFirst.SpendAccounted (Runs.run localFirst.spend { state := bothCaches.state } fs)) ∧
    (Runs.run localFirst.spend { state := bothCaches.state } [millionTokens 0]).collector.costUsd =
      1 / 2 :=
  ⟨(spend_accounted_iff localFirst bothCaches.state [millionTokens 0]).2 (by decide +kernel),
    by decide +kernel⟩

/-- **A cache hit is charged; and so is the rate of another provider of the model**, whose row is the
last one of the registry. -/
theorem spend_not_accounted :
    ¬ localFirst.SpendAccounted (Runs.run localFirst.spend { state := bothCaches.state }
        [millionTokens 0, millionTokens 60]) ∧
      ¬ (capabilityGateway CapabilityRouter.twoProviders).SpendAccounted
        (Runs.run (capabilityGateway CapabilityRouter.twoProviders).spend
          { state := .started (fun _ => none) none false } [millionTokens 0]) := by
  constructor
  · intro h
    have htotal := (h 0).1
    revert htotal
    decide +kernel
  · intro h
    have htotal := (h 0).1
    revert htotal
    decide +kernel

end Gateway

end ModelMeld
