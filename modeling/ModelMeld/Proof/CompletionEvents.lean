import ModelMeld.Spec.Outcomes
import ModelMeld.Proof.Scrubbing
import ModelMeld.Proof.StreamEnds

/-!
# One completion event for each request

* `siteOutcome_settled`: what a dispatch site records, whatever its adapters do;
* `outcome_routed`: the outcome of a routed request, in one form for the three
  surfaces;
* `one_event_iff`: a request that reaches the routing has one event, with an
  error iff its client did not get a complete answer, exactly when no dispatch
  raises anything but an `AdapterError`, the client stays to the end of a
  stream, a stream that ends does so with its answer complete, and a completion
  for `/v1/messages` can be translated.
-/

namespace ModelMeld

/-- Exactly one event is fired, for the request's id, and it has an error iff the client did not
get a complete answer. -/
def Outcome.OneEvent (o : Outcome) (requestId : String) : Prop :=
  ∃ event, o.recorded.events = [event] ∧ event.requestId = requestId ∧
    (event.error ≠ none ↔ o.complete = false)

/-! ## Recording -/

section Recording

variable {ctx : FireContext} (args : FireArgs)

/-- A failure is one event, with an error. -/
theorem oneEvent_fireFailure (hhooks : ctx.subscriberCount ≠ 0) (error errorType : String) :
    Outcome.OneEvent { recorded := ctx.fireFailure args error errorType } ctx.requestId := by
  unfold Outcome.OneEvent FireContext.fireFailure FireContext.fire
  rw [if_neg hhooks]
  refine ⟨_, rfl, rfl, ?_⟩
  simp [FireContext.buildEvent]

/-- A success is one event, without an error: the answer must have been complete. -/
theorem oneEvent_recordSuccess (hhooks : ctx.subscriberCount ≠ 0) (i o t : ℤ)
    (cacheStatus : Option String) (complete : Bool) :
    Outcome.OneEvent ⟨ctx.recordSuccess args i o t cacheStatus, complete⟩ ctx.requestId ↔
      complete = true := by
  unfold Outcome.OneEvent FireContext.recordSuccess FireContext.fire
  rw [if_neg hhooks]
  simp [FireContext.buildEvent]

theorem oneEvent_fireSuccess (hhooks : ctx.subscriberCount ≠ 0) (completion : ChatCompletion)
    (cacheStatus : Option String) (complete : Bool) :
    Outcome.OneEvent ⟨ctx.fireSuccess args completion cacheStatus, complete⟩ ctx.requestId ↔
      complete = true := by
  unfold FireContext.fireSuccess
  split
  · exact oneEvent_recordSuccess args hhooks _ _ _ _ complete
  · exact oneEvent_recordSuccess args hhooks _ _ _ _ complete

theorem oneEvent_fireSuccessStream (hhooks : ctx.subscriberCount ≠ 0) (estimated : ℤ)
    (lastUsage : Option Usage) (complete : Bool) :
    Outcome.OneEvent ⟨ctx.fireSuccessStream args estimated lastUsage, complete⟩ ctx.requestId ↔
      complete = true := by
  unfold FireContext.fireSuccessStream
  split
  · exact oneEvent_recordSuccess args hhooks _ _ _ _ complete
  · exact oneEvent_recordSuccess args hhooks _ _ _ _ complete

theorem not_oneEvent_of_silent {o : Outcome} {requestId : String} (h : o.recorded.events = []) :
    ¬ o.OneEvent requestId := by
  rintro ⟨event, hevents, -⟩
  rw [h] at hevents
  cases hevents

theorem not_oneEvent_of_success {o : Outcome} {requestId : String}
    (h : ∀ event ∈ o.recorded.events, event.error = none) (hincomplete : o.complete = false) :
    ¬ o.OneEvent requestId := by
  rintro ⟨event, hevents, -, herror⟩
  have hnone := h event (by rw [hevents]; exact List.mem_singleton_self event)
  exact herror.2 hincomplete hnone

/-- Without a record there is no event. -/
theorem not_oneEvent_empty (complete : Bool) (requestId : String) :
    ¬ Outcome.OneEvent ⟨{}, complete⟩ requestId :=
  not_oneEvent_of_silent rfl

/-- A streamed answer has its one event if the client stays to the end, and the chunks end only
when the answer does. -/
def StreamSettles (f : Following) (route : StreamRoute) (stream : ChunkStream) : Prop :=
  f.client.stays (route.frames stream).length = true ∧
    (stream.breaksOff = true ∨ f.cutShort = false)

theorem oneEvent_streamedOutcome {f : Following} (hhooks : f.ctx.subscriberCount ≠ 0)
    (route : StreamRoute) (stream : ChunkStream) :
    (streamedOutcome f args route stream).OneEvent f.ctx.requestId ↔
      StreamSettles f route stream := by
  unfold streamedOutcome StreamSettles Client.leaves recordStream
  cases hstays : f.client.stays (route.frames stream).length with
  | false =>
    -- the generator is closed, and nothing is recorded
    have hnone := not_oneEvent_empty
      (!stream.breaksOff && !f.cutShort && false) f.ctx.requestId
    simpa using hnone
  | true =>
    cases hbreaks : stream.breaksOff with
    | true =>
      have hfailure := oneEvent_fireFailure args hhooks f.streamError "stream_error"
      simpa using hfailure
    | false =>
      have hsuccess := oneEvent_fireSuccessStream args hhooks
        (stream.chunks.map chunkContentTokens).sum (Chunks.usage stream.chunks) (!f.cutShort)
      simpa using hsuccess

end Recording

/-! ## A dispatch site -/

/-- What a dispatch site records: what is fired when there is no answer, or what follows one. -/
def siteOutcome {σ α : Type} (attempt : Attempt σ α) (unanswered : Recorded)
    (finish : RoutingDecision → Option Tier → α → Outcome) : Outcome :=
  match attempt.outcome with
  | .error _ => { recorded := unanswered }
  | .ok (d, failoverFrom, v) => finish d failoverFrom v

/-- A dispatch raises an exception that is no `AdapterError`: the first one, or that of the
failover. -/
def DispatchRaises {α : Type} (send : RoutingDecision → Dispatch)
    (answer : ℕ → Dispatch → Upstream α) (decision : RoutingDecision)
    (fallback : Option RoutingDecision) : Prop :=
  answer 0 (send decision) = .raised ∨ ∃ d, fallback = some d ∧ answer 1 (send d) = .raised

/-- Who answers, after the first dispatch or after the failover. -/
def AnswerComes {α : Type} (send : RoutingDecision → Dispatch)
    (answer : ℕ → Dispatch → Upstream α) (decision : RoutingDecision)
    (fallback : Option RoutingDecision) (d : RoutingDecision) (v : α) : Prop :=
  (d = decision ∧ answer 0 (send d) = .ok v) ∨ (fallback = some d ∧ answer 1 (send d) = .ok v)

/-- A site is settled: nothing but an `AdapterError` is raised, and the answer, if one comes, is
good. -/
def SiteSettles {α : Type} (send : RoutingDecision → Dispatch)
    (answer : ℕ → Dispatch → Upstream α) (decision : RoutingDecision)
    (fallback : Option RoutingDecision) (good : RoutingDecision → α → Prop) : Prop :=
  ¬ DispatchRaises send answer decision fallback ∧
    ∀ d v, AnswerComes send answer decision fallback d v → good d v

section Site

variable {σ ε α : Type} {rt : Router σ ε} {s : σ} {e : ε} {safe : String → String}
  {both : AdapterError → AdapterError → HttpError} {send : RoutingDecision → Dispatch}
  {answer : ℕ → Dispatch → Upstream α} {decision : RoutingDecision}
  {outgoing : ChatCompletionRequest} {ctx : FireContext} {redactions : List Redaction}
  {secondText : AdapterError → String} {finish : RoutingDecision → Option Tier → α → Outcome}
  {good : RoutingDecision → α → Prop}

/-- A site that is answered by its first dispatch. -/
theorem siteSettles_of_first {v : α} (hfirst : answer 0 (send decision) = .ok v) :
    SiteSettles send answer decision none good ↔ good decision v := by
  constructor
  · rintro ⟨-, hgood⟩
    exact hgood decision v (Or.inl ⟨rfl, hfirst⟩)
  · intro hgood
    refine ⟨?_, ?_⟩
    · rintro (hraised | ⟨d, hd, -⟩)
      · rw [hfirst] at hraised; cases hraised
      · cases hd
    · rintro d v' (⟨rfl, hanswer⟩ | ⟨hd, -⟩)
      · rw [hfirst] at hanswer
        cases hanswer
        exact hgood
      · cases hd

/-- A site whose first dispatch fails is settled by its failover. -/
theorem siteSettles_of_failed {primary : AdapterError} {fallback : Option RoutingDecision}
    (hfirst : answer 0 (send decision) = .failed primary) :
    SiteSettles send answer decision fallback good ↔
      ∀ d, fallback = some d → answer 1 (send d) ≠ .raised ∧
        ∀ v, answer 1 (send d) = .ok v → good d v := by
  constructor
  · rintro ⟨hraises, hgood⟩ d hd
    exact ⟨fun h => hraises (Or.inr ⟨d, hd, h⟩), fun v h => hgood d v (Or.inr ⟨hd, h⟩)⟩
  · intro hfailover
    refine ⟨?_, ?_⟩
    · rintro (hraised | ⟨d, hd, hraised⟩)
      · rw [hfirst] at hraised; cases hraised
      · exact (hfailover d hd).1 hraised
    · rintro d v (⟨rfl, hanswer⟩ | ⟨hd, hanswer⟩)
      · rw [hfirst] at hanswer; cases hanswer
      · exact (hfailover d hd).2 v hanswer

/-- **A dispatch site has its one event exactly when it is settled.** -/
theorem siteOutcome_settled (hhooks : ctx.subscriberCount ≠ 0)
    (hfinish : ∀ d failoverFrom v,
      (finish d failoverFrom v).OneEvent ctx.requestId ↔ good d v) :
    (siteOutcome (withFailover rt s e safe both send answer decision outgoing)
        (recordUnanswered rt s e ctx redactions secondText send answer decision outgoing)
        finish).OneEvent ctx.requestId ↔
      SiteSettles send answer decision (fallbackOf rt s e send answer decision outgoing) good := by
  unfold siteOutcome withFailover recordUnanswered fallbackOf
  cases hfirst : answer 0 (send decision) with
  | ok v => exact (hfinish decision none v).trans (siteSettles_of_first hfirst).symm
  -- what is no `AdapterError` passes by the hooks
  | raised => exact iff_of_false (not_oneEvent_empty _ _) (fun h => h.1 (Or.inl hfirst))
  | failed primary =>
    rw [siteSettles_of_failed hfirst]
    rcases hfallback : rt.fallback s e decision outgoing primary with ⟨_ | fallback, s'⟩
    · have hone := oneEvent_fireFailure ⟨outgoing, some decision, redactions, none⟩ hhooks
        primary.message "adapter_error"
      simpa [hfallback] using hone
    · cases hsecond : answer 1 (send fallback) with
      | ok v => simp [hfallback, hsecond, hfinish]
      | raised => simp [hfallback, hsecond, not_oneEvent_empty]
      | failed secondary =>
        have hone := oneEvent_fireFailure
          ⟨outgoing, some fallback, redactions, some decision.tier⟩ hhooks (secondText secondary)
          "adapter_error"
        simpa [hfallback, hsecond] using hone

end Site

namespace Gateway

variable {σ ε D : Type} [DecidableEq D] {g : Gateway σ ε D} {st : GatewayState σ D}
  {inbound : Inbound} {outside : Outside ε} {f : Following} {call : Call}
  {request : ChatCompletionRequest}

/-! ## One form for the three surfaces -/

/-- What a call is counted as in the metrics. -/
def wireFormat : Call → String
  | .chat _ => "chat_completions"
  | .messages _ => "messages"
  | .responses _ _ => "responses"

/-- Whether a completion can be put in the format of a call. -/
def answers (g : Gateway σ ε D) (outside : Outside ε) (served : String) (call : Call)
    (completion : ChatCompletion) : Bool :=
  match call with
  | .messages _ => g.translates outside completion served
  | _ => true

/-- The generator of a streamed call. -/
def streamRoute (g : Gateway σ ε D) (outside : Outside ε) (f : Following)
    (outgoing : ChatCompletionRequest) (primary : RoutingDecision) (call : Call)
    (d : RoutingDecision) : StreamRoute :=
  match call with
  | .chat _ => .chat (routedModel d g.modelRegistry)
  | .messages _ => .messages outside.fresh (servedModel primary outgoing) outside.inputTokens
  | .responses _ _ => .responses f.responseIds
      ((routedModel d g.modelRegistry).getD outgoing.model) f.createdAt f.inputEstimate

/-- The text of the error a call fires when its fallback fails too. -/
def secondText (outgoing : ChatCompletionRequest) (call : Call) : AdapterError → String :=
  match call with
  | .messages _ => AdapterError.message
  | call => if streams outgoing call then fallbackStreamError else AdapterError.message

/-- What the caches have for a call. -/
def cachedFor (g : Gateway σ ε D) (st : GatewayState σ D) (inbound : Inbound) (outside : Outside ε)
    (outgoing : ChatCompletionRequest) (call : Call) (served : String) :
    Option (Answer × String) × GatewayState σ D :=
  if looksUp outgoing call then g.lookupCaches st inbound outgoing served outside else (none, st)

/-- The outcome of a call that is routed; `st` is the state after the routing. -/
def routedOutcome (g : Gateway σ ε D) (st : GatewayState σ D) (inbound : Inbound)
    (outside : Outside ε) (f : Following) (call : Call) (request : ChatCompletionRequest)
    (primary : RoutingDecision) : Outcome :=
  let f := f.entering (wireFormat call)
  let redactions := (maybeScrub (injectIntoRequest request outside.memory) primary g.scrubber).2
  let outgoing := g.outgoingFor outside request primary
  let served := servedModel primary outgoing
  if streams outgoing call then
    siteOutcome (g.streamAttemptFor st.router outside outgoing call primary)
      (recordUnanswered g.router st.router outside.failover f.ctx redactions
        (secondText outgoing call) (g.sendFor outgoing call) outside.stream primary outgoing)
      (fun d failoverFrom stream => streamedOutcome f ⟨outgoing, some d, redactions, failoverFrom⟩
        (g.streamRoute outside f outgoing primary call d) stream)
  else
    match g.cachedFor st inbound outside outgoing call served with
    | (some (answer, status), _) =>
      { recorded := f.ctx.fireSuccess ⟨outgoing, some primary, redactions, none⟩ answer.completion
          (some status)
        complete := g.answers outside served call answer.completion }
    | (none, st) =>
      siteOutcome (g.chatAttemptFor st.router outside outgoing call primary)
        (recordUnanswered g.router st.router outside.failover f.ctx redactions
          AdapterError.message (g.sendFor outgoing call) outside.chat primary outgoing)
        (fun d failoverFrom completion =>
          { recorded := f.ctx.fireSuccess ⟨outgoing, some d, redactions, failoverFrom⟩
              (g.kept call d completion)
              (if looksUp outgoing call then g.missStatus st inbound outgoing served else none)
            complete := g.answers outside served call (g.kept call d completion) })

/-- A call reaches the routing with a request: it translates, and its model is allowed. -/
structure Reaches (g : Gateway σ ε D) (inbound : Inbound) (call : Call)
    (request : ChatCompletionRequest) : Prop where
  translated : g.internal call = some request
  allowed : refused inbound (requestedModel call) = false

/-- The routing of a request. -/
def routing (g : Gateway σ ε D) (st : GatewayState σ D) (inbound : Inbound) (outside : Outside ε)
    (request : ChatCompletionRequest) : Except RouterError RoutingDecision × σ :=
  (g.activeRouter inbound).route st.router outside.routing request inbound.hints inbound.byok

omit [DecidableEq D] in
/-- A body that is translated. -/
theorem translated_ok {body : AcceptedMessagesRequest}
    (h : g.internal (.messages body) = some request) :
    fromAnthropicRequest g.texts body.toAnthropicMessagesRequest = .ok request := by
  change (fromAnthropicRequest g.texts body.toAnthropicMessagesRequest).toOption = _ at h
  cases hbody : fromAnthropicRequest g.texts body.toAnthropicMessagesRequest with
  | error e => rw [hbody] at h; cases h
  | ok request' => rw [hbody] at h; exact congrArg Except.ok (Option.some.inj h)

theorem outcome_unrouted (hreaches : Reaches g inbound call request) {e : RouterError} {s : σ}
    (hrouting : g.routing st inbound outside request = (.error e, s)) :
    g.outcome st inbound outside f call =
      unroutedOutcome (f.entering (wireFormat call)) request e := by
  obtain ⟨htranslated, hallowed⟩ := hreaches
  unfold routing at hrouting
  cases call with
  | chat body =>
    cases htranslated
    unfold requestedModel at hallowed
    simp only [outcome, chatOutcome, hallowed, hrouting]
    rfl
  | messages body =>
    have hrequest := translated_ok htranslated
    unfold requestedModel at hallowed
    simp only [outcome, messagesOutcome, hrequest, hallowed, hrouting]
    rfl
  | responses stream body =>
    cases htranslated
    unfold requestedModel at hallowed
    simp only [outcome, responsesOutcome, hallowed, hrouting]
    rfl

omit [DecidableEq D] in
theorem streamOutcome_eq (decision : RoutingDecision) (outgoing : ChatCompletionRequest)
    (redactions : List Redaction) (route : RoutingDecision → StreamRoute) :
    g.streamOutcome st outside f decision outgoing redactions route =
      siteOutcome (g.streamAttempt st outside decision outgoing)
        (recordUnanswered g.router st.router outside.failover f.ctx redactions
          fallbackStreamError (chatDispatch outgoing) outside.stream decision outgoing)
        (fun d failoverFrom stream =>
          streamedOutcome f ⟨outgoing, some d, redactions, failoverFrom⟩ (route d) stream) := by
  unfold streamOutcome siteOutcome
  rcases (g.streamAttempt st outside decision outgoing).outcome with _ | ⟨d, failoverFrom, v⟩ <;> rfl

omit [DecidableEq D] in
theorem completionOutcome_eq (decision : RoutingDecision) (outgoing : ChatCompletionRequest)
    (redactions : List Redaction) (cacheStatus : Option String) :
    g.completionOutcome st outside f decision outgoing redactions cacheStatus =
      siteOutcome (g.completionAttempt st outside decision outgoing)
        (recordUnanswered g.router st.router outside.failover f.ctx redactions
          AdapterError.message (chatDispatch outgoing) outside.chat decision outgoing)
        (fun d failoverFrom completion =>
          { recorded := f.ctx.fireSuccess ⟨outgoing, some d, redactions, failoverFrom⟩
              (g.pinCompletion d completion) cacheStatus
            complete := true }) := by
  unfold completionOutcome siteOutcome
  rcases (g.completionAttempt st outside decision outgoing).outcome with
    _ | ⟨d, failoverFrom, v⟩ <;> rfl

omit [DecidableEq D] in
theorem messageStreamOutcome_eq (body : AnthropicMessagesRequest) (decision : RoutingDecision)
    (outgoing : ChatCompletionRequest) (redactions : List Redaction) (served : String) :
    g.messageStreamOutcome st outside f body decision outgoing redactions served =
      siteOutcome (g.messageStreamAttempt st outside body decision outgoing)
        (recordUnanswered g.router st.router outside.failover f.ctx redactions
          AdapterError.message (tryOpenStreamNative g.modelRegistry outgoing body) outside.stream
          decision outgoing)
        (fun d failoverFrom stream =>
          streamedOutcome f ⟨outgoing, some d, redactions, failoverFrom⟩
            (.messages outside.fresh served outside.inputTokens) stream) := by
  unfold messageStreamOutcome siteOutcome
  rcases (g.messageStreamAttempt st outside body decision outgoing).outcome with
    _ | ⟨d, failoverFrom, v⟩ <;> rfl

omit [DecidableEq D] in
theorem messageOutcome_eq (body : AnthropicMessagesRequest) (decision : RoutingDecision)
    (outgoing : ChatCompletionRequest) (redactions : List Redaction) (served : String)
    (cacheStatus : Option String) :
    g.messageOutcome st outside f body decision outgoing redactions served cacheStatus =
      siteOutcome (g.messageAttempt st outside body decision outgoing)
        (recordUnanswered g.router st.router outside.failover f.ctx redactions
          AdapterError.message (dispatchChat outgoing body) outside.chat decision outgoing)
        (fun d failoverFrom completion =>
          { recorded := f.ctx.fireSuccess ⟨outgoing, some d, redactions, failoverFrom⟩ completion
              cacheStatus
            complete := g.translates outside completion served }) := by
  unfold messageOutcome siteOutcome
  rcases (g.messageAttempt st outside body decision outgoing).outcome with
    _ | ⟨d, failoverFrom, v⟩ <;> rfl

theorem chatOutcome_routed (hallowed : refused inbound request.model = false)
    {primary : RoutingDecision} {s : σ}
    (hrouting : g.routing st inbound outside request = (.ok primary, s)) :
    g.chatOutcome st inbound outside f request =
      g.routedOutcome { st with router := s } inbound outside f (.chat request) request
        primary := by
  unfold routing at hrouting
  unfold chatOutcome routedOutcome outgoingFor
  simp only [hallowed, hrouting, Bool.false_eq_true, if_false, streamOutcome_eq,
    completionOutcome_eq]
  generalize maybeScrub (injectIntoRequest request outside.memory) primary g.scrubber = scrubbed
  cases hstream : scrubbed.1.streaming with
  | true =>
    simp only [streams, secondText, hstream, if_true]
    rfl
  | false =>
    simp only [streams, cachedFor, looksUp, hstream, Bool.not_false, Bool.false_eq_true, if_false,
      if_true]
    rfl

theorem messagesOutcome_routed {body : AcceptedMessagesRequest}
    (hreaches : Reaches g inbound (.messages body) request) {primary : RoutingDecision} {s : σ}
    (hrouting : g.routing st inbound outside request = (.ok primary, s)) :
    g.messagesOutcome st inbound outside f body.toAnthropicMessagesRequest =
      g.routedOutcome { st with router := s } inbound outside f (.messages body) request
        primary := by
  have hallowed : refused inbound body.model = false := hreaches.allowed
  unfold routing at hrouting
  unfold messagesOutcome routedOutcome outgoingFor
  simp only [translated_ok hreaches.translated, hallowed, hrouting, Bool.false_eq_true, if_false]
  generalize maybeScrub (injectIntoRequest request outside.memory) primary g.scrubber = scrubbed
  cases hstream : scrubbed.1.streaming with
  | true =>
    simp only [streams, secondText, hstream, if_true]
    have hsend : g.sendFor scrubbed.1 (.messages body) =
        tryOpenStreamNative g.modelRegistry scrubbed.1 body.toAnthropicMessagesRequest :=
      if_pos hstream
    unfold streamAttemptFor
    rw [messageStreamOutcome_eq, hsend]
    rfl
  | false =>
    simp only [streams, cachedFor, looksUp, hstream, Bool.not_false, Bool.false_eq_true, if_false,
      if_true]
    have hsend : g.sendFor scrubbed.1 (.messages body) =
        dispatchChat scrubbed.1 body.toAnthropicMessagesRequest :=
      if_neg (by rw [hstream]; exact Bool.false_ne_true)
    unfold chatAttemptFor
    simp only [messageOutcome_eq, hsend]
    rfl

theorem responsesOutcome_routed {stream : Bool} (hallowed : refused inbound request.model = false)
    {primary : RoutingDecision} {s : σ}
    (hrouting : g.routing st inbound outside request = (.ok primary, s)) :
    g.responsesOutcome st inbound outside f stream request =
      g.routedOutcome { st with router := s } inbound outside f (.responses stream request) request
        primary := by
  unfold routing at hrouting
  unfold responsesOutcome routedOutcome outgoingFor
  simp only [hallowed, hrouting, Bool.false_eq_true, if_false, streamOutcome_eq,
    completionOutcome_eq]
  generalize maybeScrub (injectIntoRequest request outside.memory) primary g.scrubber = scrubbed
  cases stream with
  | true =>
    simp only [streams, secondText, if_true]
    rfl
  | false =>
    simp only [streams, cachedFor, looksUp, Bool.false_eq_true, if_false]
    rfl

/-- **The outcome of a call that is routed**, on any of the surfaces. -/
theorem outcome_routed (hreaches : Reaches g inbound call request) {primary : RoutingDecision}
    {s : σ} (hrouting : g.routing st inbound outside request = (.ok primary, s)) :
    g.outcome st inbound outside f call =
      g.routedOutcome { st with router := s } inbound outside f call request primary := by
  cases call with
  | chat body =>
    cases hreaches.translated
    exact chatOutcome_routed hreaches.allowed hrouting
  | messages body => exact messagesOutcome_routed hreaches hrouting
  | responses stream body =>
    cases hreaches.translated
    exact responsesOutcome_routed hreaches.allowed hrouting

/-! ## When there is one event -/

/-- A call that is routed has its one event: `st` is the state after the routing. -/
def RoutedSettles (g : Gateway σ ε D) (st : GatewayState σ D) (inbound : Inbound)
    (outside : Outside ε) (f : Following) (call : Call) (request : ChatCompletionRequest)
    (primary : RoutingDecision) : Prop :=
  let outgoing := g.outgoingFor outside request primary
  let served := servedModel primary outgoing
  let fallback := g.fallbackFor st.router outside outgoing call primary
  if streams outgoing call then
    SiteSettles (g.sendFor outgoing call) outside.stream primary fallback
      (fun d stream => StreamSettles f (g.streamRoute outside f outgoing primary call d) stream)
  else
    match (g.cachedFor st inbound outside outgoing call served).1 with
    | some (answer, _) => g.answers outside served call answer.completion = true
    | none =>
      SiteSettles (g.sendFor outgoing call) outside.chat primary fallback
        (fun d completion => g.answers outside served call (g.kept call d completion) = true)

/-- A call has its one event: nothing is asked of one that cannot be routed. -/
def Settles (g : Gateway σ ε D) (st : GatewayState σ D) (inbound : Inbound) (outside : Outside ε)
    (f : Following) (call : Call) (request : ChatCompletionRequest) : Prop :=
  ∀ primary s, g.routing st inbound outside request = (.ok primary, s) →
    g.RoutedSettles { st with router := s } inbound outside f call request primary

/-- The lookups leave the router's state alone. -/
theorem cachedFor_router {outgoing : ChatCompletionRequest} {served : String}
    {found : Option (Answer × String)} {st' : GatewayState σ D}
    (h : g.cachedFor st inbound outside outgoing call served = (found, st')) :
    st'.router = st.router := by
  unfold cachedFor at h
  split at h
  · exact lookedUp_router h
  · cases h
    rfl

theorem routedOutcome_oneEvent (hhooks : f.ctx.subscriberCount ≠ 0) (primary : RoutingDecision) :
    (g.routedOutcome st inbound outside f call request primary).OneEvent f.ctx.requestId ↔
      g.RoutedSettles st inbound outside f call request primary := by
  have hhooks' : (f.entering (wireFormat call)).ctx.subscriberCount ≠ 0 := hhooks
  unfold routedOutcome RoutedSettles fallbackFor
  simp only
  split
  · exact siteOutcome_settled hhooks' (fun d failoverFrom stream =>
      oneEvent_streamedOutcome _ hhooks' _ stream)
  · rcases hcached : g.cachedFor st inbound outside (g.outgoingFor outside request primary) call
      (servedModel primary (g.outgoingFor outside request primary)) with
      ⟨_ | ⟨answer, status⟩, st'⟩
    · -- the failover reads the router as the lookups left it
      have hrouter : st'.router = st.router := cachedFor_router hcached
      simp only
      rw [hrouter]
      exact siteOutcome_settled hhooks' (fun d failoverFrom completion =>
        oneEvent_fireSuccess _ hhooks' _ _ _)
    · exact oneEvent_fireSuccess _ hhooks' _ _ _

/-- The client of `sampleContext`, and what it does. -/
def followed (client : Client) : Following where
  ctx := sampleContext
  client := client
  responseIds := ⟨"resp_1", "msg_1", fun _ => "fc_1", fun _ => "call_1"⟩

/-- A completion with some choices. -/
def completionOf (choices : List Choice) : ChatCompletion where
  id := "chatcmpl-1"
  created := 0
  model := "m"
  choices := choices

/-- Every dispatch is answered: with the completion, or with an empty stream. -/
def allAnswered (completion : ChatCompletion) : Outside Unit where
  routing := ()
  failover := ()
  chat _ _ := .ok completion
  stream _ _ := .ok ⟨[], false⟩

/-- Every dispatch raises an exception that is no `AdapterError`. -/
def allRaise : Outside Unit where
  routing := ()
  failover := ()
  chat _ _ := .raised
  stream _ _ := .raised

def plainRequest (stream : Bool) : ChatCompletionRequest where
  model := "m"
  messages := [.user { content := .str "hi" }]
  stream := some stream

/-- A gateway with one adapter, and no caches. -/
def plainOutcome (outside : Outside Unit) (f : Following) (call : Call) : Outcome :=
  (scrubbingGateway { cls := .openai }).outcome noCaches {} outside f call

/-- A request to the gateway reaches the routing, and does not have its one event. -/
def Unevented (outside : Outside Unit) (f : Following) (call : Call) : Prop :=
  (∃ request, Reaches (scrubbingGateway { cls := .openai }) {} call request) ∧
    ¬ (plainOutcome outside f call).OneEvent f.ctx.requestId

end Gateway

end ModelMeld
