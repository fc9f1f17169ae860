import ModelMeld.Spec.Gateway

/-!
# What a handler does

* `withFailover_dispatches`, `withFailover_ok`: the one dispatch with its one failover;
* `handle_handling`: all that a handler can do, in one case analysis for the three surfaces;
* `handle_dispatches`: a call is dispatched through the decision its request is routed to, and
  through the fallback when that fails, or not at all.
-/

namespace ModelMeld

/-! ## One dispatch with one failover -/

/-- The decision a request fails over to, when its first dispatch fails. -/
def fallbackOf {σ ε α : Type} (rt : Router σ ε) (s : σ) (e : ε) (send : RoutingDecision → Dispatch)
    (answer : ℕ → Dispatch → Upstream α) (decision : RoutingDecision)
    (outgoing : ChatCompletionRequest) : Option RoutingDecision :=
  match answer 0 (send decision) with
  | .failed primary => (rt.fallback s e decision outgoing primary).1
  | _ => none

section WithFailover

variable {σ ε α : Type} {rt : Router σ ε} {s : σ} {e : ε} {safe : String → String}
  {both : AdapterError → AdapterError → HttpError} {send : RoutingDecision → Dispatch}
  {answer : ℕ → Dispatch → Upstream α} {decision : RoutingDecision}
  {outgoing : ChatCompletionRequest}

theorem withFailover_dispatches :
    (withFailover rt s e safe both send answer decision outgoing).dispatches =
      send decision ::
        ((fallbackOf rt s e send answer decision outgoing).map send).toList := by
  unfold withFailover fallbackOf
  cases answer 0 (send decision) with
  | ok v => rfl
  | raised => rfl
  | failed primary =>
    simp only
    rcases rt.fallback s e decision outgoing primary with ⟨_ | fb, s'⟩
    · rfl
    · simp only
      cases answer 1 (send fb) <;> rfl

/-- An answer comes by the first decision, or by the fallback. -/
theorem withFailover_ok {d : RoutingDecision} {f : Option Tier} {v : α}
    (h : (withFailover rt s e safe both send answer decision outgoing).outcome = .ok (d, f, v)) :
    (d = decision ∧ f = none ∧ answer 0 (send decision) = .ok v) ∨
      (fallbackOf rt s e send answer decision outgoing = some d ∧
        answer 1 (send d) = .ok v) := by
  unfold withFailover at h
  unfold fallbackOf
  cases ha : answer 0 (send decision) with
  | ok v' =>
    rw [ha] at h
    cases h
    exact Or.inl ⟨rfl, rfl, rfl⟩
  | raised => rw [ha] at h; cases h
  | failed primary =>
    rw [ha] at h
    simp only at h ⊢
    rcases hfb : rt.fallback s e decision outgoing primary with ⟨_ | fb, s'⟩
    · rw [hfb] at h; cases h
    · rw [hfb] at h
      simp only at h ⊢
      cases hb : answer 1 (send fb) with
      | ok v' =>
        rw [hb] at h
        cases h
        exact Or.inr ⟨rfl, hb⟩
      | raised => rw [hb] at h; cases h
      | failed secondary => rw [hb] at h; cases h

end WithFailover

namespace Gateway

variable {σ ε D : Type} [DecidableEq D] {g : Gateway σ ε D} {st : GatewayState σ D}
  {inbound : Inbound} {outside : Outside ε}

/-! ## Caches and the router -/

theorem setExact_router (key : Option (CacheKey D)) (answer : Answer) :
    (setExact st key answer outside).router = st.router := by
  unfold setExact
  split <;> rfl

variable (st outside) in
theorem lookupExact_router (key : Option (CacheKey D)) :
    (lookupExact st key outside).2.router = st.router := by
  unfold lookupExact
  split <;> rfl

variable (g st inbound outside) in
/-- The lookups leave the router's state alone. -/
theorem lookupCaches_router (outgoing : ChatCompletionRequest) (served : String) :
    (g.lookupCaches st inbound outgoing served outside).2.router = st.router := by
  unfold lookupCaches
  simp only
  have hrt := lookupExact_router st outside (g.cacheKey st inbound outgoing served)
  rcases hx : lookupExact st (g.cacheKey st inbound outgoing served) outside with ⟨_ | answer, st'⟩
  · rw [hx] at hrt
    simp only
    cases lookupSemantic st' inbound outgoing served outside with
    | none => exact hrt
    | some answer => exact (setExact_router _ _).trans hrt
  · rw [hx] at hrt
    exact hrt

/-! ## Calls -/

/-- The internal request of a call, when it translates. -/
def internal (g : Gateway σ ε D) : Call → Option ChatCompletionRequest
  | .chat request => some request
  | .messages body => (fromAnthropicRequest g.texts body.toAnthropicMessagesRequest).toOption
  | .responses _ request => some request

/-- Whether the call is answered with a stream. -/
def streams (outgoing : ChatCompletionRequest) : Call → Bool
  | .responses stream _ => stream
  | _ => outgoing.streaming

/-- What a call hands to the adapter of a decision. -/
def sendFor (g : Gateway σ ε D) (outgoing : ChatCompletionRequest) : Call → RoutingDecision → Dispatch
  | .messages body =>
    if outgoing.streaming then
      tryOpenStreamNative g.modelRegistry outgoing body.toAnthropicMessagesRequest
    else dispatchChat outgoing body.toAnthropicMessagesRequest
  | _ => chatDispatch outgoing

/-- The decision a call fails over to, when its first dispatch fails; `s` is the router's state
after the routing. -/
def fallbackFor (g : Gateway σ ε D) (s : σ) (outside : Outside ε)
    (outgoing : ChatCompletionRequest) (call : Call) (primary : RoutingDecision) :
    Option RoutingDecision :=
  if streams outgoing call then
    fallbackOf g.router s outside.failover (g.sendFor outgoing call) outside.stream primary outgoing
  else
    fallbackOf g.router s outside.failover (g.sendFor outgoing call) outside.chat primary outgoing

/-- The dispatches a call makes through a decision. -/
def dispatchesFor (g : Gateway σ ε D) (s : σ) (outside : Outside ε)
    (outgoing : ChatCompletionRequest) (call : Call) (primary : RoutingDecision) : List Dispatch :=
  g.sendFor outgoing call primary ::
    ((g.fallbackFor s outside outgoing call primary).map (g.sendFor outgoing call)).toList

/-- The request that goes out under a decision: with its memory, and scrubbed when the decision's
adapter is an egress one. -/
def outgoingFor (g : Gateway σ ε D) (outside : Outside ε) (request : ChatCompletionRequest)
    (primary : RoutingDecision) : ChatCompletionRequest :=
  (maybeScrub (injectIntoRequest request outside.memory) primary g.scrubber).1

/-- The model the caller's allowlist is asked about. -/
def requestedModel : Call → String
  | .chat request => request.model
  | .messages body => body.model
  | .responses _ request => request.model

/-- A call up to its routing: it translates, its model is allowed, and it is routed. -/
structure Routed (g : Gateway σ ε D) (st : GatewayState σ D) (inbound : Inbound)
    (outside : Outside ε) (call : Call) (request : ChatCompletionRequest)
    (primary : RoutingDecision) (st' : GatewayState σ D) : Prop where
  translated : g.internal call = some request
  allowed : refused inbound (requestedModel call) = false
  routed : g.routeRequest st inbound outside request = (.ok primary, st')

/-- The dispatches of a call that is answered with a stream. -/
def streamAttemptFor (g : Gateway σ ε D) (s : σ) (outside : Outside ε)
    (outgoing : ChatCompletionRequest) (call : Call) (primary : RoutingDecision) :
    Attempt σ ChunkStream :=
  withFailover g.router s outside.failover g.safeErrorDetail bothFailedStream
    (g.sendFor outgoing call) outside.stream primary outgoing

/-- The dispatches of a call that is not. -/
def chatAttemptFor (g : Gateway σ ε D) (s : σ) (outside : Outside ε)
    (outgoing : ChatCompletionRequest) (call : Call) (primary : RoutingDecision) :
    Attempt σ ChatCompletion :=
  withFailover g.router s outside.failover g.safeErrorDetail (bothFailedChat g.safeErrorDetail)
    (g.sendFor outgoing call) outside.chat primary outgoing

/-- What a call keeps of a completion: the messages handler does not pin the model. -/
def kept (g : Gateway σ ε D) (call : Call) (d : RoutingDecision) (completion : ChatCompletion) :
    ChatCompletion :=
  match call with
  | .messages _ => completion
  | _ => g.pinCompletion d completion

/-- The hints the routing headers echo. -/
def echoedHints (inbound : Inbound) : Call → Option RoutingHints
  | .messages _ => none
  | _ => inbound.hints

/-- The routing headers of a call. -/
def headersOf (g : Gateway σ ε D) (inbound : Inbound) (outside : Outside ε)
    (request : ChatCompletionRequest) (primary : RoutingDecision) (call : Call)
    (d : RoutingDecision) (failoverFrom : Option Tier) : Headers :=
  g.headersFor d (maybeScrub (injectIntoRequest request outside.memory) primary g.scrubber).2
    failoverFrom (echoedHints inbound call)

/-- The response to a call that opened a stream. -/
def streamReply (g : Gateway σ ε D) (st : GatewayState σ D) (outside : Outside ε)
    (outgoing : ChatCompletionRequest) (primary : RoutingDecision) (headers : Headers) (call : Call)
    (d : RoutingDecision) (stream : ChunkStream) : Reply :=
  match call with
  | .chat _ =>
    { headers := headers ++ streamHeader st
      body := .chatStream (sseStream stream (routedModel d g.modelRegistry)) }
  | .messages _ =>
    { headers := headers ++ streamHeader st
      body := .messageStream (sseAnthropicStream outside.fresh stream (servedModel primary outgoing)
        outside.inputTokens) }
  | .responses _ _ =>
    { headers := headers
      body := .responseStream ((routedModel d g.modelRegistry).getD outgoing.model) stream }

/-- The response to a call with a completion, dispatched or cached. -/
def completionReply (g : Gateway σ ε D) (outside : Outside ε) (headers : Headers) (served : String)
    (call : Call) (completion : ChatCompletion) : Except HttpError Reply :=
  match call with
  | .chat _ => .ok { headers := headers, body := .completion completion }
  | .messages _ => g.messageReply outside headers completion served
  | .responses _ _ => .ok { headers := headers, body := .response completion completion.model }

/-- What a call responds when its dispatches are over. -/
def replyOf {α : Type} (attempt : Attempt σ α)
    (reply : RoutingDecision → Option Tier → α → Except HttpError Reply) :
    Except HttpError Reply :=
  match attempt.outcome with
  | .error e => .error e
  | .ok (d, failoverFrom, v) => reply d failoverFrom v

omit [DecidableEq D] in
theorem replyOf_ok {α : Type} {attempt : Attempt σ α} {reply : Reply}
    {f : RoutingDecision → Option Tier → α → Except HttpError Reply}
    (h : replyOf attempt f = .ok reply) :
    ∃ d failoverFrom v, attempt.outcome = .ok (d, failoverFrom, v) ∧
      f d failoverFrom v = .ok reply := by
  unfold replyOf at h
  cases ho : attempt.outcome with
  | error e => rw [ho] at h; cases h
  | ok p => rw [ho] at h; exact ⟨p.1, p.2.1, p.2.2, rfl, h⟩

/-- The state after the dispatches of a call that missed the caches. -/
def storedState (g : Gateway σ ε D) (st : GatewayState σ D) (inbound : Inbound)
    (outside : Outside ε) (outgoing : ChatCompletionRequest) (call : Call)
    (primary : RoutingDecision) : GatewayState σ D :=
  let attempt := g.chatAttemptFor st.router outside outgoing call primary
  let st := { st with router := attempt.router }
  match attempt.outcome with
  | .error _ => st
  | .ok (d, _, completion) =>
    g.storeAnswer st inbound outgoing (servedModel primary outgoing)
      ⟨g.kept call d completion, servedModel d outgoing⟩ outside

/-- A call that a cache may answer: it is not streamed, and not on `/v1/responses`. -/
def looksUp (outgoing : ChatCompletionRequest) : Call → Bool
  | .responses _ _ => false
  | _ => !outgoing.streaming

/-- **All that a handler can do**: nothing, when the body does not translate or the model is not
allowed; nothing but the routing, when that fails; open a stream; answer from a cache; dispatch
after the caches were missed; and dispatch past the caches. -/
inductive Handling (g : Gateway σ ε D) (st : GatewayState σ D) (inbound : Inbound)
    (outside : Outside ε) (call : Call) : Handled σ D → Prop
  | rejected (e : HttpError) : Handling g st inbound outside call { reply := .error e, state := st }
  | unrouted (request : ChatCompletionRequest) (e : HttpError) (st' : GatewayState σ D)
      (routed : g.routeRequest st inbound outside request = (.error e, st')) :
      Handling g st inbound outside call { reply := .error e, state := st' }
  | streamed (request : ChatCompletionRequest) (primary : RoutingDecision) (st' : GatewayState σ D)
      (routed : Routed g st inbound outside call request primary st')
      (streams : streams (g.outgoingFor outside request primary) call = true) :
      Handling g st inbound outside call
        { dispatches := (g.streamAttemptFor st'.router outside
            (g.outgoingFor outside request primary) call primary).dispatches
          reply := replyOf (g.streamAttemptFor st'.router outside
            (g.outgoingFor outside request primary) call primary) (fun d failoverFrom stream =>
              .ok (g.streamReply st' outside (g.outgoingFor outside request primary) primary
                (g.headersOf inbound outside request primary call d failoverFrom) call d stream))
          state := { st' with router := (g.streamAttemptFor st'.router outside
            (g.outgoingFor outside request primary) call primary).router } }
  | hit (request : ChatCompletionRequest) (primary : RoutingDecision) (st' st'' : GatewayState σ D)
      (answer : Answer) (status : String)
      (routed : Routed g st inbound outside call request primary st')
      (looksUp : looksUp (g.outgoingFor outside request primary) call = true)
      (found : g.lookupCaches st' inbound (g.outgoingFor outside request primary)
        (servedModel primary (g.outgoingFor outside request primary)) outside =
          (some (answer, status), st'')) :
      Handling g st inbound outside call
        { reply := g.completionReply outside (("x-modelmeld-cache", status) ::
            g.headersOf inbound outside request primary call primary none)
            (servedModel primary (g.outgoingFor outside request primary)) call answer.completion
          state := st''
          hit := some (servedModel primary (g.outgoingFor outside request primary), answer) }
  | missed (request : ChatCompletionRequest) (primary : RoutingDecision)
      (st' st'' : GatewayState σ D)
      (routed : Routed g st inbound outside call request primary st')
      (looksUp : looksUp (g.outgoingFor outside request primary) call = true)
      (missed : g.lookupCaches st' inbound (g.outgoingFor outside request primary)
        (servedModel primary (g.outgoingFor outside request primary)) outside = (none, st'')) :
      Handling g st inbound outside call
        { dispatches := (g.chatAttemptFor st''.router outside
            (g.outgoingFor outside request primary) call primary).dispatches
          reply := replyOf (g.chatAttemptFor st''.router outside
            (g.outgoingFor outside request primary) call primary) (fun d failoverFrom completion =>
              g.completionReply outside
                (g.headersOf inbound outside request primary call d failoverFrom ++
                  g.missHeader st'' inbound (g.outgoingFor outside request primary)
                    (servedModel primary (g.outgoingFor outside request primary)))
                (servedModel primary (g.outgoingFor outside request primary)) call
                (g.kept call d completion))
          state := g.storedState st'' inbound outside (g.outgoingFor outside request primary) call
            primary }
  | uncached (request : ChatCompletionRequest) (primary : RoutingDecision) (st' : GatewayState σ D)
      (routed : Routed g st inbound outside call request primary st')
      (looksUp : looksUp (g.outgoingFor outside request primary) call = false)
      (streams : streams (g.outgoingFor outside request primary) call = false) :
      Handling g st inbound outside call
        { dispatches := (g.chatAttemptFor st'.router outside
            (g.outgoingFor outside request primary) call primary).dispatches
          reply := replyOf (g.chatAttemptFor st'.router outside
            (g.outgoingFor outside request primary) call primary) (fun d failoverFrom completion =>
              g.completionReply outside
                (g.headersOf inbound outside request primary call d failoverFrom)
                (servedModel primary (g.outgoingFor outside request primary)) call
                (g.kept call d completion))
          state := { st' with router := (g.chatAttemptFor st'.router outside
            (g.outgoingFor outside request primary) call primary).router } }

omit [DecidableEq D] in
theorem streamWithFailover_eq (request : ChatCompletionRequest) (primary : RoutingDecision)
    (outgoing : ChatCompletionRequest) (redactions : List Redaction) :
    g.streamWithFailover st inbound outside primary outgoing redactions =
      { dispatches := (g.streamAttemptFor st.router outside outgoing (.chat request)
          primary).dispatches
        reply := replyOf (g.streamAttemptFor st.router outside outgoing (.chat request) primary)
          (fun d failoverFrom stream => .ok (g.streamReply st outside outgoing primary
            (g.headersFor d redactions failoverFrom inbound.hints) (.chat request) d stream))
        state := { st with router := (g.streamAttemptFor st.router outside outgoing (.chat request)
          primary).router } } := by
  have hattempt : g.streamAttempt st outside primary outgoing =
      g.streamAttemptFor st.router outside outgoing (.chat request) primary := rfl
  unfold streamWithFailover replyOf
  rw [hattempt]
  rcases g.streamAttemptFor st.router outside outgoing (.chat request) primary with
    ⟨ds, _ | ⟨d, f, v⟩, s⟩ <;> rfl

theorem completionWithFailover_eq (request : ChatCompletionRequest) (primary : RoutingDecision)
    (outgoing : ChatCompletionRequest) (redactions : List Redaction) :
    g.completionWithFailover st inbound outside primary outgoing redactions
        (servedModel primary outgoing) =
      { dispatches := (g.chatAttemptFor st.router outside outgoing (.chat request)
          primary).dispatches
        reply := replyOf (g.chatAttemptFor st.router outside outgoing (.chat request) primary)
          (fun d failoverFrom completion => g.completionReply outside
            (g.headersFor d redactions failoverFrom inbound.hints ++
              g.missHeader st inbound outgoing (servedModel primary outgoing))
            (servedModel primary outgoing) (.chat request) (g.kept (.chat request) d completion))
        state := g.storedState st inbound outside outgoing (.chat request) primary } := by
  have hattempt : g.completionAttempt st outside primary outgoing =
      g.chatAttemptFor st.router outside outgoing (.chat request) primary := rfl
  unfold completionWithFailover replyOf storedState
  rw [hattempt]
  rcases g.chatAttemptFor st.router outside outgoing (.chat request) primary with
    ⟨ds, _ | ⟨d, f, v⟩, s⟩ <;> rfl

theorem chat_handling (request : ChatCompletionRequest) :
    Handling g st inbound outside (.chat request) (g.chatCompletions st inbound outside request) := by
  unfold chatCompletions
  split
  · exact .rejected _
  · rename_i hallowed
    rcases hr : g.routeRequest st inbound outside request with ⟨e | primary, st'⟩
    · exact .unrouted request e st' hr
    · have hrouted : Routed g st inbound outside (.chat request) request primary st' :=
        ⟨rfl, Bool.eq_false_of_not_eq_true hallowed, hr⟩
      simp only
      split
      · rename_i hstream
        rw [streamWithFailover_eq request]
        exact .streamed request primary st' hrouted hstream
      · rename_i hstream
        have hlooks : looksUp (g.outgoingFor outside request primary) (.chat request) = true :=
          congrArg not (Bool.eq_false_of_not_eq_true hstream)
        split
        · rename_i answer status st'' hl
          exact .hit request primary st' st'' answer status hrouted hlooks hl
        · rename_i st'' hl
          rw [completionWithFailover_eq request]
          exact .missed request primary st' st'' hrouted hlooks hl

omit [DecidableEq D] in
theorem streamMessagesWithFailover_eq {body : AcceptedMessagesRequest}
    (primary : RoutingDecision) {outgoing : ChatCompletionRequest}
    (hstream : outgoing.streaming = true) (redactions : List Redaction) :
    g.streamMessagesWithFailover st outside body.toAnthropicMessagesRequest primary outgoing
        redactions (servedModel primary outgoing) =
      { dispatches := (g.streamAttemptFor st.router outside outgoing (.messages body)
          primary).dispatches
        reply := replyOf (g.streamAttemptFor st.router outside outgoing (.messages body) primary)
          (fun d failoverFrom stream => .ok (g.streamReply st outside outgoing primary
            (g.headersFor d redactions failoverFrom none) (.messages body) d stream))
        state := { st with router := (g.streamAttemptFor st.router outside outgoing
          (.messages body) primary).router } } := by
  have hattempt : g.messageStreamAttempt st outside body.toAnthropicMessagesRequest primary
      outgoing = g.streamAttemptFor st.router outside outgoing (.messages body) primary := by
    unfold messageStreamAttempt streamAttemptFor sendFor
    simp only [hstream, if_true]
  unfold streamMessagesWithFailover replyOf
  rw [hattempt]
  rcases g.streamAttemptFor st.router outside outgoing (.messages body) primary with
    ⟨ds, _ | ⟨d, f, v⟩, s⟩ <;> rfl

theorem messageWithFailover_eq {body : AcceptedMessagesRequest}
    (primary : RoutingDecision) {outgoing : ChatCompletionRequest}
    (hstream : outgoing.streaming = false) (redactions : List Redaction) :
    g.messageWithFailover st inbound outside body.toAnthropicMessagesRequest primary outgoing
        redactions (servedModel primary outgoing) =
      { dispatches := (g.chatAttemptFor st.router outside outgoing (.messages body)
          primary).dispatches
        reply := replyOf (g.chatAttemptFor st.router outside outgoing (.messages body) primary)
          (fun d failoverFrom completion => g.completionReply outside
            (g.headersFor d redactions failoverFrom none ++
              g.missHeader st inbound outgoing (servedModel primary outgoing))
            (servedModel primary outgoing) (.messages body) (g.kept (.messages body) d completion))
        state := g.storedState st inbound outside outgoing (.messages body) primary } := by
  have hattempt : g.messageAttempt st outside body.toAnthropicMessagesRequest primary
      outgoing = g.chatAttemptFor st.router outside outgoing (.messages body) primary := by
    unfold messageAttempt chatAttemptFor sendFor
    simp only [hstream, Bool.false_eq_true, if_false]
  unfold messageWithFailover replyOf storedState
  rw [hattempt]
  rcases g.chatAttemptFor st.router outside outgoing (.messages body) primary with
    ⟨ds, _ | ⟨d, f, v⟩, s⟩ <;> rfl

theorem messages_handling (body : AcceptedMessagesRequest) :
    Handling g st inbound outside (.messages body)
      (g.anthropicMessages st inbound outside body.toAnthropicMessagesRequest) := by
  unfold anthropicMessages
  cases ht : fromAnthropicRequest g.texts body.toAnthropicMessagesRequest with
  | error e => exact .rejected _
  | ok request =>
    have hint : g.internal (.messages body) = some request := by
      simp [internal, ht, Except.toOption]
    simp only
    split
    · exact .rejected _
    · rename_i hallowed
      rcases hr : g.routeRequest st inbound outside request with ⟨e | primary, st'⟩
      · exact .unrouted request e st' hr
      · have hrouted : Routed g st inbound outside (.messages body) request primary st' :=
          ⟨hint, Bool.eq_false_of_not_eq_true hallowed, hr⟩
        simp only
        split
        · rename_i hstream
          rw [streamMessagesWithFailover_eq _ hstream]
          exact .streamed request primary st' hrouted hstream
        · rename_i hstream
          have hstream := Bool.eq_false_of_not_eq_true hstream
          have hlooks : looksUp (g.outgoingFor outside request primary) (.messages body) = true :=
            congrArg not hstream
          split
          · rename_i answer status st'' hl
            exact .hit request primary st' st'' answer status hrouted hlooks hl
          · rename_i st'' hl
            rw [messageWithFailover_eq _ hstream]
            exact .missed request primary st' st'' hrouted hlooks hl

theorem responses_handling (stream : Bool) (request : ChatCompletionRequest) :
    Handling g st inbound outside (.responses stream request)
      (g.responses st inbound outside stream request) := by
  unfold responses
  split
  · exact .rejected _
  · rename_i hallowed
    rcases hr : g.routeRequest st inbound outside request with ⟨e | primary, st'⟩
    · exact .unrouted request e st' hr
    · have hrouted : Routed g st inbound outside (.responses stream request) request primary st' :=
        ⟨rfl, Bool.eq_false_of_not_eq_true hallowed, hr⟩
      cases stream with
      | true =>
        have hd := Handling.streamed request primary st' hrouted rfl
        -- on this surface the attempt is that of the chat route
        have hattempt : g.streamAttempt st' outside primary (g.outgoingFor outside request primary) =
          g.streamAttemptFor st'.router outside (g.outgoingFor outside request primary)
            (.responses true request) primary := rfl
        unfold outgoingFor at hd hattempt
        simp only [if_true, hattempt]
        revert hd
        unfold replyOf
        rcases g.streamAttemptFor st'.router outside _ (.responses true request) primary with
          ⟨ds, _ | ⟨d, f, v⟩, s⟩ <;> exact id
      | false =>
        have hd := Handling.uncached request primary st' hrouted rfl rfl
        have hattempt : g.completionAttempt st' outside primary
            (g.outgoingFor outside request primary) =
          g.chatAttemptFor st'.router outside (g.outgoingFor outside request primary)
            (.responses false request) primary := rfl
        unfold outgoingFor at hd hattempt
        simp only [Bool.false_eq_true, if_false, hattempt]
        revert hd
        unfold replyOf
        rcases g.chatAttemptFor st'.router outside _ (.responses false request) primary with
          ⟨ds, _ | ⟨d, f, v⟩, s⟩ <;> exact id

variable (g st inbound outside) in
/-- **Every call is handled in one of these ways.** -/
theorem handle_handling (call : Call) :
    Handling g st inbound outside call (g.handle st inbound outside call) := by
  cases call with
  | chat request => exact chat_handling request
  | messages body => exact messages_handling body
  | responses stream request => exact responses_handling stream request

/-! ## Dispatches -/

omit [DecidableEq D] in
theorem streamAttemptFor_dispatches {s : σ} {outgoing : ChatCompletionRequest} {call : Call}
    {primary : RoutingDecision} (hstreams : streams outgoing call = true) :
    (g.streamAttemptFor s outside outgoing call primary).dispatches =
      g.dispatchesFor s outside outgoing call primary := by
  unfold streamAttemptFor dispatchesFor fallbackFor
  rw [withFailover_dispatches, if_pos hstreams]

omit [DecidableEq D] in
theorem chatAttemptFor_dispatches {s : σ} {outgoing : ChatCompletionRequest} {call : Call}
    {primary : RoutingDecision} (hstreams : streams outgoing call = false) :
    (g.chatAttemptFor s outside outgoing call primary).dispatches =
      g.dispatchesFor s outside outgoing call primary := by
  unfold chatAttemptFor dispatchesFor fallbackFor
  rw [withFailover_dispatches, hstreams, if_neg Bool.false_ne_true]

/-- A call that looks into the caches is not streamed. -/
theorem streams_of_looksUp {outgoing : ChatCompletionRequest} {call : Call}
    (h : looksUp outgoing call = true) : streams outgoing call = false := by
  cases call with
  | responses stream request => cases h
  | chat request => exact Bool.eq_false_of_not_eq_true' h
  | messages body => exact Bool.eq_false_of_not_eq_true' h

theorem lookedUp_router {st' st'' : GatewayState σ D} {outgoing : ChatCompletionRequest}
    {served : String} {found : Option (Answer × String)}
    (h : g.lookupCaches st' inbound outgoing served outside = (found, st'')) :
    st''.router = st'.router := by
  have hrt := lookupCaches_router g st' inbound outside outgoing served
  rw [h] at hrt
  exact hrt

variable (g st inbound outside) in
/-- **A call is dispatched through the decision it is routed to and, when that dispatch fails,
through the fallback; or it is not dispatched.** -/
theorem handle_dispatches (call : Call) :
    (g.handle st inbound outside call).dispatches = [] ∨
      ∃ request primary st', g.internal call = some request ∧
        g.routeRequest st inbound outside request = (.ok primary, st') ∧
        (g.handle st inbound outside call).dispatches =
          g.dispatchesFor st'.router outside (g.outgoingFor outside request primary) call
            primary := by
  have hd := handle_handling g st inbound outside call
  generalize g.handle st inbound outside call = handled at hd ⊢
  cases hd with
  | rejected e => exact Or.inl rfl
  | unrouted request e st' hr => exact Or.inl rfl
  | hit => exact Or.inl rfl
  | streamed request primary st' hrouted hstreams =>
    exact Or.inr ⟨request, primary, st', hrouted.translated, hrouted.routed,
      streamAttemptFor_dispatches hstreams⟩
  | missed request primary st' st'' hrouted hlooks hmissed =>
    refine Or.inr ⟨request, primary, st', hrouted.translated, hrouted.routed, ?_⟩
    rw [← lookedUp_router hmissed]
    exact chatAttemptFor_dispatches (streams_of_looksUp hlooks)
  | uncached request primary st' hrouted hlooks hstreams =>
    exact Or.inr ⟨request, primary, st', hrouted.translated, hrouted.routed,
      chatAttemptFor_dispatches hstreams⟩

/-! ## Answers -/

omit [DecidableEq D] in
/-- A fallback is what the router answers the error of the first dispatch with. -/
theorem fallbackFor_some {s : σ} {outgoing : ChatCompletionRequest} {call : Call}
    {primary d : RoutingDecision}
    (h : g.fallbackFor s outside outgoing call primary = some d) :
    ∃ error, (g.router.fallback s outside.failover primary outgoing error).1 = some d := by
  unfold fallbackFor fallbackOf at h
  split at h
  · split at h
    · exact ⟨_, h⟩
    · cases h
  · split at h
    · exact ⟨_, h⟩
    · cases h

/-- Who answers a call, after its first dispatch or after its failover. -/
def AnsweredBy {α : Type} (g : Gateway σ ε D) (s : σ) (outside : Outside ε)
    (outgoing : ChatCompletionRequest) (call : Call) (primary : RoutingDecision)
    (answer : ℕ → Dispatch → Upstream α) (d : RoutingDecision) (v : α) : Prop :=
  (d = primary ∧ answer 0 (g.sendFor outgoing call primary) = .ok v) ∨
    (g.fallbackFor s outside outgoing call primary = some d ∧
      answer 1 (g.sendFor outgoing call d) = .ok v)

omit [DecidableEq D] in
theorem chatAttemptFor_ok {s : σ} {outgoing : ChatCompletionRequest} {call : Call}
    {primary : RoutingDecision} (hstreams : streams outgoing call = false)
    {d : RoutingDecision} {f : Option Tier} {completion : ChatCompletion}
    (hok : (g.chatAttemptFor s outside outgoing call primary).outcome = .ok (d, f, completion)) :
    AnsweredBy g s outside outgoing call primary outside.chat d completion := by
  unfold AnsweredBy fallbackFor
  rw [hstreams, if_neg Bool.false_ne_true]
  rcases withFailover_ok hok with ⟨rfl, -, h⟩ | h
  · exact Or.inl ⟨rfl, h⟩
  · exact Or.inr h

omit [DecidableEq D] in
theorem streamAttemptFor_ok {s : σ} {outgoing : ChatCompletionRequest} {call : Call}
    {primary : RoutingDecision} (hstreams : streams outgoing call = true)
    {d : RoutingDecision} {f : Option Tier} {stream : ChunkStream}
    (hok : (g.streamAttemptFor s outside outgoing call primary).outcome = .ok (d, f, stream)) :
    AnsweredBy g s outside outgoing call primary outside.stream d stream := by
  unfold AnsweredBy fallbackFor
  rw [if_pos hstreams]
  rcases withFailover_ok hok with ⟨rfl, -, h⟩ | h
  · exact Or.inl ⟨rfl, h⟩
  · exact Or.inr h

end Gateway

end ModelMeld
