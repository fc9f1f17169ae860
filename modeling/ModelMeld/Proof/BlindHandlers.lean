import ModelMeld.Proof.Gateway
import ModelMeld.Proof.KeyBlindness

/-!
# What the handlers can tell of a key

* `withFailover_alike`: the dispatch with its failover, between alike decisions;
* `handle_alike`: in worlds that are alike under the mask, a call answers and stores the same, and
  dispatches the same to alike adapters.
-/

namespace ModelMeld

/-! ## Masks -/

def Dispatch.masked (d : Dispatch) : Dispatch := { d with adapter := d.adapter.masked }

def Attempt.masked {σ α : Type} (a : Attempt σ α) : Attempt σ α where
  dispatches := a.dispatches.map Dispatch.masked
  outcome := a.outcome.map (fun x => (x.1.masked, x.2))
  router := a.router

def Handled.masked {σ D : Type} (h : Handled σ D) : Handled σ D :=
  { h with dispatches := h.dispatches.map Dispatch.masked }

/-- Calls that did the same under the mask. -/
theorem Handled.masked_eq {σ D : Type} {h h' : Handled σ D}
    (hdispatches : h.dispatches.map Dispatch.masked = h'.dispatches.map Dispatch.masked)
    (hreply : h.reply = h'.reply) (hstate : h.state = h'.state) (hhit : h.hit = h'.hit) :
    h.masked = h'.masked := by
  obtain ⟨ds, reply, state, hit⟩ := h
  obtain ⟨ds', reply', state', hit'⟩ := h'
  obtain ⟨rfl, rfl, rfl⟩ : reply = reply' ∧ state = state' ∧ hit = hit' := ⟨hreply, hstate, hhit⟩
  simp only [Handled.masked, hdispatches]

/-- Attempts that did the same under the mask: both succeed, by alike decisions, or both fail. -/
theorem attempt_cases {σ α : Type} {x y : Attempt σ α} (h : x.masked = y.masked) :
    x.dispatches.map Dispatch.masked = y.dispatches.map Dispatch.masked ∧ x.router = y.router ∧
      ((∃ d d' f v, x.outcome = .ok (d, f, v) ∧ y.outcome = .ok (d', f, v) ∧
        d.masked = d'.masked) ∨ ∃ e, x.outcome = .error e ∧ y.outcome = .error e) := by
  obtain ⟨ds, outcome, s⟩ := x
  obtain ⟨ds', outcome', s'⟩ := y
  obtain ⟨hds, houtcome, rfl⟩ := Attempt.mk.inj h
  refine ⟨hds, rfl, ?_⟩
  cases outcome with
  | error e =>
    cases outcome' with
    | error e' => cases houtcome; exact Or.inr ⟨e, rfl, rfl⟩
    | ok b => cases houtcome
  | ok a =>
    cases outcome' with
    | error e' => cases houtcome
    | ok b =>
      obtain ⟨d, f, v⟩ := a
      obtain ⟨d', f', v'⟩ := b
      have hall := Except.ok.inj houtcome
      simp only [Prod.mk.injEq] at hall
      obtain ⟨hd, rfl, rfl⟩ := hall
      exact Or.inl ⟨d, d', f, v, rfl, rfl, hd⟩

/-- Fallbacks that are alike: none, or two. -/
theorem fallback_cases {S : Type} {x y : Option RoutingDecision × S}
    (h : Prod.map (Option.map RoutingDecision.masked) id x =
      Prod.map (Option.map RoutingDecision.masked) id y) :
    (∃ s, x = (none, s) ∧ y = (none, s)) ∨
      ∃ d d' s, x = (some d, s) ∧ y = (some d', s) ∧ d.masked = d'.masked := by
  obtain ⟨o, s⟩ := x
  obtain ⟨o', s'⟩ := y
  obtain ⟨ho, rfl⟩ := Prod.mk.inj h
  cases o with
  | none =>
    cases o' with
    | none => exact Or.inl ⟨s, rfl, rfl⟩
    | some d' => cases ho
  | some d =>
    cases o' with
    | none => cases ho
    | some d' => exact Or.inr ⟨d, d', s, rfl, rfl, Option.some.inj ho⟩

/-! ## Alike worlds -/

/-- Upstreams that answer alike dispatches alike. -/
def AnswersAlike {α : Type} (answer answer' : ℕ → Dispatch → Upstream α) : Prop :=
  ∀ i x x', x.masked = x'.masked → answer i x = answer' i x'

/-- Worlds whose upstreams and probes answer alike, and that are the same otherwise. -/
structure Outside.Alike {ε : Type} (alike : ε → ε → Prop) (o o' : Outside ε) : Prop where
  routing : alike o.routing o'.routing
  failover : alike o.failover o'.failover
  chat : AnswersAlike o.chat o'.chat
  stream : AnswersAlike o.stream o'.stream
  rest : o' = { o with
    routing := o'.routing, failover := o'.failover, chat := o'.chat, stream := o'.stream }

/-- Requests that brought alike adapters, and the same otherwise. -/
structure Inbound.Alike (i i' : Inbound) : Prop where
  byok : OwnAlike i.byok i'.byok
  passthrough : SameUnderMask i.passthrough i'.passthrough
  rest : i' = { i with byok := i'.byok, passthrough := i'.passthrough }

/-! ## One dispatch with one failover -/

section WithFailover

variable {σ ε α : Type} {alike : ε → ε → Prop} {rt rt' : Router σ ε} {e e' : ε}
  {answer answer' : ℕ → Dispatch → Upstream α} {send : RoutingDecision → Dispatch}
  {d d' : RoutingDecision}

theorem withFailover_alike (hrt : Router.Alike alike rt rt') (he : alike e e')
    (hanswer : AnswersAlike answer answer')
    (hsend : ∀ d d', d.masked = d'.masked → (send d).masked = (send d').masked)
    (hd : d.masked = d'.masked) (s : σ) (safe : String → String)
    (both : AdapterError → AdapterError → HttpError) (outgoing : ChatCompletionRequest) :
    (withFailover rt s e safe both send answer d outgoing).masked =
      (withFailover rt' s e' safe both send answer' d' outgoing).masked := by
  unfold withFailover
  rw [hanswer 0 _ _ (hsend d d' hd)]
  cases answer' 0 (send d') with
  | ok v => simp [Attempt.masked, Except.map, hsend d d' hd, hd]
  | raised => simp [Attempt.masked, Except.map, hsend d d' hd]
  | failed primary =>
    have htier : d.tier = d'.tier := congr_masked (fun d => d.tier) (fun _ => rfl) hd
    simp only
    rcases fallback_cases (hrt.fallback s e e' d d' outgoing primary he hd) with
      ⟨t, hx, hy⟩ | ⟨fb, fb', t, hx, hy, hfb⟩
    · rw [hx, hy]
      simp [Attempt.masked, Except.map, hsend d d' hd]
    · rw [hx, hy]
      simp only
      rw [hanswer 1 _ _ (hsend fb fb' hfb)]
      cases answer' 1 (send fb') with
      | ok v => simp [Attempt.masked, Except.map, hsend d d' hd, hsend fb fb' hfb, hfb, htier]
      | raised => simp [Attempt.masked, Except.map, hsend d d' hd, hsend fb fb' hfb]
      | failed secondary => simp [Attempt.masked, Except.map, hsend d d' hd, hsend fb fb' hfb]

end WithFailover

/-! ## The handlers -/

namespace Gateway

variable {σ ε D : Type} [DecidableEq D] {alike : ε → ε → Prop} {g : Gateway σ ε D}
  {rt' : Router σ ε} {i i' : Inbound} {o o' : Outside ε} {d d' : RoutingDecision}
  {st : GatewayState σ D}

/-- The gateway over another router. -/
def withRouter (g : Gateway σ ε D) (rt : Router σ ε) : Gateway σ ε D := { g with router := rt }

omit [DecidableEq D] in
theorem activeRouter_alike (hrt : Router.Alike alike g.router rt') (hi : i.Alike i') :
    Router.Alike alike (g.activeRouter i) ((g.withRouter rt').activeRouter i') := by
  have hpass := hi.passthrough
  unfold activeRouter
  cases ha : i.passthrough with
  | none =>
    rw [ha] at hpass
    rw [sameUnderMask_none hpass]
    exact hrt
  | some a =>
    rw [ha] at hpass
    obtain ⟨a', ha', haa⟩ := sameUnderMask_some hpass
    rw [ha']
    exact singleAdapterRouter_alike alike haa

omit [DecidableEq D] in
theorem suppliedKeys_alike (hi : i.Alike i') :
    (i.byok.map AdapterMap.keys).getD ∅ = (i'.byok.map AdapterMap.keys).getD ∅ := by
  have hown := hi.byok
  cases hb : i.byok with
  | none =>
    rw [hb] at hown
    cases hb' : i'.byok with
    | none => rfl
    | some m' => rw [hb'] at hown; cases hown
  | some m =>
    rw [hb] at hown
    cases hb' : i'.byok with
    | none => rw [hb'] at hown; cases hown
    | some m' =>
      rw [hb'] at hown
      cases hown with
      | some hm => simp [hm.keys]

omit [DecidableEq D] in
theorem routeRequest_alike (st : GatewayState σ D) (hrt : Router.Alike alike g.router rt')
    (hi : i.Alike i') (ho : o.Alike alike o') (request : ChatCompletionRequest) :
    Prod.map (Except.map RoutingDecision.masked) id (g.routeRequest st i o request) =
      Prod.map (Except.map RoutingDecision.masked) id
        ((g.withRouter rt').routeRequest st i' o' request) := by
  have hhints : i'.hints = i.hints := by rw [hi.rest]
  have hroute := (activeRouter_alike hrt hi).route st.router o.routing o'.routing request i.hints
    i.byok i'.byok ho.routing hi.byok
  unfold routeRequest
  rw [hhints, ← suppliedKeys_alike hi]
  rcases walked_cases hroute with ⟨d, d', s, hx, hy, hd⟩ | ⟨e, s, hx, hy⟩
  · rw [hx, hy]
    exact congrArg (fun d => (Except.ok d, { st with router := s })) hd
  · rw [hx, hy]
    rfl

/-! ### What does not read the keys -/

omit [DecidableEq D] in
theorem refused_alike (hi : i.Alike i') (model : String) : refused i' model = refused i model := by
  rw [hi.rest]
  rfl

theorem lookupCaches_alike (hi : i.Alike i') (ho : o.Alike alike o')
    (outgoing : ChatCompletionRequest) (served : String) :
    (g.withRouter rt').lookupCaches st i' outgoing served o' =
      g.lookupCaches st i outgoing served o := by
  rw [hi.rest, ho.rest]
  rfl

theorem storeAnswer_alike (hi : i.Alike i') (ho : o.Alike alike o')
    (outgoing : ChatCompletionRequest) (served : String) (answer : Answer) :
    (g.withRouter rt').storeAnswer st i' outgoing served answer o' =
      g.storeAnswer st i outgoing served answer o := by
  rw [hi.rest, ho.rest]
  rfl

omit [DecidableEq D] in
theorem missHeader_alike (hi : i.Alike i') (outgoing : ChatCompletionRequest) (served : String) :
    (g.withRouter rt').missHeader st i' outgoing served = g.missHeader st i outgoing served := by
  rw [hi.rest]
  rfl

omit [DecidableEq D] in
theorem headersFor_alike (hd : d.masked = d'.masked) (redactions : List Redaction)
    (failoverFrom : Option Tier) (hints : Option RoutingHints) :
    (g.withRouter rt').headersFor d' redactions failoverFrom hints =
      g.headersFor d redactions failoverFrom hints :=
  congr_masked (fun d => g.headersFor d redactions failoverFrom hints) (fun _ => rfl) hd.symm

omit [DecidableEq D] in
theorem pinCompletion_alike (hd : d.masked = d'.masked) (completion : ChatCompletion) :
    (g.withRouter rt').pinCompletion d' completion = g.pinCompletion d completion :=
  congr_masked (fun d => g.pinCompletion d completion) (fun _ => rfl) hd.symm

theorem routedModel_alike (hd : d.masked = d'.masked) (registry : Option ModelRegistry) :
    routedModel d' registry = routedModel d registry :=
  congr_masked (fun d => routedModel d registry) (fun _ => rfl) hd.symm

theorem servedModel_alike (hd : d.masked = d'.masked) (request : ChatCompletionRequest) :
    servedModel d' request = servedModel d request :=
  congr_masked (fun d => servedModel d request) (fun _ => rfl) hd.symm

theorem maybeScrub_alike (hd : d.masked = d'.masked) (request : ChatCompletionRequest)
    (scrubber : Option RegexScrubber) :
    maybeScrub request d' scrubber = maybeScrub request d scrubber :=
  congr_masked (fun d => maybeScrub request d scrubber) (fun _ => rfl) hd.symm

/-! ### Attempts -/

omit [DecidableEq D] in
theorem sendFor_alike (call : Call) (outgoing : ChatCompletionRequest) (d d' : RoutingDecision)
    (hd : d.masked = d'.masked) :
    (g.sendFor outgoing call d).masked = (g.sendFor outgoing call d').masked := by
  refine congr_masked (fun d => (g.sendFor outgoing call d).masked) (fun d => ?_) hd
  cases call with
  | chat request => rfl
  | responses stream request => rfl
  | messages body =>
    unfold sendFor
    cases outgoing.streaming <;> rfl

omit [DecidableEq D] in
theorem streamAttemptFor_alike (hrt : Router.Alike alike g.router rt') (ho : o.Alike alike o')
    (hd : d.masked = d'.masked) (s : σ) (outgoing : ChatCompletionRequest) (call : Call) :
    (g.streamAttemptFor s o outgoing call d).masked =
      ((g.withRouter rt').streamAttemptFor s o' outgoing call d').masked :=
  withFailover_alike hrt ho.failover ho.stream (sendFor_alike call outgoing) hd s g.safeErrorDetail
    bothFailedStream outgoing

omit [DecidableEq D] in
theorem chatAttemptFor_alike (hrt : Router.Alike alike g.router rt') (ho : o.Alike alike o')
    (hd : d.masked = d'.masked) (s : σ) (outgoing : ChatCompletionRequest) (call : Call) :
    (g.chatAttemptFor s o outgoing call d).masked =
      ((g.withRouter rt').chatAttemptFor s o' outgoing call d').masked :=
  withFailover_alike hrt ho.failover ho.chat (sendFor_alike call outgoing) hd s g.safeErrorDetail
    (bothFailedChat g.safeErrorDetail) outgoing

theorem replyOf_alike {α : Type} {x y : Attempt σ α}
    {reply reply' : RoutingDecision → Option Tier → α → Except HttpError Reply}
    (h : x.masked = y.masked)
    (hreply : ∀ d d' f v, d.masked = d'.masked → reply d f v = reply' d' f v) :
    replyOf x reply = replyOf y reply' := by
  obtain ⟨-, -, houtcome⟩ := attempt_cases h
  unfold replyOf
  rcases houtcome with ⟨d, d', f, v, hx, hy, hd⟩ | ⟨e, hx, hy⟩
  · rw [hx, hy]
    exact hreply d d' f v hd
  · rw [hx, hy]

omit [DecidableEq D] in
theorem streamReply_alike (ho : o.Alike alike o') {primary primary' : RoutingDecision}
    (hprimary : primary.masked = primary'.masked) (hd : d.masked = d'.masked)
    (outgoing : ChatCompletionRequest) (headers : Headers) (call : Call) (stream : ChunkStream) :
    g.streamReply st o outgoing primary headers call d stream =
      (g.withRouter rt').streamReply st o' outgoing primary' headers call d' stream := by
  unfold streamReply withRouter
  cases call with
  | chat request => rw [routedModel_alike hd]
  | responses stream request => rw [routedModel_alike hd]
  | messages body =>
    rw [servedModel_alike hprimary, ho.rest]

omit [DecidableEq D] in
theorem messageReply_alike (ho : o.Alike alike o') (headers : Headers)
    (completion : ChatCompletion) (served : String) :
    (g.withRouter rt').messageReply o' headers completion served =
      g.messageReply o headers completion served := by
  rw [ho.rest]
  rfl

omit [DecidableEq D] in
theorem completionReply_alike (ho : o.Alike alike o') (headers : Headers) (served : String)
    (call : Call) (completion : ChatCompletion) :
    (g.withRouter rt').completionReply o' headers served call completion =
      g.completionReply o headers served call completion := by
  unfold completionReply
  rw [messageReply_alike ho]

omit [DecidableEq D] in
theorem kept_alike (hd : d.masked = d'.masked) (call : Call) (completion : ChatCompletion) :
    (g.withRouter rt').kept call d' completion = g.kept call d completion := by
  unfold kept
  cases call with
  | messages body => rfl
  | chat request => exact pinCompletion_alike hd completion
  | responses stream request => exact pinCompletion_alike hd completion

theorem storedState_alike (hrt : Router.Alike alike g.router rt') (hi : i.Alike i')
    (ho : o.Alike alike o') (hd : d.masked = d'.masked) (outgoing : ChatCompletionRequest)
    (call : Call) :
    g.storedState st i o outgoing call d =
      (g.withRouter rt').storedState st i' o' outgoing call d' := by
  obtain ⟨-, hrouter, houtcome⟩ :=
    attempt_cases (chatAttemptFor_alike hrt ho hd st.router outgoing call)
  unfold storedState
  rcases houtcome with ⟨e, e', f, v, hx, hy, he⟩ | ⟨e, hx, hy⟩
  · simp only [hx, hy, hrouter]
    rw [storeAnswer_alike hi ho, kept_alike he, servedModel_alike hd, servedModel_alike he]
  · simp only [hx, hy, hrouter]

/-! ### Calls -/

omit [DecidableEq D] in
/-- A call that opens a stream. -/
theorem streamed_alike (hrt : Router.Alike alike g.router rt') (ho : o.Alike alike o')
    (hd : d.masked = d'.masked) (outgoing : ChatCompletionRequest) (redactions : List Redaction)
    (hints : Option RoutingHints) (call : Call) :
    Handled.masked
        { dispatches := (g.streamAttemptFor st.router o outgoing call d).dispatches
          reply := replyOf (g.streamAttemptFor st.router o outgoing call d)
            (fun e failoverFrom stream => .ok (g.streamReply st o outgoing d
              (g.headersFor e redactions failoverFrom hints) call e stream))
          state := { st with router := (g.streamAttemptFor st.router o outgoing call d).router } } =
      Handled.masked
        { dispatches :=
            ((g.withRouter rt').streamAttemptFor st.router o' outgoing call d').dispatches
          reply := replyOf ((g.withRouter rt').streamAttemptFor st.router o' outgoing call d')
            (fun e failoverFrom stream => .ok ((g.withRouter rt').streamReply st o' outgoing d'
              ((g.withRouter rt').headersFor e redactions failoverFrom hints) call e stream))
          state := { st with
            router := ((g.withRouter rt').streamAttemptFor st.router o' outgoing call d').router } } := by
  have hattempt := streamAttemptFor_alike hrt ho hd st.router outgoing call
  obtain ⟨hds, hrouter, -⟩ := attempt_cases hattempt
  apply Handled.masked_eq hds
  · refine replyOf_alike hattempt (fun e e' f v he => ?_)
    rw [headersFor_alike he, streamReply_alike ho hd he]
  · simp only [hrouter]
  · rfl

/-- A call that looked into the caches and is dispatched. -/
theorem missed_alike (hrt : Router.Alike alike g.router rt') (hi : i.Alike i')
    (ho : o.Alike alike o') (hd : d.masked = d'.masked) (outgoing : ChatCompletionRequest)
    (redactions : List Redaction) (hints : Option RoutingHints) (served : String) (call : Call) :
    Handled.masked
        { dispatches := (g.chatAttemptFor st.router o outgoing call d).dispatches
          reply := replyOf (g.chatAttemptFor st.router o outgoing call d)
            (fun e failoverFrom completion => g.completionReply o
              (g.headersFor e redactions failoverFrom hints ++ g.missHeader st i outgoing served)
              served call (g.kept call e completion))
          state := g.storedState st i o outgoing call d } =
      Handled.masked
        { dispatches := ((g.withRouter rt').chatAttemptFor st.router o' outgoing call d').dispatches
          reply := replyOf ((g.withRouter rt').chatAttemptFor st.router o' outgoing call d')
            (fun e failoverFrom completion => (g.withRouter rt').completionReply o'
              ((g.withRouter rt').headersFor e redactions failoverFrom hints ++
                (g.withRouter rt').missHeader st i' outgoing served)
              served call ((g.withRouter rt').kept call e completion))
          state := (g.withRouter rt').storedState st i' o' outgoing call d' } := by
  have hattempt := chatAttemptFor_alike hrt ho hd st.router outgoing call
  apply Handled.masked_eq (attempt_cases hattempt).1
  · refine replyOf_alike hattempt (fun e e' f v he => ?_)
    rw [completionReply_alike ho, headersFor_alike he, missHeader_alike hi, kept_alike he]
  · exact storedState_alike hrt hi ho hd outgoing call
  · rfl

theorem chatCompletions_alike (hrt : Router.Alike alike g.router rt') (hi : i.Alike i')
    (ho : o.Alike alike o') (request : ChatCompletionRequest) :
    (g.chatCompletions st i o request).masked =
      ((g.withRouter rt').chatCompletions st i' o' request).masked := by
  have hmemory : o'.memory = o.memory := by rw [ho.rest]
  have hhints : i'.hints = i.hints := by rw [hi.rest]
  unfold chatCompletions
  rw [refused_alike hi, hmemory, hhints]
  by_cases hrefused : refused i request.model = true
  · rw [if_pos hrefused, if_pos hrefused]
  · rw [if_neg hrefused, if_neg hrefused]
    rcases walked_cases (routeRequest_alike st hrt hi ho request) with
      ⟨d, d', t, hx, hy, hd⟩ | ⟨e, t, hx, hy⟩
    · rw [hx, hy]
      simp only
      have hscrub : maybeScrub (injectIntoRequest request o.memory) d'
          (g.withRouter rt').scrubber = maybeScrub (injectIntoRequest request o.memory) d
          g.scrubber := maybeScrub_alike hd _ _
      rw [hscrub]
      by_cases hstream : (maybeScrub (injectIntoRequest request o.memory) d
          g.scrubber).1.streaming = true
      · rw [if_pos hstream, if_pos hstream, streamWithFailover_eq request,
          streamWithFailover_eq request, hhints]
        exact streamed_alike hrt ho hd _ _ _ _
      · rw [if_neg hstream, if_neg hstream, servedModel_alike hd, lookupCaches_alike hi ho,
          headersFor_alike hd]
        rcases g.lookupCaches t i _ _ o with ⟨_ | ⟨answer, status⟩, t'⟩
        · have hright : ∀ outgoing redactions, _ :=
            @completionWithFailover_eq σ ε D _ (g.withRouter rt') t' i' o' request d'
          simp only [servedModel_alike hd] at hright
          simp only [completionWithFailover_eq request, hright, hhints]
          exact missed_alike hrt hi ho hd _ _ _ _ _
        · rfl
    · rw [hx, hy]

theorem anthropicMessages_alike (hrt : Router.Alike alike g.router rt') (hi : i.Alike i')
    (ho : o.Alike alike o') (body : AcceptedMessagesRequest) :
    (g.anthropicMessages st i o body.toAnthropicMessagesRequest).masked =
      ((g.withRouter rt').anthropicMessages st i' o' body.toAnthropicMessagesRequest).masked := by
  have hmemory : o'.memory = o.memory := by rw [ho.rest]
  have htexts : (g.withRouter rt').texts = g.texts := rfl
  unfold anthropicMessages
  rw [htexts]
  cases fromAnthropicRequest g.texts body.toAnthropicMessagesRequest with
  | error e => rfl
  | ok request =>
    simp only
    rw [refused_alike hi, hmemory]
    by_cases hrefused : refused i body.model = true
    · rw [if_pos hrefused, if_pos hrefused]
    · rw [if_neg hrefused, if_neg hrefused]
      rcases walked_cases (routeRequest_alike st hrt hi ho request) with
        ⟨d, d', t, hx, hy, hd⟩ | ⟨e, t, hx, hy⟩
      · rw [hx, hy]
        simp only
        have hscrub : maybeScrub (injectIntoRequest request o.memory) d'
            (g.withRouter rt').scrubber = maybeScrub (injectIntoRequest request o.memory) d
            g.scrubber := maybeScrub_alike hd _ _
        rw [hscrub]
        by_cases hstream : (maybeScrub (injectIntoRequest request o.memory) d
            g.scrubber).1.streaming = true
        · rw [if_pos hstream, if_pos hstream, streamMessagesWithFailover_eq _ hstream,
            streamMessagesWithFailover_eq _ hstream]
          exact streamed_alike hrt ho hd _ _ _ _
        · rw [if_neg hstream, if_neg hstream]
          have hstream := Bool.eq_false_of_not_eq_true hstream
          rw [servedModel_alike hd, lookupCaches_alike hi ho, headersFor_alike hd]
          rcases g.lookupCaches t i _ _ o with ⟨_ | ⟨answer, status⟩, t'⟩
          · have hright := @messageWithFailover_eq _ _ _ _ (g.withRouter rt') t' i' o' body d' _
              hstream
            simp only [servedModel_alike hd] at hright
            simp only [messageWithFailover_eq _ hstream, hright]
            exact missed_alike hrt hi ho hd _ _ _ _ _
          · simp only
            rw [messageReply_alike ho]
      · rw [hx, hy]

omit [DecidableEq D] in
theorem responses_alike (hrt : Router.Alike alike g.router rt') (hi : i.Alike i')
    (ho : o.Alike alike o') (stream : Bool) (request : ChatCompletionRequest) :
    (g.responses st i o stream request).masked =
      ((g.withRouter rt').responses st i' o' stream request).masked := by
  have hmemory : o'.memory = o.memory := by rw [ho.rest]
  have hhints : i'.hints = i.hints := by rw [hi.rest]
  unfold responses
  rw [refused_alike hi, hmemory, hhints]
  by_cases hrefused : refused i request.model = true
  · rw [if_pos hrefused, if_pos hrefused]
  · rw [if_neg hrefused, if_neg hrefused]
    rcases walked_cases (routeRequest_alike st hrt hi ho request) with
      ⟨d, d', t, hx, hy, hd⟩ | ⟨e, t, hx, hy⟩
    · rw [hx, hy]
      simp only
      have hscrub : maybeScrub (injectIntoRequest request o.memory) d'
          (g.withRouter rt').scrubber = maybeScrub (injectIntoRequest request o.memory) d
          g.scrubber := maybeScrub_alike hd _ _
      rw [hscrub]
      cases stream with
      | true =>
        -- on this surface the attempt is that of the chat route
        have hattempt : Attempt.masked (g.streamAttempt t o d _) =
            Attempt.masked ((g.withRouter rt').streamAttempt t o' d' _) :=
          streamAttemptFor_alike hrt ho hd t.router
            (maybeScrub (injectIntoRequest request o.memory) d g.scrubber).1 (.chat request)
        obtain ⟨hds, hrouter, houtcome⟩ := attempt_cases hattempt
        simp only [if_true]
        rcases houtcome with ⟨e, e', f, v, hx, hy, he⟩ | ⟨e, hx, hy⟩
        · simp only [hx, hy, hrouter, headersFor_alike he]
          exact Handled.masked_eq hds (by rw [routedModel_alike he]; rfl) rfl rfl
        · simp only [hx, hy, hrouter]
          exact Handled.masked_eq hds rfl rfl rfl
      | false =>
        have hattempt : Attempt.masked (g.completionAttempt t o d _) =
            Attempt.masked ((g.withRouter rt').completionAttempt t o' d' _) :=
          chatAttemptFor_alike hrt ho hd t.router
            (maybeScrub (injectIntoRequest request o.memory) d g.scrubber).1 (.chat request)
        obtain ⟨hds, hrouter, houtcome⟩ := attempt_cases hattempt
        simp only [Bool.false_eq_true, if_false]
        rcases houtcome with ⟨e, e', f, v, hx, hy, he⟩ | ⟨e, hx, hy⟩
        · simp only [hx, hy, hrouter, headersFor_alike he, pinCompletion_alike he]
          exact Handled.masked_eq hds rfl rfl rfl
        · simp only [hx, hy, hrouter]
          exact Handled.masked_eq hds rfl rfl rfl
    · rw [hx, hy]

/-- **A call cannot tell the keys of its adapters.** -/
theorem handle_alike (st : GatewayState σ D) (hrt : Router.Alike alike g.router rt')
    (hi : i.Alike i') (ho : o.Alike alike o') (call : Call) :
    (g.handle st i o call).masked = ((g.withRouter rt').handle st i' o' call).masked := by
  cases call with
  | chat request => exact chatCompletions_alike hrt hi ho request
  | messages body => exact anthropicMessages_alike hrt hi ho body
  | responses stream request => exact responses_alike hrt hi ho stream request

end Gateway

end ModelMeld
