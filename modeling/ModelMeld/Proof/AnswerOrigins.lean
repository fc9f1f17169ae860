import ModelMeld.Proof.Caches
import ModelMeld.Proof.TenantsApart

/-!
# Where a tenant's cached answers come from

The exact-match keys begin with a bucket of the tenant, and the semantic entries carry the tenant.

* `handle_kept`: what a call writes to the caches stands under its tenant, and so does what it
  hits;
* `answers_stay_with_tenant`: in every run, an answer that comes from a cache is what an upstream
  answered an earlier request of the same tenant.
-/

namespace ModelMeld

namespace Gateway

variable {σ ε D : Type} [DecidableEq D] {g : Gateway σ ε D} {st : GatewayState σ D}
  {inbound : Inbound} {outside : Outside ε} {call : Call} {P : String → Answer → Prop}

/-! ## One call -/

/-- Every cached answer has a property with the bucket it stands in. -/
structure KeptUnder (P : String → Answer → Prop) (st : GatewayState σ D) : Prop where
  exact : ∀ cache, st.completionCache = some cache → ∀ e ∈ cache.store.entries,
    P e.1.bucket e.2.1
  semantic : ∀ cache, st.semanticCache = some cache → ∀ e ∈ cache, ∀ tenantId,
    e.tenantId = some tenantId → P (cacheBucket tenantId) e.value

omit [DecidableEq D] in
theorem keptUnder_router (h : KeptUnder P st) (s : σ) : KeptUnder P { st with router := s } :=
  ⟨h.exact, h.semantic⟩

theorem keptUnder_setExact (h : KeptUnder P st) {key : Option (CacheKey D)} {answer : Answer}
    (hkey : ∀ k, key = some k → P k.bucket answer) :
    KeptUnder P (setExact st key answer outside) := by
  unfold setExact
  split
  · rename_i cache k hcache
    refine ⟨?_, h.semantic⟩
    intro cache' hcache' e he
    cases hcache'
    rcases InMemoryCompletionCache.mem_of_mem_set he with he | ⟨-, hek, hev⟩
    · exact h.exact cache hcache e he
    · rw [hek, hev]
      exact hkey k rfl
  · exact h

variable (outside) in
theorem keptUnder_lookupExact (h : KeptUnder P st) (key : Option (CacheKey D)) :
    KeptUnder P (lookupExact st key outside).2 ∧
      ∀ answer, (lookupExact st key outside).1 = some answer →
        ∃ k, key = some k ∧ P k.bucket answer := by
  unfold lookupExact
  split
  · rename_i cache k hcache
    refine ⟨⟨?_, h.semantic⟩, ?_⟩
    · intro cache' hcache' e he
      cases hcache'
      exact h.exact cache hcache e (InMemoryCompletionCache.mem_of_mem_get he)
    · intro answer hhit
      obtain ⟨expiresAt, hmem⟩ := InMemoryCompletionCache.get_hit hhit
      exact ⟨k, rfl, h.exact cache hcache _ hmem⟩
  · exact ⟨h, fun _ hnone => by cases hnone⟩

omit [DecidableEq D] in
theorem keptUnder_lookupSemantic (h : KeptUnder P st) {outgoing : ChatCompletionRequest}
    {served : String} {answer : Answer}
    (hhit : lookupSemantic st inbound outgoing served outside = some answer) :
    P (cacheBucket inbound.tenantId) answer := by
  unfold lookupSemantic at hhit
  cases hc : st.semanticCache with
  | none => rw [hc] at hhit; cases hhit
  | some cache =>
    rw [hc] at hhit
    dsimp only at hhit
    split at hhit
    · obtain ⟨i, -, hi⟩ := Option.bind_eq_some_iff.1 hhit
      obtain ⟨e, he, rfl⟩ := Option.map_eq_some_iff.1 hi
      obtain ⟨hmem, hbucket⟩ := List.mem_filter.1 (List.mem_of_getElem? he)
      exact h.semantic cache hc e hmem _ (of_decide_eq_true hbucket).1
    · cases hhit

variable (g inbound outside) in
/-- What the lookups find stands under the tenant, and so does what they write. -/
theorem keptUnder_lookupCaches (h : KeptUnder P st) (outgoing : ChatCompletionRequest)
    (served : String) :
    KeptUnder P (g.lookupCaches st inbound outgoing served outside).2 ∧
      ∀ answer status, (g.lookupCaches st inbound outgoing served outside).1 =
        some (answer, status) → P (cacheBucket inbound.tenantId) answer := by
  obtain ⟨hst, hhit⟩ := keptUnder_lookupExact outside h (g.cacheKey st inbound outgoing served)
  unfold lookupCaches
  dsimp only
  rcases hx : lookupExact st (g.cacheKey st inbound outgoing served) outside with ⟨_ | answer, st'⟩
  · rw [hx] at hst
    dsimp only
    cases hs : lookupSemantic st' inbound outgoing served outside with
    | none => exact ⟨hst, fun _ _ hnone => by cases hnone⟩
    | some answer =>
      have hP := keptUnder_lookupSemantic hst hs
      refine ⟨keptUnder_setExact hst (fun k hk => ?_), ?_⟩
      · rw [cacheKey_bucket hk]
        exact hP
      · rintro _ _ ⟨⟩
        exact hP
  · rw [hx] at hst hhit
    refine ⟨hst, ?_⟩
    rintro _ _ ⟨⟩
    obtain ⟨k, hk, hP⟩ := hhit _ rfl
    rw [cacheKey_bucket hk] at hP
    exact hP

theorem keptUnder_storeAnswer (h : KeptUnder P st) {outgoing : ChatCompletionRequest}
    {served : String} {answer : Answer} (hP : P (cacheBucket inbound.tenantId) answer) :
    KeptUnder P (g.storeAnswer st inbound outgoing served answer outside) := by
  have hset : KeptUnder P
      (setExact st (g.cacheKey st inbound outgoing served) answer outside) := by
    refine keptUnder_setExact h (fun k hk => ?_)
    rw [cacheKey_bucket hk]
    exact hP
  unfold storeAnswer
  dsimp only
  split
  · exact hset
  · rename_i cache hcache
    split
    · refine ⟨hset.exact, ?_⟩
      intro cache' hcache' e he tenantId htenant
      cases hcache'
      rcases List.mem_append.1 he with he | he
      · exact hset.semantic cache hcache e he tenantId htenant
      · rw [List.mem_singleton.1 he] at htenant ⊢
        obtain rfl := Option.some.inj htenant
        exact hP
    · exact hset

omit [DecidableEq D] in
theorem keptUnder_routeRequest (h : KeptUnder P st) {request : ChatCompletionRequest}
    {res : Except HttpError RoutingDecision} {st' : GatewayState σ D}
    (hr : g.routeRequest st inbound outside request = (res, st')) : KeptUnder P st' := by
  unfold routeRequest at hr
  split at hr
  · cases hr
    exact keptUnder_router h _
  · cases hr
    exact keptUnder_router h _

omit [DecidableEq D] in
theorem keptUnder_mono {Q : String → Answer → Prop} (h : KeptUnder P st)
    (hPQ : ∀ bucket answer, P bucket answer → Q bucket answer) : KeptUnder Q st where
  exact cache hcache e he := hPQ _ _ (h.exact cache hcache e he)
  semantic cache hcache e he tenantId htenant :=
    hPQ _ _ (h.semantic cache hcache e he tenantId htenant)

/-- The completion is an upstream's answer to one of some dispatches, but for the name of its
model. -/
def AnswersOne (outside : Outside ε) (dispatches : List Dispatch) (completion : ChatCompletion) :
    Prop :=
  ∃ n, ∃ dispatch ∈ dispatches, ∃ answered, outside.chat n dispatch = .ok answered ∧
    completion = { answered with model := completion.model }

omit [DecidableEq D] in
theorem kept_fields (g : Gateway σ ε D) (call : Call) (d : RoutingDecision)
    (completion : ChatCompletion) :
    g.kept call d completion =
      { completion with model := (g.kept call d completion).model } := by
  have hpin : ∀ d, g.pinCompletion d completion =
      { completion with model := (g.pinCompletion d completion).model } := by
    intro d
    unfold pinCompletion
    split
    · rfl
    · split <;> rfl
  cases call with
  | chat request => exact hpin d
  | messages body => rfl
  | responses stream request => exact hpin d

omit [DecidableEq D] in
/-- What a call keeps is an answer to one of its dispatches. -/
theorem kept_answers {s : σ} {outgoing : ChatCompletionRequest} {primary d : RoutingDecision}
    {f : Option Tier} {completion : ChatCompletion}
    (h : (g.chatAttemptFor s outside outgoing call primary).outcome = .ok (d, f, completion)) :
    AnswersOne outside (g.chatAttemptFor s outside outgoing call primary).dispatches
      (g.kept call d completion) := by
  unfold chatAttemptFor at h ⊢
  rw [withFailover_dispatches]
  rcases withFailover_ok h with ⟨rfl, -, hanswer⟩ | ⟨hfallback, hanswer⟩
  · exact ⟨0, _, List.mem_cons_self, completion, hanswer, kept_fields g call d completion⟩
  · refine ⟨1, _, ?_, completion, hanswer, kept_fields g call d completion⟩
    rw [hfallback]
    exact List.mem_cons_of_mem _ List.mem_cons_self

variable (g inbound outside call) in
/-- **What a call hits stands under its tenant, and so does what it writes to the caches.** -/
theorem handle_kept (h : KeptUnder P st) :
    (∀ m answer, (g.handle st inbound outside call).hit = some (m, answer) →
        P (cacheBucket inbound.tenantId) answer) ∧
      ((∀ answer, AnswersOne outside (g.handle st inbound outside call).dispatches
          answer.completion → P (cacheBucket inbound.tenantId) answer) →
        KeptUnder P (g.handle st inbound outside call).state) := by
  have hd := handle_handling g st inbound outside call
  generalize g.handle st inbound outside call = handled at hd ⊢
  cases hd with
  | rejected e => exact ⟨(fun _ _ hnone => by cases hnone), fun _ => h⟩
  | unrouted request e st' hr =>
    exact ⟨(fun _ _ hnone => by cases hnone), fun _ => keptUnder_routeRequest h hr⟩
  | streamed request primary st' hrouted hstreams =>
    exact ⟨(fun _ _ hnone => by cases hnone),
      fun _ => keptUnder_router (keptUnder_routeRequest h hrouted.routed) _⟩
  | hit request primary st' st'' answer status hrouted hlooks hfound =>
    obtain ⟨hst, hhit⟩ := keptUnder_lookupCaches g inbound outside
      (keptUnder_routeRequest h hrouted.routed) (g.outgoingFor outside request primary)
      (servedModel primary (g.outgoingFor outside request primary))
    rw [hfound] at hst hhit
    refine ⟨?_, fun _ => hst⟩
    rintro _ _ ⟨⟩
    exact hhit _ _ rfl
  | missed request primary st' st'' hrouted hlooks hmissed =>
    obtain ⟨hst, -⟩ := keptUnder_lookupCaches g inbound outside
      (keptUnder_routeRequest h hrouted.routed) (g.outgoingFor outside request primary)
      (servedModel primary (g.outgoingFor outside request primary))
    rw [hmissed] at hst
    refine ⟨(fun _ _ hnone => by cases hnone), fun hanswers => ?_⟩
    unfold storedState
    dsimp only
    split
    · exact keptUnder_router hst _
    · rename_i d f completion hok
      have hanswer : P (cacheBucket inbound.tenantId) ⟨g.kept call d completion,
          servedModel d (g.outgoingFor outside request primary)⟩ := hanswers _ (kept_answers hok)
      exact keptUnder_storeAnswer (keptUnder_router hst _) hanswer
  | uncached request primary st' hrouted hlooks hstreams =>
    exact ⟨(fun _ _ hnone => by cases hnone),
      fun _ => keptUnder_router (keptUnder_routeRequest h hrouted.routed) _⟩

end Gateway

/-! ## Runs -/

/-- The step is a request whose upstream answered one of its dispatches with the completion. -/
inductive HostedStep.Answered {σ ε D : Type} : HostedStep σ ε D → ChatCompletion → Prop
  | request {before : GatewayState σ D} {a : Arrival ε} {f : Following} {draws : RecordDraws}
      {v : Visit σ D} {completion : ChatCompletion}
      (answers : Gateway.AnswersOne a.outside v.handled.dispatches completion) :
      Answered ⟨before, .request a f draws, .visit v⟩ completion

/-- The completion was answered to a request of the tenant. -/
def OriginatesIn {σ ε D : Type} (steps : List (HostedStep σ ε D)) (tenantId : String)
    (completion : ChatCompletion) : Prop :=
  ∃ origin ∈ steps, origin.event.tenant = tenantId ∧ origin.Answered completion

/-- What an event hits in a cache. -/
def HostedOutcome.hit {σ D : Type} : HostedOutcome σ D → Option (String × Answer)
  | .visit v => v.handled.hit
  | .answered _ => none

/-- Every answer of a run that comes from a cache was answered to an earlier request of its
tenant. -/
def HostedTrace.OwnAnswers {σ ε D : Type} (t : HostedTrace σ ε D) : Prop :=
  ∀ before step after m answer, t.steps = before ++ step :: after →
    step.outcome.hit = some (m, answer) →
      OriginatesIn before step.event.tenant answer.completion

theorem tenant_ne_empty (auth : AuthState) : auth.tenant ≠ "" := by
  unfold AuthState.tenant
  dsimp only
  split
  · decide
  · assumption

theorem cacheBucket_tenant (auth : AuthState) : cacheBucket auth.tenant = auth.tenant := by
  unfold cacheBucket
  exact if_neg (tenant_ne_empty auth)

/-- A step of a list with one more is the last or stands in the list. -/
theorem append_singleton_eq {α : Type} {steps before after : List α} {last step : α}
    (h : steps ++ [last] = before ++ step :: after) :
    (before = steps ∧ step = last) ∨ ∃ after', steps = before ++ step :: after' := by
  rcases List.eq_nil_or_concat after with rfl | ⟨after', x, rfl⟩
  · obtain ⟨rfl, hlast⟩ := List.append_inj' h rfl
    exact .inl ⟨rfl, (List.singleton_inj.mp hlast).symm⟩
  · rw [List.concat_eq_append, ← List.cons_append, ← List.append_assoc] at h
    exact .inr ⟨after', (List.append_inj' h rfl).1⟩

theorem originatesIn_append {σ ε D : Type} {steps : List (HostedStep σ ε D)} {tenantId : String}
    {completion : ChatCompletion} (h : OriginatesIn steps tenantId completion)
    (last : HostedStep σ ε D) : OriginatesIn (steps ++ [last]) tenantId completion := by
  obtain ⟨origin, horigin, horiginates⟩ := h
  exact ⟨origin, List.mem_append_left _ horigin, horiginates⟩

namespace Gateway

variable {σ ε D : Type} [DecidableEq D] {g : Gateway σ ε D} {door : FrontDoor}
  {counter : Option TokenCounter}

/-- What the caches hold under a tenant was answered to requests of the tenant. -/
def HoldsOwn (t : HostedTrace σ ε D) : Prop :=
  KeptUnder (fun bucket answer => OriginatesIn t.steps bucket answer.completion) t.gateway

omit [DecidableEq D] in
theorem holdsOwn_started (s : σ) (maxEntries : Option ℕ) (semantic : Bool) :
    HoldsOwn ({ gateway := .started s maxEntries semantic } : HostedTrace σ ε D) where
  exact cache hcache e he := by
    obtain ⟨n, -, rfl⟩ := Option.map_eq_some_iff.1 hcache
    cases he
  semantic cache hcache e he := by
    unfold GatewayState.started at hcache
    cases semantic with
    | false => cases hcache
    | true => cases hcache; cases he

variable (g door) in
/-- A request over caches that hold, under each tenant, answers to some of its requests: what it
hits is such an answer, and the caches hold such answers when its own may be kept. -/
theorem receive_kept {P : String → ChatCompletion → Prop} {st : GatewayState σ D}
    (h : KeptUnder (fun bucket answer => P bucket answer.completion) st) (a : Arrival ε) :
    (∀ m answer, (g.receive door st a).handled.hit = some (m, answer) →
        P a.auth.tenant answer.completion) ∧
      ((∀ completion, AnswersOne a.outside (g.receive door st a).handled.dispatches completion →
          P a.auth.tenant completion) →
        KeptUnder (fun bucket answer => P bucket answer.completion)
          (g.receive door st a).handled.state) := by
  unfold receive
  rcases henter : door.enter g.texts a.headers a.auth a.call with ⟨e | admitted, log⟩
  · exact ⟨(fun _ _ hnone => by cases hnone), fun _ => h⟩
  · obtain ⟨-, hinbound⟩ := enter_tenant henter
    have hbucket : cacheBucket admitted.inbound.tenantId = a.auth.tenant := by
      rw [hinbound, cacheBucket_tenant]
    obtain ⟨hhit, hstate⟩ := handle_kept g admitted.inbound
      { a.outside with memory := a.retrieve admitted.identity } a.call h
    rw [hbucket] at hhit hstate
    unfold handleAdmitted
    dsimp only
    split
    · exact ⟨hhit, fun hanswers => hstate (fun answer => hanswers answer.completion)⟩
    · exact ⟨hhit, fun hanswers => hstate (fun answer => hanswers answer.completion)⟩

/-- One event over caches that hold what was answered to requests of their tenants. -/
theorem host_kept {t : HostedTrace σ ε D} (h : HoldsOwn t ∧ t.OwnAnswers) (ev : HostedEvent ε) :
    HoldsOwn (g.host door counter t ev) ∧ (g.host door counter t ev).OwnAnswers := by
  obtain ⟨hholds, hown⟩ := h
  cases ev with
  | store call drawn =>
    refine ⟨keptUnder_mono hholds (fun _ _ ho => originatesIn_append ho _), ?_⟩
    intro before step after m answer hsteps hhit
    rcases append_singleton_eq hsteps with ⟨-, rfl⟩ | ⟨after', hsteps⟩
    · cases hhit
    · exact hown before step after' m answer hsteps hhit
  | request a f draws =>
    let arrival : Arrival ε := { a with retrieve := t.store.retrieve }
    obtain ⟨hhits, -⟩ := receive_kept g door hholds arrival
    constructor
    · have hmono := keptUnder_mono hholds (fun _ _ ho => originatesIn_append ho
        ⟨t.gateway, .request a f draws, .visit (g.receive door t.gateway arrival)⟩)
      obtain ⟨-, hstate⟩ := receive_kept g door hmono arrival
      apply hstate
      intro completion hanswers
      exact ⟨_, List.mem_append_right _ List.mem_cons_self, rfl, .request hanswers⟩
    · intro before step after m answer hsteps hhit
      rcases append_singleton_eq hsteps with ⟨rfl, rfl⟩ | ⟨after', hsteps⟩
      · exact hhits m answer hhit
      · exact hown before step after' m answer hsteps hhit

/-- **Cached answers stay with their tenant.** In every run, whatever the events of other tenants
are, an answer that comes from the exact-match or the semantic cache is what an upstream answered an
earlier request of the same tenant. -/
theorem answers_stay_with_tenant (g : Gateway σ ε D) (door : FrontDoor)
    (counter : Option TokenCounter) (s : σ) (maxEntries : Option ℕ) (semantic : Bool)
    (events : List (HostedEvent ε)) :
    (Runs.run (g.host door counter) { gateway := .started s maxEntries semantic }
      events).OwnAnswers := by
  have hstart : ({ gateway := .started s maxEntries semantic } : HostedTrace σ ε D).OwnAnswers := by
    intro before step after m answer hsteps
    cases before <;> cases hsteps
  exact (Runs.run_invariant (g.host door counter) (fun t => HoldsOwn t ∧ t.OwnAnswers)
    (fun t ev h _ => host_kept h ev) events _ ⟨holdsOwn_started s maxEntries semantic, hstart⟩
    (Runs.along_of_forall (fun _ _ => trivial) events _)).2

/-- Some requests over an empty store and an empty exact-match cache. -/
def cached (events : List (HostedEvent Unit)) : HostedTrace Unit Unit JsonObj :=
  Runs.run ((scrubbingGateway { cls := .openai }).host openDoor none)
    { gateway := .started () (some 10) false } events

-- the second tenant asks the same and is not answered from the cache
example : (cached [asks "acme", asks "globex", asks "acme"]).steps.map
    (fun step => step.outcome.hit.map Prod.fst) = [none, none, some "gpt-5-mini"] := by
  decide +kernel

end Gateway

end ModelMeld
