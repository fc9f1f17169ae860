import ModelMeld.Proof.Admission
import ModelMeld.Proof.Recording

/-!
# What a tenant can see of the state the handlers share

Of the shared state a call of a tenant reads the router's, the exact-match entries under the
tenant's keys and the semantic entries in the tenant's buckets.

* `handle_seen`, `handleAdmitted_seen`: in two states that show a tenant the same, its call
  dispatches, answers and hits the same;
* `exchange_seen`: and writes the same back.
-/

namespace ModelMeld

/-- The bucket of a tenant's exact-match keys. -/
def cacheBucket (tenantId : String) : String := if tenantId = "" then "__anon__" else tenantId

/-- Two states with the same router state and the same caches configured. -/
structure GatewayState.Shaped {σ D : Type} (st st' : GatewayState σ D) : Prop where
  router : st.router = st'.router
  exact : st.completionCache.isSome = st'.completionCache.isSome
  semantic : st.semanticCache.isSome = st'.semanticCache.isSome

/-- Two states that show a tenant the same. -/
structure GatewayState.Shows {σ D : Type} [DecidableEq D] (tenantId : String)
    (st st' : GatewayState σ D) : Prop extends GatewayState.Shaped st st' where
  entries : ∀ cache cache', st.completionCache = some cache → st'.completionCache = some cache' →
    ∀ key : CacheKey D, key.bucket = cacheBucket tenantId →
      cache.store.get? key = cache'.store.get? key
  buckets : ∀ cache cache', st.semanticCache = some cache → st'.semanticCache = some cache' →
    ∀ served, SemanticCache.bucket cache (some tenantId) served =
      SemanticCache.bucket cache' (some tenantId) served

/-- Two outcomes of a call that differ in the state they leave at most. -/
structure Handled.Same {σ D : Type} (h h' : Handled σ D) : Prop where
  dispatches : h.dispatches = h'.dispatches
  reply : h.reply = h'.reply
  hit : h.hit = h'.hit

theorem GatewayState.Shaped.symm {σ D : Type} {st st' : GatewayState σ D} (h : st.Shaped st') :
    st'.Shaped st :=
  ⟨h.router.symm, h.exact.symm, h.semantic.symm⟩

theorem GatewayState.Shaped.trans {σ D : Type} {st st' st'' : GatewayState σ D}
    (h : st.Shaped st') (h' : st'.Shaped st'') : st.Shaped st'' :=
  ⟨h.router.trans h'.router, h.exact.trans h'.exact, h.semantic.trans h'.semantic⟩

theorem Handled.Same.refl {σ D : Type} (h : Handled σ D) : h.Same h := ⟨rfl, rfl, rfl⟩

namespace Gateway

variable {σ ε D : Type} [DecidableEq D] {g : Gateway σ ε D} {st st' : GatewayState σ D}
  {inbound : Inbound} {outside : Outside ε} {tenantId : String}

omit [DecidableEq D] in
theorem shaped_router (h : st.Shaped st') (s : σ) :
    GatewayState.Shaped { st with router := s } { st' with router := s } :=
  ⟨rfl, h.exact, h.semantic⟩

theorem shows_router (h : st.Shows tenantId st') (s : σ) :
    GatewayState.Shows tenantId { st with router := s } { st' with router := s } :=
  ⟨shaped_router h.toShaped s, h.entries, h.buckets⟩

theorem shows_refl (tenantId : String) (st : GatewayState σ D) : st.Shows tenantId st where
  router := rfl
  exact := rfl
  semantic := rfl
  entries cache cache' hcache hcache' key _ := by
    obtain rfl := Option.some.inj (hcache.symm.trans hcache')
    rfl
  buckets cache cache' hcache hcache' served := by
    obtain rfl := Option.some.inj (hcache.symm.trans hcache')
    rfl

/-! ## The caches -/

omit [DecidableEq D] in
theorem cacheKey_shaped (g : Gateway σ ε D) (h : st.Shaped st') (inbound : Inbound)
    (outgoing : ChatCompletionRequest) (served : String) :
    g.cacheKey st inbound outgoing served = g.cacheKey st' inbound outgoing served := by
  have hexact := h.exact
  unfold cacheKey
  cases hcache : st.completionCache <;> cases hcache' : st'.completionCache <;>
    simp_all

omit [DecidableEq D] in
theorem cacheKey_bucket {outgoing : ChatCompletionRequest} {served : String} {key : CacheKey D}
    (h : g.cacheKey st inbound outgoing served = some key) :
    key.bucket = cacheBucket inbound.tenantId := by
  unfold cacheKey at h
  split at h
  · cases h
  · unfold cacheKeyForRequest at h
    split_ifs at h
    all_goals
      cases h
      simp_all [cacheBucket]

end Gateway

/-- A lookup goes by the entry of its key. -/
theorem InMemoryCompletionCache.get_congr {K V : Type} [DecidableEq K]
    {c c' : InMemoryCompletionCache K V} {key : K} (h : c.store.get? key = c'.store.get? key)
    (now : ℚ) : (c.get key now).1 = (c'.get key now).1 := by
  unfold InMemoryCompletionCache.get
  rw [h]
  cases c'.store.get? key with
  | none => rfl
  | some entry =>
    dsimp only
    split <;> rfl

namespace Gateway

variable {σ ε D : Type} [DecidableEq D] {g : Gateway σ ε D} {st st' : GatewayState σ D}
  {inbound : Inbound} {outside : Outside ε} {tenantId : String}

variable (st outside) in
/-- A lookup leaves the caches configured. -/
theorem lookupExact_shaped (key : Option (CacheKey D)) :
    (lookupExact st key outside).2.Shaped st := by
  unfold lookupExact
  split
  · rename_i hcache
    exact ⟨rfl, by rw [hcache]; rfl, rfl⟩
  · exact ⟨rfl, rfl, rfl⟩

variable (st outside) in
theorem setExact_shaped (key : Option (CacheKey D)) (answer : Answer) :
    (setExact st key answer outside).Shaped st := by
  unfold setExact
  split
  · rename_i hcache
    exact ⟨rfl, by rw [hcache]; rfl, rfl⟩
  · exact ⟨rfl, rfl, rfl⟩

variable (st outside) in
theorem lookupExact_semantic (key : Option (CacheKey D)) :
    (lookupExact st key outside).2.semanticCache = st.semanticCache := by
  unfold lookupExact
  split <;> rfl

theorem lookupExact_seen (h : st.Shows tenantId st') {key : Option (CacheKey D)}
    (hkey : ∀ k, key = some k → k.bucket = cacheBucket tenantId) (outside : Outside ε) :
    (lookupExact st key outside).1 = (lookupExact st' key outside).1 := by
  have hexact := h.exact
  unfold lookupExact
  cases key with
  | none => cases st.completionCache <;> cases st'.completionCache <;> rfl
  | some k =>
    cases hcache : st.completionCache with
    | none =>
      cases hcache' : st'.completionCache with
      | none => rfl
      | some cache' => rw [hcache, hcache'] at hexact; cases hexact
    | some cache =>
      cases hcache' : st'.completionCache with
      | none => rw [hcache, hcache'] at hexact; cases hexact
      | some cache' =>
        exact InMemoryCompletionCache.get_congr (h.entries cache cache' hcache hcache' k
          (hkey k rfl)) _

omit [DecidableEq D] in
/-- A search goes by the tenant's bucket. -/
theorem lookupSemantic_seen (hsome : st.semanticCache.isSome = st'.semanticCache.isSome)
    (hbuckets : ∀ cache cache', st.semanticCache = some cache → st'.semanticCache = some cache' →
      ∀ served, SemanticCache.bucket cache (some inbound.tenantId) served =
        SemanticCache.bucket cache' (some inbound.tenantId) served)
    (outgoing : ChatCompletionRequest) (served : String) (outside : Outside ε) :
    lookupSemantic st inbound outgoing served outside =
      lookupSemantic st' inbound outgoing served outside := by
  unfold lookupSemantic SemanticCache.search
  cases hcache : st.semanticCache with
  | none =>
    cases hcache' : st'.semanticCache with
    | none => rfl
    | some cache' => rw [hcache, hcache'] at hsome; cases hsome
  | some cache =>
    cases hcache' : st'.semanticCache with
    | none => rw [hcache, hcache'] at hsome; cases hsome
    | some cache' =>
      dsimp only
      rw [hbuckets cache cache' hcache hcache' (some served)]

/-- **What the caches answer a tenant.** -/
theorem lookupCaches_seen (h : st.Shows inbound.tenantId st') (outgoing : ChatCompletionRequest)
    (served : String) (outside : Outside ε) :
    (g.lookupCaches st inbound outgoing served outside).1 =
        (g.lookupCaches st' inbound outgoing served outside).1 ∧
      (g.lookupCaches st inbound outgoing served outside).2.Shaped
        (g.lookupCaches st' inbound outgoing served outside).2 := by
  have hbucket : ∀ k, g.cacheKey st' inbound outgoing served = some k →
      k.bucket = cacheBucket inbound.tenantId := fun k hk => cacheKey_bucket hk
  unfold lookupCaches
  dsimp only
  rw [cacheKey_shaped g h.toShaped inbound outgoing served]
  generalize g.cacheKey st' inbound outgoing served = key at hbucket ⊢
  have hfound := lookupExact_seen h hbucket outside
  have hleft := lookupExact_shaped st outside key
  have hright := lookupExact_shaped st' outside key
  have hsemantic := lookupExact_semantic st outside key
  have hsemantic' := lookupExact_semantic st' outside key
  rcases hx : lookupExact st key outside with ⟨found, t⟩
  rcases hy : lookupExact st' key outside with ⟨found', t'⟩
  rw [hx] at hfound hleft hsemantic
  rw [hy] at hfound hright hsemantic'
  obtain rfl : found = found' := hfound
  have hshaped : t.Shaped t' := hleft.trans (h.toShaped.trans hright.symm)
  cases found with
  | some answer => exact ⟨rfl, hshaped⟩
  | none =>
    dsimp only
    have hsearch : lookupSemantic t inbound outgoing served outside =
        lookupSemantic t' inbound outgoing served outside := by
      apply lookupSemantic_seen hshaped.semantic
      rw [hsemantic, hsemantic']
      exact h.buckets
    rw [hsearch]
    cases lookupSemantic t' inbound outgoing served outside with
    | none => exact ⟨rfl, hshaped⟩
    | some answer =>
      exact ⟨rfl, (setExact_shaped _ _ _ _).trans (hshaped.trans (setExact_shaped _ _ _ _).symm)⟩

/-! ## The handlers -/

omit [DecidableEq D] in
variable (g outside) in
theorem streamWithFailover_shaped (h : st.Shaped st') (primary : RoutingDecision)
    (outgoing : ChatCompletionRequest) (redactions : List Redaction) :
    (g.streamWithFailover st inbound outside primary outgoing redactions).Same
      (g.streamWithFailover st' inbound outside primary outgoing redactions) := by
  unfold streamWithFailover streamAttempt
  dsimp only
  rw [h.router]
  have hheader : ∀ s : σ, streamHeader { st with router := s } =
      streamHeader { st' with router := s } := fun s => by unfold streamHeader; rw [h.exact]
  rcases withFailover g.router st'.router outside.failover g.safeErrorDetail bothFailedStream
    (chatDispatch outgoing) outside.stream primary outgoing with ⟨ds, _ | ⟨d, f, v⟩, s⟩
  · exact ⟨rfl, rfl, rfl⟩
  · refine ⟨rfl, ?_, rfl⟩
    dsimp only
    rw [hheader]

omit [DecidableEq D] in
variable (g outside) in
theorem streamMessagesWithFailover_shaped (h : st.Shaped st') (body : AnthropicMessagesRequest)
    (primary : RoutingDecision) (outgoing : ChatCompletionRequest) (redactions : List Redaction)
    (served : String) :
    (g.streamMessagesWithFailover st outside body primary outgoing redactions served).Same
      (g.streamMessagesWithFailover st' outside body primary outgoing redactions served) := by
  unfold streamMessagesWithFailover messageStreamAttempt
  dsimp only
  rw [h.router]
  have hheader : ∀ s : σ, streamHeader { st with router := s } =
      streamHeader { st' with router := s } := fun s => by unfold streamHeader; rw [h.exact]
  rcases withFailover g.router st'.router outside.failover g.safeErrorDetail bothFailedStream
    (tryOpenStreamNative g.modelRegistry outgoing body) outside.stream primary outgoing with
    ⟨ds, _ | ⟨d, f, v⟩, s⟩
  · exact ⟨rfl, rfl, rfl⟩
  · refine ⟨rfl, ?_, rfl⟩
    dsimp only
    rw [hheader]

omit [DecidableEq D] in
theorem missHeader_shaped (h : st.Shaped st') (outgoing : ChatCompletionRequest)
    (served : String) :
    g.missHeader st inbound outgoing served = g.missHeader st' inbound outgoing served := by
  unfold missHeader
  rw [cacheKey_shaped g h, h.exact, h.semantic]

variable (g outside) in
theorem completionWithFailover_shaped (h : st.Shaped st') (primary : RoutingDecision)
    (outgoing : ChatCompletionRequest) (redactions : List Redaction) (served : String) :
    (g.completionWithFailover st inbound outside primary outgoing redactions served).Same
      (g.completionWithFailover st' inbound outside primary outgoing redactions served) := by
  unfold completionWithFailover completionAttempt
  dsimp only
  rw [h.router]
  rcases withFailover g.router st'.router outside.failover g.safeErrorDetail
    (bothFailedChat g.safeErrorDetail) (chatDispatch outgoing) outside.chat primary outgoing with
    ⟨ds, _ | ⟨d, f, v⟩, s⟩
  · exact ⟨rfl, rfl, rfl⟩
  · refine ⟨rfl, ?_, rfl⟩
    dsimp only
    rw [missHeader_shaped (shaped_router h s)]

variable (g outside) in
theorem messageWithFailover_shaped (h : st.Shaped st') (body : AnthropicMessagesRequest)
    (primary : RoutingDecision) (outgoing : ChatCompletionRequest) (redactions : List Redaction)
    (served : String) :
    (g.messageWithFailover st inbound outside body primary outgoing redactions served).Same
      (g.messageWithFailover st' inbound outside body primary outgoing redactions served) := by
  unfold messageWithFailover messageAttempt
  dsimp only
  rw [h.router]
  rcases withFailover g.router st'.router outside.failover g.safeErrorDetail
    (bothFailedChat g.safeErrorDetail) (dispatchChat outgoing body) outside.chat primary outgoing
    with ⟨ds, _ | ⟨d, f, v⟩, s⟩
  · exact ⟨rfl, rfl, rfl⟩
  · refine ⟨rfl, ?_, rfl⟩
    dsimp only
    rw [missHeader_shaped (shaped_router h s)]

omit [DecidableEq D] in
variable (g inbound outside) in
/-- A request is routed alike, and the states stay as far apart as they were. -/
theorem routeRequest_shaped (h : st.Shaped st') (request : ChatCompletionRequest) :
    ∃ routed s, g.routeRequest st inbound outside request = (routed, { st with router := s }) ∧
      g.routeRequest st' inbound outside request = (routed, { st' with router := s }) := by
  unfold routeRequest
  rw [h.router]
  rcases (g.activeRouter inbound).route st'.router outside.routing request inbound.hints
    inbound.byok with ⟨e | d, s⟩
  · exact ⟨_, s, rfl, rfl⟩
  · exact ⟨_, s, rfl, rfl⟩

theorem chatCompletions_seen (h : st.Shows inbound.tenantId st') (request : ChatCompletionRequest) :
    (g.chatCompletions st inbound outside request).Same
      (g.chatCompletions st' inbound outside request) := by
  obtain ⟨routed, s, hleft, hright⟩ := routeRequest_shaped g inbound outside h.toShaped request
  unfold chatCompletions
  split
  · exact ⟨rfl, rfl, rfl⟩
  · rw [hleft, hright]
    cases routed with
    | error e => exact ⟨rfl, rfl, rfl⟩
    | ok decision =>
      dsimp only
      split
      · exact streamWithFailover_shaped g outside (shaped_router h.toShaped s) _ _ _
      · obtain ⟨hanswer, hshaped⟩ := lookupCaches_seen (g := g) (shows_router h s)
          (maybeScrub (injectIntoRequest request outside.memory) decision g.scrubber).1
          (servedModel decision
            (maybeScrub (injectIntoRequest request outside.memory) decision g.scrubber).1) outside
        generalize g.lookupCaches { st with router := s } inbound _ _ outside = found at *
        generalize g.lookupCaches { st' with router := s } inbound _ _ outside = found' at *
        obtain ⟨answer, t⟩ := found
        obtain ⟨answer', t'⟩ := found'
        obtain rfl : answer = answer' := hanswer
        cases answer with
        | some answer => exact ⟨rfl, rfl, rfl⟩
        | none => exact completionWithFailover_shaped g outside hshaped _ _ _ _

theorem anthropicMessages_seen (h : st.Shows inbound.tenantId st')
    (body : AnthropicMessagesRequest) :
    (g.anthropicMessages st inbound outside body).Same
      (g.anthropicMessages st' inbound outside body) := by
  unfold anthropicMessages
  split
  · exact ⟨rfl, rfl, rfl⟩
  · rename_i request _
    obtain ⟨routed, s, hleft, hright⟩ := routeRequest_shaped g inbound outside h.toShaped request
    split
    · exact ⟨rfl, rfl, rfl⟩
    · rw [hleft, hright]
      cases routed with
      | error e => exact ⟨rfl, rfl, rfl⟩
      | ok decision =>
        dsimp only
        split
        · exact streamMessagesWithFailover_shaped g outside (shaped_router h.toShaped s) _ _ _ _ _
        · obtain ⟨hanswer, hshaped⟩ := lookupCaches_seen (g := g) (shows_router h s)
            (maybeScrub (injectIntoRequest request outside.memory) decision g.scrubber).1
            (servedModel decision
              (maybeScrub (injectIntoRequest request outside.memory) decision g.scrubber).1) outside
          generalize g.lookupCaches { st with router := s } inbound _ _ outside = found at *
          generalize g.lookupCaches { st' with router := s } inbound _ _ outside = found' at *
          obtain ⟨answer, t⟩ := found
          obtain ⟨answer', t'⟩ := found'
          obtain rfl : answer = answer' := hanswer
          cases answer with
          | some answer => exact ⟨rfl, rfl, rfl⟩
          | none => exact messageWithFailover_shaped g outside hshaped _ _ _ _ _

omit [DecidableEq D] in
theorem responses_seen (h : st.Shaped st') (stream : Bool) (request : ChatCompletionRequest) :
    (g.responses st inbound outside stream request).Same
      (g.responses st' inbound outside stream request) := by
  obtain ⟨routed, s, hleft, hright⟩ := routeRequest_shaped g inbound outside h request
  unfold responses
  split
  · exact ⟨rfl, rfl, rfl⟩
  · rw [hleft, hright]
    cases routed with
    | error e => exact ⟨rfl, rfl, rfl⟩
    | ok decision =>
      dsimp only
      split
      · exact ⟨rfl, rfl, rfl⟩
      · exact ⟨rfl, rfl, rfl⟩

/-- **A call of a tenant reads what the state shows the tenant.** -/
theorem handle_seen (h : st.Shows inbound.tenantId st') (outside : Outside ε) (call : Call) :
    (g.handle st inbound outside call).Same (g.handle st' inbound outside call) := by
  cases call with
  | chat request => exact chatCompletions_seen h request
  | messages body => exact anthropicMessages_seen h _
  | responses stream request => exact responses_seen h.toShaped stream request

theorem handleAdmitted_seen {admitted : Admitted} (h : st.Shows admitted.inbound.tenantId st')
    (outside : Outside ε) (call : Call) :
    (g.handleAdmitted st admitted outside call).Same
      (g.handleAdmitted st' admitted outside call) := by
  have hhandle := handle_seen (g := g) h outside call
  unfold handleAdmitted
  dsimp only
  rw [h.router]
  split
  · exact hhandle
  · exact ⟨hhandle.dispatches, rfl, hhandle.hit⟩

/-! ## What is written back -/

theorem cachedFor_seen (h : st.Shows inbound.tenantId st') (outgoing : ChatCompletionRequest)
    (call : Call) (served : String) (outside : Outside ε) :
    (g.cachedFor st inbound outside outgoing call served).1 =
        (g.cachedFor st' inbound outside outgoing call served).1 ∧
      (g.cachedFor st inbound outside outgoing call served).2.Shaped
        (g.cachedFor st' inbound outside outgoing call served).2 := by
  unfold cachedFor
  split
  · exact lookupCaches_seen h outgoing served outside
  · exact ⟨rfl, h.toShaped⟩

theorem routedExchange_seen (counter : Option TokenCounter) (h : st.Shows inbound.tenantId st')
    (outside : Outside ε) (f : Following) (call : Call) (request : ChatCompletionRequest)
    (primary : RoutingDecision) :
    g.routedExchange counter st inbound outside f call request primary =
      g.routedExchange counter st' inbound outside f call request primary := by
  obtain ⟨hanswer, hshaped⟩ := cachedFor_seen (g := g) h (g.outgoingFor outside request primary)
    call (servedModel primary (g.outgoingFor outside request primary)) outside
  unfold routedExchange
  dsimp only
  rw [h.router]
  split
  · rfl
  · generalize g.cachedFor st inbound outside _ call _ = found at *
    generalize g.cachedFor st' inbound outside _ call _ = found' at *
    obtain ⟨answer, t⟩ := found
    obtain ⟨answer', t'⟩ := found'
    obtain rfl : answer = answer' := hanswer
    cases answer with
    | some answer => rfl
    | none =>
      have hrouter : t.router = t'.router := hshaped.router
      dsimp only
      rw [hrouter]

/-- **And writes the same back.** -/
theorem exchange_seen (counter : Option TokenCounter) (h : st.Shows inbound.tenantId st')
    (outside : Outside ε) (f : Following) (call : Call) :
    g.exchange counter st inbound outside f call = g.exchange counter st' inbound outside f call := by
  unfold exchange routing
  rw [h.router]
  split
  · rfl
  · split
    · rfl
    · split
      · rfl
      · exact routedExchange_seen counter (shows_router h _) outside f call _ _

end Gateway

end ModelMeld
