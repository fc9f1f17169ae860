import ModelMeld.Proof.Gateway
import ModelMeld.Lib.Runs

/-!
# What the caches hold

Both chat surfaces write to the same two caches, under the model the request
was routed to first.

* `lookupCaches_holds`, `storeAnswer_holds`: a property of a model and an answer is kept by lookups
  and writes;
* `handle_caches`: it holds of every cached answer and of every hit, when it holds of every answer
  a call writes;
* `serve_caches`: and so along every run.
-/

namespace ModelMeld

/-! ## The exact-match cache -/

namespace InMemoryCompletionCache

variable {K V : Type} [DecidableEq K] {c : InMemoryCompletionCache K V} {key : K}

theorem mem_moveToEnd {d : OrderedDict K (V × ℚ)} {value : V × ℚ} {e : K × V × ℚ}
    (h : e ∈ ((d.erase key).insert key value).entries) : e ∈ d.entries ∨ e = (key, value) := by
  obtain ⟨k, v⟩ := e
  rw [OrderedDict.mem_entries_iff, OrderedDict.get?_insert, OrderedDict.get?_erase] at h
  by_cases hk : k = key
  · rw [if_pos hk, Option.some.injEq] at h
    exact Or.inr (by rw [hk, h])
  · rw [if_neg hk, if_neg hk] at h
    exact Or.inl ((OrderedDict.mem_entries_iff _ _ _).2 h)

/-- A hit is a stored value of the key. -/
theorem get_hit {now : ℚ} {value : V} (h : (c.get key now).1 = some value) :
    ∃ expiresAt, (key, value, expiresAt) ∈ c.store.entries := by
  unfold get at h
  cases hg : c.store.get? key with
  | none => rw [hg] at h; cases h
  | some entry =>
    obtain ⟨v, expiresAt⟩ := entry
    rw [hg] at h
    simp only at h
    split at h
    · cases h
    · cases h
      exact ⟨expiresAt, (OrderedDict.mem_entries_iff _ _ _).2 hg⟩

/-- A lookup brings nothing new into the store. -/
theorem mem_of_mem_get {now : ℚ} {e : K × V × ℚ} (h : e ∈ (c.get key now).2.store.entries) :
    e ∈ c.store.entries := by
  unfold get at h
  cases hg : c.store.get? key with
  | none => rw [hg] at h; exact h
  | some entry =>
    obtain ⟨v, expiresAt⟩ := entry
    rw [hg] at h
    simp only at h
    split at h
    · exact List.mem_of_mem_filter h
    · rcases mem_moveToEnd h with h | rfl
      · exact h
      · exact (OrderedDict.mem_entries_iff _ _ _).2 hg

/-- A write brings in one entry at most. -/
theorem mem_of_mem_set {value : V} {ttl : ℤ} {now : ℚ} {e : K × V × ℚ}
    (h : e ∈ (c.set key value ttl now).store.entries) :
    e ∈ c.store.entries ∨ (0 < ttl ∧ e.1 = key ∧ e.2.1 = value) := by
  unfold set at h
  split at h
  · exact Or.inl h
  · rename_i httl
    rcases mem_moveToEnd (List.mem_of_mem_drop h) with h | rfl
    · exact Or.inl h
    · exact Or.inr ⟨not_le.1 httl, rfl, rfl⟩

end InMemoryCompletionCache

/-! ## Keys and models -/

/-- Two canonical requests with one digest name one model. -/
def DigestSeparatesModels {D : Type} (digest : JsonObj → D) : Prop :=
  ∀ a b : JsonObj, digest a = digest b → a.get? "model" = b.get? "model"

theorem head?_append_left {α : Type} {l m : List α} {x : α} (h : l.head? = some x) :
    (l ++ m).head? = some x := by
  rw [List.head?_append, h, Option.some_or]

/-- The model stands first in a dumped request. -/
theorem dump_model (request : ChatCompletionRequest) :
    ∃ rest, request.dump = ("model", .str request.model) :: rest := by
  refine List.head?_eq_some_iff.1 ?_
  unfold ChatCompletionRequest.dump
  repeat refine head?_append_left ?_
  rfl

/-- The model in a canonical request: the served one, else the requested one. -/
theorem get?_canonicalize_model (request : ChatCompletionRequest) (m : String) :
    (canonicalize request (some m)).get? "model" =
      some (.str (if m = "" then request.model else m)) := by
  obtain ⟨rest, hdump⟩ := dump_model request
  unfold canonicalize
  simp only
  rw [hdump, List.filter_cons_of_pos (by simp [nonSemanticFields])]
  by_cases hm : m = ""
  · simp [hm, JsonObj.get?]
  · simp [hm, JsonObj.get?]

/-- A key that a handler computes for a request served by `m`; the served model is empty only when
the requested one is. -/
def KeyedBy {D : Type} (digest : JsonObj → D) (key : CacheKey D) (m : String) : Prop :=
  ∃ request tenantId, (m = "" → request.model = "") ∧
    cacheKeyForRequest digest request tenantId (some m) = some key

theorem keyedBy_digest {D : Type} {digest : JsonObj → D} {key : CacheKey D} {m : String}
    (h : KeyedBy digest key m) :
    ∃ c : JsonObj, key.digest = digest c ∧ c.get? "model" = some (.str m) := by
  obtain ⟨request, tenantId, hempty, hkey⟩ := h
  unfold cacheKeyForRequest at hkey
  split at hkey
  · cases hkey
  · split at hkey
    · cases hkey
    · split at hkey
      · cases hkey
      · cases hkey
        refine ⟨_, rfl, ?_⟩
        rw [get?_canonicalize_model]
        by_cases hm : m = ""
        · rw [if_pos hm, hempty hm, hm]
        · rw [if_neg hm]

/-- A key determines the model. -/
theorem keyedBy_unique {D : Type} {digest : JsonObj → D} (hdigest : DigestSeparatesModels digest)
    {key : CacheKey D} {m m' : String} (h : KeyedBy digest key m) (h' : KeyedBy digest key m') :
    m = m' := by
  obtain ⟨c, hc, hm⟩ := keyedBy_digest h
  obtain ⟨c', hc', hm'⟩ := keyedBy_digest h'
  have hsame := hdigest c c' (hc.symm.trans hc')
  rw [hm, hm', Option.some.injEq, Json.str.injEq] at hsame
  exact hsame

/-- The two gates are one. -/
theorem cacheKeyForRequest_isSome {D : Type} {digest : JsonObj → D}
    {request : ChatCompletionRequest} {tenantId served : Option String} {key : CacheKey D}
    (h : cacheKeyForRequest digest request tenantId served = some key) :
    isRequestSemanticallyCacheable request = true := by
  unfold cacheKeyForRequest at h
  unfold isRequestSemanticallyCacheable
  split at h
  · cases h
  · rename_i hs
    rw [if_neg hs]
    split at h
    · cases h
    · rename_i ht
      rw [if_neg ht]
      split at h
      · cases h
      · rename_i hn
        simpa using hn

theorem request_model_of_servedModel {d : RoutingDecision} {request : ChatCompletionRequest}
    (h : servedModel d request = "") : request.model = "" := by
  unfold servedModel at h
  split at h
  · exact h
  · rename_i hne
    exact absurd h hne

namespace Gateway

variable {σ ε D : Type} [DecidableEq D] {g : Gateway σ ε D} {st : GatewayState σ D}
  {inbound : Inbound} {outside : Outside ε} {call : Call} {Q : String → Answer → Prop}

/-- Every cached answer has the property with the model it is kept under. -/
structure CachesHold (g : Gateway σ ε D) (Q : String → Answer → Prop) (st : GatewayState σ D) :
    Prop where
  exact : ∀ cache, st.completionCache = some cache → ∀ e ∈ cache.store.entries, ∀ m,
    KeyedBy g.digest e.1 m → Q m e.2.1
  semantic : ∀ cache, st.semanticCache = some cache → ∀ e ∈ cache, ∀ m, e.servedModel = some m →
    Q m e.value

omit [DecidableEq D] in
theorem cachesHold_router (h : CachesHold g Q st) (s : σ) :
    CachesHold g Q { st with router := s } :=
  ⟨h.exact, h.semantic⟩

omit [DecidableEq D] in
theorem keyedBy_cacheKey {decision : RoutingDecision} {outgoing : ChatCompletionRequest}
    {key : CacheKey D}
    (h : g.cacheKey st inbound outgoing (servedModel decision outgoing) = some key) :
    KeyedBy g.digest key (servedModel decision outgoing) := by
  unfold cacheKey at h
  split at h
  · cases h
  · exact ⟨outgoing, some inbound.tenantId, request_model_of_servedModel, h⟩

omit [DecidableEq D] in
theorem cacheable_of_cacheKey {outgoing : ChatCompletionRequest} {served : String}
    {key : CacheKey D} (h : g.cacheKey st inbound outgoing served = some key) :
    isRequestSemanticallyCacheable outgoing = true := by
  unfold cacheKey at h
  split at h
  · cases h
  · exact cacheKeyForRequest_isSome h

/-- There is a cache that keeps what is written. -/
def Keeps (st : GatewayState σ D) (outside : Outside ε) : Prop :=
  (st.completionCache.isSome = true ∧ 0 < outside.cacheTtl) ∨ st.semanticCache.isSome = true

/-- A write of an answer that has the property under the key's model. -/
theorem cachesHold_setExact (hdigest : DigestSeparatesModels g.digest) (h : CachesHold g Q st)
    {key : Option (CacheKey D)} {m : String} {answer : Answer}
    (hkey : ∀ k, key = some k → Keeps st outside → KeyedBy g.digest k m ∧ Q m answer) :
    CachesHold g Q (setExact st key answer outside) := by
  unfold setExact
  split
  · rename_i cache k hcache
    refine ⟨?_, h.semantic⟩
    intro cache' hcache' e he m' hm'
    cases hcache'
    rcases InMemoryCompletionCache.mem_of_mem_set he with he | ⟨httl, hek, hev⟩
    · exact h.exact cache hcache e he m' hm'
    · obtain ⟨hk, hQ⟩ := hkey k rfl (Or.inl ⟨by rw [hcache]; rfl, httl⟩)
      rw [hek] at hm'
      rw [hev, ← keyedBy_unique hdigest hk hm']
      exact hQ
  · exact h

variable (outside) in
theorem cachesHold_lookupExact (h : CachesHold g Q st) {key : Option (CacheKey D)} {m : String}
    (hkey : ∀ k, key = some k → KeyedBy g.digest k m) :
    CachesHold g Q (lookupExact st key outside).2 ∧
      ∀ answer, (lookupExact st key outside).1 = some answer → Q m answer := by
  unfold lookupExact
  split
  · rename_i cache k hcache
    refine ⟨⟨?_, h.semantic⟩, ?_⟩
    · intro cache' hcache' e he
      cases hcache'
      exact h.exact cache hcache e (InMemoryCompletionCache.mem_of_mem_get he)
    · intro answer hhit
      obtain ⟨expiresAt, hmem⟩ := InMemoryCompletionCache.get_hit hhit
      exact h.exact cache hcache _ hmem m (hkey k rfl)
  · exact ⟨h, fun _ hnone => by cases hnone⟩

omit [DecidableEq D] in
theorem lookupSemantic_holds (h : CachesHold g Q st) {outgoing : ChatCompletionRequest}
    {served : String} {answer : Answer}
    (hhit : lookupSemantic st inbound outgoing served outside = some answer) :
    Q served answer ∧ isRequestSemanticallyCacheable outgoing = true := by
  unfold lookupSemantic at hhit
  cases hc : st.semanticCache with
  | none => rw [hc] at hhit; cases hhit
  | some cache =>
    rw [hc] at hhit
    simp only at hhit
    split at hhit
    · rename_i hcacheable
      obtain ⟨i, -, hi⟩ := Option.bind_eq_some_iff.1 hhit
      obtain ⟨e, he, rfl⟩ := Option.map_eq_some_iff.1 hi
      obtain ⟨hmem, hbucket⟩ := List.mem_filter.1 (List.mem_of_getElem? he)
      exact ⟨h.semantic cache hc e hmem served (of_decide_eq_true hbucket).2, hcacheable⟩
    · cases hhit

variable (inbound outside) in
/-- **The lookups keep the property, and what they find has it.** -/
theorem lookupCaches_holds (hdigest : DigestSeparatesModels g.digest) (h : CachesHold g Q st)
    (decision : RoutingDecision) (outgoing : ChatCompletionRequest) :
    CachesHold g Q
        (g.lookupCaches st inbound outgoing (servedModel decision outgoing) outside).2 ∧
      ∀ answer status,
        (g.lookupCaches st inbound outgoing (servedModel decision outgoing) outside).1 =
          some (answer, status) → Q (servedModel decision outgoing) answer := by
  have hkey : ∀ k, g.cacheKey st inbound outgoing (servedModel decision outgoing) = some k →
      KeyedBy g.digest k (servedModel decision outgoing) := fun k hk => keyedBy_cacheKey hk
  obtain ⟨hst, hhit⟩ := cachesHold_lookupExact outside h hkey
  unfold lookupCaches
  simp only
  rcases hx : lookupExact st (g.cacheKey st inbound outgoing (servedModel decision outgoing))
      outside with ⟨_ | answer, st'⟩
  · rw [hx] at hst
    simp only
    cases hs : lookupSemantic st' inbound outgoing (servedModel decision outgoing) outside with
    | none => exact ⟨hst, fun _ _ hnone => by cases hnone⟩
    | some answer =>
      -- a semantic hit is written back under the exact key
      obtain ⟨hQ, -⟩ := lookupSemantic_holds hst hs
      refine ⟨cachesHold_setExact hdigest hst (fun k hk _ => ⟨hkey k hk, hQ⟩), ?_⟩
      rintro _ _ ⟨⟩
      exact hQ
  · rw [hx] at hst hhit
    refine ⟨hst, ?_⟩
    rintro _ _ ⟨⟩
    exact hhit _ rfl

theorem setExact_semanticCache (key : Option (CacheKey D)) (answer : Answer) :
    (setExact st key answer outside).semanticCache = st.semanticCache := by
  unfold setExact
  split <;> rfl

/-- **A write keeps the property, when an answer that is cacheable and kept has it.** -/
theorem storeAnswer_holds (hdigest : DigestSeparatesModels g.digest) (h : CachesHold g Q st)
    {decision : RoutingDecision} {outgoing : ChatCompletionRequest} {answer : Answer}
    (hQ : isRequestSemanticallyCacheable outgoing = true → Keeps st outside →
      Q (servedModel decision outgoing) answer) :
    CachesHold g Q (g.storeAnswer st inbound outgoing (servedModel decision outgoing) answer
      outside) := by
  have hset : CachesHold g Q (setExact st
      (g.cacheKey st inbound outgoing (servedModel decision outgoing)) answer outside) :=
    cachesHold_setExact hdigest h
      (fun k hk hkeeps => ⟨keyedBy_cacheKey hk, hQ (cacheable_of_cacheKey hk) hkeeps⟩)
  unfold storeAnswer
  simp only
  split
  · exact hset
  · rename_i cache hcache
    have hkeeps : Keeps st outside := by
      rw [setExact_semanticCache] at hcache
      exact Or.inr (by rw [hcache]; rfl)
    split
    · rename_i hcacheable
      refine ⟨hset.exact, ?_⟩
      intro cache' hcache' e he m hm
      cases hcache'
      -- an entry of before, or the new one
      rcases List.mem_append.1 he with he | he
      · exact hset.semantic cache hcache e he m hm
      · rw [List.mem_singleton.1 he] at hm ⊢
        cases hm
        exact hQ hcacheable hkeeps
    · exact hset

/-! ## What a call writes -/

/-- A call that neither cache answers, up to its dispatch. -/
structure Missed (g : Gateway σ ε D) (st : GatewayState σ D) (inbound : Inbound)
    (outside : Outside ε) (call : Call) (request : ChatCompletionRequest)
    (primary : RoutingDecision) (st' st'' : GatewayState σ D) : Prop where
  routed : Routed g st inbound outside call request primary st'
  looksUp : looksUp (g.outgoingFor outside request primary) call = true
  missed : g.lookupCaches st' inbound (g.outgoingFor outside request primary)
    (servedModel primary (g.outgoingFor outside request primary)) outside = (none, st'')

/-- The call writes the answer under the model, and it is kept. -/
def Writes (g : Gateway σ ε D) (st : GatewayState σ D) (inbound : Inbound) (outside : Outside ε)
    (call : Call) (m : String) (answer : Answer) : Prop :=
  ∃ request primary st' st'' d f completion,
    Missed g st inbound outside call request primary st' st'' ∧
    (g.chatAttemptFor st''.router outside (g.outgoingFor outside request primary) call
      primary).outcome = .ok (d, f, completion) ∧
    isRequestSemanticallyCacheable (g.outgoingFor outside request primary) = true ∧
    Keeps st'' outside ∧
    m = servedModel primary (g.outgoingFor outside request primary) ∧
    answer = ⟨g.kept call d completion, servedModel d (g.outgoingFor outside request primary)⟩

omit [DecidableEq D] in
theorem routeRequest_holds {request : ChatCompletionRequest}
    {res : Except HttpError RoutingDecision} {st' : GatewayState σ D} (h : CachesHold g Q st)
    (hr : g.routeRequest st inbound outside request = (res, st')) : CachesHold g Q st' := by
  unfold routeRequest at hr
  split at hr
  · cases hr
    exact cachesHold_router h _
  · cases hr
    exact cachesHold_router h _

/-- The state a call that missed the caches leaves. -/
theorem storedState_holds (hdigest : DigestSeparatesModels g.digest)
    {request : ChatCompletionRequest} {primary : RoutingDecision} {st' st'' : GatewayState σ D}
    (hmiss : Missed g st inbound outside call request primary st' st'') (h : CachesHold g Q st'')
    (hwrites : ∀ m answer, Writes g st inbound outside call m answer → Q m answer) :
    CachesHold g Q (g.storedState st'' inbound outside (g.outgoingFor outside request primary) call
      primary) := by
  unfold storedState
  simp only
  split
  · exact cachesHold_router h _
  · rename_i d f completion hok
    refine storeAnswer_holds hdigest (cachesHold_router h _) ?_
    intro hcacheable hkeeps
    exact hwrites _ _ ⟨request, primary, st', st'', d, f, completion, hmiss, hok, hcacheable,
      hkeeps, rfl, rfl⟩

/-- **One call keeps a property of the cached answers, and a hit has it, when every answer the
call writes has it.** -/
theorem handle_caches (hdigest : DigestSeparatesModels g.digest) (h : CachesHold g Q st)
    (hwrites : ∀ m answer, Writes g st inbound outside call m answer → Q m answer) :
    CachesHold g Q (g.handle st inbound outside call).state ∧
      ∀ m answer, (g.handle st inbound outside call).hit = some (m, answer) → Q m answer := by
  have hd := handle_handling g st inbound outside call
  generalize g.handle st inbound outside call = handled at hd ⊢
  cases hd with
  | rejected e => exact ⟨h, fun _ _ hnone => by cases hnone⟩
  | unrouted request e st' hr =>
    exact ⟨routeRequest_holds h hr, fun _ _ hnone => by cases hnone⟩
  | streamed request primary st' hrouted hstreams =>
    exact ⟨cachesHold_router (routeRequest_holds h hrouted.routed) _,
      fun _ _ hnone => by cases hnone⟩
  | hit request primary st' st'' answer status hrouted hlooks hfound =>
    -- an answer that is found was kept for this model
    obtain ⟨hst, hhit⟩ := lookupCaches_holds inbound outside hdigest
      (routeRequest_holds h hrouted.routed) primary (g.outgoingFor outside request primary)
    rw [hfound] at hst hhit
    refine ⟨hst, ?_⟩
    rintro _ _ ⟨⟩
    exact hhit _ _ rfl
  | missed request primary st' st'' hrouted hlooks hmissed =>
    obtain ⟨hst, -⟩ := lookupCaches_holds inbound outside hdigest
      (routeRequest_holds h hrouted.routed) primary (g.outgoingFor outside request primary)
    rw [hmissed] at hst
    exact ⟨storedState_holds hdigest ⟨hrouted, hlooks, hmissed⟩ hst hwrites,
      fun _ _ hnone => by cases hnone⟩
  | uncached request primary st' hrouted hlooks hstreams =>
    exact ⟨cachesHold_router (routeRequest_holds h hrouted.routed) _,
      fun _ _ hnone => by cases hnone⟩

/-! ## Runs -/

/-- In every state a run has been in the cached answers have the property, and so has every hit. -/
structure TraceHolds (g : Gateway σ ε D) (Q : String → Answer → Prop) (t : GatewayTrace σ D) :
    Prop where
  state : CachesHold g Q t.state
  states : ∀ h ∈ t.handled, CachesHold g Q h.state
  hits : ∀ h ∈ t.handled, ∀ m answer, h.hit = some (m, answer) → Q m answer

omit [DecidableEq D] in
/-- The caches are empty at the start. -/
theorem traceHolds_started (s : σ) (maxEntries : Option ℕ) (semantic : Bool) :
    TraceHolds g Q ⟨.started s maxEntries semantic, []⟩ where
  state := by
    constructor
    · intro cache hcache e he
      obtain ⟨n, -, rfl⟩ := Option.map_eq_some_iff.1 hcache
      cases he
    · intro cache hcache e he
      unfold GatewayState.started at hcache
      cases semantic with
      | false => cases hcache
      | true => cases hcache; cases he
  states _ h := nomatch h
  hits _ h := nomatch h

theorem serve_holds (hdigest : DigestSeparatesModels g.digest) {t : GatewayTrace σ D}
    {ev : GatewayEvent ε} (ht : TraceHolds g Q t)
    (hwrites : ∀ m answer, Writes g t.state ev.inbound ev.outside ev.call m answer → Q m answer) :
    TraceHolds g Q (g.serve t ev) := by
  obtain ⟨hst, hhit⟩ := handle_caches hdigest ht.state hwrites
  refine ⟨hst, ?_, ?_⟩
  · intro h hh
    rcases List.mem_append.1 hh with hh | hh
    · exact ht.states h hh
    · rw [List.mem_singleton.1 hh]
      exact hst
  · intro h hh
    rcases List.mem_append.1 hh with hh | hh
    · exact ht.hits h hh
    · rw [List.mem_singleton.1 hh]
      exact hhit

/-- **Along a run in which every answer written has the property, the cached answers have it in
every state, and so has every hit.** -/
theorem serve_caches (hdigest : DigestSeparatesModels g.digest) (s : σ) (maxEntries : Option ℕ)
    (semantic : Bool) (events : List (GatewayEvent ε))
    (hrun : Runs.Along g.serve (fun t ev => ∀ m answer,
        Writes g t.state ev.inbound ev.outside ev.call m answer → Q m answer)
      ⟨.started s maxEntries semantic, []⟩ events) :
    TraceHolds g Q (Runs.run g.serve ⟨.started s maxEntries semantic, []⟩ events) :=
  Runs.run_invariant g.serve (TraceHolds g Q) (fun _ _ ht hw => serve_holds hdigest ht hw) events _
    (traceHolds_started s maxEntries semantic) hrun

end Gateway

end ModelMeld
