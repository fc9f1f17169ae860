import ModelMeld.Proof.Feed
import ModelMeld.Proof.Selection
import ModelMeld.Spec.FeedLoading
import Mathlib.Data.Set.Finite.Lattice

/-!
# Which rows of a feed are routed to

The gateway routes on the `ModelRegistry` the feed client builds, and that keeps
one row per model id. `feed_rows_kept_iff`: every enabled row is a candidate
exactly when none is followed by another row of its model. The registry class the
gateway starts with keeps them all (`multiProvider_keeps`).
-/

namespace ModelMeld

/-- Arguments of `rank` that ask a row for no more than it has: a category it scores at 0 or more,
at threshold 0, and its own provider. -/
structure AsksOwn (e : ModelEntry) (args : RankArgs) : Prop where
  threshold : args.qualityThreshold = 0
  score : 0 ≤ e.taskScores.getD args.taskCategory 0
  provider : ∀ providers, args.eligibleProviders = some providers → e.provider ∈ providers
  window : args.minContextWindow ≤ e.contextWindow
  tools : args.requireToolSupport = true → e.supportsTools = true

/-- The row is a candidate for what it has, with its own cost and all its fields. -/
def Routed (r : ModelRegistry) (e : ModelEntry) : Prop :=
  ∀ args, AsksOwn e args → (e, e.blendedCostPerM) ∈ r.rank args

/-- The rows of a valid payload. -/
def PayloadRows (c : Conversions) (payload : PyValue) (entries : List ModelEntry) : Prop :=
  ∃ loaded, fromJson c payload = .ok loaded ∧ loaded.rows.mapM RegistryRow.entry? = some entries

theorem admissible_of_asksOwn {e : ModelEntry} {args : RankArgs} (henabled : e.enabled = true)
    (h : AsksOwn e args) : Admissible e args :=
  ⟨henabled, h.provider, h.window, h.tools, .inl (h.threshold.trans_le h.score)⟩

/-- Arguments that ask for a category no row scores, of every provider. -/
def unscoredArgs (category : String) (window : ℤ) : RankArgs where
  taskCategory := category
  qualityThreshold := 0
  eligibleProviders := none
  minContextWindow := window
  requireToolSupport := false
  latencyWeight := 0
  latencyRefInputTokens := 0
  latencyRefOutputTokens := 0
  agenticAdmitFloor := none

/-- There is a category a row has no score for. -/
theorem exists_unscored (e : ModelEntry) :
    ∃ category, e.taskScores.getD category 0 = 0 := by
  obtain ⟨category, hnew⟩ := Infinite.exists_notMem_finset e.taskScores.keys.toFinset
  refine ⟨category, ?_⟩
  have hnone : e.taskScores.get? category = none := by
    by_contra hsome
    apply hnew
    rw [List.mem_toFinset, OrderedDict.mem_keys_iff]
    exact Option.isSome_iff_ne_none.2 hsome
  rw [OrderedDict.getD, hnone]
  rfl

/-- **An enabled row is routed to exactly when it is the last of its key.** -/
theorem routed_iff {r : ModelRegistry} {e : ModelEntry} (henabled : e.enabled = true) :
    Routed r e ↔ r.LastRow e := by
  constructor
  · intro h
    obtain ⟨category, hscore⟩ := exists_unscored e
    have hmem := h (unscoredArgs category e.contextWindow)
      ⟨rfl, hscore.ge, fun ps hps => (by cases hps), le_rfl,
        fun hrequired => (by cases hrequired)⟩
    exact (ModelRegistry.mem_rank.1 hmem).2.1
  · intro h args hargs
    exact ModelRegistry.mem_rank.2 ⟨rfl, h, admissible_of_asksOwn henabled hargs⟩

/-! ## Rows that are lost -/

/-- Rows of distinct models and providers. -/
def DistinctRows (entries : List ModelEntry) : Prop :=
  (entries.map fun e => (e.modelId, e.provider)).Nodup

instance (entries : List ModelEntry) : Decidable (DistinctRows entries) :=
  inferInstanceAs (Decidable (List.Nodup _))

theorem lastRow_single {entries : List ModelEntry} {e : ModelEntry} :
    (ModelRegistry.mk entries false).LastRow e ↔
      OrderedDict.LastOf ModelEntry.modelId entries e := by
  have hsame : ∀ a b, (ModelRegistry.mk entries false).SameKey a b ↔ a.modelId = b.modelId :=
    fun a b => ModelRegistry.sameKey_of_single rfl
  unfold ModelRegistry.LastRow OrderedDict.LastOf
  simp only [hsame, ne_eq]

/-- **All enabled rows are routed to when none is followed by another row of its model.** -/
theorem all_routed_iff {entries : List ModelEntry} (hdistinct : DistinctRows entries) :
    (∀ e ∈ entries, e.enabled = true → Routed ⟨entries, false⟩ e) ↔
      entries.Pairwise (fun e later => e.enabled = true → later.modelId ≠ e.modelId) := by
  rw [← OrderedDict.forall_lastOf_iff (List.Nodup.of_map _ hdistinct)]
  refine forall₂_congr fun e _ => ?_
  exact forall_congr' fun henabled => (routed_iff henabled).trans lastRow_single

/-- **The registry class the gateway starts with keeps every row.** -/
theorem multiProvider_keeps {entries : List ModelEntry} (hdistinct : DistinctRows entries)
    {e : ModelEntry} (he : e ∈ entries) (henabled : e.enabled = true) :
    Routed ⟨entries, true⟩ e := by
  rw [routed_iff henabled, ← ModelRegistry.rows_spec.1, ModelRegistry.rows_of_multi rfl,
    OrderedDict.values_indexBy_of_nodup _ hdistinct]
  exact he

/-! ## The gateway's load -/

variable {K : Type} {lib : FeedLibrary K} {client : RegistryFeedClient K} {file : Option CacheFile}
  {call : FeedCall} {state : RegistryState} {result : FeedFetchResult}

/-- A fetch of a registry puts it under a router of the gateway's own. -/
theorem maybeLoadRegistryFeed_fetched (hurl : client.feedUrl.getD "" ≠ "")
    (hfetch : (fetch lib client file call).1 = .ok result) (hsource : result.source ≠ .seed)
    (howned : state.routerOwned = true) :
    (maybeLoadRegistryFeed lib client file call state).1 =
      .ok ⟨.fetched result.registry, .fetched result.registry, true⟩ := by
  unfold maybeLoadRegistryFeed
  rw [if_neg hurl]
  generalize hpair : fetch lib client file call = pair at hfetch
  obtain ⟨outcome, file'⟩ := pair
  simp only at hfetch
  subst hfetch
  simp only [if_neg hsource, howned, if_true]

/-- **Once the gateway has loaded a feed, every enabled row of it is a candidate exactly when none
is followed by another row of its model.** -/
theorem feed_rows_kept_iff {payload : PyValue} {entries : List ModelEntry}
    (hurl : client.feedUrl.getD "" ≠ "")
    (hfetch : (fetch lib client file call).1 = .ok result) (hsource : result.source ≠ .seed)
    (hcarried : fromJson lib.conversions payload = .ok result.registry)
    (howned : state.routerOwned = true)
    (hrows : PayloadRows lib.conversions payload entries) (hdistinct : DistinctRows entries) :
    ∃ loaded r, (maybeLoadRegistryFeed lib client file call state).1 = .ok loaded ∧
      loaded.routerRegistry.view = some r ∧
      ((∀ e ∈ entries, e.enabled = true → Routed r e) ↔
        entries.Pairwise (fun e later => e.enabled = true → later.modelId ≠ e.modelId)) := by
  obtain ⟨registry, hregistry, hentries⟩ := hrows
  rw [hcarried] at hregistry
  cases hregistry
  refine ⟨_, ⟨entries, false⟩, maybeLoadRegistryFeed_fetched hurl hfetch hsource howned, ?_,
    all_routed_iff hdistinct⟩
  rw [HeldRegistry.view, LoadedRegistry.view, hentries]
  rfl

/-! ## A feed of one model at two providers -/

/-- A row of a model at a provider. -/
def sampleRow (provider : String) (cost : ℤ) : PyValue :=
  .obj [("model_id", .str "m"), ("provider", .str provider), ("context_window", .int 8000),
    ("cost_per_m_input", .int cost), ("cost_per_m_output", .int cost)]

def twoProviderPayload : PyValue := .obj [("models", .arr [sampleRow "a" 1, sampleRow "b" 2])]

/-- A library whose one signed body has the two rows. -/
def twoProviderLibrary : FeedLibrary Unit where
  conversions := sampleLibrary.conversions
  b64decode := sampleLibrary.b64decode
  verify := sampleLibrary.verify
  loads := fun body =>
    if body = [1, 2] then
      .ok (.obj [("schema_version", .int 1), ("registry", twoProviderPayload)])
    else .error .jsonDecodeError
  loads_take := by
    intro body n d d' hwhole hpart
    split at hwhole
    · split at hpart
      · exact (PyValue.obj.inj (Except.ok.inj hpart)).symm.trans (PyValue.obj.inj (Except.ok.inj hwhole))
      · cases hpart
    · cases hwhole
  fromisoformat := fun _ => none

def sampleEntry (provider : String) (cost : ℚ) : ModelEntry where
  modelId := "m"
  provider := provider
  contextWindow := 8000
  costPerMInput := cost
  costPerMOutput := cost

def twoProviderRegistry : LoadedRegistry :=
  ⟨[⟨.str "m", .str "a", 8000, .finite 1, .finite 1, [], .str "", .str "", .str "", true, true,
      "none", none, [], none, none, .str ""⟩,
    ⟨.str "m", .str "b", 8000, .finite 2, .finite 2, [], .str "", .str "", .str "", true, true,
      "none", none, [], none, none, .str ""⟩]⟩

theorem fromJson_twoProvider (lib : FeedLibrary Unit)
    (h : lib.conversions = sampleLibrary.conversions) :
    fromJson lib.conversions twoProviderPayload = .ok twoProviderRegistry := by
  rw [h]
  decide

def twoProviderCall : FeedCall := sampleCall 0 (.response 200 (some "AQ==") [1, 2])

def twoProviderResult : FeedFetchResult := ⟨twoProviderRegistry, .feed, some 0, none⟩

def startedState : RegistryState := ⟨.started ⟨[], true⟩, .started ⟨[], true⟩, true⟩

theorem fetch_twoProvider :
    (fetch twoProviderLibrary sampleClient none twoProviderCall).1 = .ok twoProviderResult := by
  decide

theorem entries_twoProvider :
    twoProviderRegistry.rows.mapM RegistryRow.entry? =
      some [sampleEntry "a" 1, sampleEntry "b" 2] := by
  decide

/-- What the gateway makes of the feed. -/
theorem feed_rows_kept_iff_twoProvider :
    ∃ loaded r, (maybeLoadRegistryFeed twoProviderLibrary sampleClient none twoProviderCall
        startedState).1 = .ok loaded ∧ loaded.routerRegistry.view = some r ∧
      ((∀ e ∈ [sampleEntry "a" 1, sampleEntry "b" 2], e.enabled = true → Routed r e) ↔
        [sampleEntry "a" 1, sampleEntry "b" 2].Pairwise
          (fun e later => e.enabled = true → later.modelId ≠ e.modelId)) :=
  feed_rows_kept_iff (by decide) fetch_twoProvider (by decide)
    (fromJson_twoProvider twoProviderLibrary rfl) rfl
    ⟨twoProviderRegistry, fromJson_twoProvider twoProviderLibrary rfl, entries_twoProvider⟩
    (by decide)

/-- The cheaper of two providers of a model, given first, is not routed to. -/
theorem feed_row_lost :
    ¬ ∀ (lib : FeedLibrary Unit) (client : RegistryFeedClient Unit) (file : Option CacheFile)
      (call : FeedCall) (state loaded : RegistryState) (result : FeedFetchResult) (payload : PyValue)
      (entries : List ModelEntry) (r : ModelRegistry),
      (fetch lib client file call).1 = .ok result → result.source ≠ .seed →
      fromJson lib.conversions payload = .ok result.registry → state.routerOwned = true →
      PayloadRows lib.conversions payload entries → DistinctRows entries →
      (maybeLoadRegistryFeed lib client file call state).1 = .ok loaded →
      loaded.routerRegistry.view = some r →
      ∀ e ∈ entries, e.enabled = true → Routed r e := by
  intro h
  have hview : (HeldRegistry.fetched twoProviderRegistry).view =
      some ⟨[sampleEntry "a" 1, sampleEntry "b" 2], false⟩ := by
    rw [HeldRegistry.view, LoadedRegistry.view, entries_twoProvider]
    rfl
  have hrouted := h twoProviderLibrary sampleClient none twoProviderCall startedState _
    twoProviderResult twoProviderPayload _ _ fetch_twoProvider (by decide)
    (fromJson_twoProvider twoProviderLibrary rfl) rfl
    ⟨twoProviderRegistry, fromJson_twoProvider twoProviderLibrary rfl, entries_twoProvider⟩
    (by decide) (maybeLoadRegistryFeed_fetched (by decide) fetch_twoProvider (by decide) rfl) hview
  rw [all_routed_iff (by decide), List.pairwise_cons] at hrouted
  exact hrouted.1 (sampleEntry "b" 2) List.mem_cons_self rfl rfl

end ModelMeld
