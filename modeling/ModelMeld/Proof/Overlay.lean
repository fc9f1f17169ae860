import ModelMeld.Proof.PayloadFaults
import ModelMeld.Proof.Selection
import ModelMeld.Spec.Overlay

/-!
# Where the overlay loader and the base loader part

`load_default` builds its overlay rows with a reader of its own, which does not
read whether a row is enabled, nor its latency. `loaders_agree_iff`: its rows are
those `from_json` builds, in what they do not inherit, exactly where the payload
leaves these fields at their defaults.
-/

namespace ModelMeld

open Checked

variable {c : Conversions} {base : List ModelEntry} {row : PyValue}

/-! ## What the loaders read -/

/-- The fields of a row that both loaders take from it alone. -/
structure ReadsShared (c : Conversions) (row : PyValue) (modelId provider : PyValue) (contextWindow : ℤ)
    (costPerMInput costPerMOutput : PyFloat) (lastUpdated providerModelId : PyValue) : Prop where
  modelId : subscript row "model_id" = .ok modelId
  provider : subscript row "provider" = .ok provider
  contextWindow : subscript row "context_window" >>= c.int = .ok contextWindow
  costPerMInput : subscript row "cost_per_m_input" >>= c.float = .ok costPerMInput
  costPerMOutput : subscript row "cost_per_m_output" >>= c.float = .ok costPerMOutput
  lastUpdated : getOr row "last_updated" (.str "") = .ok lastUpdated
  providerModelId : getOr row "provider_model_id" (.str "") = .ok providerModelId

/-- What `from_json` alone reads of a row. -/
structure ReadsLatency (c : Conversions) (row : PyValue) (b : RegistryRow) : Prop where
  source : getOr row "source" (.str "") = .ok b.source
  enabled : truthy <$> getOr row "enabled" (.bool true) = .ok b.enabled
  medianTtftS : optionally row "median_ttft_s" c.float = .ok b.medianTtftS
  medianOutputTps : optionally row "median_output_tps" c.float = .ok b.medianOutputTps
  latencySource : getOr row "latency_source" (.str "") = .ok b.latencySource

theorem rowFromJson_reads {b : RegistryRow} (h : rowFromJson c row = .ok b) :
    ReadsShared c row b.modelId b.provider b.contextWindow b.costPerMInput b.costPerMOutput
        b.lastUpdated b.providerModelId ∧
      ReadsLatency c row b := by
  unfold rowFromJson at h
  refine (?_ : Ensures (fun b : RegistryRow =>
    ReadsShared c row b.modelId b.provider b.contextWindow b.costPerMInput b.costPerMOutput
        b.lastUpdated b.providerModelId ∧
      ReadsLatency c row b) _) b h
  refine ensures_bind fun modelId hmodelId => ?_
  refine ensures_bind fun provider hprovider => ?_
  refine ensures_bind fun window hwindow => ensures_bind fun contextWindow hcontextWindow => ?_
  refine ensures_bind fun input hinput => ensures_bind fun costPerMInput hcostPerMInput => ?_
  refine ensures_bind fun output houtput => ensures_bind fun costPerMOutput hcostPerMOutput => ?_
  refine ensures_bind fun _ _ => ensures_bind fun taskScores _ => ?_
  refine ensures_bind fun lastUpdated hlastUpdated => ?_
  refine ensures_bind fun source hsource => ?_
  refine ensures_bind fun providerModelId hproviderModelId => ?_
  refine ensures_bind fun supportsTools _ => ?_
  refine ensures_bind fun enabled henabled => ?_
  refine ensures_bind fun reasoningInterface _ => ?_
  refine ensures_bind fun maxOutputTokens _ => ?_
  refine ensures_bind fun _ _ => ensures_bind fun supportedBetas _ => ?_
  refine ensures_bind fun medianTtftS hmedianTtftS => ?_
  refine ensures_bind fun medianOutputTps hmedianOutputTps => ?_
  refine ensures_bind fun latencySource hlatencySource => ?_
  refine ensures_pure ⟨⟨hmodelId, hprovider, ?_, ?_, ?_, hlastUpdated, hproviderModelId⟩,
    ⟨hsource, henabled, hmedianTtftS, hmedianOutputTps, hlatencySource⟩⟩
  · exact bind_eq_ok.mpr ⟨window, hwindow, hcontextWindow⟩
  · exact bind_eq_ok.mpr ⟨input, hinput, hcostPerMInput⟩
  · exact bind_eq_ok.mpr ⟨output, houtput, hcostPerMOutput⟩

/-- An overlay row has the defaults of the dataclass in the fields the loader leaves out. -/
structure LeftOut (e : OverlayRow) : Prop where
  enabled : e.enabled = true
  medianTtftS : e.medianTtftS = none
  medianOutputTps : e.medianOutputTps = none
  latencySource : e.latencySource = .str ""

theorem overlayRow_reads {e : OverlayRow} (h : overlayRow c base row = .ok e) :
    ReadsShared c row e.modelId e.provider e.contextWindow e.costPerMInput e.costPerMOutput
        e.lastUpdated e.providerModelId ∧
      getOr row "source" (.str "default_overlay") = .ok e.source ∧ LeftOut e := by
  unfold overlayRow at h
  refine (?_ : Ensures (fun e : OverlayRow =>
    ReadsShared c row e.modelId e.provider e.contextWindow e.costPerMInput e.costPerMOutput
        e.lastUpdated e.providerModelId ∧
      getOr row "source" (.str "default_overlay") = .ok e.source ∧ LeftOut e) _) e h
  refine ensures_bind fun modelId hmodelId => ?_
  refine ensures_bind fun _ _ => ?_
  refine ensures_bind fun _ _ => ensures_bind fun rowScores _ => ?_
  refine ensures_bind fun rowSupportsTools _ => ?_
  refine ensures_bind fun reasoning _ => ?_
  refine ensures_bind fun maxOutput _ => ?_
  refine ensures_bind fun betas _ => ?_
  refine ensures_bind fun provider hprovider => ?_
  refine ensures_bind fun window hwindow => ensures_bind fun contextWindow hcontextWindow => ?_
  refine ensures_bind fun input hinput => ensures_bind fun costPerMInput hcostPerMInput => ?_
  refine ensures_bind fun output houtput => ensures_bind fun costPerMOutput hcostPerMOutput => ?_
  refine ensures_bind fun lastUpdated hlastUpdated => ?_
  refine ensures_bind fun source hsource => ?_
  refine ensures_bind fun providerModelId hproviderModelId => ?_
  refine ensures_pure ⟨⟨hmodelId, hprovider, ?_, ?_, ?_, hlastUpdated, hproviderModelId⟩, hsource,
    ⟨rfl, rfl, rfl, rfl⟩⟩
  · exact bind_eq_ok.mpr ⟨window, hwindow, hcontextWindow⟩
  · exact bind_eq_ok.mpr ⟨input, hinput, hcostPerMInput⟩
  · exact bind_eq_ok.mpr ⟨output, houtput, hcostPerMOutput⟩

/-! ## Agreement -/

/-- The rows agree in every field an overlay row does not inherit; in the source, where the row has
one. -/
structure SameEntry (row : PyValue) (e : OverlayRow) (b : RegistryRow) : Prop where
  modelId : e.modelId = b.modelId
  provider : e.provider = b.provider
  contextWindow : e.contextWindow = b.contextWindow
  costPerMInput : e.costPerMInput = b.costPerMInput
  costPerMOutput : e.costPerMOutput = b.costPerMOutput
  lastUpdated : e.lastUpdated = b.lastUpdated
  providerModelId : e.providerModelId = b.providerModelId
  source : ∀ d v, row = .obj d → PyDict.get? d "source" = some v → e.source = b.source
  enabled : e.enabled = b.enabled
  medianTtftS : e.medianTtftS = b.medianTtftS
  medianOutputTps : e.medianOutputTps = b.medianOutputTps
  latencySource : e.latencySource = b.latencySource

/-- A row that leaves the fields the overlay loader does not read at their defaults. -/
structure PlainRow (d : PyDict) : Prop where
  enabled : truthy ((PyDict.get? d "enabled").getD (.bool true)) = true
  medianTtftS : (PyDict.get? d "median_ttft_s").getD .null = .null
  medianOutputTps : (PyDict.get? d "median_output_tps").getD .null = .null
  latencySource : (PyDict.get? d "latency_source").getD (.str "") = .str ""

theorem optionally_none_iff {A : Type} {d : PyDict} {key : String}
    {convert : PyValue → Except PyError A} {a : Option A}
    (h : optionally (.obj d) key convert = .ok a) :
    a = none ↔ (PyDict.get? d key).getD .null = .null := by
  unfold optionally at h
  obtain ⟨v, hv, h⟩ := bind_eq_ok.1 h
  obtain rfl : (PyDict.get? d key).getD .null = v := Except.ok.inj hv
  split at h
  · next hnull => exact iff_of_true (Except.ok.inj h).symm hnull
  · next hnull =>
    refine iff_of_false (fun hnone => ?_) hnull
    rw [hnone] at h
    generalize (PyDict.get? d key).getD .null = v at h
    cases hv : convert v with
    | error e =>
      rw [hv] at h
      cases h
    | ok b =>
      rw [hv] at h
      cases h

/-- **The two loaders agree on a row exactly when it is plain.** -/
theorem sameEntry_iff {d : PyDict} {e : OverlayRow} {b : RegistryRow}
    (he : overlayRow c base (.obj d) = .ok e) (hb : rowFromJson c (.obj d) = .ok b) :
    SameEntry (.obj d) e b ↔ PlainRow d := by
  obtain ⟨hbase, hlatency⟩ := rowFromJson_reads hb
  obtain ⟨hoverlay, hsource, hleft⟩ := overlayRow_reads he
  have henabled : truthy ((PyDict.get? d "enabled").getD (.bool true)) = b.enabled :=
    Except.ok.inj hlatency.enabled
  have hlatencySource : (PyDict.get? d "latency_source").getD (.str "") = b.latencySource :=
    Except.ok.inj hlatency.latencySource
  constructor
  · intro h
    refine ⟨?_, ?_, ?_, ?_⟩
    · rw [henabled, ← h.enabled, hleft.enabled]
    · rw [← optionally_none_iff hlatency.medianTtftS, ← h.medianTtftS, hleft.medianTtftS]
    · rw [← optionally_none_iff hlatency.medianOutputTps, ← h.medianOutputTps,
        hleft.medianOutputTps]
    · rw [hlatencySource, ← h.latencySource, hleft.latencySource]
  · intro h
    have hsame : ∀ {A : Type} {x : Except PyError A} {a a' : A}, x = .ok a → x = .ok a' → a = a' :=
      fun ha ha' => Except.ok.inj (ha.symm.trans ha')
    refine ⟨hsame hoverlay.modelId hbase.modelId, hsame hoverlay.provider hbase.provider,
      hsame hoverlay.contextWindow hbase.contextWindow,
      hsame hoverlay.costPerMInput hbase.costPerMInput,
      hsame hoverlay.costPerMOutput hbase.costPerMOutput,
      hsame hoverlay.lastUpdated hbase.lastUpdated,
      hsame hoverlay.providerModelId hbase.providerModelId, ?_, ?_, ?_, ?_, ?_⟩
    · intro d' v hd hv
      cases hd
      have hboth : ∀ default, getOr (.obj d) "source" default = .ok v := by
        intro default
        simp [getOr, hv]
      exact (hsame hsource (hboth _)).trans (hsame (hboth _) hlatency.source)
    · rw [hleft.enabled, ← henabled, h.enabled]
    · rw [hleft.medianTtftS, (optionally_none_iff hlatency.medianTtftS).2 h.medianTtftS]
    · rw [hleft.medianOutputTps, (optionally_none_iff hlatency.medianOutputTps).2 h.medianOutputTps]
    · rw [hleft.latencySource, ← hlatencySource, h.latencySource]

/-! ## Whole overlays -/

/-- No call of `rank` or `pick` returns the entry. -/
def NeverSelected (r : ModelRegistry) (x : ModelEntry) : Prop :=
  (∀ args, ∀ p ∈ r.rank args, p.1 ≠ x) ∧
    ∀ args inputWeight outputWeight, r.pick args inputWeight outputWeight ≠ some x

/-- An overlay row is loaded as `from_json` loads it, and not selected where it is disabled. -/
structure LoadersAgree (c : Conversions) (loaded : MergedRows) (row : PyValue) (e : OverlayRow) :
    Prop where
  same : ∃ b, rowFromJson c row = .ok b ∧ SameEntry row e b
  disabled : ∀ d, row = .obj d → truthy ((PyDict.get? d "enabled").getD (.bool true)) = false →
    ∀ r x, loaded.view = some r → e.entry? = some x → NeverSelected r x

theorem obj_of_overlayRow {e : OverlayRow} (h : overlayRow c base row = .ok e) :
    ∃ d, row = .obj d := by
  have hread := (overlayRow_reads h).1.modelId
  cases row with
  | obj d => exact ⟨d, rfl⟩
  | _ => cases hread

/-- A row that `from_json` reads and that is plain. -/
def PlainlyRead (c : Conversions) (row : PyValue) : Prop :=
  RowRead c row ∧ ∃ d, row = .obj d ∧ PlainRow d

theorem loadersAgree_iff_row {loaded : MergedRows} {e : OverlayRow}
    (he : overlayRow c base row = .ok e) : LoadersAgree c loaded row e ↔ PlainlyRead c row := by
  obtain ⟨d, rfl⟩ := obj_of_overlayRow he
  constructor
  · rintro ⟨⟨b, hb, hsame⟩, -⟩
    exact ⟨(rowFromJson_succeeds _).1 ⟨b, hb⟩, d, rfl, (sameEntry_iff he hb).1 hsame⟩
  · rintro ⟨hread, d', hd, hplain⟩
    cases hd
    obtain ⟨b, hb⟩ := (rowFromJson_succeeds _).2 hread
    refine ⟨⟨b, hb, (sameEntry_iff he hb).2 hplain⟩, fun d' hd hdisabled => ?_⟩
    cases hd
    rw [hplain.enabled] at hdisabled
    cases hdisabled

theorem loadDefault_overlay {r : ModelRegistry} {payload : PyValue} {rows : List PyValue}
    {loaded : MergedRows} (hrows : overlayRows payload = .ok rows)
    (hload : loadDefault c r (some payload) = .ok loaded) :
    List.Forall₂ (fun row e => overlayRow c r.allEntries row = .ok e) rows loaded.overlay := by
  obtain ⟨rows', hrows', hrest⟩ := bind_eq_ok.mp hload
  obtain ⟨entries, hentries, hchecked⟩ := bind_eq_ok.mp hrest
  rw [Option.getD_some, hrows] at hrows'
  cases hrows'
  split at hchecked
  · cases hchecked
    exact mapM_eq_ok.mp hentries
  · cases hchecked

/-- **The overlay loader agrees with `from_json` exactly on the rows that leave what it does not
read at the defaults.** -/
theorem loaders_agree_iff {r : ModelRegistry} {payload : PyValue} {rows : List PyValue}
    {loaded : MergedRows} (hrows : overlayRows payload = .ok rows)
    (hload : loadDefault c r (some payload) = .ok loaded) :
    List.Forall₂ (LoadersAgree c loaded) rows loaded.overlay ↔ ∀ row ∈ rows, PlainlyRead c row := by
  have hoverlay := loadDefault_overlay hrows hload
  -- the agreement is about the whole registry, the rows are taken one by one
  generalize hentries : loaded.overlay = entries at hoverlay
  clear hentries hrows hload
  induction hoverlay with
  | nil => exact iff_of_true List.Forall₂.nil fun row hrow => absurd hrow List.not_mem_nil
  | cons he _ ih =>
    rw [List.forall₂_cons, List.forall_mem_cons]
    exact and_congr (loadersAgree_iff_row he) ih

/-! ## A disabled row -/

/-- One row of the overlay is disabled. -/
def disabledOverlay : PyValue :=
  .obj [("models", .arr [.obj [("model_id", .str "m"), ("provider", .str "p"),
    ("context_window", .int 8000), ("cost_per_m_input", .int 1), ("cost_per_m_output", .int 1),
    ("enabled", .bool false)]])]

def plainConversions : Conversions :=
  ⟨fun _ => none, fun _ => none, fun n => some n, fun _ => ""⟩

def disabledMerged : MergedRows where
  base := []
  overlay := [{
    modelId := .str "m", provider := .str "p", contextWindow := 8000,
    costPerMInput := .finite 1, costPerMOutput := .finite 1, taskScores := [],
    lastUpdated := .str "", source := .str "default_overlay", providerModelId := .str "",
    supportsTools := true, reasoningInterface := .str "none", maxOutputTokens := none,
    supportedBetas := [] }]

def disabledEntry : ModelEntry where
  modelId := "m"
  provider := "p"
  contextWindow := 8000
  costPerMInput := 1
  costPerMOutput := 1
  source := "default_overlay"

/-- Arguments that ask for nothing in particular. -/
def anyArgs : RankArgs where
  taskCategory := "coding"
  qualityThreshold := 0
  eligibleProviders := none
  minContextWindow := 0
  requireToolSupport := false
  latencyWeight := 0
  latencyRefInputTokens := 0
  latencyRefOutputTokens := 0
  agenticAdmitFloor := none

theorem loadDefault_disabled :
    loadDefault plainConversions ⟨[], false⟩ (some disabledOverlay) = .ok disabledMerged := by
  decide

theorem overlayRows_disabled :
    overlayRows disabledOverlay = .ok [.obj [("model_id", .str "m"), ("provider", .str "p"),
      ("context_window", .int 8000), ("cost_per_m_input", .int 1), ("cost_per_m_output", .int 1),
      ("enabled", .bool false)]] := rfl

/-- The agreement of the loaders on an overlay with a disabled row. -/
theorem loaders_agree_iff_disabled :
    List.Forall₂ (LoadersAgree plainConversions disabledMerged)
        [.obj [("model_id", .str "m"), ("provider", .str "p"), ("context_window", .int 8000),
          ("cost_per_m_input", .int 1), ("cost_per_m_output", .int 1), ("enabled", .bool false)]]
        disabledMerged.overlay ↔
      ∀ row ∈ [.obj [("model_id", .str "m"), ("provider", .str "p"), ("context_window", .int 8000),
          ("cost_per_m_input", .int 1), ("cost_per_m_output", .int 1), ("enabled", .bool false)]],
        PlainlyRead plainConversions row :=
  loaders_agree_iff overlayRows_disabled loadDefault_disabled

/-- A disabled overlay row is ranked. -/
theorem overlay_ranks_disabled :
    ¬ ∀ (c : Conversions) (r : ModelRegistry) (payload : PyValue) (rows : List PyValue)
      (loaded : MergedRows), overlayRows payload = .ok rows →
      loadDefault c r (some payload) = .ok loaded →
      List.Forall₂ (LoadersAgree c loaded) rows loaded.overlay := by
  intro h
  have hagree := h _ _ _ _ _ overlayRows_disabled loadDefault_disabled
  rw [show disabledMerged.overlay = [disabledMerged.overlay.head (by decide)] from rfl,
    List.forall₂_cons] at hagree
  have hnever := hagree.1.disabled _ rfl rfl ⟨[disabledEntry], true⟩ disabledEntry (by decide)
    (by decide)
  refine hnever.1 anyArgs (disabledEntry, 1) ?_ rfl
  decide +kernel

end ModelMeld
