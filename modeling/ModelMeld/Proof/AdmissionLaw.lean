import ModelMeld.Proof.Admission

/-!
# Which requests the front door lets in

* `extractHints_ok_iff`, `extractHints_wellFormed`: the headers that make routing hints, and the
  hints they make;
* `front_door_law`: a request is let in exactly when its tenant, its body, its model and each of its
  headers pass, and what it is let in with is well formed.
-/

namespace ModelMeld

variable {parts : HeaderParts} {headers : Headers}

/-! ## Headers that parse -/

/-- The header is missing, or its last value passes. -/
def LastPasses (parts : HeaderParts) (headers : Headers) (name : String) (ok : String → Prop) :
    Prop :=
  ∀ raw, (loweredHeaders parts.lower headers).get? name = some raw → ok raw

/-- A blank text, or one of some words, in any case. -/
def IsWord (parts : HeaderParts) (words : List String) (raw : String) : Prop :=
  parts.lower (strip raw) = "" ∨ parts.lower (strip raw) ∈ words

/-- A blank text, or a role of the table with hyphens or underscores. -/
def IsRole (parts : HeaderParts) (raw : String) : Prop :=
  String.ofList ((parts.lower (strip raw)).toList.map (fun c => if c = '-' then '_' else c)) ∈
    "" :: agentRoleToCategory.map Prod.fst

/-- A blank text, or a number from zero to one. -/
def IsFraction (parts : HeaderParts) (raw : String) : Prop :=
  strip raw = "" ∨ ∃ q, parts.float (strip raw) = some (some q) ∧ 0 ≤ q ∧ q ≤ 1

theorem parseMemoryMode_ok_iff (o : Option String) :
    (∃ mode, parseMemoryMode parts o = .ok mode) ↔
      ∀ raw, o = some raw → IsWord parts ["augment", "full", "off"] raw := by
  cases o with
  | none => exact ⟨fun _ raw h => (nomatch h), fun _ => ⟨.augment, rfl⟩⟩
  | some raw =>
    simp only [Option.some.injEq, forall_eq']
    unfold parseMemoryMode IsWord
    dsimp only
    generalize parts.lower (strip raw) = value
    by_cases hblank : value = ""
    · simp [hblank]
    · by_cases haugment : value = "augment"
      · simp [haugment]
      · by_cases hfull : value = "full"
        · simp [hfull]
        · by_cases hoff : value = "off"
          · simp [hoff]
          · simp [hblank, haugment, hfull, hoff]

theorem parseTaskCategory_ok_iff (o : Option String) :
    (∃ category, parseTaskCategory parts o = .ok category) ↔
      ∀ raw, o = some raw → IsWord parts taskCategories raw := by
  cases o with
  | none => exact ⟨fun _ raw h => (nomatch h), fun _ => ⟨none, rfl⟩⟩
  | some raw =>
    simp only [Option.some.injEq, forall_eq']
    unfold parseTaskCategory IsWord
    dsimp only
    generalize parts.lower (strip raw) = value
    by_cases hblank : value = ""
    · simp [hblank]
    · by_cases hword : value ∈ taskCategories
      · simp [hblank, hword]
      · simp [hblank, hword]

theorem parseTaskCategory_mem {o : Option String} {category : String}
    (h : parseTaskCategory parts o = .ok (some category)) : category ∈ taskCategories := by
  cases o with
  | none => cases h
  | some raw =>
    unfold parseTaskCategory at h
    dsimp only at h
    split at h
    · cases h
    · split at h
      · rename_i hword
        cases h
        exact hword
      · cases h

theorem parseAgentRole_ok_iff (o : Option String) :
    (∃ role, parseAgentRole parts o = .ok role) ↔ ∀ raw, o = some raw → IsRole parts raw := by
  cases o with
  | none => exact ⟨fun _ raw h => (nomatch h), fun _ => ⟨none, rfl⟩⟩
  | some raw =>
    simp only [Option.some.injEq, forall_eq']
    unfold parseAgentRole IsRole
    dsimp only
    generalize String.ofList ((parts.lower (strip raw)).toList.map
      (fun c => if c = '-' then '_' else c)) = value
    rw [List.mem_cons]
    by_cases hblank : value = ""
    · simp [hblank]
    · by_cases hrole : value ∈ agentRoleToCategory.map Prod.fst
      · rw [if_neg hblank, if_pos hrole]
        exact ⟨fun _ => Or.inr hrole, fun _ => ⟨_, rfl⟩⟩
      · rw [if_neg hblank, if_neg hrole]
        exact ⟨fun ⟨_, h⟩ => (nomatch h), fun h => absurd h (not_or.mpr ⟨hblank, hrole⟩)⟩

theorem parseAgentRole_mem {o : Option String} {role : String}
    (h : parseAgentRole parts o = .ok (some role)) : role ∈ agentRoleToCategory.map Prod.fst := by
  cases o with
  | none => cases h
  | some raw =>
    unfold parseAgentRole at h
    dsimp only at h
    split at h
    · cases h
    · split at h
      · rename_i hrole
        cases h
        exact hrole
      · cases h

theorem parseQualityThreshold_ok_iff (o : Option String) :
    (∃ threshold, parseQualityThreshold parts o = .ok threshold) ↔
      ∀ raw, o = some raw → IsFraction parts raw := by
  cases o with
  | none => exact ⟨fun _ raw h => (nomatch h), fun _ => ⟨none, rfl⟩⟩
  | some raw =>
    simp only [Option.some.injEq, forall_eq']
    unfold parseQualityThreshold IsFraction
    dsimp only
    by_cases hblank : strip raw = ""
    · simp [hblank]
    · rw [if_neg hblank]
      cases parts.float (strip raw) with
      | none => simp [hblank]
      | some number =>
        cases number with
        | none => simp [hblank]
        | some q =>
          by_cases hrange : 0 ≤ q ∧ q ≤ 1
          · simp [hrange]
          · simp only [hrange, if_false, hblank, false_or, Option.some.injEq]
            exact ⟨fun ⟨_, h⟩ => (nomatch h), fun ⟨q', hq, hr⟩ => absurd (hq ▸ hr) hrange⟩

theorem parseQualityThreshold_range {o : Option String} {q : ℚ}
    (h : parseQualityThreshold parts o = .ok (some q)) : 0 ≤ q ∧ q ≤ 1 := by
  cases o with
  | none => cases h
  | some raw =>
    unfold parseQualityThreshold at h
    dsimp only at h
    split at h
    · cases h
    · split at h
      · cases h
      · split at h
        · rename_i hrange
          cases h
          exact hrange
        · cases h
      · cases h

/-! ## Routing hints -/

/-- The hint headers pass. -/
structure HintsPass (parts : HeaderParts) (headers : Headers) : Prop where
  category : LastPasses parts headers "x-modelmeld-task-category" (IsWord parts taskCategories)
  role : LastPasses parts headers "x-modelmeld-agent-role" (IsRole parts)
  threshold : LastPasses parts headers "x-modelmeld-quality-threshold" (IsFraction parts)

/-- Hints the scout is promised. -/
structure HintsWellFormed (parts : HeaderParts) (hints : RoutingHints) : Prop where
  category : ∀ category, hints.taskCategory = some category → category ∈ taskCategories
  role : ∀ role, hints.agentRole = some role →
    ∃ category ∈ taskCategories, hints.derivedCategory = some category
  threshold : ∀ q, hints.qualityThreshold = some q → 0 ≤ q ∧ q ≤ 1
  excluded : ∀ providers, hints.excludedProviders = some providers → providers.Nonempty
  pin : ∀ model, hints.pinModel = some model → modelPinEnabled parts = true ∧ model ≠ ""

/-- Every role of the table has a category. -/
theorem category_of_role {role : String} (h : role ∈ agentRoleToCategory.map Prod.fst) :
    ∃ category ∈ taskCategories, agentRoleToCategory.lookup role = some category := by
  have hall : (agentRoleToCategory.map Prod.fst).all (fun role =>
      (agentRoleToCategory.lookup role).any taskCategories.contains) = true := by decide
  obtain ⟨category, hlookup, hcategory⟩ :=
    (Option.any_eq_true _ _).mp (List.all_eq_true.mp hall role h)
  exact ⟨category, List.contains_iff_mem.mp hcategory, hlookup⟩

theorem parseExcludedProviders_nonempty {o : Option String} {providers : Finset String}
    (h : parseExcludedProviders parts o = some providers) : providers.Nonempty := by
  cases o with
  | none => cases h
  | some raw =>
    unfold parseExcludedProviders at h
    dsimp only at h
    split at h
    · cases h
    · rename_i hpieces
      cases h
      rw [List.toFinset_nonempty_iff]
      simpa using hpieces

/-- The three parsers that can fail, in their order, and what their results make. -/
theorem extractHints_eq : extractHintsFromHeaders parts headers =
    match parseTaskCategory parts ((loweredHeaders parts.lower headers).get?
        "x-modelmeld-task-category") with
    | .error e => .error e
    | .ok taskCategory =>
      match parseAgentRole parts ((loweredHeaders parts.lower headers).get?
          "x-modelmeld-agent-role") with
      | .error e => .error e
      | .ok agentRole =>
        match parseQualityThreshold parts ((loweredHeaders parts.lower headers).get?
            "x-modelmeld-quality-threshold") with
        | .error e => .error e
        | .ok qualityThreshold => .ok
          { taskCategory := taskCategory
            agentRole := agentRole
            qualityThreshold := qualityThreshold
            excludedProviders := parseExcludedProviders parts
              ((loweredHeaders parts.lower headers).get? "x-modelmeld-exclude-providers")
            pinModel := if modelPinEnabled parts then
              ((loweredHeaders parts.lower headers).get? "x-modelmeld-pin-model").bind
                (fun raw => orNone (strip raw)) else none } := by
  unfold extractHintsFromHeaders
  dsimp only
  cases parseTaskCategory parts ((loweredHeaders parts.lower headers).get?
      "x-modelmeld-task-category") with
  | error e => rfl
  | ok taskCategory =>
    cases parseAgentRole parts ((loweredHeaders parts.lower headers).get?
        "x-modelmeld-agent-role") with
    | error e => rfl
    | ok agentRole =>
      cases parseQualityThreshold parts ((loweredHeaders parts.lower headers).get?
          "x-modelmeld-quality-threshold") <;> rfl

/-- **The headers that make routing hints.** -/
theorem extractHints_ok_iff :
    (∃ hints, extractHintsFromHeaders parts headers = .ok hints) ↔ HintsPass parts headers := by
  rw [extractHints_eq]
  constructor
  · rintro ⟨hints, h⟩
    split at h
    · cases h
    · rename_i hcategory
      split at h
      · cases h
      · rename_i hrole
        split at h
        · cases h
        · rename_i hthreshold
          exact ⟨(parseTaskCategory_ok_iff _).mp ⟨_, hcategory⟩,
            (parseAgentRole_ok_iff _).mp ⟨_, hrole⟩,
            (parseQualityThreshold_ok_iff _).mp ⟨_, hthreshold⟩⟩
  · rintro ⟨hcategory, hrole, hthreshold⟩
    obtain ⟨category, hcategory⟩ := (parseTaskCategory_ok_iff _).mpr hcategory
    obtain ⟨role, hrole⟩ := (parseAgentRole_ok_iff _).mpr hrole
    obtain ⟨threshold, hthreshold⟩ := (parseQualityThreshold_ok_iff _).mpr hthreshold
    rw [hcategory, hrole, hthreshold]
    exact ⟨_, rfl⟩

/-- **The hints they make.** -/
theorem extractHints_wellFormed {hints : RoutingHints}
    (h : extractHintsFromHeaders parts headers = .ok hints) : HintsWellFormed parts hints := by
  rw [extractHints_eq] at h
  split at h
  · cases h
  · rename_i hcategory
    split at h
    · cases h
    · rename_i hrole
      split at h
      · cases h
      · rename_i hthreshold
        cases h
        refine ⟨fun category hc => ?_, fun role hr => ?_, fun q hq => ?_, fun providers hp => ?_,
          fun model hm => ?_⟩
        · exact parseTaskCategory_mem (hcategory.trans (congrArg Except.ok hc))
        · obtain ⟨category, hmem, hlookup⟩ :=
            category_of_role (parseAgentRole_mem (hrole.trans (congrArg Except.ok hr)))
          refine ⟨category, hmem, ?_⟩
          unfold RoutingHints.derivedCategory
          dsimp only at hr ⊢
          rw [hr]
          exact hlookup
        · exact parseQualityThreshold_range (hthreshold.trans (congrArg Except.ok hq))
        · exact parseExcludedProviders_nonempty hp
        · dsimp only at hm
          split at hm
          · rename_i henabled
            obtain ⟨raw, -, hraw⟩ := Option.bind_eq_some_iff.mp hm
            unfold orNone at hraw
            split at hraw
            · cases hraw
            · rename_i hne
              cases hraw
              exact ⟨henabled, hne⟩
          · cases hm

/-! ## Identity -/

/-- The tenant the auth middleware names is one the store takes; no tenant is the anonymous one. -/
def TenantPasses (auth : AuthState) : Prop :=
  ∀ tenantId, auth.tenantId = some tenantId → tenantId ≠ "" → validTenantId tenantId = true

theorem anonymousTenantId_valid : validTenantId anonymousTenantId = true := by decide

theorem extractMemoryIdentity_ok_iff (t u : Option String) :
    (∃ identity, extractMemoryIdentity parts headers t u = .ok identity) ↔
      validTenantId (if t.getD "" = "" then anonymousTenantId else t.getD "") = true ∧
        LastPasses parts headers "x-modelmeld-memory-mode"
          (IsWord parts ["augment", "full", "off"]) := by
  unfold LastPasses
  rw [← parseMemoryMode_ok_iff]
  unfold extractMemoryIdentity
  dsimp only
  by_cases hvalid :
      validTenantId (if t.getD "" = "" then anonymousTenantId else t.getD "") = true
  · rw [if_pos hvalid]
    cases parseMemoryMode parts
        ((loweredHeaders parts.lower headers).get? "x-modelmeld-memory-mode") with
    | error e => exact ⟨fun ⟨_, h⟩ => (nomatch h), fun ⟨_, _, h⟩ => (nomatch h)⟩
    | ok mode => exact ⟨fun _ => ⟨hvalid, mode, rfl⟩, fun _ => ⟨_, rfl⟩⟩
  · rw [if_neg hvalid]
    exact ⟨fun ⟨_, h⟩ => (nomatch h), fun h => absurd h.1 hvalid⟩

theorem extractMemoryIdentity_valid {t u : Option String} {identity : MemoryIdentity}
    (h : extractMemoryIdentity parts headers t u = .ok identity) :
    validTenantId identity.tenantId = true := by
  unfold extractMemoryIdentity at h
  dsimp only at h
  generalize (if t.getD "" = "" then anonymousTenantId else t.getD "") = tenantId at h
  split at h
  · rename_i hvalid
    split at h
    · cases h
    · cases h
      exact hvalid
  · cases h

theorem identify_ok_iff (door : FrontDoor) (headers : Headers) (auth : AuthState) :
    (∃ identity, door.identify headers auth = .ok identity) ↔
      TenantPasses auth ∧ LastPasses door.parts headers "x-modelmeld-memory-mode"
        (IsWord door.parts ["augment", "full", "off"]) := by
  have hextract : (∃ identity, door.identify headers auth = .ok identity) ↔
      ∃ identity, extractMemoryIdentity door.parts headers ((authIdentity auth).map Prod.fst)
        ((authIdentity auth).bind Prod.snd) = .ok identity := by
    unfold FrontDoor.identify
    dsimp only
    cases extractMemoryIdentity door.parts headers ((authIdentity auth).map Prod.fst)
        ((authIdentity auth).bind Prod.snd) with
    | error e => exact ⟨fun ⟨_, h⟩ => (nomatch h), fun ⟨_, h⟩ => (nomatch h)⟩
    | ok identity => exact ⟨fun _ => ⟨_, rfl⟩, fun _ => ⟨_, rfl⟩⟩
  rw [hextract, extractMemoryIdentity_ok_iff]
  refine and_congr ?_ Iff.rfl
  unfold TenantPasses authIdentity
  cases auth.tenantId with
  | none => exact ⟨fun _ t ht => (nomatch ht), fun _ => anonymousTenantId_valid⟩
  | some t =>
    simp only [Option.map_some, Option.getD_some, Option.some.injEq, forall_eq']
    by_cases ht : t = ""
    · rw [if_pos ht]
      exact ⟨fun _ hne => absurd ht hne, fun _ => anonymousTenantId_valid⟩
    · rw [if_neg ht]
      exact ⟨fun h _ => h, fun h => h ht⟩

/-! ## Admission -/

/-- Everything a request is let in for. -/
structure PassesDoor (door : FrontDoor) (texts : PythonText) (headers : Headers) (auth : AuthState)
    (call : Call) : Prop where
  tenant : TenantPasses auth
  mode : LastPasses door.parts headers "x-modelmeld-memory-mode"
    (IsWord door.parts ["augment", "full", "off"])
  body : ∃ request, call.translated texts = .ok request
  model : ∀ models, auth.apiKeyModelAllowlist = some models → call.askedModel ∈ models
  hints : HintsPass door.parts headers
  /-- A subscription bearer is let in where the operator allows it and its adapter can be built. -/
  bearer : (classifyAuthorization door.parts.lower
      (headerValue headers "authorization")).kind = .oauthBearer →
    door.allowSubscriptionPassthrough = true ∧ (bearerAdapter door headers call).isSome = true

/-- What a request is let in with. -/
structure AdmittedWellFormed (door : FrontDoor) (headers : Headers) (admitted : Admitted) :
    Prop where
  tenant : validTenantId admitted.identity.tenantId = true
  sameTenant : admitted.inbound.tenantId = admitted.identity.tenantId
  hints : ∃ hints, admitted.inbound.hints = some hints ∧ HintsWellFormed door.parts hints
  /-- The request's own adapters are of eligible, installed providers, each with the last key for
  its provider. -/
  keys : ∀ adapters p a, admitted.inbound.byok = some adapters → adapters.get? p = some a →
    p ∈ byokEligibleProviders ∧ door.installed p = true ∧ a.name = p ∧ a.credential ≠ "" ∧
      lastKey door.parts.lower headers p = some a.credential
  passthrough : ∀ a, admitted.inbound.passthrough = some a →
    door.allowSubscriptionPassthrough = true ∧ startsWith "eyJ" a.credential = true

theorem accept_ok_iff {texts : PythonText} {allowlist : Option (List String)} {call : Call} :
    (∃ request, FrontDoor.accept texts allowlist call = .ok request) ↔
      (∃ request, call.translated texts = .ok request) ∧
        ∀ models, allowlist = some models → call.askedModel ∈ models := by
  have hallowed : Gateway.refused { allowlist := allowlist } call.askedModel = false ↔
      ∀ models, allowlist = some models → call.askedModel ∈ models := by
    unfold Gateway.refused
    cases allowlist <;> simp
  rw [← hallowed]
  unfold FrontDoor.accept
  cases call.translated texts with
  | error e => exact ⟨fun ⟨_, h⟩ => (nomatch h), fun ⟨⟨_, h⟩, _⟩ => (nomatch h)⟩
  | ok request =>
    dsimp only
    cases Gateway.refused { allowlist := allowlist } call.askedModel with
    | true => exact ⟨fun ⟨_, h⟩ => (nomatch h), fun ⟨_, h⟩ => (nomatch h)⟩
    | false => exact ⟨fun _ => ⟨⟨_, rfl⟩, rfl⟩, fun _ => ⟨_, rfl⟩⟩

theorem resolvePassthroughRouter_ok_iff {installed : String → Bool} {bearer : AuthClassification}
    {vendor : PassthroughVendor} {allow : Bool} :
    (∃ own log, resolvePassthroughRouter installed bearer vendor allow = (.ok own, log)) ↔
      (bearer.kind = .oauthBearer →
        allow = true ∧ (buildPassthroughAdapter installed bearer vendor).isSome = true) := by
  unfold resolvePassthroughRouter
  by_cases hkind : bearer.kind = .oauthBearer
  · rw [if_neg (not_not.mpr hkind)]
    cases allow with
    | false =>
      exact ⟨fun ⟨_, _, h⟩ => (nomatch h), fun h => (nomatch (h hkind).1)⟩
    | true =>
      simp only [Bool.not_true, Bool.false_eq_true, if_false, true_and]
      cases buildPassthroughAdapter installed bearer vendor with
      | none => exact ⟨fun ⟨_, _, h⟩ => (nomatch h), fun h => (nomatch h hkind)⟩
      | some a => exact ⟨fun _ _ => rfl, fun _ => ⟨_, _, rfl⟩⟩
  · rw [if_pos hkind]
    exact ⟨fun _ h => absurd h hkind, fun _ => ⟨_, _, rfl⟩⟩

/-- Keys are kept without the blanks around them. -/
theorem lastKey_ne {lower : String → String} {provider key : String}
    (h : lastKey lower headers provider = some key) : key ≠ "" := by
  unfold lastKey at h
  obtain ⟨p, hp, rfl⟩ := Option.map_eq_some_iff.mp h
  have hfound := List.find?_some hp
  simp only [Bool.and_eq_true, decide_eq_true_eq] at hfound
  exact hfound.2

theorem byokAdapter_credential {provider key : String} {a : ProviderAdapter}
    (h : byokAdapter provider key = some a) : a.credential = key := by
  unfold byokAdapter at h
  split at h
  · cases h; rfl
  · split at h
    · cases h; rfl
    · cases h

theorem admitted_keys {door : FrontDoor} {adapters : AdapterMap} {p : String} {a : ProviderAdapter}
    (hown : (door.ownAdapters (extractByokCredentials door.parts.lower headers)).1 = some adapters)
    (ha : adapters.get? p = some a) :
    p ∈ byokEligibleProviders ∧ door.installed p = true ∧ a.name = p ∧ a.credential ≠ "" ∧
      lastKey door.parts.lower headers p = some a.credential := by
  have hget := get?_ownAdapters_lastKey door headers p
  rw [hown, Option.bind_some, ha] at hget
  obtain ⟨key, hkey, hkeyed⟩ := Option.bind_eq_some_iff.mp hget.symm
  have heligible : p ∈ byokEligibleProviders := by
    by_contra hnot
    rw [keyedAdapter_of_not_eligible hnot] at hkeyed
    cases hkeyed
  unfold keyedAdapter at hkeyed
  split at hkeyed
  · rename_i hinstalled
    have hcredential := byokAdapter_credential hkeyed
    exact ⟨heligible, hinstalled, byokAdapter_name hkeyed, hcredential ▸ lastKey_ne hkey,
      hcredential ▸ hkey⟩
  · cases hkeyed

theorem tokenKind_oauthBearer {token : String} (h : tokenKind token = .oauthBearer) :
    startsWith "eyJ" token = true := by
  unfold tokenKind at h
  split at h
  · cases h
  · split at h
    · cases h
    · split at h
      · cases h
      · split at h
        · rename_i hbearer
          exact hbearer
        · cases h

/-- The adapter of a subscription bearer holds the bearer. -/
theorem bearerAdapter_token {door : FrontDoor} {call : Call} {a : ProviderAdapter}
    (h : bearerAdapter door headers call = some a) :
    (classifyAuthorization door.parts.lower (headerValue headers "authorization")).kind =
      .oauthBearer ∧ startsWith "eyJ" a.credential = true := by
  unfold bearerAdapter at h
  dsimp only at h
  split at h
  · rename_i hkind
    refine ⟨hkind, ?_⟩
    have htoken : a.credential =
        (classifyAuthorization door.parts.lower (headerValue headers "authorization")).token := by
      unfold buildPassthroughAdapter at h
      split at h
      · split at h
        · cases h; rfl
        · cases h
      · cases h; rfl
    rw [htoken]
    cases hvalue : headerValue headers "authorization" with
    | none => rw [hvalue] at hkind; cases hkind
    | some v =>
      rw [hvalue, classifyAuthorization_some] at hkind
      rw [classifyAuthorization_some]
      split at hkind
      · cases hkind
      · rename_i hne
        rw [if_neg hne]
        exact tokenKind_oauthBearer hkind
  · cases h

theorem resolvePassthroughRouter_allowed {installed : String → Bool} {bearer : AuthClassification}
    {vendor : PassthroughVendor} {allow : Bool} {a : ProviderAdapter} {log : List String}
    (h : resolvePassthroughRouter installed bearer vendor allow = (.ok (some a), log)) :
    allow = true := by
  unfold resolvePassthroughRouter at h
  split at h
  · cases h
  · split at h
    · cases h
    · rename_i hallow
      simpa using hallow

variable {door : FrontDoor} {texts : PythonText} {auth : AuthState} {call : Call}
  {admitted : Admitted} {log : List String}

theorem hint_ok {hints : RoutingHints} (h : door.hint headers = .ok hints) :
    extractHintsFromHeaders door.parts headers = .ok hints := by
  unfold FrontDoor.hint at h
  split at h
  · rename_i hextract
    cases h
    exact hextract
  · cases h

theorem identify_valid {identity : MemoryIdentity}
    (h : door.identify headers auth = .ok identity) : validTenantId identity.tenantId = true := by
  unfold FrontDoor.identify at h
  dsimp only at h
  split at h
  · rename_i hextract
    cases h
    exact extractMemoryIdentity_valid hextract
  · cases h

/-- What a request passes, step by step, when it is let in. -/
theorem enter_steps (h : door.enter texts headers auth call = (.ok admitted, log)) :
    (∃ identity, door.identify headers auth = .ok identity ∧ admitted.identity = identity ∧
        admitted.inbound.tenantId = identity.tenantId) ∧
      (∃ request, FrontDoor.accept texts auth.apiKeyModelAllowlist call = .ok request) ∧
      (∃ hints, door.hint headers = .ok hints ∧ admitted.inbound.hints = some hints) ∧
      ∃ log', resolvePassthroughRouter door.installed
          (classifyAuthorization door.parts.lower (headerValue headers "authorization"))
          call.vendor door.allowSubscriptionPassthrough =
        (.ok admitted.inbound.passthrough, log') := by
  unfold FrontDoor.enter at h
  cases hidentify : door.identify headers auth with
  | error e => rw [hidentify] at h; cases h
  | ok identity =>
    cases haccept : FrontDoor.accept texts auth.apiKeyModelAllowlist call with
    | error e => rw [hidentify, haccept] at h; cases h
    | ok request =>
      cases hhint : door.hint headers with
      | error e => rw [hidentify, haccept, hhint] at h; cases h
      | ok hints =>
        rw [hidentify, haccept, hhint] at h
        dsimp only at h
        split at h
        · cases h
        · rename_i hresolve
          cases h
          exact ⟨⟨identity, rfl, rfl, rfl⟩, ⟨request, rfl⟩, ⟨hints, rfl, rfl⟩, _, hresolve⟩

theorem admitted_wellFormed (h : door.enter texts headers auth call = (.ok admitted, log)) :
    AdmittedWellFormed door headers admitted := by
  obtain ⟨⟨identity, hidentify, hidentity, htenant⟩, -, ⟨hints, hhint, hhints⟩, log', hresolve⟩ :=
    enter_steps h
  obtain ⟨hbyok, hpassthrough⟩ := enter_ok h
  subst hidentity
  refine ⟨identify_valid hidentify, htenant,
    ⟨hints, hhints, extractHints_wellFormed (hint_ok hhint)⟩, fun adapters p a hadapters ha => ?_,
    fun a ha => ?_⟩
  · exact admitted_keys (hbyok.symm.trans hadapters) ha
  · rw [ha] at hresolve
    exact ⟨resolvePassthroughRouter_allowed hresolve,
      (bearerAdapter_token (hpassthrough.symm.trans ha)).2⟩

theorem hint_ok_iff :
    (∃ hints, door.hint headers = .ok hints) ↔ HintsPass door.parts headers := by
  rw [← extractHints_ok_iff]
  unfold FrontDoor.hint
  cases extractHintsFromHeaders door.parts headers with
  | error e => exact ⟨fun ⟨_, h⟩ => (nomatch h), fun ⟨_, h⟩ => (nomatch h)⟩
  | ok hints => exact ⟨fun _ => ⟨_, rfl⟩, fun _ => ⟨_, rfl⟩⟩

/-- A bearer passes as its adapter can be built. -/
theorem bearer_passes_iff :
    (∃ own log, resolvePassthroughRouter door.installed
        (classifyAuthorization door.parts.lower (headerValue headers "authorization"))
        call.vendor door.allowSubscriptionPassthrough = (.ok own, log)) ↔
      ((classifyAuthorization door.parts.lower
          (headerValue headers "authorization")).kind = .oauthBearer →
        door.allowSubscriptionPassthrough = true ∧
          (bearerAdapter door headers call).isSome = true) := by
  rw [resolvePassthroughRouter_ok_iff]
  refine forall_congr' fun hkind => ?_
  unfold bearerAdapter
  dsimp only
  rw [if_pos hkind]

/-- **Which requests the front door lets in, and with what.** -/
theorem front_door_law (door : FrontDoor) (texts : PythonText) (headers : Headers) (auth : AuthState)
    (call : Call) :
    ((∃ admitted log, door.enter texts headers auth call = (.ok admitted, log)) ↔
        PassesDoor door texts headers auth call) ∧
      ∀ admitted log, door.enter texts headers auth call = (.ok admitted, log) →
        AdmittedWellFormed door headers admitted := by
  refine ⟨⟨?_, ?_⟩, fun admitted log h => admitted_wellFormed h⟩
  · rintro ⟨admitted, log, h⟩
    obtain ⟨⟨identity, hidentify, -⟩, haccept, ⟨hints, hhint, -⟩, log', hresolve⟩ := enter_steps h
    obtain ⟨htenant, hmode⟩ := (identify_ok_iff door headers auth).mp ⟨_, hidentify⟩
    obtain ⟨hbody, hmodel⟩ := accept_ok_iff.mp haccept
    exact ⟨htenant, hmode, hbody, hmodel, hint_ok_iff.mp ⟨_, hhint⟩,
      bearer_passes_iff.mp ⟨_, _, hresolve⟩⟩
  · rintro ⟨htenant, hmode, hbody, hmodel, hhints, hbearer⟩
    obtain ⟨identity, hidentify⟩ := (identify_ok_iff door headers auth).mpr ⟨htenant, hmode⟩
    obtain ⟨request, haccept⟩ := accept_ok_iff.mpr ⟨hbody, hmodel⟩
    obtain ⟨hints, hhint⟩ := hint_ok_iff.mpr hhints
    obtain ⟨own, log, hresolve⟩ := bearer_passes_iff.mpr hbearer
    unfold FrontDoor.enter
    rw [hidentify, haccept, hhint]
    dsimp only
    rw [hresolve]
    exact ⟨_, _, rfl⟩

end ModelMeld
