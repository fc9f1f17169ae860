import ModelMeld.Proof.HeaderSecrets
import ModelMeld.Proof.Router
import ModelMeld.Proof.Scrubbing

/-!
# Whose key a request is dispatched with

* `get?_extractByokCredentials`: the key kept for a provider is the last that is not blank;
* `get?_ownAdapters`: the adapters built from the keys;
* `keys_stay_with_their_request`: in any run, a request is dispatched with its own bearer when it
  has one, else with its own key for the provider when it brought one, else with an operator's
  adapter; and it fails over to an operator's adapter only.
-/

namespace ModelMeld

/-! ## Keys -/

/-- The provider whose key a header of this name holds. -/
def keyProvider (lower : String → String) (name : String) : Option String :=
  if startsWith byokHeaderPrefix (lower name) then
    some (strip (textFrom byokHeaderPrefix.length (lower name)))
  else none

/-- The last key for a provider that is not blank. -/
def lastKey (lower : String → String) (headers : Headers) (provider : String) : Option String :=
  (headers.reverse.find? (fun h =>
    decide (keyProvider lower h.1 = some provider) && decide (strip h.2 ≠ ""))).map
      (fun h => strip h.2)

variable {lower : String → String}

theorem get?_read (creds : ByokCredentials) (h : String × String) {provider : String}
    (heligible : provider ∈ byokEligibleProviders) :
    (creds.read lower h).get? provider =
      if keyProvider lower h.1 = some provider ∧ strip h.2 ≠ "" then some (strip h.2)
      else creds.get? provider := by
  unfold ByokCredentials.read keyProvider
  by_cases hkey : startsWith byokHeaderPrefix (lower h.1) = true
  · rw [if_pos hkey, if_pos hkey]
    simp only [Option.some.injEq]
    by_cases hread : strip (textFrom byokHeaderPrefix.length (lower h.1)) ∈ byokEligibleProviders ∧
        strip h.2 ≠ ""
    · rw [if_pos hread, OrderedDict.get?_insert]
      by_cases hp : provider = strip (textFrom byokHeaderPrefix.length (lower h.1))
      · rw [if_pos hp, if_pos ⟨hp.symm, hread.2⟩]
      · rw [if_neg hp, if_neg (fun hq => hp hq.1.symm)]
    · rw [if_neg hread, if_neg]
      rintro ⟨hp, hblank⟩
      exact hread ⟨hp ▸ heligible, hblank⟩
  · rw [if_neg hkey, if_neg hkey, if_neg]
    rintro ⟨hp, -⟩
    cases hp

/-- **The key kept for an eligible provider is the last that is not blank.** -/
theorem get?_extractByokCredentials (headers : Headers) {provider : String}
    (heligible : provider ∈ byokEligibleProviders) :
    (extractByokCredentials lower headers).get? provider = lastKey lower headers provider := by
  unfold extractByokCredentials lastKey
  induction headers using List.reverseRecOn with
  | nil => rfl
  | append_singleton headers h ih =>
    rw [List.foldl_append, List.foldl_cons, List.foldl_nil, get?_read _ _ heligible, ih,
      List.reverse_append, List.reverse_singleton, List.singleton_append, List.find?_cons]
    by_cases hread : keyProvider lower h.1 = some provider ∧ strip h.2 ≠ ""
    · rw [if_pos hread]
      simp [hread.1, hread.2]
    · rw [if_neg hread]
      have hfalse : (decide (keyProvider lower h.1 = some provider) &&
          decide (strip h.2 ≠ "")) = false := by
        rw [← Bool.decide_and, decide_eq_false_iff_not]
        exact hread
      rw [hfalse]

/-! ## Adapters -/

theorem byokAdapter_name {provider key : String} {a : ProviderAdapter}
    (h : byokAdapter provider key = some a) : a.name = provider := by
  unfold byokAdapter at h
  split at h
  · rename_i hp
    cases h
    exact hp.symm
  · split at h
    · rename_i hp
      cases h
      exact hp.symm
    · cases h

/-- The adapter of a key, when its package is installed. -/
def keyedAdapter (installed : String → Bool) (provider key : String) : Option ProviderAdapter :=
  if installed provider then byokAdapter provider key else none

variable {installed : String → Bool}

theorem get?_buildByokAdapter (built : AdapterMap × List String) (provider key p : String) :
    (buildByokAdapter installed built (provider, key)).1.get? p =
      if p = provider then (keyedAdapter installed provider key).or (built.1.get? p)
      else built.1.get? p := by
  unfold buildByokAdapter keyedAdapter
  dsimp only
  cases ha : byokAdapter provider key with
  | none => simp
  | some a =>
    dsimp only
    by_cases hi : installed provider = true
    · rw [if_pos hi, if_pos hi, AdapterMap.get?_add, byokAdapter_name ha]
      rfl
    · rw [if_neg hi, if_neg hi]
      simp

theorem get?_built : ∀ (es : List (String × String)) (built : AdapterMap × List String) (p : String),
    (es.map Prod.fst).Nodup →
    (es.foldl (buildByokAdapter installed) built).1.get? p =
      ((es.lookup p).bind (keyedAdapter installed p)).or (built.1.get? p) := by
  intro es
  induction es with
  | nil => intro built p _; rfl
  | cons e es ih =>
    intro built p hnodup
    obtain ⟨provider, key⟩ := e
    obtain ⟨hnew, hnodup⟩ := List.nodup_cons.mp hnodup
    rw [List.foldl_cons, ih _ p hnodup, get?_buildByokAdapter, List.lookup_cons]
    by_cases hp : p = provider
    · subst hp
      have hnone : es.lookup p = none := by
        by_contra hsome
        obtain ⟨v, hv⟩ := Option.ne_none_iff_exists'.mp hsome
        exact hnew (List.mem_map.mpr ⟨(p, v), OrderedDict.mem_of_lookup hv, rfl⟩)
      rw [hnone, if_pos rfl, beq_self_eq_true]
      rfl
    · rw [if_neg hp, beq_eq_false_iff_ne.mpr hp]

/-- **The adapter of each key that is kept.** -/
theorem get?_ownAdapters (door : FrontDoor) (creds : ByokCredentials) (p : String) :
    (door.ownAdapters creds).1.bind (fun m => m.get? p) =
      (creds.get? p).bind (keyedAdapter door.installed p) := by
  have hbuilt : (if creds.isEmpty then (AdapterMap.empty, []) else
      buildByokAdapters door.installed creds).1.get? p =
      (creds.get? p).bind (keyedAdapter door.installed p) := by
    by_cases hempty : creds.isEmpty = true
    · have hentries : creds.entries = [] := List.isEmpty_iff.mp hempty
      rw [if_pos hempty]
      unfold OrderedDict.get?
      rw [hentries]
      rfl
    · rw [if_neg hempty]
      unfold buildByokAdapters
      rw [get?_built _ _ _ creds.nodup]
      exact Option.or_none
  unfold FrontDoor.ownAdapters
  rw [← hbuilt]
  generalize (if creds.isEmpty then (AdapterMap.empty, []) else
    buildByokAdapters door.installed creds) = built
  dsimp only
  by_cases hkeys : built.1.keys = ∅
  · rw [if_pos hkeys]
    cases ha : built.1.get? p with
    | none => rfl
    | some a =>
      have hmem : p ∈ built.1.keys := AdapterMap.mem_keys_iff.mpr (by rw [ha]; rfl)
      rw [hkeys] at hmem
      cases hmem
  · rw [if_neg hkeys]
    rfl

/-! ## Whose adapter -/

/-- An adapter the operator started the app with. -/
def PersistentRouter.Holds : PersistentRouter → ProviderAdapter → Prop
  | .single b, a => a = b
  | .tiered r, a => ∃ tier, r.adapters tier = some a
  | .capability r, a => r.adaptersByProvider.get? a.name = some a

/-- The adapter of a request's bearer, when it is of a subscription. -/
def bearerAdapter (door : FrontDoor) (headers : Headers) (call : Call) : Option ProviderAdapter :=
  let bearer := classifyAuthorization door.parts.lower (headerValue headers "authorization")
  if bearer.kind = .oauthBearer then buildPassthroughAdapter door.installed bearer call.vendor
  else none

/-- The adapter of a request's own key for a provider; only the capability router takes keys. -/
def keyAdapter (door : FrontDoor) (p : PersistentRouter) (headers : Headers) (provider : String) :
    Option ProviderAdapter :=
  match p with
  | .capability _ => (lastKey door.parts.lower headers provider).bind
      (keyedAdapter door.installed provider)
  | _ => none

theorem keyedAdapter_of_not_eligible {provider : String} (h : provider ∉ byokEligibleProviders)
    (key : String) : keyedAdapter installed provider key = none := by
  have hne : provider ≠ "anthropic" ∧ provider ≠ "openai" := by
    constructor
    · rintro rfl; exact h (by decide)
    · rintro rfl; exact h (by decide)
  unfold keyedAdapter byokAdapter
  rw [if_neg hne.1, if_neg hne.2]
  split <;> rfl

/-- The adapters a request brings are those of its last keys. -/
theorem get?_ownAdapters_lastKey (door : FrontDoor) (headers : Headers) (provider : String) :
    (door.ownAdapters (extractByokCredentials door.parts.lower headers)).1.bind
        (fun m => m.get? provider) =
      (lastKey door.parts.lower headers provider).bind (keyedAdapter door.installed provider) := by
  rw [get?_ownAdapters]
  by_cases heligible : provider ∈ byokEligibleProviders
  · rw [get?_extractByokCredentials _ heligible]
  · have hnone : ∀ o : Option String, o.bind (keyedAdapter door.installed provider) = none := by
      intro o
      cases o with
      | none => rfl
      | some key => exact keyedAdapter_of_not_eligible heligible key
    rw [hnone, hnone]

/-! ## Routes -/

theorem CapabilityRouter.resolveOrFail_adapter {r : CapabilityRouter} {cap : CapabilityDecision}
    {failoverFrom : Option String} {extra : Option AdapterMap} {rd : Readings} {cache : HealthCache}
    {d : RoutingDecision} (h : (r.resolveOrFail cap failoverFrom extra rd cache).1 = .ok d) :
    r.getAdapter d.adapter.name extra = some d.adapter := by
  have hget : ∃ provider, r.getAdapter provider extra = some d.adapter := by
    rcases resolveOrFail_ok h with ⟨a, ha, rfl⟩ | ⟨_, _, stop, -, hwalk, rfl⟩
    · exact ⟨_, (tryPrimary_ok ha).2⟩
    · obtain ⟨-, -, -, hstop⟩ := walkFallbacks_ok _ _ _ _ hwalk
      exact ⟨_, hstop⟩
  obtain ⟨provider, hprovider⟩ := hget
  rw [getAdapter_name hprovider]
  exact hprovider

theorem TieredRouter.walkTiers_adapter {r : TieredRouter} {rd : TierReadings} {preferred : Tier}
    {scout : Option ScoutDecision} {d : RoutingDecision} : ∀ (tiers : List Tier)
    (skipped : List String) (h : TierHealth),
    (r.walkTiers rd preferred scout tiers skipped h).1 = .ok d →
      ∃ tier, r.adapters tier = some d.adapter := by
  intro tiers
  induction tiers with
  | nil => intro skipped h hd; cases hd
  | cons tier rest ih =>
    intro skipped h hd
    unfold walkTiers at hd
    cases ha : r.adapters tier with
    | none =>
      rw [ha] at hd
      exact ih _ _ hd
    | some a =>
      rw [ha] at hd
      dsimp only at hd
      split at hd
      · cases hd
        exact ⟨tier, ha⟩
      · exact ih _ _ hd

namespace PersistentRouter

variable {p : PersistentRouter} {s : RouterHealth} {e : RouterReadings} {d : RoutingDecision}

/-- The adapter of the request's own that shadows the persistent one. -/
def shadowing (p : PersistentRouter) (extra : Option AdapterMap) (provider : String) :
    Option ProviderAdapter :=
  match p with
  | .capability _ => extra.bind (fun m => m.get? provider)
  | _ => none

/-- A request is routed to its own adapter for the provider when it has one, else to a persistent
one. -/
theorem route_adapter {request : ChatCompletionRequest} {hints : Option RoutingHints}
    {extra : Option AdapterMap} (h : (p.toRouter.route s e request hints extra).1 = .ok d) :
    (∀ own, p.shadowing extra d.adapter.name = some own → d.adapter = own) ∧
      (p.shadowing extra d.adapter.name = none → p.Holds d.adapter) := by
  cases p with
  | single a =>
    cases h
    exact ⟨fun own hown => (nomatch hown), fun _ => rfl⟩
  | tiered r =>
    have hwalk := TieredRouter.walkTiers_adapter _ _ _ h
    exact ⟨fun own hown => (nomatch hown), fun _ => hwalk⟩
  | capability r =>
    obtain ⟨cap, -, hcap⟩ := CapabilityRouter.route_ok h
    have hget := CapabilityRouter.resolveOrFail_adapter hcap
    unfold CapabilityRouter.getAdapter at hget
    constructor
    · intro own hown
      have hown : extra.bind (fun m => m.get? d.adapter.name) = some own := hown
      rw [hown] at hget
      exact (Option.some.inj hget).symm
    · intro hown
      have hown : extra.bind (fun m => m.get? d.adapter.name) = none := hown
      rw [hown] at hget
      exact hget

/-- A request fails over to a persistent adapter. -/
theorem fallback_adapter {failed fallback : RoutingDecision} {outgoing : ChatCompletionRequest}
    {error : AdapterError}
    (h : (p.toRouter.fallback s e failed outgoing error).1 = some fallback) :
    p.Holds fallback.adapter := by
  cases p with
  | single a => cases h
  | tiered r =>
    have h : (r.routeAfterFailure s.tiers e.tiers failed outgoing (some error)).1 =
      some fallback := h
    unfold TieredRouter.routeAfterFailure at h
    dsimp only at h
    split at h
    · cases h
    · split at h
      · cases h
      · rename_i adapter ha
        split at h
        · unfold TieredRouter.fallbackTo at h
          split at h
          · cases h
            exact ⟨_, ha⟩
          · cases h
        · cases h
  | capability r =>
    obtain ⟨-, cap, -, hcap⟩ := CapabilityRouter.routeAfterFailure_some h
    exact CapabilityRouter.resolveOrFail_adapter hcap

end PersistentRouter

/-! ## Custody -/

/-- The dispatches of a request are made with whose adapter. -/
structure InCustody (door : FrontDoor) (p : PersistentRouter) (headers : Headers) (call : Call)
    (dispatches : List Dispatch) : Prop where
  atMostTwo : dispatches.length ≤ 2
  /-- With a subscription bearer, the first is made with that bearer. -/
  bearer : ∀ d own, dispatches[0]? = some d → bearerAdapter door headers call = some own →
    d.adapter = own
  /-- Else with the request's last key for the provider, when it brought one. -/
  key : ∀ d own, dispatches[0]? = some d → bearerAdapter door headers call = none →
    keyAdapter door p headers d.adapter.name = some own → d.adapter = own
  /-- Else, with the operator's. -/
  operator : ∀ d, dispatches[0]? = some d → bearerAdapter door headers call = none →
    keyAdapter door p headers d.adapter.name = none → p.Holds d.adapter
  /-- A failover is made with the operator's. -/
  failover : ∀ d, dispatches[1]? = some d → p.Holds d.adapter

theorem inCustody_nil (door : FrontDoor) (p : PersistentRouter) (headers : Headers) (call : Call) :
    InCustody door p headers call [] where
  atMostTwo := by simp
  bearer _ _ h := by cases h
  key _ _ h := by cases h
  operator _ h := by cases h
  failover _ h := by cases h

theorem resolvePassthroughRouter_ok {bearer : AuthClassification} {vendor : PassthroughVendor}
    {allow : Bool} {own : Option ProviderAdapter} {log : List String}
    (h : resolvePassthroughRouter installed bearer vendor allow = (.ok own, log)) :
    own = if bearer.kind = .oauthBearer then buildPassthroughAdapter installed bearer vendor
      else none := by
  unfold resolvePassthroughRouter at h
  by_cases hkind : bearer.kind = .oauthBearer
  · rw [if_neg (not_not.mpr hkind)] at h
    rw [if_pos hkind]
    cases allow with
    | false => cases h
    | true =>
      simp only [Bool.not_true, Bool.false_eq_true, if_false] at h
      cases ha : buildPassthroughAdapter installed bearer vendor with
      | none => rw [ha] at h; cases h
      | some a => rw [ha] at h; cases h; rfl
  · rw [if_pos hkind] at h
    rw [if_neg hkind]
    cases h
    rfl

/-- What a request is admitted with: the adapters of its own keys and of its own bearer. -/
theorem enter_ok {door : FrontDoor} {texts : PythonText} {headers : Headers} {auth : AuthState}
    {call : Call} {admitted : Admitted} {log : List String}
    (h : door.enter texts headers auth call = (.ok admitted, log)) :
    admitted.inbound.byok =
        (door.ownAdapters (extractByokCredentials door.parts.lower headers)).1 ∧
      admitted.inbound.passthrough = bearerAdapter door headers call := by
  unfold FrontDoor.enter at h
  cases hidentify : door.identify headers auth with
  | error e => rw [hidentify] at h; cases h
  | ok identity =>
    cases haccept : FrontDoor.accept texts auth.apiKeyModelAllowlist call with
    | error e => rw [hidentify, haccept] at h; cases h
    | ok request =>
      cases hhint : door.hint headers with
      | error e => rw [hidentify, haccept, hhint] at h; cases h
      | ok hints =>
        rw [hidentify, haccept, hhint] at h
        dsimp only at h
        split at h
        · cases h
        · rename_i own log' hresolve
          cases h
          exact ⟨rfl, resolvePassthroughRouter_ok hresolve⟩

variable {D : Type} [DecidableEq D] {g : Gateway RouterHealth RouterReadings D}
  {p : PersistentRouter} {door : FrontDoor} {st : GatewayState RouterHealth D}

theorem handleAdmitted_dispatches (admitted : Admitted) (outside : Outside RouterReadings)
    (call : Call) : (g.handleAdmitted st admitted outside call).dispatches =
      (g.handle st admitted.inbound outside call).dispatches := by
  unfold Gateway.handleAdmitted
  dsimp only
  split <;> rfl

omit [DecidableEq D] in
/-- Whose adapter a request is routed to. -/
theorem routeRequest_adapter {inbound : Inbound} {outside : Outside RouterReadings}
    {request : ChatCompletionRequest} {primary : RoutingDecision}
    {st' : GatewayState RouterHealth D}
    (h : (g.withRouter p.toRouter).routeRequest st inbound outside request = (.ok primary, st')) :
    (∀ own, inbound.passthrough = some own → primary.adapter = own) ∧
      (inbound.passthrough = none →
        (∀ own, p.shadowing inbound.byok primary.adapter.name = some own → primary.adapter = own) ∧
          (p.shadowing inbound.byok primary.adapter.name = none → p.Holds primary.adapter)) := by
  constructor
  · intro own hown
    obtain ⟨hok, -⟩ := Gateway.routeRequest_passthrough hown h
    cases hok
    rfl
  · intro hnone
    unfold Gateway.routeRequest Gateway.activeRouter at h
    rw [hnone] at h
    dsimp only at h
    split at h
    · rename_i d s hroute
      cases h
      exact PersistentRouter.route_adapter (congrArg Prod.fst hroute)
    · cases h

/-- Dispatches that begin with the one of a decision, and that a fallback may follow. -/
theorem inCustody_of_routed {headers : Headers} {call : Call} {send : RoutingDecision → Dispatch}
    (hsend : ∀ d, (send d).adapter = d.adapter) {primary : RoutingDecision}
    {fallback : Option RoutingDecision}
    (hbearer : ∀ own, bearerAdapter door headers call = some own → primary.adapter = own)
    (hkey : bearerAdapter door headers call = none →
      (∀ own, keyAdapter door p headers primary.adapter.name = some own → primary.adapter = own) ∧
        (keyAdapter door p headers primary.adapter.name = none → p.Holds primary.adapter))
    (hfallback : ∀ d, fallback = some d → p.Holds d.adapter) :
    InCustody door p headers call (send primary :: (fallback.map send).toList) where
  atMostTwo := by cases fallback <;> simp
  bearer d own hd hown := by
    cases hd
    rw [hsend]
    exact hbearer own hown
  key d own hd hnone hown := by
    cases hd
    rw [hsend] at hown ⊢
    exact (hkey hnone).1 own hown
  operator d hd hnone hown := by
    cases hd
    rw [hsend] at hown ⊢
    exact (hkey hnone).2 hown
  failover d hd := by
    cases fallback with
    | none => cases hd
    | some fb =>
      cases hd
      rw [hsend]
      exact hfallback fb rfl

/-- The keys of one request. -/
theorem receive_custody (a : Arrival RouterReadings) :
    InCustody door p a.headers a.call
      ((g.withRouter p.toRouter).receive door st a).handled.dispatches := by
  unfold Gateway.receive
  rcases henter : door.enter (g.withRouter p.toRouter).texts a.headers a.auth a.call with
    ⟨e | admitted, log⟩
  · exact inCustody_nil door p a.headers a.call
  · obtain ⟨hbyok, hpass⟩ := enter_ok henter
    dsimp only
    rw [handleAdmitted_dispatches]
    rcases Gateway.handle_dispatches (g.withRouter p.toRouter) st admitted.inbound
        { a.outside with memory := a.retrieve admitted.identity } a.call with
      hnil | ⟨request, primary, st', -, hroute, hdispatches⟩
    · rw [hnil]
      exact inCustody_nil door p a.headers a.call
    · obtain ⟨hbearer, helse⟩ := routeRequest_adapter hroute
      have hkey : p.shadowing admitted.inbound.byok primary.adapter.name =
          keyAdapter door p a.headers primary.adapter.name := by
        rw [hbyok]
        cases p with
        | single b => rfl
        | tiered r => rfl
        | capability r => exact get?_ownAdapters_lastKey door a.headers primary.adapter.name
      rw [hpass] at hbearer helse
      rw [hkey] at helse
      rw [hdispatches]
      refine inCustody_of_routed (Gateway.sendFor_adapter a.call) hbearer helse (fun d hd => ?_)
      obtain ⟨error, herror⟩ := Gateway.fallbackFor_some hd
      exact PersistentRouter.fallback_adapter herror

/-- **Keys stay with their request.** In any run, every request is dispatched at most twice: first
with its own bearer, else with its own last key for the provider, else with an operator's adapter;
then with an operator's adapter. -/
theorem keys_stay_with_their_request (g : Gateway RouterHealth RouterReadings D)
    (p : PersistentRouter) (door : FrontDoor) (st : GatewayState RouterHealth D)
    (arrivals : List (Arrival RouterReadings)) :
    List.Forall₂ (fun a v => InCustody door p a.headers a.call v.handled.dispatches) arrivals
      (Runs.run ((g.withRouter p.toRouter).welcome door) { state := st } arrivals).received := by
  induction arrivals using List.reverseRecOn with
  | nil => exact .nil
  | append_singleton arrivals a ih =>
    rw [Runs.run_append]
    exact List.rel_append ih (.cons (receive_custody a) .nil)

end ModelMeld
