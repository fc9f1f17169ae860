import ModelMeld.Proof.KeyCustody

/-!
# Requests the front door lets in

* `handleAdmitted_served`: from its routing on, an admitted request is a call of the handler;
* `front_door_refines`: a run of requests is a run of the handlers over those that are let in, and
  the others are refused and change nothing.
-/

namespace ModelMeld

/-! ## What is let in -/

/-- The call a request comes to, when the front door lets it in. -/
def FrontDoor.event {ε : Type} (door : FrontDoor) (texts : PythonText) (a : Arrival ε) :
    Option (GatewayEvent ε) :=
  match (door.enter texts a.headers a.auth a.call).1 with
  | .error _ => none
  | .ok admitted => some
    { inbound := admitted.inbound
      outside := { a.outside with memory := a.retrieve admitted.identity }
      call := a.call }

theorem accept_ok {texts : PythonText} {allowlist : Option (List String)} {call : Call}
    {request : ChatCompletionRequest}
    (h : FrontDoor.accept texts allowlist call = .ok request) :
    call.translated texts = .ok request ∧
      Gateway.refused { allowlist := allowlist } call.askedModel = false := by
  unfold FrontDoor.accept at h
  cases ht : call.translated texts with
  | error e => rw [ht] at h; cases h
  | ok request' =>
    rw [ht] at h
    dsimp only at h
    split at h
    · cases h
    · rename_i hallowed
      cases h
      exact ⟨rfl, Bool.eq_false_of_not_eq_true hallowed⟩

/-- The rest of what a request is admitted with. -/
theorem enter_accepts {door : FrontDoor} {texts : PythonText} {headers : Headers} {auth : AuthState}
    {call : Call} {admitted : Admitted} {log : List String}
    (h : door.enter texts headers auth call = (.ok admitted, log)) :
    call.translated texts = .ok admitted.request ∧
      Gateway.refused admitted.inbound call.askedModel = false ∧
      admitted.creds = extractByokCredentials door.parts.lower headers := by
  unfold FrontDoor.enter at h
  cases hidentify : door.identify headers auth with
  | error e => rw [hidentify] at h; cases h
  | ok identity =>
    cases haccept : FrontDoor.accept texts auth.apiKeyModelAllowlist call with
    | error e => rw [hidentify, haccept] at h; cases h
    | ok request =>
      obtain ⟨htranslated, hallowed⟩ := accept_ok haccept
      cases hhint : door.hint headers with
      | error e => rw [hidentify, haccept, hhint] at h; cases h
      | ok hints =>
        rw [hidentify, haccept, hhint] at h
        dsimp only at h
        split at h
        · cases h
        · cases h
          exact ⟨htranslated, hallowed, rfl⟩

/-! ## Calls of the handlers -/

section

variable {σ ε D : Type} [DecidableEq D] {g : Gateway σ ε D} {st : GatewayState σ D}
  {inbound : Inbound} {outside : Outside ε}

/-- What a handler answers a request that translates and is allowed, and that no adapter is found
for. -/
theorem handle_unrouted {call : Call} {request : ChatCompletionRequest} {e : RouterError} {s : σ}
    (htranslated : call.translated g.texts = .ok request)
    (hallowed : Gateway.refused inbound call.askedModel = false)
    (hroute : (g.activeRouter inbound).route st.router outside.routing request inbound.hints
      inbound.byok = (.error e, s)) :
    g.handle st inbound outside call =
      { reply := .error (routerHttpError g.safeErrorDetail e
          ((inbound.byok.map AdapterMap.keys).getD ∅))
        state := { st with router := s } } := by
  have hrequest : g.routeRequest st inbound outside request =
      (.error (routerHttpError g.safeErrorDetail e ((inbound.byok.map AdapterMap.keys).getD ∅)),
        { st with router := s }) := by
    unfold Gateway.routeRequest
    rw [hroute]
  cases call with
  | chat request' =>
    cases htranslated
    unfold Gateway.handle Gateway.chatCompletions
    have hallowed : Gateway.refused inbound request.model = false := hallowed
    simp only [hallowed, Bool.false_eq_true, if_false, hrequest]
  | messages body =>
    have hallowed : Gateway.refused inbound body.model = false := hallowed
    unfold Call.translated at htranslated
    dsimp only at htranslated
    unfold Gateway.handle Gateway.anthropicMessages
    dsimp only
    cases ht : fromAnthropicRequest g.texts body.toAnthropicMessagesRequest with
    | error e => rw [ht] at htranslated; cases htranslated
    | ok request' =>
      rw [ht] at htranslated
      cases htranslated
      simp only [hallowed, Bool.false_eq_true, if_false, hrequest]
  | responses stream request' =>
    cases htranslated
    unfold Gateway.handle Gateway.responses
    have hallowed : Gateway.refused inbound request.model = false := hallowed
    simp only [hallowed, Bool.false_eq_true, if_false, hrequest]

/-! ### Keys whose package is missing -/

/-- A key was sent whose adapter cannot be built. -/
def KeyUnusable (door : FrontDoor) (headers : Headers) : Prop :=
  ∃ provider ∈ (extractByokCredentials door.parts.lower headers).keys,
    door.installed provider = false

/-- Only keys of eligible providers are kept. -/
theorem keys_extractByokCredentials {lower : String → String} (headers : Headers) :
    ∀ provider ∈ (extractByokCredentials lower headers).keys, provider ∈ byokEligibleProviders := by
  unfold extractByokCredentials
  induction headers using List.reverseRecOn with
  | nil => intro provider hp; cases hp
  | append_singleton headers h ih =>
    intro provider hp
    rw [List.foldl_append, List.foldl_cons, List.foldl_nil] at hp
    unfold ByokCredentials.read at hp
    dsimp only at hp
    split at hp
    · split at hp
      · rename_i hread
        rw [OrderedDict.mem_keys_iff, OrderedDict.get?_insert] at hp
        by_cases heq : provider = strip (textFrom byokHeaderPrefix.length (lower h.1))
        · rw [heq]; exact hread.1
        · rw [if_neg heq, ← OrderedDict.mem_keys_iff] at hp
          exact ih provider hp
      · exact ih provider hp
    · exact ih provider hp

theorem byokAdapter_isSome {provider : String} (h : provider ∈ byokEligibleProviders)
    (key : String) : (byokAdapter provider key).isSome = true := by
  have hcases : provider = "anthropic" ∨ provider = "openai" := by
    unfold byokEligibleProviders at h
    simpa using h
  unfold byokAdapter
  rcases hcases with rfl | rfl
  · rw [if_pos rfl]; rfl
  · rw [if_neg (by decide), if_pos rfl]; rfl

/-- When every key can be used, the adapters are of the providers the keys are for. -/
theorem suppliedKeys_eq {door : FrontDoor} {headers : Headers} (h : ¬ KeyUnusable door headers) :
    (((door.ownAdapters (extractByokCredentials door.parts.lower headers)).1.map
        AdapterMap.keys).getD ∅) =
      (extractByokCredentials door.parts.lower headers).providers := by
  set creds := extractByokCredentials door.parts.lower headers with hcreds
  have hkeys : ∀ provider ∈ creds.keys, provider ∈ byokEligibleProviders ∧
      door.installed provider = true := by
    intro provider hp
    refine ⟨keys_extractByokCredentials headers provider hp, ?_⟩
    by_contra hnot
    exact h ⟨provider, hp, Bool.eq_false_of_not_eq_true hnot⟩
  ext provider
  have hget := get?_ownAdapters door creds provider
  have hmem : provider ∈ ((door.ownAdapters creds).1.map AdapterMap.keys).getD ∅ ↔
      (((door.ownAdapters creds).1.bind (fun m => m.get? provider)).isSome = true) := by
    cases (door.ownAdapters creds).1 with
    | none => simp
    | some m => exact AdapterMap.mem_keys_iff
  unfold ByokCredentials.providers
  rw [hmem, hget, List.mem_toFinset, OrderedDict.mem_keys_iff]
  cases hc : creds.get? provider with
  | none => simp
  | some key =>
    have hp : provider ∈ creds.keys := by rw [OrderedDict.mem_keys_iff, hc]; rfl
    obtain ⟨heligible, hinstalled⟩ := hkeys provider hp
    unfold keyedAdapter
    simp [hinstalled, byokAdapter_isSome heligible]

/-- What a request is answered with, beside what the handler answers: the same, or another error
when no adapter is found and a key of the request is unusable. -/
def ServedAs (door : FrontDoor) (headers : Headers) (h h' : Handled σ D) : Prop :=
  h = h' ∨ (KeyUnusable door headers ∧ h'.dispatches = [] ∧
    ∃ e e', h'.reply = .error e' ∧ h = { h' with reply := .error e })

/-- **From its routing on, an admitted request is a call of the handler.** -/
theorem handleAdmitted_served {door : FrontDoor} {headers : Headers} {auth : AuthState}
    {call : Call} {admitted : Admitted} {log : List String}
    (h : door.enter g.texts headers auth call = (.ok admitted, log)) :
    ServedAs door headers (g.handleAdmitted st admitted outside call)
      (g.handle st admitted.inbound outside call) := by
  obtain ⟨htranslated, hallowed, hcreds⟩ := enter_accepts h
  obtain ⟨hbyok, -⟩ := enter_ok h
  unfold Gateway.handleAdmitted
  rcases hroute : (g.activeRouter admitted.inbound).route st.router outside.routing
      admitted.request admitted.inbound.hints admitted.inbound.byok with ⟨e | d, s⟩
  · have hhandle := handle_unrouted htranslated hallowed hroute
    dsimp only
    rw [hhandle]
    by_cases hunusable : KeyUnusable door headers
    · exact Or.inr ⟨hunusable, rfl, _, _, rfl, rfl⟩
    · left
      rw [hbyok, hcreds, suppliedKeys_eq hunusable]
  · exact Or.inl rfl

end

/-! ## Runs -/

section

variable {σ ε D : Type} [DecidableEq D] (g : Gateway σ ε D) (door : FrontDoor)

/-- A request that is refused at the door, or served as the handlers serve its call. -/
def Welcomed (st : GatewayState σ D) (a : Arrival ε) (v : Visit σ D) : Prop :=
  match door.event g.texts a with
  | none => ∃ e, v.handled = { reply := .error e, state := st }
  | some ev => ServedAs door a.headers v.handled (g.handle st ev.inbound ev.outside ev.call)

variable {g door}

theorem receive_welcomed (st : GatewayState σ D) (a : Arrival ε) :
    Welcomed g door st a (g.receive door st a) := by
  unfold Welcomed FrontDoor.event Gateway.receive
  rcases henter : door.enter g.texts a.headers a.auth a.call with ⟨e | admitted, log⟩
  · exact ⟨e, rfl⟩
  · exact handleAdmitted_served henter

theorem state_of_welcomed {st : GatewayState σ D} {a : Arrival ε} {v : Visit σ D}
    (h : Welcomed g door st a v) (handled : List (Handled σ D)) :
    v.handled.state =
      (Runs.run g.serve ⟨st, handled⟩ (door.event g.texts a).toList).state := by
  unfold Welcomed at h
  cases hev : door.event g.texts a with
  | none =>
    rw [hev] at h
    obtain ⟨e, he⟩ := h
    rw [he]
    rfl
  | some ev =>
    rw [hev] at h
    rcases h with he | ⟨-, -, e, e', -, he⟩
    · rw [he]; rfl
    · rw [he]; rfl

variable (g door)

/-- The states of a run of requests are those of the run of the calls that are let in. -/
theorem welcome_state (st : GatewayState σ D) (arrivals : List (Arrival ε)) :
    (Runs.run (g.welcome door) { state := st } arrivals).state =
      (Runs.run g.serve ⟨st, []⟩ (arrivals.filterMap (door.event g.texts))).state := by
  induction arrivals using List.reverseRecOn with
  | nil => rfl
  | append_singleton arrivals a ih =>
    rw [List.filterMap_append, Runs.run_append, Runs.run_append]
    have hwelcomed : Welcomed g door _ a _ :=
      receive_welcomed (Runs.run (g.welcome door) { state := st } arrivals).state a
    have hstate := state_of_welcomed hwelcomed
      (Runs.run g.serve ⟨st, []⟩ (arrivals.filterMap (door.event g.texts))).handled
    rw [ih] at hstate
    have hsingle : [a].filterMap (door.event g.texts) = (door.event g.texts a).toList := by
      rw [List.filterMap_cons, List.filterMap_nil]
      cases door.event g.texts a <;> rfl
    have hlast : (Runs.run (g.welcome door) (Runs.run (g.welcome door) { state := st } arrivals)
        [a]).state =
        (g.receive door (Runs.run (g.welcome door) { state := st } arrivals).state a).handled.state :=
      rfl
    rw [hsingle, hlast, ih]
    exact hstate

/-- What was received stays on record. -/
theorem received_prefix : ∀ (arrivals : List (Arrival ε)) (t : DoorTrace σ D),
    t.received <+: (Runs.run (g.welcome door) t arrivals).received := by
  intro arrivals
  induction arrivals with
  | nil => intro t; exact List.prefix_refl _
  | cons a arrivals ih =>
    intro t
    have hfirst : t.received <+: (g.welcome door t a).received := List.prefix_append _ _
    exact hfirst.trans (ih _)

theorem received_length : ∀ (arrivals : List (Arrival ε)) (t : DoorTrace σ D),
    (Runs.run (g.welcome door) t arrivals).received.length =
      t.received.length + arrivals.length := by
  intro arrivals
  induction arrivals with
  | nil => intro t; rfl
  | cons a arrivals ih =>
    intro t
    rw [Runs.run_cons, ih, List.length_cons]
    unfold Gateway.welcome
    rw [List.length_append, List.length_singleton]
    omega

/-- **The front door refines the handlers.** In any run of requests, each is refused and leaves the
state as it was, or is served as the handler serves its call in the state the calls let in before it
have led to; only the error may be another, where no adapter is found and one of its own keys is
for a provider whose package is missing. -/
theorem front_door_refines (st : GatewayState σ D) (before : List (Arrival ε)) (a : Arrival ε)
    (after : List (Arrival ε)) :
    ∃ v, (Runs.run (g.welcome door) { state := st } (before ++ a :: after)).received[before.length]? =
        some v ∧
      Welcomed g door
        (Runs.run g.serve ⟨st, []⟩ (before.filterMap (door.event g.texts))).state a v := by
  have hlength := received_length g door before { state := st }
  have hstart := received_prefix g door after
    (Runs.run (g.welcome door) { state := st } (before ++ [a]))
  have happend : before ++ a :: after = (before ++ [a]) ++ after := by simp
  have hlast : (Runs.run (g.welcome door) { state := st } (before ++ [a])).received =
      (Runs.run (g.welcome door) { state := st } before).received ++
        [g.receive door (Runs.run (g.welcome door) { state := st } before).state a] := by
    rw [Runs.run_append]
    rfl
  refine ⟨g.receive door (Runs.run (g.welcome door) { state := st } before).state a, ?_, ?_⟩
  · rw [happend, Runs.run_append]
    have hindex : before.length <
        (Runs.run (g.welcome door) { state := st } (before ++ [a])).received.length := by
      rw [hlast, List.length_append, hlength]
      simp
    rw [List.getElem?_eq_getElem (hindex.trans_le hstart.length_le), ← hstart.getElem hindex]
    simp only [hlast]
    rw [List.getElem_append_right (by rw [hlength]; simp)]
    simp [hlength]
  · rw [← welcome_state]
    exact receive_welcomed _ a

end

end ModelMeld
