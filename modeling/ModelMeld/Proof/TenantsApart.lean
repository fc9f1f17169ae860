import ModelMeld.Proof.AdmissionLaw
import ModelMeld.Proof.HeaderSecrets
import ModelMeld.Proof.TenantViews
import ModelMeld.Proof.Tenants
import ModelMeld.Spec.HostedMemory

/-!
# Tenants that share a gateway

A gateway with its memory serves requests of any tenants, while others (the summarizer, whoever
sets facts) use its store too.

* `act_frame`: what a tenant's event does leaves the records of the others alone;
* `act_seen`: and goes by the tenant's records and what the shared state shows the tenant;
* `tenants_apart`: so over whole runs a tenant is answered, and remembered, by its own events; what
  others do reaches it by the router's state and the caches only.
-/

namespace ModelMeld

/-! ## Runs -/

/-- What happens to a gateway with its memory. -/
inductive HostedEvent (ε : Type) where
  /-- A request; what its client does with the answer; what is drawn for its recording. -/
  | request (a : Arrival ε) (f : Following) (draws : RecordDraws)
  /-- Another caller of the store. -/
  | store (call : MemoryCall) (drawn : Drawn)

/-- The tenant of an event. -/
def HostedEvent.tenant {ε : Type} : HostedEvent ε → String
  | .request a _ _ => a.auth.tenant
  | .store call _ => call.session.tenantId

/-- What an event comes to. -/
inductive HostedOutcome (σ D : Type) where
  | visit (v : Visit σ D)
  | answered (result : Except MemoryRaised MemoryValue)

/-- An event of a run, with the shared state it met and what it came to. -/
structure HostedStep (σ ε D : Type) where
  before : GatewayState σ D
  event : HostedEvent ε
  outcome : HostedOutcome σ D

structure HostedTrace (σ ε D : Type) where
  gateway : GatewayState σ D
  store : InMemoryMemoryStore := {}
  steps : List (HostedStep σ ε D) := []

/-- The steps of a tenant. -/
def HostedTrace.stepsOf {σ ε D : Type} (t : HostedTrace σ ε D) (tenantId : String) :
    List (HostedStep σ ε D) :=
  t.steps.filter (fun step => step.event.tenant = tenantId)

namespace Gateway

variable {σ ε D : Type} [DecidableEq D]

/-- Whom a request is recorded for and what is recorded of it. -/
def recording (g : Gateway σ ε D) (door : FrontDoor) (counter : Option TokenCounter)
    (st : GatewayState σ D) (a : Arrival ε) (f : Following) : Option (MemoryIdentity × Exchange) :=
  match (door.enter g.texts a.headers a.auth a.call).1 with
  | .error _ => none
  | .ok admitted =>
    (g.exchange counter st admitted.inbound
      { a.outside with memory := a.retrieve admitted.identity } f a.call).map
      (fun x => (admitted.identity, x))

/-- An event, over the shared state and the store. -/
def act (g : Gateway σ ε D) (door : FrontDoor) (counter : Option TokenCounter)
    (st : GatewayState σ D) (store : InMemoryMemoryStore) :
    HostedEvent ε → HostedOutcome σ D × InMemoryMemoryStore
  | .request a f draws =>
    let a := { a with retrieve := store.retrieve }
    (.visit (g.receive door st a),
      match g.recording door counter st a f with
      | none => store
      | some (identity, x) => store.record identity counter draws x)
  | .store call drawn =>
    let out := store.perform call drawn
    (.answered out.1, out.2)

/-- The shared state an event leaves. -/
def leaves (st : GatewayState σ D) : HostedOutcome σ D → GatewayState σ D
  | .visit v => v.handled.state
  | .answered _ => st

/-- One event of a run. -/
def host (g : Gateway σ ε D) (door : FrontDoor) (counter : Option TokenCounter)
    (t : HostedTrace σ ε D) (ev : HostedEvent ε) : HostedTrace σ ε D :=
  let out := g.act door counter t.gateway t.store ev
  { gateway := leaves t.gateway out.1
    store := out.2
    steps := t.steps ++ [⟨t.gateway, ev, out.1⟩] }

end Gateway

/-! ## The tenant of a request -/

theorem extractMemoryIdentity_tenant {parts : HeaderParts} {headers : Headers}
    {t u : Option String} {identity : MemoryIdentity}
    (h : extractMemoryIdentity parts headers t u = .ok identity) :
    identity.tenantId = if t.getD "" = "" then anonymousTenantId else t.getD "" := by
  unfold extractMemoryIdentity at h
  dsimp only at h
  generalize (if t.getD "" = "" then anonymousTenantId else t.getD "") = tenantId at h ⊢
  split at h
  · split at h
    · cases h
    · cases h
      rfl
  · cases h

theorem identify_tenant {door : FrontDoor} {headers : Headers} {auth : AuthState}
    {identity : MemoryIdentity} (h : door.identify headers auth = .ok identity) :
    identity.tenantId = auth.tenant := by
  unfold FrontDoor.identify at h
  dsimp only at h
  split at h
  · rename_i hextract
    cases h
    exact extractMemoryIdentity_tenant hextract
  · cases h

theorem enter_tenant {door : FrontDoor} {texts : PythonText} {headers : Headers} {auth : AuthState}
    {call : Call} {admitted : Admitted} {log : List String}
    (h : door.enter texts headers auth call = (.ok admitted, log)) :
    admitted.identity.tenantId = auth.tenant ∧ admitted.inbound.tenantId = auth.tenant := by
  obtain ⟨⟨identity, hidentify, rfl, htenant⟩, -⟩ := enter_steps h
  have hsame := identify_tenant hidentify
  exact ⟨hsame, htenant.trans hsame⟩

/-! ## Records -/

namespace InMemoryMemoryStore

variable {tenantId : String} {s s' : InMemoryMemoryStore}

/-- What is retrieved for a tenant goes by its records. -/
theorem retrieve_seen (h : s.tenantRows tenantId = s'.tenantRows tenantId)
    {identity : MemoryIdentity} (hidentity : identity.tenantId = tenantId) :
    s.retrieve identity = s'.retrieve identity := by
  have hreadings : ∀ id, s.readings ⟨identity.tenantId, id⟩ =
      s'.readings ⟨identity.tenantId, id⟩ := by
    intro id
    have hrows : s.rowsOf ⟨identity.tenantId, id⟩ = s'.rowsOf ⟨identity.tenantId, id⟩ := by
      rw [hidentity]
      exact congrFun h id
    have hfacts : s.factsOf ⟨identity.tenantId, id⟩ = s'.factsOf ⟨identity.tenantId, id⟩ :=
      congrArg SessionRows.facts hrows
    have hsummary : s.summaries.get? ⟨identity.tenantId, id⟩ =
        s'.summaries.get? ⟨identity.tenantId, id⟩ := congrArg SessionRows.summary hrows
    have hturns : s.turnsOf ⟨identity.tenantId, id⟩ = s'.turnsOf ⟨identity.tenantId, id⟩ :=
      congrArg SessionRows.turns hrows
    unfold readings getFacts getSummary listTurns
    rw [hfacts, hsummary, hturns]
  unfold retrieve
  congr 2
  cases identity.sessionId with
  | none => rfl
  | some id => exact hreadings id

theorem perform_frame {call : MemoryCall} (hcall : call.session.tenantId ≠ tenantId)
    (drawn : Drawn) :
    (s.perform call drawn).2.tenantRows tenantId = s.tenantRows tenantId := by
  funext id
  have hne : (⟨tenantId, id⟩ : SessionKey) ≠ call.session := fun heq => hcall (heq ▸ rfl)
  unfold tenantRows
  rw [(s.perform_rowsOf call drawn).2, SessionRecords.perform_of_ne hne]

/-- A call of a tenant answers and leaves by the tenant's records. -/
theorem perform_seen (h : s.tenantRows tenantId = s'.tenantRows tenantId) {call : MemoryCall}
    (hcall : call.session.tenantId = tenantId) (drawn : Drawn) :
    (s.perform call drawn).1 = (s'.perform call drawn).1 ∧
      (s.perform call drawn).2.tenantRows tenantId =
        (s'.perform call drawn).2.tenantRows tenantId := by
  subst hcall
  have hrecord : s.rowsOf call.session = s'.rowsOf call.session :=
    congrFun h call.session.sessionId
  obtain ⟨hresult, hafter⟩ := SessionRecords.perform_congr drawn hrecord
  obtain ⟨hleft, hleftRows⟩ := s.perform_rowsOf call drawn
  obtain ⟨hright, hrightRows⟩ := s'.perform_rowsOf call drawn
  refine ⟨hleft.trans (hresult.trans hright.symm), ?_⟩
  funext id
  unfold tenantRows
  rw [hleftRows, hrightRows]
  by_cases hkey : (⟨call.session.tenantId, id⟩ : SessionKey) = call.session
  · rw [hkey]
    exact hafter
  · rw [SessionRecords.perform_of_ne hkey, SessionRecords.perform_of_ne hkey]
    exact congrFun h id

/-- The calls of a recording, one after the other. -/
theorem performAll_frame {session : SessionKey} (hsession : session.tenantId ≠ tenantId)
    (ops : List (MemoryOp × Drawn)) :
    (s.performAll session ops).tenantRows tenantId = s.tenantRows tenantId := by
  induction ops generalizing s with
  | nil => rfl
  | cons op ops ih =>
    obtain ⟨op, drawn⟩ := op
    have hframe : (s.perform ⟨session, op⟩ drawn).2.tenantRows tenantId = s.tenantRows tenantId :=
      perform_frame hsession drawn
    unfold performAll
    rcases hx : s.perform ⟨session, op⟩ drawn with ⟨e | v, t⟩
    · rw [hx] at hframe
      exact hframe
    · rw [hx] at hframe
      exact ih.trans hframe

theorem performAll_seen (h : s.tenantRows tenantId = s'.tenantRows tenantId) {session : SessionKey}
    (hsession : session.tenantId = tenantId) (ops : List (MemoryOp × Drawn)) :
    (s.performAll session ops).tenantRows tenantId =
      (s'.performAll session ops).tenantRows tenantId := by
  induction ops generalizing s s' with
  | nil => exact h
  | cons op ops ih =>
    obtain ⟨op, drawn⟩ := op
    have hcall : (MemoryCall.mk session op).session.tenantId = tenantId := hsession
    obtain ⟨hresult, hafter⟩ := perform_seen h hcall drawn
    unfold performAll
    rcases hx : s.perform ⟨session, op⟩ drawn with ⟨result, t⟩
    rcases hy : s'.perform ⟨session, op⟩ drawn with ⟨result', t'⟩
    rw [hx, hy] at hresult hafter
    obtain rfl : result = result' := hresult
    cases result with
    | error e => exact hafter
    | ok v => exact ih hafter

theorem record_frame {identity : MemoryIdentity} (hidentity : identity.tenantId ≠ tenantId)
    (counter : Option TokenCounter) (draws : RecordDraws) (x : Exchange) :
    (s.record identity counter draws x).tenantRows tenantId = s.tenantRows tenantId := by
  unfold record
  split
  · rfl
  · exact performAll_frame hidentity _

theorem record_seen (h : s.tenantRows tenantId = s'.tenantRows tenantId)
    {identity : MemoryIdentity} (hidentity : identity.tenantId = tenantId)
    (counter : Option TokenCounter) (draws : RecordDraws) (x : Exchange) :
    (s.record identity counter draws x).tenantRows tenantId =
      (s'.record identity counter draws x).tenantRows tenantId := by
  unfold record
  split
  · exact h
  · exact performAll_seen h hidentity _

end InMemoryMemoryStore

/-! ## Events -/

/-- Two outcomes that differ in the shared state they leave at most. -/
inductive HostedOutcome.Same {σ D : Type} : HostedOutcome σ D → HostedOutcome σ D → Prop
  | visit {v v' : Visit σ D} (handled : v.handled.Same v'.handled) (log : v.log = v'.log)
      (extraHeaders : v.extraHeaders = v'.extraHeaders) : Same (.visit v) (.visit v')
  | answered (result : Except MemoryRaised MemoryValue) : Same (.answered result) (.answered result)

theorem HostedOutcome.Same.symm {σ D : Type} {o o' : HostedOutcome σ D} (h : o.Same o') :
    o'.Same o := by
  cases h with
  | visit handled log extraHeaders =>
    exact .visit ⟨handled.dispatches.symm, handled.reply.symm, handled.hit.symm⟩ log.symm
      extraHeaders.symm
  | answered result => exact .answered result

theorem HostedOutcome.Same.trans {σ D : Type} {o o' o'' : HostedOutcome σ D} (h : o.Same o')
    (h' : o'.Same o'') : o.Same o'' := by
  cases h with
  | answered result => exact h'
  | visit handled log extraHeaders =>
    cases h' with
    | visit handled' log' extraHeaders' =>
      exact .visit ⟨handled.dispatches.trans handled'.dispatches,
        handled.reply.trans handled'.reply, handled.hit.trans handled'.hit⟩ (log.trans log')
        (extraHeaders.trans extraHeaders')

/-- Alike lists of outcomes, one after the other. -/
theorem HostedOutcome.forall₂_trans {σ D : Type} {os os' os'' : List (HostedOutcome σ D)}
    (h : List.Forall₂ Same os os') (h' : List.Forall₂ Same os' os'') :
    List.Forall₂ Same os os'' := by
  induction h generalizing os'' with
  | nil => exact h'
  | cons hsame _ ih =>
    cases h' with
    | cons hsame' hrest => exact .cons (hsame.trans hsame') (ih hrest)

/-- The same event, in shared states that show its tenant the same. -/
structure HostedStep.Met {σ ε D : Type} [DecidableEq D] (tenantId : String)
    (step step' : HostedStep σ ε D) : Prop where
  event : step.event = step'.event
  shows : step.before.Shows tenantId step'.before

namespace Gateway

variable {σ ε D : Type} [DecidableEq D] {g : Gateway σ ε D} {door : FrontDoor}
  {counter : Option TokenCounter} {st st' : GatewayState σ D} {s s' : InMemoryMemoryStore}
  {tenantId : String}

theorem recording_tenant {a : Arrival ε} {f : Following} {identity : MemoryIdentity} {x : Exchange}
    (h : g.recording door counter st a f = some (identity, x)) :
    identity.tenantId = a.auth.tenant := by
  unfold recording at h
  split at h
  · cases h
  · rename_i admitted henter
    obtain ⟨y, -, hy⟩ := Option.map_eq_some_iff.mp h
    obtain ⟨rfl, -⟩ := Prod.mk.inj hy
    exact (enter_tenant (Prod.ext henter rfl)).1

/-- **What an event of a tenant does leaves the records of the others alone.** -/
theorem act_frame {ev : HostedEvent ε} (hev : ev.tenant ≠ tenantId) :
    (g.act door counter st s ev).2.tenantRows tenantId = s.tenantRows tenantId := by
  cases ev with
  | store call drawn => exact InMemoryMemoryStore.perform_frame hev drawn
  | request a f draws =>
    unfold act
    dsimp only
    split
    · rfl
    · rename_i identity x hrecording
      apply InMemoryMemoryStore.record_frame
      have htenant := recording_tenant hrecording
      rw [htenant]
      exact hev

/-- A request of a tenant is answered by the tenant's records and what the state shows it. -/
theorem receive_seen (hshows : st.Shows tenantId st')
    (hrows : s.tenantRows tenantId = s'.tenantRows tenantId) {a : Arrival ε}
    (htenant : a.auth.tenant = tenantId) :
    HostedOutcome.Same (.visit (g.receive door st { a with retrieve := s.retrieve }))
      (.visit (g.receive door st' { a with retrieve := s'.retrieve })) := by
  unfold receive
  dsimp only
  rcases henter : door.enter g.texts a.headers a.auth a.call with ⟨e | admitted, log⟩
  · exact .visit ⟨rfl, rfl, rfl⟩ rfl rfl
  · obtain ⟨hidentity, hinbound⟩ := enter_tenant henter
    have hretrieve : s.retrieve admitted.identity = s'.retrieve admitted.identity :=
      InMemoryMemoryStore.retrieve_seen hrows (hidentity.trans htenant)
    have hshows : st.Shows admitted.inbound.tenantId st' := by
      rw [hinbound, htenant]
      exact hshows
    dsimp only
    rw [hretrieve]
    exact .visit (handleAdmitted_seen hshows _ _) rfl rfl

/-- And so is what is recorded of it. -/
theorem recording_seen (hshows : st.Shows tenantId st')
    (hrows : s.tenantRows tenantId = s'.tenantRows tenantId) {a : Arrival ε}
    (htenant : a.auth.tenant = tenantId) (f : Following) :
    g.recording door counter st { a with retrieve := s.retrieve } f =
      g.recording door counter st' { a with retrieve := s'.retrieve } f := by
  unfold recording
  dsimp only
  rcases henter : door.enter g.texts a.headers a.auth a.call with ⟨e | admitted, log⟩
  · rfl
  · obtain ⟨hidentity, hinbound⟩ := enter_tenant henter
    have hretrieve : s.retrieve admitted.identity = s'.retrieve admitted.identity :=
      InMemoryMemoryStore.retrieve_seen hrows (hidentity.trans htenant)
    have hshows : st.Shows admitted.inbound.tenantId st' := by
      rw [hinbound, htenant]
      exact hshows
    dsimp only
    rw [hretrieve, exchange_seen counter hshows]

variable (g door counter) in
/-- **An event of a tenant goes by the tenant's records and what the shared state shows the
tenant.** -/
theorem act_seen (hshows : st.Shows tenantId st')
    (hrows : s.tenantRows tenantId = s'.tenantRows tenantId) {ev : HostedEvent ε}
    (hev : ev.tenant = tenantId) :
    (g.act door counter st s ev).1.Same (g.act door counter st' s' ev).1 ∧
      (g.act door counter st s ev).2.tenantRows tenantId =
        (g.act door counter st' s' ev).2.tenantRows tenantId := by
  cases ev with
  | store call drawn =>
    obtain ⟨hresult, hafter⟩ := InMemoryMemoryStore.perform_seen hrows hev drawn
    refine ⟨?_, hafter⟩
    unfold act
    dsimp only
    rw [hresult]
    exact .answered _
  | request a f draws =>
    refine ⟨receive_seen hshows hrows hev, ?_⟩
    unfold act
    dsimp only
    rw [recording_seen hshows hrows hev f]
    split
    · exact hrows
    · rename_i identity x hrecording
      have htenant := recording_tenant hrecording
      exact InMemoryMemoryStore.record_seen hrows (htenant.trans hev) counter draws x

/-! ## Replays -/

/-- The steps of one tenant once more: each event in the shared state it met, over a store of its
own. -/
def replay (g : Gateway σ ε D) (door : FrontDoor) (counter : Option TokenCounter)
    (s : InMemoryMemoryStore) : List (HostedStep σ ε D) → List (HostedOutcome σ D) × InMemoryMemoryStore
  | [] => ([], s)
  | step :: steps =>
    let out := g.act door counter step.before s step.event
    let rest := g.replay door counter out.2 steps
    (out.1 :: rest.1, rest.2)

theorem replay_append (steps steps' : List (HostedStep σ ε D)) (s : InMemoryMemoryStore) :
    g.replay door counter s (steps ++ steps') =
      let first := g.replay door counter s steps
      let rest := g.replay door counter first.2 steps'
      (first.1 ++ rest.1, rest.2) := by
  induction steps generalizing s with
  | nil => rfl
  | cons step steps ih => simp only [List.cons_append, replay, ih]

/-- Replays of the same events in states that show the tenant the same. -/
theorem replay_seen {steps steps' : List (HostedStep σ ε D)}
    (hmet : List.Forall₂ (HostedStep.Met tenantId) steps steps')
    (hown : ∀ step ∈ steps, step.event.tenant = tenantId)
    (hrows : s.tenantRows tenantId = s'.tenantRows tenantId) :
    List.Forall₂ HostedOutcome.Same (g.replay door counter s steps).1
        (g.replay door counter s' steps').1 ∧
      (g.replay door counter s steps).2.tenantRows tenantId =
        (g.replay door counter s' steps').2.tenantRows tenantId := by
  induction hmet generalizing s s' with
  | nil => exact ⟨.nil, hrows⟩
  | cons hstep hsteps ih =>
    rename_i step step' steps steps'
    obtain ⟨hsame, hafter⟩ := act_seen g door counter hstep.shows hrows
      (hown step List.mem_cons_self)
    obtain ⟨hrest, hend⟩ := ih (fun step h => hown step (List.mem_cons_of_mem _ h)) hafter
    rw [hstep.event] at hsame hrest hend
    unfold replay
    rw [hstep.event]
    exact ⟨.cons hsame hrest, hend⟩

/-- What a tenant is answered in a run, and its records at the end, are those of the replay of its
own steps. -/
theorem host_replay (t : HostedTrace σ ε D) (hfresh : t.steps = [])
    (hrows : t.store.tenantRows tenantId = s.tenantRows tenantId) (es : List (HostedEvent ε)) :
    let steps := (Runs.run (g.host door counter) t es).stepsOf tenantId
    List.Forall₂ HostedOutcome.Same (steps.map HostedStep.outcome)
        (g.replay door counter s steps).1 ∧
      (Runs.run (g.host door counter) t es).store.tenantRows tenantId =
        (g.replay door counter s steps).2.tenantRows tenantId := by
  dsimp only
  induction es using List.reverseRecOn with
  | nil =>
    rw [Runs.run_nil]
    unfold HostedTrace.stepsOf
    rw [hfresh]
    exact ⟨.nil, hrows⟩
  | append_singleton es ev ih =>
    obtain ⟨houtcomes, hstore⟩ := ih
    rw [Runs.run_append, Runs.run_cons, Runs.run_nil]
    generalize Runs.run (g.host door counter) t es = r at houtcomes hstore ⊢
    have hsteps : (g.host door counter r ev).stepsOf tenantId = r.stepsOf tenantId ++
        if ev.tenant = tenantId then
          [⟨r.gateway, ev, (g.act door counter r.gateway r.store ev).1⟩] else [] := by
      unfold HostedTrace.stepsOf host
      rw [List.filter_append, List.filter_singleton]
      simp [cond_eq_ite]
    rw [hsteps]
    by_cases hev : ev.tenant = tenantId
    · rw [if_pos hev, replay_append, List.map_append]
      obtain ⟨hsame, hafter⟩ := act_seen g door counter (shows_refl tenantId r.gateway) hstore hev
      exact ⟨List.rel_append houtcomes (.cons hsame .nil), hafter⟩
    · rw [if_neg hev, List.append_nil]
      exact ⟨houtcomes, (act_frame hev).trans hstore⟩

/-- **Tenants are kept apart.** In two runs in which a tenant's events are the same and meet shared
states that show it the same, whatever the others do in between, each of them is answered, forwarded
and logged the same, and the tenant's records come out the same. -/
theorem tenants_apart (g : Gateway σ ε D) (door : FrontDoor) (counter : Option TokenCounter)
    (tenantId : String) (start start' : GatewayState σ D) (events events' : List (HostedEvent ε))
    (hmet : List.Forall₂ (HostedStep.Met tenantId)
      ((Runs.run (g.host door counter) { gateway := start } events).stepsOf tenantId)
      ((Runs.run (g.host door counter) { gateway := start' } events').stepsOf tenantId)) :
    List.Forall₂ HostedOutcome.Same
        (((Runs.run (g.host door counter) { gateway := start } events).stepsOf tenantId).map
          HostedStep.outcome)
        (((Runs.run (g.host door counter) { gateway := start' } events').stepsOf tenantId).map
          HostedStep.outcome) ∧
      (Runs.run (g.host door counter) { gateway := start } events).store.tenantRows tenantId =
        (Runs.run (g.host door counter) { gateway := start' } events').store.tenantRows
          tenantId := by
  obtain ⟨hleft, hrows⟩ := host_replay (g := g) (s := {}) { gateway := start } rfl rfl events
  obtain ⟨hright, hrows'⟩ := host_replay (g := g) (s := {}) { gateway := start' } rfl rfl events'
  have hown : ∀ step ∈ (Runs.run (g.host door counter) { gateway := start } events).stepsOf
      tenantId, step.event.tenant = tenantId :=
    fun step hstep => of_decide_eq_true (List.mem_filter.mp hstep).2
  obtain ⟨hsame, hafter⟩ := replay_seen (g := g) hmet hown rfl
  refine ⟨HostedOutcome.forall₂_trans hleft (HostedOutcome.forall₂_trans hsame ?_),
    hrows.trans (hafter.trans hrows'.symm)⟩
  exact (List.Forall₂.flip hright).imp fun _ _ h => h.symm

/-! ## A session of two tenants -/

/-- A tenant opens the session and sets a fact in it. -/
def opens (tenantId value : String) : List (HostedEvent Unit) :=
  [.store ⟨⟨tenantId, "s1"⟩, .getOrCreateSession none none⟩ ⟨"x", 1⟩,
    .store ⟨⟨tenantId, "s1"⟩, .setFact "language" value "user" 1⟩ ⟨"x", 2⟩]

/-- A tenant asks in the session. -/
def asks (tenantId : String) : HostedEvent Unit :=
  .request
    { headers := [("X-ModelMeld-Session-Id", "s1")]
      auth := { tenantId := some tenantId }
      call := .chat { model := "gpt-5-mini", messages := [filesAsked] }
      outside := answering }
    (followed .reads) ⟨⟨"x", 3⟩, ⟨"u1", 4⟩, ⟨"a1", 5⟩⟩

/-- Some events over an empty store and no caches. -/
def hosted (events : List (HostedEvent Unit)) : HostedTrace Unit Unit JsonObj :=
  Runs.run ((scrubbingGateway { cls := .openai }).host openDoor none) { gateway := noCaches } events

theorem tenants_apart_shared_session :
    (List.Forall₂ HostedOutcome.Same
        (((hosted (opens "acme" "Lean" ++ [asks "acme"])).stepsOf "acme").map HostedStep.outcome)
        (((hosted (opens "globex" "Rust" ++ opens "acme" "Lean" ++ opens "globex" "C" ++
          [asks "acme"])).stepsOf "acme").map HostedStep.outcome) ∧
      (hosted (opens "acme" "Lean" ++ [asks "acme"])).store.tenantRows "acme" =
        (hosted (opens "globex" "Rust" ++ opens "acme" "Lean" ++ opens "globex" "C" ++
          [asks "acme"])).store.tenantRows "acme") ∧
      ((hosted (opens "globex" "Rust" ++ opens "acme" "Lean" ++ opens "globex" "C" ++
        [asks "acme"])).store.listTurns ⟨"acme", "s1"⟩ none).map MemoryTurn.content =
        ["list the files", "hello"] := by
  refine ⟨tenants_apart _ openDoor none "acme" noCaches noCaches _ _ ?_, by decide⟩
  exact .cons ⟨rfl, shows_refl "acme" _⟩ (.cons ⟨rfl, shows_refl "acme" _⟩
    (.cons ⟨rfl, shows_refl "acme" _⟩ .nil))

end Gateway

end ModelMeld
