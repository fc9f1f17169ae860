import ModelMeld.Proof.SessionRows

/-!
# Tenants that share an in-memory store

The records of a tenant's sessions are touched by the calls of that tenant only,
and a call reads no other record. So what a tenant observes over a run depends
on the tenant's own calls and on nothing that happens in between
(`tenant_noninterference`), also where another tenant uses the same session ids.
-/

namespace ModelMeld

/-- The calls of a tenant. -/
def ofTenant (tenantId : String) (step : MemoryCall × Drawn) : Bool :=
  step.1.session.tenantId = tenantId

/-- What a tenant has seen: its calls, and the result or the exception of each. -/
def MemoryRun.observed (r : MemoryRun) (tenantId : String) : List MemoryEvent :=
  r.seen.filter (fun e => e.call.session.tenantId = tenantId)

/-- The records of a tenant's sessions, by session id. -/
def InMemoryMemoryStore.tenantRows (s : InMemoryMemoryStore) (tenantId : String) :
    String → SessionRows :=
  fun sessionId => s.rowsOf ⟨tenantId, sessionId⟩

/-- What a tenant has seen and what its later calls can read. -/
def MemoryRun.view (tenantId : String) (r : MemoryRun) :
    List MemoryEvent × (String → SessionRows) :=
  (r.observed tenantId, r.store.tenantRows tenantId)

variable {tenantId : String}

theorem MemoryRun.act_observed (r : MemoryRun) (step : MemoryCall × Drawn) :
    (r.act step).observed tenantId = r.observed tenantId ++
      if ofTenant tenantId step then [⟨step.1, (r.store.perform step.1 step.2).1⟩] else [] := by
  unfold MemoryRun.observed MemoryRun.act ofTenant
  rw [List.filter_append, List.filter_singleton, cond_eq_ite]

/-- A call of another tenant leaves the view alone. -/
theorem view_act_of_other (r : MemoryRun) (step : MemoryCall × Drawn)
    (h : ofTenant tenantId step = false) : (r.act step).view tenantId = r.view tenantId := by
  have hother : step.1.session.tenantId ≠ tenantId := by simpa [ofTenant] using h
  apply Prod.ext
  · change (r.act step).observed tenantId = r.observed tenantId
    rw [MemoryRun.act_observed, h]
    simp
  · funext sessionId
    have hne : (⟨tenantId, sessionId⟩ : SessionKey) ≠ step.1.session :=
      fun heq => hother (heq ▸ rfl)
    change (r.store.perform step.1 step.2).2.rowsOf ⟨tenantId, sessionId⟩ = _
    rw [(r.store.perform_rowsOf step.1 step.2).2, SessionRecords.perform_of_ne hne]
    rfl

/-- A call reads the record of its session. -/
theorem SessionRecords.perform_congr {w w' : SessionRecords} {call : MemoryCall} (drawn : Drawn)
    (h : w call.session = w' call.session) :
    (w.perform call drawn).1 = (w'.perform call drawn).1 ∧
      (w.perform call drawn).2 call.session = (w'.perform call drawn).2 call.session := by
  unfold SessionRecords.perform
  split
  · rw [h]
    exact ⟨rfl, by simp⟩
  · exact ⟨rfl, h⟩

/-- A call of the tenant goes by the view. -/
theorem view_act_of_own (r r' : MemoryRun) (step : MemoryCall × Drawn)
    (hown : ofTenant tenantId step = true) (h : r.view tenantId = r'.view tenantId) :
    (r.act step).view tenantId = (r'.act step).view tenantId := by
  have htenant : step.1.session.tenantId = tenantId := by simpa [ofTenant] using hown
  have hseen : r.observed tenantId = r'.observed tenantId := congrArg Prod.fst h
  have hrows : ∀ sessionId, r.store.rowsOf ⟨tenantId, sessionId⟩ =
      r'.store.rowsOf ⟨tenantId, sessionId⟩ := fun sessionId => congrFun (congrArg Prod.snd h) sessionId
  have hrecord : r.store.rowsOf step.1.session = r'.store.rowsOf step.1.session := by
    have hkey := hrows step.1.session.sessionId
    rwa [← htenant] at hkey
  obtain ⟨hresult, hafter⟩ := SessionRecords.perform_congr step.2 hrecord
  obtain ⟨hleft, hleftRows⟩ := r.store.perform_rowsOf step.1 step.2
  obtain ⟨hright, hrightRows⟩ := r'.store.perform_rowsOf step.1 step.2
  apply Prod.ext
  · change (r.act step).observed tenantId = (r'.act step).observed tenantId
    rw [MemoryRun.act_observed, MemoryRun.act_observed, hseen, hleft, hright, hresult]
  · funext sessionId
    change (r.store.perform step.1 step.2).2.rowsOf ⟨tenantId, sessionId⟩ =
      (r'.store.perform step.1 step.2).2.rowsOf ⟨tenantId, sessionId⟩
    rw [hleftRows, hrightRows]
    by_cases hkey : (⟨tenantId, sessionId⟩ : SessionKey) = step.1.session
    · rw [hkey]
      exact hafter
    · rw [SessionRecords.perform_of_ne hkey, SessionRecords.perform_of_ne hkey]
      exact hrows sessionId

/-- **What a tenant observes depends on its own calls only.** -/
theorem tenant_noninterference (tenantId : String) (steps steps' : List (MemoryCall × Drawn))
    (h : steps.filter (ofTenant tenantId) = steps'.filter (ofTenant tenantId)) :
    (Runs.run MemoryRun.act {} steps).observed tenantId =
      (Runs.run MemoryRun.act {} steps').observed tenantId := by
  have hview := Runs.run_view_eq MemoryRun.act (MemoryRun.view tenantId) (ofTenant tenantId)
    view_act_of_other view_act_of_own (s := {}) (t := {}) rfl h
  exact congrArg Prod.fst hview

/-- Another tenant that uses the session id and has its own summary. -/
theorem tenant_noninterference_shared_session :
    let create : MemoryOp := .getOrCreateSession none none
    let read : MemoryOp := .getSummary
    let mine (op : MemoryOp) (id : String) : MemoryCall × Drawn := (⟨⟨"acme", "s-1"⟩, op⟩, ⟨id, 5⟩)
    let other (op : MemoryOp) : MemoryCall × Drawn := (⟨⟨"globex", "s-1"⟩, op⟩, ⟨"f0", 7⟩)
    let alone := [mine create "a1", mine read "a2"]
    let shared := [other create, mine create "a1",
      other (.upsertSummary "theirs" none none none), mine read "a2"]
    (Runs.run MemoryRun.act {} alone).observed "acme" =
      (Runs.run MemoryRun.act {} shared).observed "acme" :=
  tenant_noninterference "acme" _ _ (by decide)

end ModelMeld
