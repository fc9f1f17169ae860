import ModelMeld.Lib.Runs
import ModelMeld.Lib.Versioned
import ModelMeld.Proof.SessionRows

/-!
# Versions of a summary as the callers of one store see them

A caller that reads a summary and writes over the version it read relies on the
version to say that nothing happened in between. The counter starts again after
`clear_summary`, so it says so exactly in the runs in which the store takes no
summary of a session that was cleared before (`versionsFresh_iff`).
-/

namespace ModelMeld

open Versioned

/-! ## What the callers see -/

/-- What a call did to the summary of a session. -/
def MemoryEvent.change (key : SessionKey) (e : MemoryEvent) : List (Change MemoryCall) :=
  if e.call.session = key then
    match e.call.op, e.result with
    | .upsertSummary _ _ _ _, .ok (.summary (some s)) => [.stored e.call s.version]
    | .clearSummary, .ok (.deleted true) => [.cleared]
    | _, _ => []
  else []

/-- What was done to the summary of a session, the latest first. -/
def changes (key : SessionKey) (seen : List MemoryEvent) : List (Change MemoryCall) :=
  seen.reverse.flatMap (MemoryEvent.change key)

/-- The version of a session's summary that a caller reads off a result. -/
def MemoryEvent.readVersion (key : SessionKey) (e : MemoryEvent) : Option ℤ :=
  if e.call.session = key then
    match e.result with
    | .ok (.summary s) => some (summaryVersion s)
    | _ => none
  else none

/-- An `upsert_summary` that expected a version and succeeded. -/
def MemoryEvent.WroteOver (key : SessionKey) (version : ℤ) (e : MemoryEvent) : Prop :=
  e.call.session = key ∧
    (∃ text lastAppliedTurnId sourceModel,
      e.call.op = .upsertSummary text lastAppliedTurnId sourceModel (some version)) ∧
    ∃ value, e.result = .ok value

/-- What the version of a summary is for. -/
structure VersionsFresh (seen : List MemoryEvent) : Prop where
  /-- Nothing happened to a summary between a read of its version and a write over it. -/
  fresh : ∀ key version before read between write after,
    seen = before ++ read :: (between ++ write :: after) →
      read.readVersion key = some version → write.WroteOver key version →
        ∀ e ∈ between, e.change key = []
  /-- No version of a session is written twice. -/
  distinct : ∀ key, (versions (changes key seen)).Nodup

/-- The store takes the summary that a call offers. -/
def InMemoryMemoryStore.TakesSummary (s : InMemoryMemoryStore) (call : MemoryCall) : Prop :=
  match call.op with
  | .upsertSummary _ _ _ expectedVersion =>
    validTenantId call.session.tenantId = true ∧ s.sessions.contains call.session = true ∧
      ∀ version ∈ expectedVersion, version = summaryVersion (s.getSummary call.session)
  | _ => False

/-- A summary that the store takes is of a session whose summary was never removed. -/
def NeverCleared (r : MemoryRun) (step : MemoryCall × Drawn) : Prop :=
  r.store.TakesSummary step.1 → ∀ e ∈ r.seen,
    e.call = ⟨step.1.session, .clearSummary⟩ → e.result ≠ .ok (.deleted true)

/-! ## What one call does -/

namespace SessionRows

variable {rows : SessionRows} {key : SessionKey} {drawn : Drawn}

/-- The record takes the summary that an operation offers. -/
def TakesSummary (rows : SessionRows) : MemoryOp → Prop
  | .upsertSummary _ _ _ expectedVersion =>
    rows.session ≠ none ∧ ∀ version ∈ expectedVersion, version = summaryVersion rows.summary
  | _ => False

/-- What an operation does to the summary of its record. -/
inductive SummaryCase (rows : SessionRows) (op : MemoryOp)
    (out : Except MemoryRaised MemoryValue × SessionRows) : Prop where
  | stored (s : MemorySummary) (takes : rows.TakesSummary op)
      (version : s.version = summaryVersion rows.summary + 1)
      (isOut : out = (.ok (.summary (some s)), { rows with summary := some s }))
  | cleared (isOp : op = .clearSummary) (was : rows.summary ≠ none)
      (isOut : out = (.ok (.deleted true), { rows with summary := none }))
  | unchanged (takes : ¬ rows.TakesSummary op) (summary : out.2.summary = rows.summary)
      (upsert : ∀ text id model expected, op = .upsertSummary text id model expected →
        ∃ e, out.1 = .error e)
      (clear : op = .clearSummary → out.1 = .ok (.deleted false))

theorem whenCreated_summary {out : Except MemoryRaised MemoryValue × SessionRows}
    (h : out.2.summary = rows.summary) : (rows.whenCreated out).2.summary = rows.summary := by
  unfold whenCreated
  split
  · rfl
  · exact h

theorem upsertSummary_cases (text : String) (lastAppliedTurnId sourceModel : Option String)
    (expectedVersion : Option ℤ) :
    SummaryCase rows (.upsertSummary text lastAppliedTurnId sourceModel expectedVersion)
      (rows.operate key drawn
        (.upsertSummary text lastAppliedTurnId sourceModel expectedVersion)) := by
  simp only [operate, whenCreated]
  by_cases hcreated : rows.session = none
  · rw [if_pos hcreated]
    exact .unchanged (fun h => h.1 hcreated) rfl (fun _ _ _ _ _ => ⟨_, rfl⟩) (fun h => by cases h)
  · rw [if_neg hcreated]
    by_cases hversion : expectedVersion.getD (summaryVersion rows.summary) =
        summaryVersion rows.summary
    · rw [if_pos hversion]
      refine .stored _ ⟨hcreated, fun version hv => ?_⟩ rfl rfl
      rw [Option.mem_def] at hv
      rwa [hv] at hversion
    · rw [if_neg hversion]
      refine .unchanged (fun h => ?_) rfl (fun _ _ _ _ _ => ⟨_, rfl⟩) (fun h => by cases h)
      cases expectedVersion with
      | none => exact hversion rfl
      | some version => exact hversion (h.2 version rfl)

variable (rows key drawn) in
theorem operate_summary (op : MemoryOp) : SummaryCase rows op (rows.operate key drawn op) := by
  cases op with
  | upsertSummary text lastAppliedTurnId sourceModel expectedVersion =>
    exact upsertSummary_cases text lastAppliedTurnId sourceModel expectedVersion
  | clearSummary =>
    by_cases hnone : rows.summary = none
    · exact .unchanged id hnone.symm (fun _ _ _ _ h => by cases h) (fun _ => by
        simp [operate, hnone])
    · refine .cleared rfl hnone ?_
      simp [operate, Option.isSome_iff_ne_none.mpr hnone]
  | appendTurn role content tokenCount modelUsed =>
    exact .unchanged id (whenCreated_summary rfl) (fun _ _ _ _ h => by cases h) (fun h => by cases h)
  | setFact name value source confidence =>
    refine .unchanged id (whenCreated_summary ?_) (fun _ _ _ _ h => by cases h) (fun h => by cases h)
    split <;> rfl
  | getOrCreateSession | getSession | listTurns | turnCount | getFacts | deleteFact | getSummary =>
    exact .unchanged id rfl (fun _ _ _ _ h => by cases h) (fun h => by cases h)

/-- The version a result shows is that of the record. -/
theorem operate_read {op : MemoryOp} {s : Option MemorySummary}
    (h : (rows.operate key drawn op).1 = .ok (.summary s)) :
    (rows.operate key drawn op).2.summary = s := by
  cases op with
  | getSummary => simpa [operate] using h
  | upsertSummary text lastAppliedTurnId sourceModel expectedVersion =>
    simp only [operate, whenCreated] at h ⊢
    split_ifs at h ⊢ with hcreated hversion
    · simpa using h
  | appendTurn | setFact =>
    simp only [operate, whenCreated] at h
    split_ifs at h
    all_goals simp at h
  | getOrCreateSession | getSession | listTurns | turnCount | getFacts | deleteFact | clearSummary =>
    simp [operate] at h

end SessionRows

section Step

variable {r : MemoryRun} {step : MemoryCall × Drawn} {key : SessionKey} {version : ℤ}

/-- The event of the next call. -/
def MemoryRun.next (r : MemoryRun) (step : MemoryCall × Drawn) : MemoryEvent :=
  ⟨step.1, (r.store.perform step.1 step.2).1⟩

/-- The record of a session after the next call. -/
def MemoryRun.rowsAfter (r : MemoryRun) (step : MemoryCall × Drawn) (key : SessionKey) :
    SessionRows :=
  (r.act step).store.rowsOf key

theorem rowsAfter_of_ne (h : key ≠ step.1.session) : r.rowsAfter step key = r.store.rowsOf key := by
  unfold MemoryRun.rowsAfter MemoryRun.act
  rw [(r.store.perform_rowsOf step.1 step.2).2, SessionRecords.perform_of_ne h]

/-- A call of a tenant that is accepted is the operation on the record. -/
theorem next_of_valid (h : validTenantId step.1.session.tenantId = true) :
    ((r.next step).result, r.rowsAfter step step.1.session) =
      (r.store.rowsOf step.1.session).operate step.1.session step.2 step.1.op := by
  have hperform := r.store.perform_rowsOf step.1 step.2
  simp only [SessionRecords.perform, h, if_true] at hperform
  apply Prod.ext
  · exact hperform.1
  · change (r.store.perform step.1 step.2).2.rowsOf step.1.session = _
    rw [hperform.2, Function.update_self]

variable (r key) in
theorem next_of_invalid (h : ¬ validTenantId step.1.session.tenantId = true) :
    (r.next step).result = .error .invalidTenantId ∧ r.rowsAfter step key = r.store.rowsOf key := by
  have hperform := r.store.perform_rowsOf step.1 step.2
  simp only [SessionRecords.perform, h] at hperform
  exact ⟨hperform.1, congrFun hperform.2 key⟩

theorem takesSummary_iff : r.store.TakesSummary step.1 ↔
    validTenantId step.1.session.tenantId = true ∧
      (r.store.rowsOf step.1.session).TakesSummary step.1.op := by
  unfold InMemoryMemoryStore.TakesSummary SessionRows.TakesSummary
  have hcreated : r.store.sessions.contains step.1.session = true ↔
      (r.store.rowsOf step.1.session).session ≠ none := by
    rw [← not_iff_not, Bool.not_eq_true, not_not]
    exact InMemoryMemoryStore.contains_sessions
  cases step.1.op with
  | upsertSummary => rw [hcreated]; rfl
  | _ => simp

theorem change_of_ne (h : key ≠ step.1.session) : (r.next step).change key = [] :=
  if_neg (fun heq => h heq.symm)

/-- What the next call does to the summary of its session. -/
inductive SummaryStep (r : MemoryRun) (step : MemoryCall × Drawn) : Prop where
  | stored (s : MemorySummary) (takes : r.store.TakesSummary step.1)
      (version : s.version = summaryVersion (r.store.rowsOf step.1.session).summary + 1)
      (change : (r.next step).change step.1.session = [.stored step.1 s.version])
      (summary : (r.rowsAfter step step.1.session).summary = some s)
  | cleared (takes : ¬ r.store.TakesSummary step.1)
      (was : (r.store.rowsOf step.1.session).summary ≠ none)
      (change : (r.next step).change step.1.session = [.cleared])
      (summary : (r.rowsAfter step step.1.session).summary = none)
  | unchanged (takes : ¬ r.store.TakesSummary step.1)
      (change : (r.next step).change step.1.session = [])
      (summary : (r.rowsAfter step step.1.session).summary =
        (r.store.rowsOf step.1.session).summary)

theorem change_self : (r.next step).change step.1.session =
    match step.1.op, (r.next step).result with
    | .upsertSummary _ _ _ _, .ok (.summary (some s)) => [.stored step.1 s.version]
    | .clearSummary, .ok (.deleted true) => [.cleared]
    | _, _ => [] :=
  if_pos rfl

theorem summaryStep (r : MemoryRun) (step : MemoryCall × Drawn) : SummaryStep r step := by
  by_cases hvalid : validTenantId step.1.session.tenantId = true
  · have hcase := SessionRows.operate_summary (r.store.rowsOf step.1.session) step.1.session step.2
      step.1.op
    rw [← next_of_valid hvalid] at hcase
    cases hcase with
    | stored s takes version isOut =>
      obtain ⟨hresult, hrows⟩ := Prod.mk.inj isOut
      refine .stored s (takesSummary_iff.mpr ⟨hvalid, takes⟩) version ?_ (by rw [hrows])
      rw [change_self, hresult]
      unfold SessionRows.TakesSummary at takes
      cases hop : step.1.op with
      | upsertSummary => rfl
      | _ => rw [hop] at takes; exact takes.elim
    | cleared isOp was isOut =>
      obtain ⟨hresult, hrows⟩ := Prod.mk.inj isOut
      refine .cleared (fun h => ?_) was ?_ (by rw [hrows])
      · have htakes := (takesSummary_iff.mp h).2
        rw [isOp] at htakes
        exact htakes
      · rw [change_self, hresult, isOp]
    | unchanged takes summary upsert clear =>
      refine .unchanged (fun h => takes (takesSummary_iff.mp h).2) ?_ summary
      rw [change_self]
      cases hop : step.1.op with
      | upsertSummary text id model expected =>
        obtain ⟨e, he⟩ := upsert text id model expected hop
        have hresult : (r.next step).result = .error e := he
        rw [hresult]
      | clearSummary =>
        have hresult : (r.next step).result = .ok (.deleted false) := clear hop
        rw [hresult]
      | _ => rfl
  · obtain ⟨hresult, hrows⟩ := next_of_invalid r step.1.session hvalid
    refine .unchanged (fun h => hvalid (takesSummary_iff.mp h).1) ?_ (by rw [hrows])
    rw [change_self, hresult]
    cases step.1.op <;> rfl

theorem readVersion_next (h : (r.next step).readVersion key = some version) :
    version = summaryVersion (r.rowsAfter step key).summary := by
  unfold MemoryEvent.readVersion at h
  split_ifs at h with hkey
  have hkey : step.1.session = key := hkey
  subst hkey
  by_cases hvalid : validTenantId step.1.session.tenantId = true
  · have hout := next_of_valid (r := r) hvalid
    cases hresult : (r.next step).result with
    | error e => rw [hresult] at h; cases h
    | ok value =>
      rw [hresult] at h hout
      cases value with
      | summary s =>
        have hread := SessionRows.operate_read (congrArg Prod.fst hout).symm
        rw [← congrArg Prod.snd hout] at hread
        have hversion : summaryVersion s = version := Option.some.inj h
        rw [← hversion, ← hread]
      | _ => cases h
  · rw [(next_of_invalid r step.1.session hvalid).1] at h
    cases h

theorem wroteOver_next (h : (r.next step).WroteOver key version) :
    key = step.1.session ∧ r.store.TakesSummary step.1 ∧
      version = summaryVersion (r.store.rowsOf key).summary := by
  obtain ⟨hkey, ⟨text, id, model, hop⟩, value, hvalue⟩ := h
  have hkey : step.1.session = key := hkey
  have hop : step.1.op = .upsertSummary text id model (some version) := hop
  subst hkey
  by_cases hvalid : validTenantId step.1.session.tenantId = true
  · have hcase := SessionRows.operate_summary (r.store.rowsOf step.1.session) step.1.session step.2
      step.1.op
    rw [← next_of_valid hvalid] at hcase
    cases hcase with
    | stored s takes _ _ =>
      refine ⟨rfl, takesSummary_iff.mpr ⟨hvalid, takes⟩, ?_⟩
      rw [hop] at takes
      exact takes.2 version rfl
    | cleared isOp _ _ => rw [hop] at isOp; cases isOp
    | unchanged _ _ upsert _ =>
      obtain ⟨e, he⟩ := upsert text id model _ hop
      have hne : Except.ok value = Except.error e := hvalue.symm.trans he
      cases hne
  · rw [(next_of_invalid r step.1.session hvalid).1] at hvalue
    cases hvalue

end Step

/-! ## What holds in every run -/

theorem changes_append (key : SessionKey) (seen seen' : List MemoryEvent) :
    changes key (seen ++ seen') = changes key seen' ++ changes key seen := by
  simp [changes]

theorem changes_act (key : SessionKey) (r : MemoryRun) (step : MemoryCall × Drawn) :
    changes key (r.act step).seen = (r.next step).change key ++ changes key r.seen := by
  have hone : changes key [r.next step] = (r.next step).change key := by simp [changes]
  rw [← hone]
  exact changes_append key r.seen [r.next step]

/-- The version of a stored summary is that of its history. -/
structure HistoryInv (rows : SessionRows) (history : List (Change MemoryCall)) : Prop where
  current : summaryVersion rows.summary = currentVersion history
  positive : ∀ s, rows.summary = some s → 0 < s.version
  successive : Successive history
  effective : Effective history

theorem HistoryInv.nonneg {rows : SessionRows} {history : List (Change MemoryCall)}
    (h : HistoryInv rows history) : 0 ≤ summaryVersion rows.summary := by
  cases hsummary : rows.summary with
  | none => exact le_refl 0
  | some s => exact le_of_lt (h.positive s hsummary)

/-- The versions in the store are those of its history, and readers saw them. -/
structure FreshInv (r : MemoryRun) : Prop where
  history : ∀ key, HistoryInv (r.store.rowsOf key) (changes key r.seen)
  read : ∀ key version before e after, r.seen = before ++ e :: after →
    e.readVersion key = some version → version = currentVersion (changes key (before ++ [e]))

theorem FreshInv.start : FreshInv {} where
  history _ := ⟨rfl, fun _ h => (by cases h), trivial, trivial⟩
  read _ _ before _ _ h := by cases before <;> cases h

variable {r : MemoryRun} {step : MemoryCall × Drawn}

/-- What the next call keeps of the history of each session. -/
theorem FreshInv.history_act (h : FreshInv r) (step : MemoryCall × Drawn) (key : SessionKey) :
    HistoryInv (r.rowsAfter step key) (changes key (r.act step).seen) := by
  rw [changes_act]
  by_cases hkey : key = step.1.session
  · subst hkey
    have hold := h.history step.1.session
    cases summaryStep r step with
    | stored s takes version change summary =>
      have hnonneg := hold.nonneg
      rw [change]
      refine ⟨by rw [summary]; rfl, fun s' hs' => ?_, ⟨?_, hold.successive⟩, hold.effective⟩
      · rw [summary] at hs'
        cases hs'
        omega
      · rw [version, hold.current]
        rfl
    | cleared takes was change summary =>
      rw [change]
      refine ⟨by rw [summary]; rfl, fun s' hs' => ?_, hold.successive, ⟨?_, hold.effective⟩⟩
      · rw [summary] at hs'
        cases hs'
      · obtain ⟨s, hs⟩ := Option.ne_none_iff_exists'.mp was
        have hpos := hold.positive s hs
        have hcurrent := hold.current
        rw [hs] at hcurrent
        change currentVersion (changes step.1.session r.seen) ≠ 0
        rw [← hcurrent]
        exact ne_of_gt hpos
    | unchanged takes change summary =>
      rw [change]
      exact ⟨by rw [summary]; exact hold.current, fun s hs => hold.positive s (summary ▸ hs),
        hold.successive, hold.effective⟩
  · rw [change_of_ne hkey, rowsAfter_of_ne hkey]
    exact h.history key

/-- Where an event stands in a list that grew by one. -/
theorem snoc_eq_split {A : Type} {l before after : List A} {x e : A}
    (h : l ++ [x] = before ++ e :: after) :
    (after = [] ∧ before = l ∧ e = x) ∨ ∃ rest, after = rest ++ [x] ∧ l = before ++ e :: rest := by
  rcases List.eq_nil_or_concat after with rfl | ⟨rest, y, rfl⟩
  · obtain ⟨hl, hx⟩ := List.append_inj' h rfl
    exact .inl ⟨rfl, hl.symm, (List.cons.inj hx).1.symm⟩
  · rw [List.concat_eq_append, ← List.cons_append, ← List.append_assoc] at h
    obtain ⟨hl, hx⟩ := List.append_inj' h rfl
    cases hx
    exact .inr ⟨rest, List.concat_eq_append, hl⟩

theorem FreshInv.act (h : FreshInv r) (step : MemoryCall × Drawn) : FreshInv (r.act step) where
  history := h.history_act step
  read key version before e after hsplit hread := by
    rcases snoc_eq_split hsplit with ⟨rfl, rfl, rfl⟩ | ⟨rest, rfl, hseen⟩
    · have hversion := readVersion_next hread
      rw [hversion]
      exact (h.history_act step key).current
    · exact h.read key version before e rest hseen hread

/-! ## The theorem -/

theorem cleared_mem_iff (key : SessionKey) (seen : List MemoryEvent) :
    .cleared ∈ changes key seen ↔
      ∃ e ∈ seen, e.call = ⟨key, .clearSummary⟩ ∧ e.result = .ok (.deleted true) := by
  unfold changes
  rw [List.mem_flatMap]
  constructor
  · rintro ⟨⟨⟨session, op⟩, result⟩, he, hchange⟩
    refine ⟨_, List.mem_reverse.mp he, ?_⟩
    unfold MemoryEvent.change at hchange
    split at hchange
    next hkey =>
      have hkey : session = key := hkey
      subst hkey
      split at hchange
      · simp at hchange
      next hop hresult =>
        have hop : op = .clearSummary := hop
        exact ⟨by rw [hop], hresult⟩
      · cases hchange
    · cases hchange
  · rintro ⟨⟨call, result⟩, he, rfl, rfl⟩
    refine ⟨_, List.mem_reverse.mpr he, ?_⟩
    rw [MemoryEvent.change, if_pos rfl]
    exact List.mem_cons_self

theorem neverCleared_iff : NeverCleared r step ↔
    (r.store.TakesSummary step.1 → .cleared ∉ changes step.1.session r.seen) := by
  unfold NeverCleared
  rw [cleared_mem_iff]
  refine imp_congr_right fun _ => ?_
  simp only [not_exists, not_and]

theorem VersionsFresh.of_append {seen seen' : List MemoryEvent}
    (h : VersionsFresh (seen ++ seen')) : VersionsFresh seen where
  fresh key version before read between write after hsplit := by
    have hlong : seen ++ seen' = before ++ read :: (between ++ write :: (after ++ seen')) := by
      rw [hsplit]
      simp
    exact h.fresh key version before read between write _ hlong
  distinct key := by
    have hnodup := h.distinct key
    rw [changes_append, versions_append] at hnodup
    exact (List.nodup_append.mp hnodup).2.1

theorem mem_changes_of_mem {key : SessionKey} {seen : List MemoryEvent} {e : MemoryEvent}
    {c : Change MemoryCall} (he : e ∈ seen) (hc : c ∈ e.change key) : c ∈ changes key seen :=
  List.mem_flatMap.mpr ⟨e, List.mem_reverse.mpr he, hc⟩

/-- A write over a version that was read follows it at once, unless there was a clear. -/
theorem fresh_of_notCleared (h : FreshInv r) {key : SessionKey} {version : ℤ}
    {before between : List MemoryEvent} {read : MemoryEvent}
    (hsplit : r.seen = before ++ read :: between) (hread : read.readVersion key = some version)
    (hcurrent : version = summaryVersion (r.store.rowsOf key).summary)
    (hclear : .cleared ∉ changes key r.seen) : ∀ e ∈ between, e.change key = [] := by
  have hsplit' : r.seen = (before ++ [read]) ++ between := by rw [hsplit]; simp
  have hhistory : changes key r.seen = changes key between ++ changes key (before ++ [read]) := by
    rw [hsplit', changes_append]
  have hbefore := h.read key version before read between hsplit hread
  have hsucc := (h.history key).successive
  have hnow := (h.history key).current
  rw [hhistory] at hsucc hnow hclear
  have hnil : changes key between = [] := by
    by_contra hne
    have hlt := hsucc.lt_currentVersion (fun hmem => hclear (List.mem_append_left _ hmem)) hne
    omega
  intro e he
  by_contra hne
  obtain ⟨c, hc⟩ := List.exists_mem_of_ne_nil _ hne
  have hmem := mem_changes_of_mem he hc
  rw [hnil] at hmem
  cases hmem

theorem versionsFresh_act (h : FreshInv r) (step : MemoryCall × Drawn)
    (hgood : VersionsFresh r.seen) : VersionsFresh (r.act step).seen ↔ NeverCleared r step := by
  rw [neverCleared_iff]
  have hsucc := (h.history_act step step.1.session).successive
  have heffective := (h.history step.1.session).effective
  rw [changes_act] at hsucc
  constructor
  · intro hafter htakes
    have hdistinct := hafter.distinct step.1.session
    rw [changes_act] at hdistinct
    cases summaryStep r step with
    | stored s takes version change summary =>
      rw [change] at hdistinct hsucc
      exact ((versions_nodup_iff hsucc heffective).mp hdistinct).2
    | cleared takes => exact absurd htakes takes
    | unchanged takes => exact absurd htakes takes
  · intro hclear
    refine ⟨fun key version before read between write after hsplit hread hwrite => ?_,
      fun key => ?_⟩
    · rw [← List.cons_append, ← List.append_assoc] at hsplit
      rcases snoc_eq_split hsplit with ⟨rfl, hseen, rfl⟩ | ⟨rest, rfl, hseen⟩
      · obtain ⟨rfl, htakes, hversion⟩ := wroteOver_next hwrite
        exact fresh_of_notCleared h hseen.symm hread hversion (hclear htakes)
      · rw [List.append_assoc, List.cons_append] at hseen
        exact hgood.fresh key version before read between write rest hseen hread hwrite
    · rw [changes_act]
      by_cases hkey : key = step.1.session
      · subst hkey
        cases summaryStep r step with
        | stored s takes version change summary =>
          rw [change] at hsucc ⊢
          exact (versions_nodup_iff hsucc heffective).mpr ⟨hgood.distinct _, hclear takes⟩
        | cleared takes was change summary =>
          rw [change]
          exact hgood.distinct _
        | unchanged takes change summary =>
          rw [change]
          exact hgood.distinct _
      · rw [change_of_ne hkey]
        exact hgood.distinct key

/-- **The version of a summary says that nothing happened, and is not used twice, exactly in the
runs in which no summary is taken for a session that was cleared before.** -/
theorem versionsFresh_iff (steps : List (MemoryCall × Drawn)) :
    VersionsFresh (Runs.run MemoryRun.act {} steps).seen ↔
      Runs.Along MemoryRun.act NeverCleared {} steps := by
  have hrun := Runs.run_good_iff MemoryRun.act FreshInv (fun r => VersionsFresh r.seen)
    (fun r step h => h.act step) (fun r step _ h => h.of_append)
    (fun r step h hgood => versionsFresh_act h step hgood) steps {} FreshInv.start
  have hstart : VersionsFresh ({} : MemoryRun).seen :=
    ⟨fun _ _ before _ _ _ _ h => (by cases before <;> cases h), fun _ => List.nodup_nil⟩
  rw [hrun]
  exact ⟨fun h => h.2, fun h => ⟨hstart, h⟩⟩

/-- A worker reads version 1; the summary is cleared and written again; the worker writes over
version 1. -/
def clearedMeanwhile : List (MemoryCall × Drawn) :=
  let upsert (text : String) (expected : Option ℤ) : MemoryCall × Drawn :=
    (⟨⟨"acme", "s-1"⟩, .upsertSummary text none none expected⟩, ⟨text, 0⟩)
  let call (op : MemoryOp) : MemoryCall × Drawn := (⟨⟨"acme", "s-1"⟩, op⟩, ⟨"a", 0⟩)
  [call (.getOrCreateSession none none), upsert "old" none, call .getSummary, call .clearSummary,
    upsert "new" none, upsert "stale" (some 1)]

theorem stale_upsert_succeeds :
    ¬ VersionsFresh (Runs.run MemoryRun.act {} clearedMeanwhile).seen := by
  intro h
  have hwrite : ((Runs.run MemoryRun.act {} clearedMeanwhile).seen.getLast (by decide)).WroteOver
      ⟨"acme", "s-1"⟩ 1 :=
    ⟨rfl, ⟨"stale", none, none, rfl⟩, _, rfl⟩
  have hread : ((Runs.run MemoryRun.act {} clearedMeanwhile).seen.get ⟨2, by decide⟩).readVersion
      ⟨"acme", "s-1"⟩ = some 1 := rfl
  have hbetween := h.fresh _ _ (Runs.run MemoryRun.act {} (clearedMeanwhile.take 2)).seen _
    (((Runs.run MemoryRun.act {} clearedMeanwhile).seen.drop 3).take 2) _ [] rfl hread hwrite
  have hcleared := hbetween _ List.mem_cons_self
  cases hcleared

end ModelMeld
