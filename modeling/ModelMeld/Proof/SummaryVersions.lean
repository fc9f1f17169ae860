import ModelMeld.Lib.Runs
import ModelMeld.Proof.StoreSteps

/-!
# Summaries that several processes write

`upsert_summary` compares the expected version with the row it reads in one
transaction and writes in another, under a lock of its own process. The versions
of successive summaries count up, and a version is written once, exactly in the
runs in which, at every write, the version that was read is still the stored one
(`summaries_safe_iff`). What a call that raises leaves behind does not depend on
it: the database as it was.
-/

namespace ModelMeld

open Versioned

variable {calls : ℕ → StoreCall} {w : StoreWorld} {i : ℕ}

/-- A call that is about to write a summary has read the version there still is. -/
def VersionStands (calls : ℕ → StoreCall) (w : StoreWorld) (i : ℕ) : Prop :=
  ∀ existing ∈ summaryWrite (calls i).op (w.states i),
    versionOf existing = versionOf (w.db.getSummary (calls i).session)

instance (calls : ℕ → StoreCall) (w : StoreWorld) (i : ℕ) : Decidable (VersionStands calls w i) :=
  inferInstanceAs (Decidable (∀ existing ∈ summaryWrite (calls i).op (w.states i),
    versionOf existing = versionOf (w.db.getSummary (calls i).session)))

/-- Optimistic concurrency, as it stands in a state and for the next step of any call. -/
structure SummariesSafe (calls : ℕ → StoreCall) (w : StoreWorld) : Prop where
  /-- Every summary has the version after that of the one it replaced. -/
  successive : ∀ session, Successive (w.history session)
  /-- The latest change is what is stored. -/
  current : ∀ session, versionOf (w.db.getSummary session) = currentVersion (w.history session)
  /-- A call that succeeded stored the version it returned. -/
  succeeded : ∀ i value, (calls i).op.isUpsert = true → w.states i = .finished (.ok value) →
    ∃ s, value = .summary (some s) ∧ .stored i s.version ∈ w.history (calls i).session
  /-- Of the calls with one expected version, one succeeds before the next clear. -/
  once : ∀ session newer mid older i j m n expected,
    w.history session = newer ++ .stored i m :: (mid ++ .stored j n :: older) →
      (calls i).op.expectedVersion = some expected →
      (calls j).op.expectedVersion = some expected → .cleared ∈ mid
  /-- A call that raises has a reason to, and changes nothing. -/
  raised : ∀ i e, (calls i).op.isUpsert = true → (∀ result, w.states i ≠ .finished result) →
    (w.act calls i).states i = .finished (.error e) →
      (w.act calls i).db = w.db ∧ UpsertRaises (calls i) w.db e
  /-- A step that changes a summary is the last of a call that succeeds. -/
  changed : ∀ i session, (w.act calls i).db.getSummary session ≠ w.db.getSummary session →
    ∃ value, (w.act calls i).states i = .finished (.ok value)

/-! ## What a step does to the summaries -/

theorem UpsertQuiet.refl (call : StoreCall) (db : MemoryDb) (s : CallState) :
    UpsertQuiet call db s s where
  compared _ h := .inl h
  returned _ h := h
  raised _ h := .inl h

/-- A step that writes nothing to the summaries. -/
structure Untouched (calls : ℕ → StoreCall) (w : StoreWorld) (i : ℕ) : Prop where
  write : summaryWrite (calls i).op (w.states i) = none
  summaries : (w.act calls i).db.summaries = w.db.summaries
  history : (w.act calls i).history = w.history
  db : (calls i).op.isUpsert = true → (w.act calls i).db = w.db
  quiet : ∀ j, (calls j).op.isUpsert = true →
    UpsertQuiet (calls j) w.db (w.states j) ((w.act calls i).states j)

/-- A step that ends a call with a change of the summary of its session. -/
structure Changed (calls : ℕ → StoreCall) (w : StoreWorld) (i : ℕ) (value : StoreValue)
    (summary : Option Summary) (change : SummaryChange) : Prop where
  states : (w.act calls i).states = Function.update w.states i (.finished (.ok value))
  stored : ∀ session, (w.act calls i).db.getSummary session =
    if session = (calls i).session then summary else w.db.getSummary session
  history : (w.act calls i).history = Function.update w.history (calls i).session
    (change :: w.history (calls i).session)
  version : versionOf summary = currentVersion [change]

theorem act_summaries (calls : ℕ → StoreCall) (w : StoreWorld) (i : ℕ) :
    (∃ existing updated, summaryWrite (calls i).op (w.states i) = some existing ∧
        updated.version = versionOf existing + 1 ∧
        Changed calls w i (.summary (some updated)) (some updated)
          (.stored i (versionOf existing + 1))) ∨
      ((calls i).op = .clearSummary ∧ ∃ found, Changed calls w i (.deleted found) none .cleared) ∨
      Untouched calls w i := by
  rcases act_cases calls w i with ⟨hwait, hdb, hhistory, hlock⟩ | ⟨-, hdb, hstates, hhistory⟩
  · right; right
    refine ⟨by simp [summaryWrite, hwait], by rw [hdb], hhistory, fun _ => hdb, fun j _ => ?_⟩
    rcases hlock with hstates | hstates
    · rw [hstates]
      exact .refl _ _ _
    · rw [hstates]
      by_cases hji : j = i
      · subst hji
        rw [Function.update_self]
        exact ⟨by simp, by simp, by simp⟩
      · rw [Function.update_of_ne hji]
        exact .refl _ _ _
  · rcases callStep_summaries i (calls i) w.db (w.states i) with
      ⟨existing, updated, hwrite, hversion, hstep, hchange⟩ | ⟨hop, ⟨found, hstep⟩, hchange⟩ |
        ⟨hwrite, hsummaries, hchange, hquiet⟩
    · left
      refine ⟨existing, updated, hwrite, hversion, ?_, fun session => ?_, ?_, hversion⟩
      · rw [hstates, hstep]
      · rw [hdb, hstep]
        exact getSummary_putSummary _ _ _ _
      · rw [hhistory, hchange]
        rfl
    · right; left
      refine ⟨hop, found, ?_, fun session => ?_, ?_, rfl⟩
      · rw [hstates, hstep]
      · rw [hdb, hstep]
        exact getSummary_cleared _ _ _
      · rw [hhistory, hchange]
        rfl
    · right; right
      refine ⟨hwrite, by rw [hdb, hsummaries], ?_, fun hop => ?_, fun j hj => ?_⟩
      · rw [hhistory, hchange, List.nil_append, Function.update_eq_self]
      · rw [hdb, (hquiet hop).1]
      · by_cases hji : j = i
        · subst hji
          rw [hstates, Function.update_self]
          exact (hquiet hj).2
        · rw [act_states_of_ne hji]
          exact .refl _ _ _

theorem Untouched.getSummary (h : Untouched calls w i) (session : SessionKey) :
    (w.act calls i).db.getSummary session = w.db.getSummary session := by
  unfold MemoryDb.getSummary
  rw [h.summaries]

theorem Changed.history_of {value : StoreValue} {summary : Option Summary} {change : SummaryChange}
    (hc : Changed calls w i value summary change) (session : SessionKey) :
    (w.act calls i).history session =
      if session = (calls i).session then change :: w.history session else w.history session := by
  rw [hc.history]
  by_cases hsession : session = (calls i).session
  · subst hsession
    rw [Function.update_self, if_pos rfl]
  · rw [Function.update_of_ne hsession, if_neg hsession]

/-! ## What holds in every run -/

/-- The history is that of what is stored, by calls that compared the versions. -/
structure SummaryInv (calls : ℕ → StoreCall) (w : StoreWorld) : Prop where
  current : ∀ session, versionOf (w.db.getSummary session) = currentVersion (w.history session)
  compared : ∀ i existing, (calls i).op.isUpsert = true → w.states i = .puttingSummary existing →
    ∀ expected, (calls i).op.expectedVersion = some expected → expected = versionOf existing
  stored : ∀ session i n, .stored i n ∈ w.history session →
    ∀ expected, (calls i).op.expectedVersion = some expected → n = expected + 1
  succeeded : ∀ i value, (calls i).op.isUpsert = true → w.states i = .finished (.ok value) →
    ∃ s, value = .summary (some s) ∧ .stored i s.version ∈ w.history (calls i).session

theorem SummaryInv.start (calls : ℕ → StoreCall) : SummaryInv calls {} where
  current _ := rfl
  compared _ _ _ h := by cases h
  stored _ _ _ h := by cases h
  succeeded _ _ _ h := by cases h

/-- What a call that ends with a change keeps of the invariant. -/
theorem SummaryInv.changed {value : StoreValue} {summary : Option Summary} {change : SummaryChange}
    (h : SummaryInv calls w) (hc : Changed calls w i value summary change)
    (hstored : ∀ j n, change = .stored j n →
      ∀ expected, (calls j).op.expectedVersion = some expected → n = expected + 1)
    (hvalue : (calls i).op.isUpsert = true →
      ∃ s, value = .summary (some s) ∧ change = .stored i s.version) :
    SummaryInv calls (w.act calls i) := by
  have hgrow : ∀ session x, x ∈ w.history session → x ∈ (w.act calls i).history session := by
    intro session x hx
    rw [hc.history_of]
    split_ifs
    · exact List.mem_cons_of_mem _ hx
    · exact hx
  refine ⟨fun session => ?_, fun j existing hj hs => ?_, fun session j n hmem => ?_,
    fun j v hj hs => ?_⟩
  · rw [hc.stored, hc.history_of]
    split_ifs
    · rw [hc.version]
      cases change <;> rfl
    · exact h.current session
  · by_cases hji : j = i
    · subst hji
      rw [hc.states, Function.update_self] at hs
      cases hs
    · rw [act_states_of_ne hji] at hs
      exact h.compared j existing hj hs
  · rw [hc.history_of] at hmem
    split_ifs at hmem
    · rcases List.mem_cons.mp hmem with hnew | hold
      · exact hstored j n hnew.symm
      · exact h.stored session j n hold
    · exact h.stored session j n hmem
  · by_cases hji : j = i
    · subst hji
      rw [hc.states, Function.update_self] at hs
      cases hs
      obtain ⟨s, hvs, hchange⟩ := hvalue hj
      refine ⟨s, hvs, ?_⟩
      rw [hc.history, Function.update_self, hchange]
      exact List.mem_cons_self
    · rw [act_states_of_ne hji] at hs
      obtain ⟨s, hvs, hmem⟩ := h.succeeded j v hj hs
      exact ⟨s, hvs, hgrow _ _ hmem⟩

theorem summaryWrite_eq_some {op : StoreOp} {state : CallState} {existing : Option Summary} :
    summaryWrite op state = some existing ↔
      op.isUpsert = true ∧ state = .puttingSummary existing := by
  unfold summaryWrite
  split
  · simp [StoreOp.isUpsert]
  · rename_i hno
    simp only [reduceCtorEq, false_iff, not_and]
    intro hop hstate
    cases op with
    | upsertSummary freshId text last source expected => exact hno _ _ _ _ _ _ rfl hstate
    | _ => cases hop

theorem SummaryInv.act (h : SummaryInv calls w) (i : ℕ) : SummaryInv calls (w.act calls i) := by
  rcases act_summaries calls w i with ⟨existing, updated, hwrite, hversion, hc⟩ |
    ⟨hop, found, hc⟩ | hu
  · obtain ⟨hop, hs⟩ := summaryWrite_eq_some.mp hwrite
    refine h.changed hc ?_ fun _ => ⟨updated, rfl, by rw [hversion]⟩
    rintro j n ⟨⟩ expected hexpected
    rw [h.compared i existing hop hs expected hexpected]
  · refine h.changed hc (by simp) fun hup => ?_
    rw [hop] at hup
    cases hup
  · refine ⟨fun session => ?_, fun j existing hj hs => ?_, fun session j n hmem => ?_,
      fun j value hj hs => ?_⟩
    · rw [hu.getSummary, hu.history]
      exact h.current session
    · rcases (hu.quiet j hj).compared existing hs with hold | hcompared
      · exact h.compared j existing hj hold
      · exact hcompared
    · rw [hu.history] at hmem
      exact h.stored session j n hmem
    · rw [hu.history]
      exact h.succeeded j value hj ((hu.quiet j hj).returned value hs)

/-! ## When the versions count up -/

theorem SummaryInv.safe_iff (h : SummaryInv calls w) :
    SummariesSafe calls w ↔ ∀ session, Successive (w.history session) := by
  constructor
  · exact fun hsafe => hsafe.successive
  · intro hsuccessive
    refine ⟨hsuccessive, h.current, h.succeeded, ?_, ?_, ?_⟩
    · intro session newer mid older i j m n expected hhistory hi hj
      by_contra hmid
      have hm := h.stored session i m (by rw [hhistory]; simp) expected hi
      have hn := h.stored session j n (by rw [hhistory]; simp) expected hj
      have hlt : n < m := (hhistory ▸ hsuccessive session).lt_of_not_cleared hmid
      omega
    · intro i e hop hrunning hraised
      rcases act_summaries calls w i with ⟨existing, updated, -, -, hc⟩ | ⟨hclear, -⟩ | hu
      · rw [hc.states, Function.update_self] at hraised
        cases hraised
      · rw [hclear] at hop
        cases hop
      · refine ⟨hu.db hop, ?_⟩
        rcases (hu.quiet i hop).raised e hraised with hold | hreason
        · exact absurd hold (hrunning _)
        · exact hreason
    · intro i session hne
      rcases act_summaries calls w i with ⟨existing, updated, -, -, hc⟩ | ⟨-, found, hc⟩ | hu
      · exact ⟨_, by rw [hc.states, Function.update_self]⟩
      · exact ⟨_, by rw [hc.states, Function.update_self]⟩
      · exact absurd (hu.getSummary session) hne

/-- The versions of a longer history count up only if those of the shorter one do. -/
theorem successive_before
    (h : ∀ session, Successive ((w.act calls i).history session)) (session : SessionKey) :
    Successive (w.history session) := by
  have hnow := h session
  rcases act_summaries calls w i with ⟨existing, updated, -, -, hc⟩ | ⟨-, found, hc⟩ | hu
  · rw [hc.history_of] at hnow
    split_ifs at hnow
    · exact hnow.2
    · exact hnow
  · rw [hc.history_of] at hnow
    split_ifs at hnow
    · exact hnow
    · exact hnow
  · rwa [hu.history] at hnow

/-- A step keeps the versions counting up exactly when it writes on the version that stands. -/
theorem SummaryInv.successive_step (h : SummaryInv calls w)
    (hgood : ∀ session, Successive (w.history session)) :
    (∀ session, Successive ((w.act calls i).history session)) ↔ VersionStands calls w i := by
  rcases act_summaries calls w i with ⟨existing, updated, hwrite, -, hc⟩ | ⟨hop, found, hc⟩ | hu
  · constructor
    · intro hnow read hread
      obtain rfl : existing = read := Option.some.inj (hwrite.symm.trans hread)
      have hsession := hnow (calls i).session
      rw [hc.history_of, if_pos rfl] at hsession
      have hnext : versionOf existing + 1 = currentVersion (w.history (calls i).session) + 1 :=
        hsession.1
      rw [h.current]
      omega
    · intro hstands session
      rw [hc.history_of]
      split_ifs with hsession
      · subst hsession
        have hread := hstands existing hwrite
        rw [h.current] at hread
        exact ⟨by rw [hread], hgood _⟩
      · exact hgood session
  · constructor
    · intro _ read hread
      obtain ⟨hup, -⟩ := summaryWrite_eq_some.mp hread
      rw [hop] at hup
      cases hup
    · intro _ session
      rw [hc.history_of]
      split_ifs
      · exact hgood session
      · exact hgood session
  · constructor
    · intro _ read hread
      rw [hu.write] at hread
      cases hread
    · intro _ session
      rw [hu.history]
      exact hgood session

/-- **Optimistic concurrency holds in a run exactly when every summary is written on the version
that stands.** -/
theorem summaries_safe_iff (calls : ℕ → StoreCall) (es : List ℕ) :
    SummariesSafe calls (Runs.run (StoreWorld.act calls) {} es) ↔
      Runs.Along (StoreWorld.act calls) (VersionStands calls) {} es := by
  have hinv : SummaryInv calls (Runs.run (StoreWorld.act calls) {} es) :=
    Runs.run_invariant (StoreWorld.act calls) (SummaryInv calls) (P := fun _ _ => True)
      (fun w i h _ => h.act i) es {} (.start calls) (Runs.along_of_forall (fun _ _ => trivial) es _)
  have hrun := Runs.run_good_iff (StoreWorld.act calls) (P := VersionStands calls)
    (SummaryInv calls) (fun w => ∀ session, Successive (w.history session))
    (fun w i h => h.act i) (fun w i _ => successive_before)
    (fun w i h hgood => h.successive_step hgood) es {} (.start calls)
  rw [hinv.safe_iff, hrun]
  exact and_iff_right fun _ => trivial

/-- One call to create a session, and a summary of it from each of two processes, both on version
0. -/
def twoSummarizers : ℕ → StoreCall
  | 0 => ⟨0, ⟨"acme", "s-1"⟩, .getOrCreateSession {}⟩
  | 1 => ⟨0, ⟨"acme", "s-1"⟩, .upsertSummary "summary-1" "They greet." (some "turn-1") none (some 0)⟩
  | _ => ⟨1, ⟨"acme", "s-1"⟩, .upsertSummary "summary-2" "A greeting." (some "turn-1") none (some 0)⟩

/-- Both processes read version 0 before either writes, and both succeed. -/
theorem version_stored_twice :
    ¬ SummariesSafe twoSummarizers (Runs.run (StoreWorld.act twoSummarizers) {}
      [0, 0, 0, 0, 1, 1, 1, 1, 2, 2, 2, 2, 1, 2]) := by
  intro hsafe
  have htwice : (Runs.run (StoreWorld.act twoSummarizers) {}
      [0, 0, 0, 0, 1, 1, 1, 1, 2, 2, 2, 2, 1, 2]).history ⟨"acme", "s-1"⟩ =
        [.stored 2 1, .stored 1 1] := by decide
  have hcleared := hsafe.once ⟨"acme", "s-1"⟩ [] [] [] 2 1 1 1 0 htwice rfl rfl
  cases hcleared

theorem summaries_safe_in_turn :
    SummariesSafe twoSummarizers (Runs.run (StoreWorld.act twoSummarizers) {}
      [0, 0, 0, 0, 1, 1, 1, 1, 1, 2, 2, 2, 2]) ∧
    (Runs.run (StoreWorld.act twoSummarizers) {} [0, 0, 0, 0, 1, 1, 1, 1, 1, 2, 2, 2, 2]).states 2 =
      .finished (.error (.versionMismatch 0 1)) :=
  ⟨(summaries_safe_iff twoSummarizers [0, 0, 0, 0, 1, 1, 1, 1, 1, 2, 2, 2, 2]).2
    (by decide), by decide⟩

end ModelMeld
