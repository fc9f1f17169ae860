import ModelMeld.Lib.Runs
import ModelMeld.Proof.StoreSteps

/-!
# Turns that several processes append

`append_turn` counts the rows in one transaction and writes at that index in
another, under a lock of its own process. A write at an index below the number
of rows replaces a row that another process has returned. So no returned turn is
lost in a run exactly when, at every write, the count that was read still stands
(`turns_kept_iff`).
-/

namespace ModelMeld

open Slots

variable {calls : ℕ → StoreCall} {w : StoreWorld} {i : ℕ}

/-- `uuid4` draws no turn id twice. -/
def TurnIdsDistinct (calls : ℕ → StoreCall) : Prop :=
  ∀ i j turn turn', (calls i).op = .appendTurn turn → (calls j).op = .appendTurn turn' →
    turn.turnId = turn'.turnId → i = j

/-- The `append_turn` call returned its turn. -/
def Returned (calls : ℕ → StoreCall) (w : StoreWorld) (i : ℕ) (turn : LoggedTurn) : Prop :=
  (calls i).op = .appendTurn turn ∧ w.states i = .finished (.ok (.turn turn))

/-- Every turn a call returned is in the log of its session once. -/
def TurnsKept (calls : ℕ → StoreCall) (w : StoreWorld) : Prop :=
  ∀ i turn, Returned calls w i turn → (w.db.listTurns (calls i).session none).count turn = 1

/-- The index at which a call that waits for it is going to write a turn. -/
def turnWrite (op : StoreOp) (state : CallState) : Option ℕ :=
  match op, state with
  | .appendTurn _, .puttingTurn turnIdx => some turnIdx
  | _, _ => none

/-- A call that is about to write a turn has read the number of turns there still are. -/
def CountStands (calls : ℕ → StoreCall) (w : StoreWorld) (i : ℕ) : Prop :=
  ∀ turnIdx ∈ turnWrite (calls i).op (w.states i), turnIdx = w.db.turnCount (calls i).session

instance (calls : ℕ → StoreCall) (w : StoreWorld) (i : ℕ) : Decidable (CountStands calls w i) :=
  inferInstanceAs (Decidable (∀ turnIdx ∈ turnWrite (calls i).op (w.states i),
    turnIdx = w.db.turnCount (calls i).session))

theorem turnWrite_eq_some {op : StoreOp} {state : CallState} {turnIdx : ℕ} :
    turnWrite op state = some turnIdx ↔
      (∃ turn, op = .appendTurn turn) ∧ state = .puttingTurn turnIdx := by
  unfold turnWrite
  split <;> simp_all

/-! ## What a step does to the log -/

theorem finished_stays {result : Except StoreError StoreValue} {j : ℕ}
    (h : w.states j = .finished result) : (w.act calls i).states j = .finished result := by
  by_cases hj : j = i
  · subst hj
    rcases act_cases calls w j with ⟨hwait, -⟩ | ⟨-, -, hstates, -⟩
    · rw [hwait] at h
      cases h
    · rw [hstates, Function.update_self, h]
      rfl
  · rw [act_states_of_ne hj, h]

/-- A step writes a turn and returns it, or leaves the turns alone. -/
theorem act_turns (calls : ℕ → StoreCall) (w : StoreWorld) (i : ℕ) :
    (∃ turnIdx turn, w.states i = .puttingTurn turnIdx ∧ (calls i).op = .appendTurn turn ∧
        (w.act calls i).db.turns =
          w.db.turns.put (calls i).session (turnKey turnIdx) turnIdx turn ∧
        (w.act calls i).states = Function.update w.states i (.finished (.ok (.turn turn)))) ∨
      ((w.act calls i).db.turns = w.db.turns ∧
        (∀ turnIdx turn, w.states i = .puttingTurn turnIdx → (calls i).op ≠ .appendTurn turn) ∧
        (∀ j turnIdx, (w.act calls i).states j = .puttingTurn turnIdx →
          w.states j = .puttingTurn turnIdx ∨ turnIdx = w.db.turnCount (calls j).session) ∧
        ∀ j turn, Returned calls (w.act calls i) j turn → Returned calls w j turn) := by
  rcases act_cases calls w i with ⟨hwait, hdb, -, hlock⟩ | ⟨-, hdb, hstates, -⟩
  · -- the lock's business alone
    have hsame : ∀ j s, s ≠ .requiring → (w.act calls i).states j = s → w.states j = s := by
      intro j s hs hj
      rcases hlock with hstates | hstates
      · rwa [hstates] at hj
      · rw [hstates] at hj
        by_cases hji : j = i
        · subst hji
          rw [Function.update_self] at hj
          exact absurd hj.symm hs
        · rwa [Function.update_of_ne hji] at hj
    right
    refine ⟨by rw [hdb], by simp [hwait], fun j turnIdx hj => .inl (hsame j _ (by simp) hj), ?_⟩
    rintro j turn ⟨hop, hj⟩
    exact ⟨hop, hsame j _ (by simp) hj⟩
  · rcases callStep_turns (calls i) w.db (w.states i) with
      ⟨turnIdx, turn, hs, hop, hstep⟩ | ⟨hquiet, hno⟩
    · left
      refine ⟨turnIdx, turn, hs, hop, ?_, ?_⟩
      · rw [hdb, hstep]
        rfl
      · rw [hstates, hstep]
    · right
      refine ⟨by rw [hdb, hquiet.kept], hno, ?_, ?_⟩
      · intro j turnIdx hj
        by_cases hji : j = i
        · subst hji
          rw [hstates, Function.update_self] at hj
          exact hquiet.counted turnIdx hj
        · rw [act_states_of_ne hji] at hj
          exact .inl hj
      · rintro j turn ⟨hop, hj⟩
        by_cases hji : j = i
        · subst hji
          rw [hstates, Function.update_self] at hj
          exact ⟨hop, hquiet.returned turn _ hop hj⟩
        · rw [act_states_of_ne hji] at hj
          exact ⟨hop, hj⟩

/-! ## What holds in every run -/

/-- The log of each session holds turns that were returned, each once, and no call that waits to
write read a count above the number there is. -/
structure LogInv (calls : ℕ → StoreCall) (w : StoreWorld) : Prop where
  numbered : ∀ session, Numbered w.db.turns session (w.db.turns.list session)
  indexed : ∀ i turnIdx, w.states i = .puttingTurn turnIdx →
    turnIdx ≤ w.db.turnCount (calls i).session
  returned : ∀ session turn, turn ∈ w.db.turns.list session →
    ∃ i, Returned calls w i turn ∧ (calls i).session = session
  distinct : ∀ session, (w.db.turns.list session).Nodup

theorem LogInv.start (calls : ℕ → StoreCall) : LogInv calls {} where
  numbered _ := rfl
  indexed _ _ h := by cases h
  returned _ _ h := by
    have hempty : ∀ session, DocTable.list (.empty : DocTable LoggedTurn) session = [] :=
      fun _ => rfl
    rw [hempty] at h
    cases h
  distinct _ := List.nodup_nil

theorem Returned.stays {turn : LoggedTurn} {j : ℕ} (h : Returned calls w j turn) :
    Returned calls (w.act calls i) j turn :=
  ⟨h.1, finished_stays h.2⟩

/-- The logs after a write: that of the session is written at the index, the others stay. -/
theorem LogInv.list_put (h : LogInv calls w) {turnIdx : ℕ} {turn : LoggedTurn}
    (hs : w.states i = .puttingTurn turnIdx)
    (hturns : (w.act calls i).db.turns =
      w.db.turns.put (calls i).session (turnKey turnIdx) turnIdx turn) (session : SessionKey) :
    (w.act calls i).db.turns.list session =
      if (calls i).session = session then writeAt (w.db.turns.list session) turnIdx turn
      else w.db.turns.list session := by
  rw [hturns]
  by_cases hsession : (calls i).session = session
  · subst hsession
    rw [if_pos rfl]
    exact (put_numbered (h.numbered _) (h.indexed i turnIdx hs) turn).list
  · rw [if_neg hsession]
    exact (put_numbered_other hsession (h.numbered session)).list

/-- The turn of a call that has not returned is in no log. -/
theorem LogInv.not_mem (h : LogInv calls w) (hids : TurnIdsDistinct calls) {turn : LoggedTurn}
    {turnIdx : ℕ} (hop : (calls i).op = .appendTurn turn) (hs : w.states i = .puttingTurn turnIdx)
    (session : SessionKey) : turn ∉ w.db.turns.list session := by
  intro hmem
  obtain ⟨j, hj, -⟩ := h.returned session turn hmem
  have hij : i = j := hids i j turn turn hop hj.1 rfl
  subst hij
  rw [hj.2] at hs
  cases hs

theorem LogInv.act (h : LogInv calls w) (hids : TurnIdsDistinct calls) (i : ℕ) :
    LogInv calls (w.act calls i) := by
  rcases act_turns calls w i with ⟨turnIdx, turn, hs, hop, hturns, hstates⟩ |
    ⟨hturns, -, hputting, -⟩
  · have hlist := h.list_put hs hturns
    have hnew : ∀ session, turn ∉ w.db.turns.list session := h.not_mem hids hop hs
    have hi : Returned calls (w.act calls i) i turn := by
      refine ⟨hop, ?_⟩
      rw [hstates, Function.update_self]
    refine ⟨fun session => ?_, fun j jIdx hj => ?_, fun session x hx => ?_, fun session => ?_⟩
    · rw [hlist, hturns]
      split_ifs with hsession
      · subst hsession
        exact put_numbered (h.numbered _) (h.indexed i turnIdx hs) turn
      · exact put_numbered_other hsession (h.numbered session)
    · -- a log does not get shorter
      have hold : w.states j = .puttingTurn jIdx := by
        by_cases hji : j = i
        · subst hji
          rw [hstates, Function.update_self] at hj
          cases hj
        · rwa [act_states_of_ne hji] at hj
      have hle := h.indexed j jIdx hold
      have hgrow := length_le_writeAt (w.db.turns.list (calls j).session) turnIdx turn
      unfold MemoryDb.turnCount at hle ⊢
      rw [hlist]
      split_ifs <;> omega
    · rw [hlist] at hx
      split_ifs at hx with hsession
      · rcases mem_of_mem_writeAt hx with rfl | hmem
        · exact ⟨i, hi, hsession⟩
        · obtain ⟨j, hj, hjs⟩ := h.returned session x hmem
          exact ⟨j, hj.stays, hjs⟩
      · obtain ⟨j, hj, hjs⟩ := h.returned session x hx
        exact ⟨j, hj.stays, hjs⟩
    · rw [hlist]
      split_ifs
      · exact nodup_writeAt (h.distinct session) (hnew session)
      · exact h.distinct session
  · refine ⟨fun session => ?_, fun j turnIdx hj => ?_, fun session x hx => ?_, fun session => ?_⟩
    · rw [hturns]
      exact h.numbered session
    · unfold MemoryDb.turnCount
      rw [hturns]
      rcases hputting j turnIdx hj with hold | hcount
      · exact h.indexed j turnIdx hold
      · exact le_of_eq hcount
    · rw [hturns] at hx
      obtain ⟨j, hj, hjs⟩ := h.returned session x hx
      exact ⟨j, hj.stays, hjs⟩
    · rw [hturns]
      exact h.distinct session

/-! ## When the returned turns are kept -/

theorem LogInv.kept_iff (h : LogInv calls w) :
    TurnsKept calls w ↔
      ∀ i turn, Returned calls w i turn → turn ∈ w.db.turns.list (calls i).session := by
  refine forall_congr' fun i => forall_congr' fun turn => imp_congr_right fun _ => ?_
  change (w.db.turns.list (calls i).session).count turn = 1 ↔ _
  constructor
  · intro hcount
    exact List.count_pos_iff.mp (by omega)
  · intro hmem
    exact List.count_eq_one_of_mem (h.distinct _) hmem

/-- A turn that is lost stays lost: the call that would write it has returned. -/
theorem LogInv.kept_before (h : LogInv calls w) (hids : TurnIdsDistinct calls)
    (hkept : TurnsKept calls (w.act calls i)) : TurnsKept calls w := by
  rw [(h.act hids i).kept_iff] at hkept
  rw [h.kept_iff]
  intro j x hj
  have hmem := hkept j x hj.stays
  rcases act_turns calls w i with ⟨turnIdx, turn, hs, hop, hturns, -⟩ | ⟨hturns, -, -, -⟩
  · rw [h.list_put hs hturns] at hmem
    split_ifs at hmem
    · rcases mem_of_mem_writeAt hmem with rfl | hold
      · have hij : i = j := hids i j x x hop hj.1 rfl
        subst hij
        rw [hj.2] at hs
        cases hs
      · exact hold
    · exact hmem
  · rwa [hturns] at hmem

/-- A step keeps the returned turns exactly when it writes at the count that stands. -/
theorem LogInv.kept_step (h : LogInv calls w) (hids : TurnIdsDistinct calls)
    (hkept : TurnsKept calls w) : TurnsKept calls (w.act calls i) ↔ CountStands calls w i := by
  rw [(h.act hids i).kept_iff]
  rw [h.kept_iff] at hkept
  rcases act_turns calls w i with ⟨turnIdx, turn, hs, hop, hturns, hstates⟩ |
    ⟨hturns, hno, -, hreturned⟩
  · have hlist := h.list_put hs hturns
    have hle : turnIdx ≤ (w.db.turns.list (calls i).session).length := h.indexed i turnIdx hs
    constructor
    · intro hkept' turnIdx' hwrite
      obtain ⟨-, hs'⟩ := turnWrite_eq_some.mp hwrite
      rw [hs'] at hs
      cases hs
      by_contra hne
      have hlt : turnIdx < (w.db.turns.list (calls i).session).length :=
        lt_of_le_of_ne hle hne
      -- the call whose turn stood at the index has returned it
      obtain ⟨j, hj, hjs⟩ := h.returned _ _ (List.getElem_mem hlt)
      have hmem := hkept' j _ hj.stays
      rw [hjs, hlist, if_pos rfl] at hmem
      exact not_mem_writeAt_of_lt (h.distinct _) (h.not_mem hids hop hs' _) hlt hmem
    · intro hstands j x hj
      have hcount : turnIdx = (w.db.turns.list (calls i).session).length :=
        hstands turnIdx (turnWrite_eq_some.mpr ⟨⟨turn, hop⟩, hs⟩)
      rw [hlist]
      by_cases hji : j = i
      · subst hji
        have hx : x = turn := by
          have := hj.1
          rw [hop] at this
          cases this
          rfl
        rw [if_pos rfl, hx]
        exact mem_writeAt_self _ _ _
      · have hold : Returned calls w j x := by
          refine ⟨hj.1, ?_⟩
          have := hj.2
          rwa [act_states_of_ne hji] at this
        have hmem := hkept j x hold
        split_ifs with hsession
        · rw [hcount, hsession]
          exact mem_writeAt_length hmem
        · exact hmem
  · constructor
    · intro _ turnIdx hwrite
      obtain ⟨⟨turn, hop⟩, hs⟩ := turnWrite_eq_some.mp hwrite
      exact absurd hop (hno turnIdx turn hs)
    · intro _ j x hj
      rw [hturns]
      exact hkept j x (hreturned j x hj)

/-- `list_turns` of whichever instance returns the log of the database. -/
theorem listTurns_returns (calls : ℕ → StoreCall) {w : StoreWorld} {reader : ℕ} {limit : Option ℤ}
    (hop : (calls reader).op = .listTurns limit)
    (htenant : validTenantId (calls reader).session.tenantId = true)
    (hs : w.states reader = .started) :
    (w.act calls reader).states reader =
      .finished (.ok (.turns (w.db.listTurns (calls reader).session limit))) := by
  rcases act_cases calls w reader with ⟨hwait, -⟩ | ⟨-, -, hstates, -⟩
  · rw [hs] at hwait
    cases hwait
  · rw [hstates, Function.update_self, hs]
    simp only [callStep, htenant, if_true, beginCall, hop]

/-- **No returned turn is lost in a run exactly when every write is at the count that stands; and
`list_turns` of every instance returns the one log.** -/
theorem turns_kept_iff (calls : ℕ → StoreCall) (hids : TurnIdsDistinct calls) (es : List ℕ) :
    let w := Runs.run (StoreWorld.act calls) {} es
    (TurnsKept calls w ↔ Runs.Along (StoreWorld.act calls) (CountStands calls) {} es) ∧
      ∀ reader limit, (calls reader).op = .listTurns limit →
        validTenantId (calls reader).session.tenantId = true → w.states reader = .started →
          (w.act calls reader).states reader =
            .finished (.ok (.turns (w.db.listTurns (calls reader).session limit))) := by
  intro w
  refine ⟨?_, fun reader limit hop htenant hs => listTurns_returns calls hop htenant hs⟩
  have hstart : TurnsKept calls {} := fun i turn hi => absurd hi.2 (by simp)
  have hrun := Runs.run_good_iff (StoreWorld.act calls) (LogInv calls) (TurnsKept calls)
    (fun w i h => h.act hids i) (fun w i h => h.kept_before hids)
    (fun w i h hkept => h.kept_step hids hkept) es {} (.start calls)
  rw [hrun]
  exact and_iff_right hstart

/-- One call to create a session, and then a call to append to it from each of two processes. -/
def twoWorkers : ℕ → StoreCall
  | 0 => ⟨0, ⟨"acme", "s-1"⟩, .getOrCreateSession {}⟩
  | 1 => ⟨0, ⟨"acme", "s-1"⟩, .appendTurn { turnId := "turn-1", role := .user, content := "hi" }⟩
  | 2 => ⟨1, ⟨"acme", "s-1"⟩,
      .appendTurn { turnId := "turn-2", role := .assistant, content := "hello" }⟩
  | _ => ⟨1, ⟨"acme", "s-1"⟩, .listTurns none⟩

theorem turnIdsDistinct_twoWorkers : TurnIdsDistinct twoWorkers := by
  intro i j turn turn' hi hj hids
  match i, j with
  | 1, 1 => rfl
  | 2, 2 => rfl
  | 1, 2 => cases hi; cases hj; simp at hids
  | 2, 1 => cases hi; cases hj; simp at hids
  | 0, _ => cases hi
  | _ + 3, _ => cases hi
  | 1, 0 => cases hj
  | 2, 0 => cases hj
  | 1, _ + 3 => cases hj
  | 2, _ + 3 => cases hj

/-- Both processes count no turn before either writes. -/
theorem returned_turn_lost :
    TurnIdsDistinct twoWorkers ∧
      ¬ TurnsKept twoWorkers (Runs.run (StoreWorld.act twoWorkers) {}
        [0, 0, 0, 0, 1, 1, 1, 1, 2, 2, 2, 2, 1, 2]) := by
  refine ⟨turnIdsDistinct_twoWorkers, ?_⟩
  intro hkept
  have hcount := hkept 1 { turnId := "turn-1", role := .user, content := "hi" }
    ⟨rfl, by decide⟩
  revert hcount
  decide

theorem turns_kept_in_turn :
    TurnsKept twoWorkers (Runs.run (StoreWorld.act twoWorkers) {}
      [0, 0, 0, 0, 1, 1, 1, 1, 1, 2, 2, 2, 2, 2]) :=
  (turns_kept_iff twoWorkers turnIdsDistinct_twoWorkers
    [0, 0, 0, 0, 1, 1, 1, 1, 1, 2, 2, 2, 2, 2]).1.2 (by decide)

end ModelMeld
