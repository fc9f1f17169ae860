import ModelMeld.Lib.Slots
import ModelMeld.Spec.Postgres

/-!
# Steps of the SQL store

What a statement does to the turns and to the summary of a session, and what one
step of a call can do. The rows of the turns of a session are a log written by
index (`put_numbered`): the index of a row is its key, its sort index and its
place in `list_turns`.
-/

namespace ModelMeld

open Slots

/-! ## The rows of a session -/

theorem turnKey_injective : Function.Injective turnKey := by
  have hread : ∀ n, Nat.ofDigitChars 10 (turnKey n).toList 0 = n := by
    intro n
    unfold turnKey List.leftpad
    rw [String.toList_ofList, Nat.ofDigitChars_append, Nat.ofDigitChars_replicate_zero,
      Nat.mul_zero, Nat.toList_repr, Nat.ofDigitChars_ten_toDigits]
  intro m n h
  rw [← hread m, ← hread n, h]

/-- The rows of a log from an index on. -/
def numberedFrom {V : Type} (session : SessionKey) : ℕ → List V → List (DocKey × DocRow V)
  | _, [] => []
  | j, v :: vs => (⟨session, turnKey j⟩, ⟨j, v⟩) :: numberedFrom session (j + 1) vs

variable {V : Type} {session other : SessionKey} {log : List V} {docs : DocTable V}

theorem numberedFrom_append (session : SessionKey) (j : ℕ) (vs ws : List V) :
    numberedFrom session j (vs ++ ws) =
      numberedFrom session j vs ++ numberedFrom session (j + vs.length) ws := by
  induction vs generalizing j with
  | nil => simp [numberedFrom]
  | cons v vs ih =>
    have hj : j + 1 + vs.length = j + (vs.length + 1) := by omega
    simp only [List.cons_append, numberedFrom, ih, List.length_cons, hj]

theorem map_payload_numberedFrom (j : ℕ) (log : List V) :
    (numberedFrom session j log).map (fun row => row.2.payload) = log := by
  induction log generalizing j with
  | nil => rfl
  | cons v log ih => simp [numberedFrom, ih]

theorem le_of_mem_numberedFrom {j : ℕ} {row : DocKey × DocRow V}
    (h : row ∈ numberedFrom session j log) :
    j ≤ row.2.sortIdx ∧ row.2.sortIdx < j + log.length ∧ row.1 = ⟨session, turnKey row.2.sortIdx⟩ := by
  induction log generalizing j with
  | nil => simp [numberedFrom] at h
  | cons v log ih =>
    rw [numberedFrom, List.mem_cons] at h
    rcases h with rfl | h
    · simp
    · have := ih h
      simp only [List.length_cons]
      exact ⟨by omega, by omega, this.2.2⟩

theorem pairwise_numberedFrom (j : ℕ) (log : List V) :
    (numberedFrom session j log).Pairwise DocTable.RowLe := by
  induction log generalizing j with
  | nil => exact List.Pairwise.nil
  | cons v log ih =>
    rw [numberedFrom, List.pairwise_cons]
    refine ⟨fun row hrow => ?_, ih (j + 1)⟩
    have hlater := le_of_mem_numberedFrom hrow
    exact .inl (by simp only; omega)

/-- The key of an index is not among the rows before it. -/
theorem turnKey_not_mem_numberedFrom {i j : ℕ} (h : j + log.length ≤ i) :
    (⟨session, turnKey i⟩ : DocKey) ∉ (numberedFrom session j log).map Prod.fst := by
  rw [List.mem_map]
  rintro ⟨row, hrow, hkey⟩
  obtain ⟨-, hlt, hrowkey⟩ := le_of_mem_numberedFrom hrow
  rw [hrowkey, DocKey.mk.injEq] at hkey
  have := turnKey_injective hkey.2
  omega

/-- The rows of a session hold a log. -/
def Numbered (docs : DocTable V) (session : SessionKey) (log : List V) : Prop :=
  docs.rows session = numberedFrom session 0 log

/-- `_list` returns the log. -/
theorem Numbered.list (h : Numbered docs session log) : docs.list session = log := by
  unfold DocTable.list
  rw [h, (pairwise_numberedFrom 0 log).insertionSort_eq, map_payload_numberedFrom]

theorem rows_put (docs : DocTable V) (session other : SessionKey) (key : String) (i : ℕ) (v : V) :
    (docs.put session key i v).rows other =
      if session = other then OrderedDict.setEntry ⟨session, key⟩ ⟨i, v⟩ (docs.rows other)
      else docs.rows other := by
  have h := OrderedDict.filter_setEntry (fun k : DocKey => decide (k.session = other))
    (⟨session, key⟩ : DocKey) (⟨i, v⟩ : DocRow V) docs.entries
  simpa [DocTable.put, DocTable.rows, OrderedDict.insert] using h

theorem setEntry_numbered {i : ℕ} (h : i ≤ log.length) (v : V) :
    OrderedDict.setEntry ⟨session, turnKey i⟩ ⟨i, v⟩ (numberedFrom session 0 log) =
      numberedFrom session 0 (writeAt log i v) := by
  rcases Nat.lt_or_eq_of_le h with hlt | rfl
  · have hlen : (log.take i).length = i := by
      rw [List.length_take]
      omega
    rw [writeAt_of_lt hlt]
    conv_lhs => rw [log_split hlt, numberedFrom_append, hlen]
    rw [OrderedDict.setEntry_append _ _ (turnKey_not_mem_numberedFrom (by omega)),
      numberedFrom_append, hlen]
    simp [numberedFrom, OrderedDict.setEntry]
  · have hkey : (⟨session, turnKey log.length⟩ : DocKey) ∉
        (numberedFrom session 0 log).map Prod.fst := turnKey_not_mem_numberedFrom (by omega)
    have hnew := OrderedDict.setEntry_append (⟨log.length, v⟩ : DocRow V) [] hkey
    rw [List.append_nil] at hnew
    rw [writeAt_length, hnew, numberedFrom_append]
    simp [numberedFrom, OrderedDict.setEntry]

/-- **`_put` at an index writes the log at the index.** -/
theorem put_numbered {i : ℕ} (h : Numbered docs session log) (hi : i ≤ log.length) (v : V) :
    Numbered (docs.put session (turnKey i) i v) session (writeAt log i v) := by
  unfold Numbered
  rw [rows_put, if_pos rfl, h, setEntry_numbered hi]

theorem put_numbered_other {i : ℕ} {key : String} {v : V} (hne : session ≠ other)
    (h : Numbered docs other log) : Numbered (docs.put session key i v) other log := by
  unfold Numbered
  rw [rows_put, if_neg hne, h]

/-! ## One step of a call -/

variable {calls : ℕ → StoreCall} {w : StoreWorld} {call : StoreCall} {db : MemoryDb} {i : ℕ}

/-- A step either has the lock's business alone, or is a statement. -/
theorem act_cases (calls : ℕ → StoreCall) (w : StoreWorld) (i : ℕ) :
    (w.states i = .waiting ∧ (w.act calls i).db = w.db ∧ (w.act calls i).history = w.history ∧
      ((w.act calls i).states = w.states ∨
        (w.act calls i).states = Function.update w.states i .requiring)) ∨
      (w.states i ≠ .waiting ∧
        (w.act calls i).db = (callStep (calls i) w.db (w.states i)).2 ∧
        (w.act calls i).states =
          Function.update w.states i (callStep (calls i) w.db (w.states i)).1 ∧
        (w.act calls i).history = Function.update w.history (calls i).session
          (summaryChange i (calls i) (w.states i) ++ w.history (calls i).session)) := by
  unfold StoreWorld.act
  split
  · rename_i hwait
    left
    dsimp only
    cases hlock : w.lock (calls i).worker with
    | none => exact ⟨hwait, rfl, rfl, .inr rfl⟩
    | some holder => exact ⟨hwait, rfl, rfl, .inl rfl⟩
  · rename_i hwait
    exact .inr ⟨fun h => hwait h, rfl, rfl, rfl⟩

/-- A step moves no other call. -/
theorem act_states_of_ne {j : ℕ} (hne : j ≠ i) : (w.act calls i).states j = w.states j := by
  rcases act_cases calls w i with ⟨-, -, -, hstates | hstates⟩ | ⟨-, -, hstates, -⟩
  · rw [hstates]
  · rw [hstates, Function.update_of_ne hne]
  · rw [hstates, Function.update_of_ne hne]

/-- What a call waits for after a step that writes no turn. -/
structure TurnsQuiet (call : StoreCall) (db : MemoryDb) (s : CallState)
    (moved : CallState × MemoryDb) : Prop where
  kept : moved.2.turns = db.turns
  counted : ∀ turnIdx, moved.1 = .puttingTurn turnIdx →
    s = .puttingTurn turnIdx ∨ turnIdx = db.turnCount call.session
  returned : ∀ turn result, call.op = .appendTurn turn → moved.1 = .finished (.ok result) →
    s = .finished (.ok result)

theorem beginCall_turns (call : StoreCall) (db : MemoryDb) :
    TurnsQuiet call db .started (beginCall call db) := by
  unfold beginCall
  cases hop : call.op with
  | getOrCreateSession data =>
    cases db.getSession call.session with
    | none => exact ⟨rfl, by simp, by simp⟩
    | some found => exact ⟨rfl, by simp, by simp [hop]⟩
  | setFact fact =>
    refine ⟨rfl, ?_, by simp [hop]⟩
    intro turnIdx h
    dsimp only at h
    split_ifs at h
  | _ => exact ⟨rfl, by simp, by simp [hop]⟩

theorem afterRequire_turns (call : StoreCall) (db : MemoryDb) :
    TurnsQuiet call db .requiring (afterRequire call (db.getSession call.session), db) := by
  unfold afterRequire
  cases hop : call.op with
  | getOrCreateSession data =>
    cases db.getSession call.session with
    | none => exact ⟨rfl, by simp, by simp⟩
    | some found => exact ⟨rfl, by simp, by simp [hop]⟩
  | _ =>
    cases db.getSession call.session with
    | none => exact ⟨rfl, by simp, by simp⟩
    | some found => exact ⟨rfl, by simp, by simp⟩

theorem afterSummary_turns (call : StoreCall) (db : MemoryDb) (existing : Option Summary) :
    TurnsQuiet call db .readingSummary (afterSummary call existing, db) := by
  unfold afterSummary
  split
  · split_ifs
    · exact ⟨rfl, by simp, by simp⟩
    · exact ⟨rfl, by simp, by simp⟩
  · exact ⟨rfl, by simp, by simp⟩

/-- A step writes the turn of an `append_turn` that waits for it and returns it, or writes no
turn. -/
theorem callStep_turns (call : StoreCall) (db : MemoryDb) (s : CallState) :
    (∃ turnIdx turn, s = .puttingTurn turnIdx ∧ call.op = .appendTurn turn ∧
        callStep call db s =
          (.finished (.ok (.turn turn)), db.putTurn call.session turnIdx turn)) ∨
      (TurnsQuiet call db s (callStep call db s) ∧
        ∀ turnIdx turn, s = .puttingTurn turnIdx → call.op ≠ .appendTurn turn) := by
  cases s with
  | puttingTurn turnIdx =>
    cases hop : call.op with
    | appendTurn turn => exact .inl ⟨turnIdx, turn, rfl, rfl, by simp only [callStep, hop]⟩
    | _ =>
      right
      simp only [callStep, hop]
      exact ⟨⟨rfl, fun _ h => .inl h, by simp⟩, by simp⟩
  | started =>
    right
    refine ⟨?_, by simp⟩
    by_cases htenant : validTenantId call.session.tenantId = true
    · simp only [callStep, htenant, if_true]
      exact beginCall_turns call db
    · simp only [callStep, if_neg htenant]
      exact ⟨rfl, by simp, by simp⟩
  | requiring => exact .inr ⟨afterRequire_turns call db, by simp⟩
  | readingSummary => exact .inr ⟨afterSummary_turns call db _, by simp⟩
  | puttingSummary existing =>
    right
    refine ⟨?_, by simp⟩
    cases hop : call.op with
    | upsertSummary freshId text last source expected =>
      simp only [callStep, hop]
      exact ⟨rfl, by simp, by simp [hop]⟩
    | _ =>
      simp only [callStep, hop]
      exact ⟨rfl, by simp, by simp⟩
  | puttingSession =>
    right
    refine ⟨?_, by simp⟩
    cases hop : call.op with
    | getOrCreateSession data =>
      simp only [callStep, hop]
      exact ⟨rfl, by simp, by simp [hop]⟩
    | _ =>
      simp only [callStep, hop]
      exact ⟨rfl, by simp, by simp⟩
  | puttingFact =>
    right
    refine ⟨?_, by simp⟩
    cases hop : call.op with
    | setFact fact =>
      simp only [callStep, hop]
      exact ⟨rfl, by simp, by simp [hop]⟩
    | _ =>
      simp only [callStep, hop]
      exact ⟨rfl, by simp, by simp⟩
  | waiting => exact .inr ⟨⟨rfl, by simp [callStep], by simp [callStep]⟩, by simp⟩
  | counting =>
    right
    refine ⟨⟨rfl, ?_, by simp [callStep]⟩, by simp⟩
    rintro turnIdx ⟨⟩
    exact .inr rfl
  | finished result => exact .inr ⟨⟨rfl, fun _ h => .inl h, fun _ _ _ h => h⟩, by simp⟩

/-! ## The summary of a session -/

theorem getSummary_putSummary (db : MemoryDb) (session other : SessionKey) (summary : Summary) :
    (db.putSummary session summary).getSummary other =
      if other = session then some summary else db.getSummary other := by
  unfold MemoryDb.getSummary MemoryDb.putSummary DocTable.get DocTable.put
  rw [OrderedDict.get?_insert]
  by_cases h : other = session
  · simp [h]
  · simp [h]

theorem getSummary_cleared (db : MemoryDb) (session other : SessionKey) :
    ({ db with summaries := (db.summaries.delete session "_").2 } : MemoryDb).getSummary other =
      if other = session then none else db.getSummary other := by
  unfold MemoryDb.getSummary DocTable.get DocTable.delete
  rw [OrderedDict.get?_erase]
  by_cases h : other = session
  · simp [h]
  · simp [h]

/-- The version an `upsert_summary` expects; `none` when it expects none, or for another call. -/
def StoreOp.expectedVersion : StoreOp → Option ℤ
  | .upsertSummary _ _ _ _ expected => expected
  | _ => none

def StoreOp.isUpsert : StoreOp → Bool
  | .upsertSummary _ _ _ _ _ => true
  | _ => false

/-- The summary on which a call that waits for it is going to build the next one. -/
def summaryWrite (op : StoreOp) (state : CallState) : Option (Option Summary) :=
  match op, state with
  | .upsertSummary _ _ _ _ _, .puttingSummary existing => some existing
  | _, _ => none

/-- Why a call of `upsert_summary` raises at a step. -/
inductive UpsertRaises (call : StoreCall) (db : MemoryDb) : StoreError → Prop where
  | tenant (h : validTenantId call.session.tenantId = false) : UpsertRaises call db .invalidTenantId
  | lookup (h : db.getSession call.session = none) : UpsertRaises call db .lookupError
  | mismatch {expected : ℤ} (hop : call.op.expectedVersion = some expected)
      (hne : expected ≠ versionOf (db.getSummary call.session)) :
      UpsertRaises call db (.versionMismatch expected (versionOf (db.getSummary call.session)))

/-- What a call of `upsert_summary` waits for after a step that writes nothing. -/
structure UpsertQuiet (call : StoreCall) (db : MemoryDb) (s s' : CallState) : Prop where
  /-- It goes on to write only after it has compared the versions. -/
  compared : ∀ existing, s' = .puttingSummary existing → s = .puttingSummary existing ∨
    ∀ expected, call.op.expectedVersion = some expected → expected = versionOf existing
  returned : ∀ value, s' = .finished (.ok value) → s = .finished (.ok value)
  raised : ∀ e, s' = .finished (.error e) →
    s = .finished (.error e) ∨ UpsertRaises call db e

theorem afterSummary_quiet {existing : Option Summary} (hread : existing = db.getSummary call.session)
    (hop : call.op.isUpsert = true) :
    UpsertQuiet call db .readingSummary (afterSummary call existing) := by
  subst hread
  unfold afterSummary
  split
  · rename_i expected hcall
    have hexpected : call.op.expectedVersion = some expected := by rw [hcall]; rfl
    split_ifs with hne
    · refine ⟨by simp, by simp, ?_⟩
      rintro e ⟨⟩
      exact .inr (.mismatch hexpected hne)
    · refine ⟨?_, by simp, by simp⟩
      rintro existing ⟨⟩
      right
      intro expected' hexpected'
      have : expected = expected' := Option.some.inj (hexpected.symm.trans hexpected')
      omega
  · rename_i hcall
    refine ⟨?_, by simp, by simp⟩
    rintro existing ⟨⟩
    right
    intro expected hexpected
    cases hop' : call.op with
    | upsertSummary freshId text last source expected' =>
      rw [hop'] at hexpected
      obtain rfl : expected' = some expected := hexpected
      exact absurd hop' (hcall _ _ _ _ _)
    | _ => simp [hop', StoreOp.isUpsert] at hop

/-- A call of `upsert_summary` writes nothing before it puts the summary. -/
theorem callStep_upsert_quiet {s : CallState} (hop : call.op.isUpsert = true)
    (hs : summaryWrite call.op s = none) :
    (callStep call db s).2 = db ∧ UpsertQuiet call db s (callStep call db s).1 := by
  obtain ⟨freshId, text, last, source, expected, hcall⟩ :
      ∃ freshId text last source expected,
        call.op = .upsertSummary freshId text last source expected := by
    cases h : call.op with
    | upsertSummary freshId text last source expected => exact ⟨_, _, _, _, _, rfl⟩
    | _ => simp [h, StoreOp.isUpsert] at hop
  cases s with
  | started =>
    by_cases htenant : validTenantId call.session.tenantId = true
    · simp only [callStep, htenant, if_true, beginCall, hcall]
      exact ⟨trivial, by simp, by simp, by simp⟩
    · have hinvalid : validTenantId call.session.tenantId = false := by simpa using htenant
      simp only [callStep, if_neg htenant]
      refine ⟨trivial, by simp, by simp, ?_⟩
      rintro e ⟨⟩
      exact .inr (.tenant hinvalid)
  | requiring =>
    refine ⟨rfl, ?_⟩
    cases hfound : db.getSession call.session with
    | none =>
      simp only [callStep, afterRequire, hcall, hfound]
      refine ⟨by simp, by simp, ?_⟩
      rintro e ⟨⟩
      exact .inr (.lookup hfound)
    | some data =>
      simp only [callStep, afterRequire, hcall, hfound]
      exact ⟨by simp, by simp, by simp⟩
  | readingSummary => exact ⟨rfl, afterSummary_quiet rfl hop⟩
  | puttingSummary existing => simp [summaryWrite, hcall] at hs
  | waiting => exact ⟨rfl, by simp [callStep], by simp [callStep], by simp [callStep]⟩
  | counting => exact ⟨rfl, by simp [callStep], by simp [callStep], by simp [callStep]⟩
  | puttingTurn turnIdx =>
    simp only [callStep, hcall]
    exact ⟨trivial, by simp, by simp, by simp⟩
  | puttingSession =>
    simp only [callStep, hcall]
    exact ⟨trivial, by simp, by simp, by simp⟩
  | puttingFact =>
    simp only [callStep, hcall]
    exact ⟨trivial, by simp, by simp, by simp⟩
  | finished result =>
    exact ⟨rfl, by simp [callStep], fun _ h => h, fun _ h => .inl h⟩

/-- Only `upsert_summary` and `clear_summary` touch the summaries. -/
theorem callStep_other_summaries {s : CallState} (hop : call.op.isUpsert = false)
    (hclear : ¬ (validTenantId call.session.tenantId = true ∧ call.op = .clearSummary ∧
      s = .started)) :
    (callStep call db s).2.summaries = db.summaries := by
  cases s with
  | started =>
    by_cases htenant : validTenantId call.session.tenantId = true
    · simp only [callStep, htenant, if_true]
      cases hcall : call.op with
      | getOrCreateSession data =>
        simp only [beginCall, hcall]
        split <;> rfl
      | clearSummary => exact absurd ⟨htenant, hcall, rfl⟩ hclear
      | _ => simp only [beginCall, hcall]
    · simp only [callStep, if_neg htenant]
  | puttingTurn turnIdx => cases hcall : call.op <;> simp [callStep, hcall, MemoryDb.putTurn]
  | puttingSession => cases hcall : call.op <;> simp [callStep, hcall, MemoryDb.putSession]
  | puttingFact => cases hcall : call.op <;> simp [callStep, hcall, MemoryDb.putFact]
  | puttingSummary existing =>
    cases hcall : call.op <;> simp [callStep, hcall, StoreOp.isUpsert] at hop ⊢
  | waiting => rfl
  | requiring => rfl
  | counting => rfl
  | readingSummary => rfl
  | finished result => rfl

theorem summaryChange_eq_nil {s : CallState} (hwrite : summaryWrite call.op s = none)
    (hclear : ¬ (validTenantId call.session.tenantId = true ∧ call.op = .clearSummary ∧
      s = .started)) : summaryChange i call s = [] := by
  cases s with
  | started =>
    unfold summaryChange
    rw [if_neg (fun h => hclear ⟨h.1, h.2, rfl⟩)]
  | puttingSummary existing =>
    cases hcall : call.op with
    | upsertSummary freshId text last source expected => simp [summaryWrite, hcall] at hwrite
    | _ => simp only [summaryChange, hcall]
  | _ => rfl

/-- What the step of a call can do to the summaries. -/
theorem callStep_summaries (i : ℕ) (call : StoreCall) (db : MemoryDb) (s : CallState) :
    (∃ existing updated, summaryWrite call.op s = some existing ∧
        updated.version = versionOf existing + 1 ∧
        callStep call db s =
          (.finished (.ok (.summary (some updated))), db.putSummary call.session updated) ∧
        summaryChange i call s = [.stored i (versionOf existing + 1)]) ∨
      (call.op = .clearSummary ∧
        (∃ found, callStep call db s = (.finished (.ok (.deleted found)),
          { db with summaries := (db.summaries.delete call.session "_").2 })) ∧
        summaryChange i call s = [.cleared]) ∨
      (summaryWrite call.op s = none ∧ (callStep call db s).2.summaries = db.summaries ∧
        summaryChange i call s = [] ∧
        (call.op.isUpsert = true → (callStep call db s).2 = db ∧
          UpsertQuiet call db s (callStep call db s).1)) := by
  cases hwrite : summaryWrite call.op s with
  | some existing =>
    left
    unfold summaryWrite at hwrite
    split at hwrite
    · rename_i freshId text last source expected read hcall
      obtain rfl : read = existing := Option.some.inj hwrite
      exact ⟨read, SessionMemory.nextSummary read freshId text last source [], rfl, rfl,
        by simp only [callStep, hcall], by simp only [summaryChange, hcall]⟩
    · cases hwrite
  | none =>
    right
    by_cases hclear : validTenantId call.session.tenantId = true ∧ call.op = .clearSummary ∧
        s = .started
    · obtain ⟨htenant, hcall, rfl⟩ := hclear
      left
      exact ⟨hcall, ⟨(db.summaries.delete call.session "_").1,
        by simp only [callStep, htenant, if_true, beginCall, hcall]⟩,
        by simp [summaryChange, htenant, hcall]⟩
    · right
      refine ⟨rfl, ?_, summaryChange_eq_nil hwrite hclear,
        fun hop => callStep_upsert_quiet hop hwrite⟩
      by_cases hop : call.op.isUpsert = true
      · rw [(callStep_upsert_quiet hop hwrite).1]
      · exact callStep_other_summaries (by simpa using hop) hclear

end ModelMeld
