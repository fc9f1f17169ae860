import Mathlib.Logic.Function.Basic
import ModelMeld.Lib.Runs
import ModelMeld.Spec.InMemory

/-!
# A memory store as one record for each session

What a `MemoryStore` is for: every session of a tenant has a record of its own,
with its row, its turns in the order they came, its facts by their keys and its
summary, and an operation reads and writes the record of the session it names.
The in-memory store is such a store (`perform_rowsOf`).

* `Recorded`: what an operation answers and leaves, as a relation;
* `perform_rowsOf`: a call on the in-memory store, seen on the records.
-/

namespace ModelMeld

/-- The record of one session. -/
structure SessionRows where
  session : Option MemorySession := none
  turns : List MemoryTurn := []
  facts : OrderedDict String MemoryFact := .empty
  summary : Option MemorySummary := none

namespace SessionRows

/-- The operations on a record that a session must have been created for. -/
def whenCreated (rows : SessionRows) (f : Except MemoryRaised MemoryValue × SessionRows) :
    Except MemoryRaised MemoryValue × SessionRows :=
  if rows.session = none then (.error .lookupError, rows) else f

/-- An operation on the record of its session. -/
def operate (rows : SessionRows) (key : SessionKey) (drawn : Drawn) :
    MemoryOp → Except MemoryRaised MemoryValue × SessionRows
  | .getOrCreateSession userId metadata =>
    let session := rows.session.getD (newSession key drawn userId metadata)
    (.ok (.session (some session)), { rows with session := some session })
  | .getSession => (.ok (.session rows.session), rows)
  | .appendTurn role content tokenCount modelUsed =>
    let turn := newTurn key drawn role content tokenCount modelUsed
    rows.whenCreated (.ok (.turn turn), { rows with turns := rows.turns ++ [turn] })
  | .listTurns limit => (.ok (.turns (lastTurns rows.turns limit)), rows)
  | .turnCount => (.ok (.count rows.turns.length), rows)
  | .setFact name value source confidence =>
    let fact := newFact key drawn name value source confidence
    rows.whenCreated
      (if 0 ≤ confidence ∧ confidence ≤ 1 then
        (.ok (.fact fact), { rows with facts := rows.facts.insert name fact })
      else (.error .valueError, rows))
  | .getFacts => (.ok (.facts rows.facts.values), rows)
  | .deleteFact name =>
    (.ok (.deleted (rows.facts.contains name)), { rows with facts := rows.facts.erase name })
  | .getSummary => (.ok (.summary rows.summary), rows)
  | .upsertSummary text lastAppliedTurnId sourceModel expectedVersion =>
    let version := summaryVersion rows.summary
    let updated := newSummary key drawn rows.summary text lastAppliedTurnId sourceModel
    rows.whenCreated
      (if expectedVersion.getD version = version then
        (.ok (.summary (some updated)), { rows with summary := some updated })
      else (.error (.versionMismatch (expectedVersion.getD version) version), rows))
  | .clearSummary =>
    (.ok (.deleted rows.summary.isSome), { rows with summary := none })

end SessionRows

/-- The records of all sessions. -/
abbrev SessionRecords := SessionKey → SessionRows

/-- A call on the records. -/
def SessionRecords.perform (w : SessionRecords) (call : MemoryCall) (drawn : Drawn) :
    Except MemoryRaised MemoryValue × SessionRecords :=
  if validTenantId call.session.tenantId then
    let out := (w call.session).operate call.session drawn call.op
    (out.1, Function.update w call.session out.2)
  else (.error .invalidTenantId, w)

theorem SessionRecords.perform_of_ne {w : SessionRecords} {call : MemoryCall} {drawn : Drawn}
    {key : SessionKey} (h : key ≠ call.session) : (w.perform call drawn).2 key = w key := by
  unfold SessionRecords.perform
  split
  · exact Function.update_of_ne h _ _
  · rfl

/-! ## The in-memory store -/

namespace InMemoryMemoryStore

variable {s : InMemoryMemoryStore} {key : SessionKey}

/-- The record of a session. -/
def rowsOf (s : InMemoryMemoryStore) (key : SessionKey) : SessionRows where
  session := s.sessions.get? key
  turns := s.turnsOf key
  facts := s.factsOf key
  summary := s.summaries.get? key

@[simp] theorem lockFor_sessions : (s.lockFor key).sessions = s.sessions := by
  unfold lockFor; split <;> rfl

@[simp] theorem lockFor_turns : (s.lockFor key).turns = s.turns := by
  unfold lockFor; split <;> rfl

@[simp] theorem lockFor_facts : (s.lockFor key).facts = s.facts := by
  unfold lockFor; split <;> rfl

@[simp] theorem lockFor_summaries : (s.lockFor key).summaries = s.summaries := by
  unfold lockFor; split <;> rfl

@[simp] theorem rowsOf_lockFor : (s.lockFor key).rowsOf = s.rowsOf := by
  funext k
  simp [rowsOf, turnsOf, factsOf]

theorem contains_sessions : s.sessions.contains key = false ↔ (s.rowsOf key).session = none := by
  simp [OrderedDict.contains, rowsOf]

/-! ### Writes, on the records -/

variable (s key) in
theorem rowsOf_sessions (row : MemorySession) :
    rowsOf { s with sessions := s.sessions.insert key row } =
      Function.update s.rowsOf key { s.rowsOf key with session := some row } := by
  funext k
  by_cases hk : k = key
  · subst hk; simp [rowsOf, turnsOf, factsOf]
  · simp [rowsOf, turnsOf, factsOf, OrderedDict.get?_insert, hk]

variable (s key) in
theorem rowsOf_turns (turns : List MemoryTurn) :
    rowsOf { s with turns := s.turns.insert key turns } =
      Function.update s.rowsOf key { s.rowsOf key with turns := turns } := by
  funext k
  by_cases hk : k = key
  · subst hk; simp [rowsOf, turnsOf, factsOf, OrderedDict.getD]
  · simp [rowsOf, turnsOf, factsOf, OrderedDict.getD,
      OrderedDict.get?_insert, hk]

variable (s key) in
theorem rowsOf_facts (facts : OrderedDict String MemoryFact) :
    rowsOf { s with facts := s.facts.insert key facts } =
      Function.update s.rowsOf key { s.rowsOf key with facts := facts } := by
  funext k
  by_cases hk : k = key
  · subst hk; simp [rowsOf, turnsOf, factsOf, OrderedDict.getD]
  · simp [rowsOf, turnsOf, factsOf, OrderedDict.getD,
      OrderedDict.get?_insert, hk]

variable (s key) in
theorem rowsOf_summaries (row : MemorySummary) :
    rowsOf { s with summaries := s.summaries.insert key row } =
      Function.update s.rowsOf key { s.rowsOf key with summary := some row } := by
  funext k
  by_cases hk : k = key
  · subst hk; simp [rowsOf, turnsOf, factsOf]
  · simp [rowsOf, turnsOf, factsOf, OrderedDict.get?_insert, hk]

variable (s key) in
theorem rowsOf_summaries_erase :
    rowsOf { s with summaries := s.summaries.erase key } =
      Function.update s.rowsOf key { s.rowsOf key with summary := none } := by
  funext k
  by_cases hk : k = key
  · subst hk; simp [rowsOf, turnsOf, factsOf, OrderedDict.get?_erase]
  · simp [rowsOf, turnsOf, factsOf, OrderedDict.get?_erase, hk]

/-! ### The operations -/

/-- What an operation of the store answers and leaves is what the record's does. -/
def Follows {A : Type} (s : InMemoryMemoryStore) (key : SessionKey) (out : A × InMemoryMemoryStore)
    (abstract : A × SessionRows) : Prop :=
  out.1 = abstract.1 ∧ out.2.rowsOf = Function.update s.rowsOf key abstract.2

theorem follows_unchanged {A : Type} {out : A × InMemoryMemoryStore}
    {abstract : A × SessionRows} (hout : out.1 = abstract.1) (hrows : out.2.rowsOf = s.rowsOf)
    (habstract : abstract.2 = s.rowsOf key) : Follows s key out abstract := by
  refine ⟨hout, ?_⟩
  rw [hrows, habstract, Function.update_eq_self]

theorem getOrCreateSession_follows (userId : Option String)
    (metadata : Option (OrderedDict String String)) (drawn : Drawn) :
    Follows s key (s.operate key drawn (.getOrCreateSession userId metadata))
      ((s.rowsOf key).operate key drawn (.getOrCreateSession userId metadata)) := by
  simp only [operate, SessionRows.operate, getOrCreateSession, lockFor_sessions]
  cases hget : s.sessions.get? key with
  | some existing =>
    have hrow : (s.rowsOf key).session = some existing := hget
    apply follows_unchanged
    · simp [hrow]
    · simp
    · rw [hrow, Option.getD_some, ← hrow]
  | none =>
    have hrow : (s.rowsOf key).session = none := hget
    refine ⟨by simp [hrow], ?_⟩
    have hwrite := rowsOf_sessions (s.lockFor key) key
      (newSession key drawn userId metadata)
    rw [lockFor_sessions, rowsOf_lockFor] at hwrite
    simpa [hrow] using hwrite

theorem deleteFact_follows (name : String) (drawn : Drawn) :
    Follows s key (s.operate key drawn (.deleteFact name))
      ((s.rowsOf key).operate key drawn (.deleteFact name)) := by
  simp only [operate, SessionRows.operate, deleteFact, lockFor_facts]
  have hfacts : (s.rowsOf key).facts = s.facts.getD key .empty := rfl
  cases hget : s.facts.get? key with
  | none =>
    have hempty : (s.rowsOf key).facts = .empty := by rw [hfacts, OrderedDict.getD, hget]; rfl
    apply follows_unchanged
    · simp [hempty, OrderedDict.contains]
    · simp
    · rw [OrderedDict.erase_of_not_contains (by simp [hempty, OrderedDict.contains])]
  | some facts =>
    have hsome : (s.rowsOf key).facts = facts := by rw [hfacts, OrderedDict.getD, hget]; rfl
    cases hname : facts.contains name with
    | false =>
      apply follows_unchanged
      · simp [hsome, hname]
      · simp [hname]
      · rw [OrderedDict.erase_of_not_contains (by rw [hsome, hname])]
    | true =>
      have hwrite := rowsOf_facts (s.lockFor key) key (facts.erase name)
      rw [lockFor_facts, rowsOf_lockFor] at hwrite
      exact ⟨by simp [hsome, hname], by simpa [hsome, hname] using hwrite⟩

theorem clearSummary_follows (drawn : Drawn) :
    Follows s key (s.operate key drawn .clearSummary)
      ((s.rowsOf key).operate key drawn .clearSummary) := by
  simp only [operate, SessionRows.operate, clearSummary, lockFor_summaries]
  have hsummary : s.summaries.contains key = (s.rowsOf key).summary.isSome := rfl
  cases hget : (s.rowsOf key).summary with
  | none =>
    apply follows_unchanged
    · simp [hsummary, hget]
    · simp [hsummary, hget]
    · simp [← hget]
  | some row =>
    have hwrite := rowsOf_summaries_erase (s.lockFor key) key
    rw [lockFor_summaries, rowsOf_lockFor] at hwrite
    exact ⟨by simp [hsummary, hget], by simpa [hsummary, hget] using hwrite⟩

/-- The three writes that a session must have been created for. -/
theorem follows_whenCreated {A : Type} {f : A → MemoryValue}
    {out taken : Except MemoryRaised A × InMemoryMemoryStore}
    {abstract : Except MemoryRaised MemoryValue × SessionRows}
    (hout : out = if (s.lockFor key).sessions.contains key = false then
      (.error .lookupError, s.lockFor key) else taken)
    (h : Follows s key (taken.1.map f, taken.2) abstract) :
    Follows s key (out.1.map f, out.2) ((s.rowsOf key).whenCreated abstract) := by
  unfold SessionRows.whenCreated
  subst hout
  rw [lockFor_sessions]
  by_cases hcreated : (s.rowsOf key).session = none
  · rw [if_pos hcreated, if_pos (contains_sessions.mpr hcreated)]
    exact follows_unchanged rfl rowsOf_lockFor rfl
  · rw [if_neg hcreated, if_neg (fun h => hcreated (contains_sessions.mp h))]
    exact h

theorem appendTurn_follows (role : Role) (content : String) (tokenCount : ℤ)
    (modelUsed : Option String) (drawn : Drawn) :
    Follows s key (s.operate key drawn (.appendTurn role content tokenCount modelUsed))
      ((s.rowsOf key).operate key drawn (.appendTurn role content tokenCount modelUsed)) := by
  apply follows_whenCreated rfl
  refine ⟨rfl, ?_⟩
  have hturns : (s.lockFor key).turnsOf key = (s.rowsOf key).turns := by simp [turnsOf, rowsOf]
  have hwrite := rowsOf_turns (s.lockFor key) key
    ((s.rowsOf key).turns ++ [newTurn key drawn role content tokenCount modelUsed])
  rw [rowsOf_lockFor] at hwrite
  rw [hturns]
  exact hwrite

theorem setFact_follows (name value source : String) (confidence : ℚ) (drawn : Drawn) :
    Follows s key (s.operate key drawn (.setFact name value source confidence))
      ((s.rowsOf key).operate key drawn (.setFact name value source confidence)) := by
  apply follows_whenCreated rfl
  by_cases hconfidence : 0 ≤ confidence ∧ confidence ≤ 1
  · rw [if_neg (not_not.mpr hconfidence), if_pos hconfidence]
    refine ⟨rfl, ?_⟩
    have hfacts : (s.lockFor key).factsOf key = (s.rowsOf key).facts := by simp [factsOf, rowsOf]
    have hwrite := rowsOf_facts (s.lockFor key) key
      (((s.rowsOf key).facts).insert name (newFact key drawn name value source confidence))
    rw [rowsOf_lockFor] at hwrite
    rw [hfacts]
    exact hwrite
  · rw [if_pos hconfidence, if_neg hconfidence]
    exact follows_unchanged rfl rowsOf_lockFor rfl

theorem upsertSummary_follows (text : String) (lastAppliedTurnId sourceModel : Option String)
    (expectedVersion : Option ℤ) (drawn : Drawn) :
    Follows s key
      (s.operate key drawn (.upsertSummary text lastAppliedTurnId sourceModel expectedVersion))
      ((s.rowsOf key).operate key drawn
        (.upsertSummary text lastAppliedTurnId sourceModel expectedVersion)) := by
  apply follows_whenCreated rfl
  have hsummary : (s.lockFor key).summaries.get? key = (s.rowsOf key).summary := by simp [rowsOf]
  rw [hsummary]
  by_cases hversion : expectedVersion.getD (summaryVersion (s.rowsOf key).summary) =
      summaryVersion (s.rowsOf key).summary
  · rw [if_neg (not_not.mpr hversion), if_pos hversion]
    refine ⟨rfl, ?_⟩
    have hwrite := rowsOf_summaries (s.lockFor key) key
      (newSummary key drawn (s.rowsOf key).summary text lastAppliedTurnId sourceModel)
    rw [rowsOf_lockFor] at hwrite
    exact hwrite
  · rw [if_pos hversion, if_neg hversion]
    exact follows_unchanged rfl rowsOf_lockFor rfl

theorem operate_follows (drawn : Drawn) (op : MemoryOp) :
    Follows s key (s.operate key drawn op) ((s.rowsOf key).operate key drawn op) := by
  cases op with
  | getOrCreateSession userId metadata => exact getOrCreateSession_follows userId metadata drawn
  | appendTurn role content tokenCount modelUsed =>
    exact appendTurn_follows role content tokenCount modelUsed drawn
  | setFact name value source confidence =>
    exact setFact_follows name value source confidence drawn
  | deleteFact name => exact deleteFact_follows name drawn
  | upsertSummary text lastAppliedTurnId sourceModel expectedVersion =>
    exact upsertSummary_follows text lastAppliedTurnId sourceModel expectedVersion drawn
  | clearSummary => exact clearSummary_follows drawn
  -- the reads
  | getSession | listTurns | turnCount | getFacts | getSummary => exact follows_unchanged rfl rfl rfl

/-- **The in-memory store keeps one record for each session.** -/
theorem perform_rowsOf (s : InMemoryMemoryStore) (call : MemoryCall) (drawn : Drawn) :
    (s.perform call drawn).1 = (SessionRecords.perform s.rowsOf call drawn).1 ∧
      (s.perform call drawn).2.rowsOf = (SessionRecords.perform s.rowsOf call drawn).2 := by
  unfold perform SessionRecords.perform
  split
  · exact operate_follows drawn call.op
  · exact ⟨rfl, rfl⟩

end InMemoryMemoryStore

end ModelMeld
