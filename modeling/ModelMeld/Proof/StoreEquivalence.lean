import ModelMeld.Lib.Runs
import ModelMeld.Proof.SessionRows
import ModelMeld.Proof.SqlDocuments
import ModelMeld.Proof.StoreSteps

/-!
# The two memory stores answer alike

The tables of the SQL store hold, as documents, the records of the sessions that
the in-memory store keeps (`Represents`). Every operation keeps that, and what it
answers is what the record answers, up to the ids and the times the two stores
draw for themselves, the order of facts and the order of metadata
(`stores_answer_alike`).
-/

namespace ModelMeld

/-! ## Answers that are alike -/

/-- A row without what its store drew for it. -/
def MemoryTurn.erased (t : MemoryTurn) : MemoryTurn := { t with turnId := "", timestamp := 0 }

def MemoryFact.erased (f : MemoryFact) : MemoryFact := { f with factId := "", timestamp := 0 }

def MemorySummary.erased (s : MemorySummary) : MemorySummary :=
  { s with summaryId := "", createdAt := 0, updatedAt := 0 }

/-- Equal results, up to generated ids, timestamps and the order of `get_facts`. -/
inductive MemoryValue.Alike : MemoryValue → MemoryValue → Prop where
  | session {s s' : Option MemorySession} (h : Option.Rel MemorySession.Alike s s') :
    Alike (.session s) (.session s')
  | turn {t t' : MemoryTurn} (h : t.erased = t'.erased) : Alike (.turn t) (.turn t')
  | turns {ts ts' : List MemoryTurn}
    (h : ts.map MemoryTurn.erased = ts'.map MemoryTurn.erased) : Alike (.turns ts) (.turns ts')
  | count (n : ℕ) : Alike (.count n) (.count n)
  | fact {f f' : MemoryFact} (h : f.erased = f'.erased) : Alike (.fact f) (.fact f')
  | facts {fs fs' : List MemoryFact}
    (h : (fs.map MemoryFact.erased).Perm (fs'.map MemoryFact.erased)) :
    Alike (.facts fs) (.facts fs')
  | summary {s s' : Option MemorySummary}
    (h : s.map MemorySummary.erased = s'.map MemorySummary.erased) :
    Alike (.summary s) (.summary s')
  | deleted (found : Bool) : Alike (.deleted found) (.deleted found)

/-- Both calls succeed with results that are alike, or both raise. -/
def ResultsAlike : Except MemoryRaised MemoryValue → Except MemoryRaised MemoryValue → Prop
  | .ok v, .ok v' => v.Alike v'
  | .error _, .error _ => True
  | _, _ => False

/-! ## The table of documents -/

namespace DocTable

variable {V : Type} {docs : DocTable V} {session other : SessionKey} {itemKey itemKey' : String}

theorem get_put (i : ℕ) (v : V) :
    (docs.put session itemKey i v).get other itemKey' =
      if other = session ∧ itemKey' = itemKey then some v else docs.get other itemKey' := by
  unfold get put
  rw [OrderedDict.get?_insert]
  by_cases hkey : other = session ∧ itemKey' = itemKey
  · rw [if_pos hkey, if_pos (by rw [hkey.1, hkey.2])]
    rfl
  · rw [if_neg hkey, if_neg (fun h => hkey (by simpa using h))]

theorem get_delete :
    (docs.delete session itemKey).2.get other itemKey' =
      if other = session ∧ itemKey' = itemKey then none else docs.get other itemKey' := by
  unfold get delete
  rw [OrderedDict.get?_erase]
  by_cases hkey : other = session ∧ itemKey' = itemKey
  · rw [if_pos hkey, if_pos (by rw [hkey.1, hkey.2])]
    rfl
  · rw [if_neg hkey, if_neg (fun h => hkey (by simpa using h))]

theorem delete_found : (docs.delete session itemKey).1 = (docs.get session itemKey).isSome := by
  simp [delete, get, OrderedDict.contains]

/-- The rows of a session are what `_get` finds. -/
theorem get_of_mem_rows {row : DocKey × DocRow V} (h : row ∈ docs.rows session) :
    docs.get session row.1.itemKey = some row.2.payload := by
  rw [rows, List.mem_filter] at h
  have hsession : row.1.session = session := by simpa using h.2
  have hget := (docs.mem_entries_iff row.1 row.2).mp h.1
  have hkey : row.1 = ⟨session, row.1.itemKey⟩ := by rw [← hsession]
  rw [get, ← hkey, hget]
  rfl

theorem mem_rows_of_get {v : V} (h : docs.get session itemKey = some v) :
    ∃ row ∈ docs.rows session, row.1.itemKey = itemKey := by
  obtain ⟨row, hrow, -⟩ := Option.map_eq_some_iff.mp h
  refine ⟨(⟨session, itemKey⟩, row), ?_, rfl⟩
  rw [rows, List.mem_filter]
  exact ⟨(docs.mem_entries_iff _ _).mpr hrow, by simp⟩

/-- The item keys of a session are distinct. -/
theorem itemKeys_nodup (docs : DocTable V) (session : SessionKey) :
    ((docs.rows session).map (fun row => row.1.itemKey)).Nodup := by
  have hkeys : ((docs.rows session).map Prod.fst).Nodup :=
    (List.filter_sublist.map _).nodup docs.nodup
  have hmap : ((docs.rows session).map (fun row => row.1.itemKey)).map (DocKey.mk session) =
      (docs.rows session).map Prod.fst := by
    rw [List.map_map]
    apply List.map_congr_left
    intro row hrow
    have hsession : row.1.session = session := by
      simpa [rows] using (List.mem_filter.mp hrow).2
    rw [Function.comp_apply, ← hsession]
  rw [← hmap] at hkeys
  exact hkeys.of_map

end DocTable

/-! ## What the tables hold -/

/-- A document that is read back as a row like this one. -/
def ReadsAs {A : Type} (decode : JsonObj → Option A) (alike : A → A → Prop) (row : A)
    (data : JsonObj) : Prop :=
  ∃ read, decode data = some read ∧ alike row read

/-- The tables hold the record of a session. -/
structure Represents (iso : IsoFormat) (rows : SessionRows) (s : SqlMemoryStore)
    (key : SessionKey) : Prop where
  session : Option.Rel (ReadsAs (decodeSession iso) MemorySession.Alike) rows.session
    (s.sessions.get key "_")
  turns : ∃ log, Numbered s.turns key log ∧ List.Forall₂
    (ReadsAs (decodeTurn iso) (fun t t' => t.erased = t'.erased)) rows.turns log
  facts : ∀ name, Option.Rel (ReadsAs (decodeFact iso) (fun f f' => f.erased = f'.erased))
    (rows.facts.get? name) (s.facts.get key name)
  summary : Option.Rel (ReadsAs (decodeSummary iso) (fun s s' => s.erased = s'.erased))
    rows.summary (s.summaries.get key "_")

variable {iso : IsoFormat} {rows : SessionRows} {s : SqlMemoryStore} {key other : SessionKey}

theorem Represents.empty (iso : IsoFormat) (key : SessionKey) : Represents iso {} {} key where
  session := .none
  turns := ⟨[], rfl, .nil⟩
  facts _ := .none
  summary := .none

/-! ### Reads -/

/-- A document that may be missing. -/
theorem readOptional {A : Type} {decode : JsonObj → Option A} {alike : A → A → Prop}
    {row : Option A} {doc : Option JsonObj} (h : Option.Rel (ReadsAs decode alike) row doc) :
    ∃ read, (match doc with
      | none => .ok none
      | some data => (readBack (decode data)).map some : Except MemoryRaised (Option A)) =
        .ok read ∧ Option.Rel alike row read := by
  cases h with
  | none => exact ⟨none, rfl, .none⟩
  | some hreads =>
    obtain ⟨read, hdecode, halike⟩ := hreads
    refine ⟨some read, ?_, .some halike⟩
    simp only [hdecode]
    rfl

theorem Represents.getSession (h : Represents iso rows s key) :
    ∃ read, s.getSession iso key = .ok read ∧ Option.Rel MemorySession.Alike rows.session read :=
  readOptional h.session

theorem Represents.getSummary (h : Represents iso rows s key) :
    ∃ read, s.getSummary iso key = .ok read ∧
      rows.summary.map MemorySummary.erased = read.map MemorySummary.erased := by
  obtain ⟨read, hread, hrel⟩ := readOptional h.summary
  refine ⟨read, hread, ?_⟩
  generalize rows.summary = row at hrel
  cases hrel with
  | none => rfl
  | some halike => exact congrArg some halike

theorem Represents.requireSession_none (h : Represents iso rows s key) (hrow : rows.session = none) :
    s.requireSession iso key = .error .lookupError := by
  obtain ⟨read, hread, hrel⟩ := h.getSession
  rw [hrow] at hrel
  cases hrel
  unfold SqlMemoryStore.requireSession
  rw [hread]
  rfl

theorem Represents.requireSession_some (h : Represents iso rows s key) (hrow : rows.session ≠ none) :
    s.requireSession iso key = .ok () := by
  obtain ⟨read, hread, hrel⟩ := h.getSession
  unfold SqlMemoryStore.requireSession
  rw [hread]
  generalize rows.session = row at hrel hrow
  cases hrel with
  | none => exact absurd rfl hrow
  | some _ => rfl

/-- Documents that are read back one by one. -/
theorem mapM_readBack {A : Type} {decode : JsonObj → Option A} {log : List JsonObj} {rows : List A}
    {erased : A → A}
    (h : List.Forall₂ (ReadsAs decode (fun a a' => erased a = erased a')) rows log) :
    ∃ read, log.mapM (fun data => readBack (decode data)) = .ok read ∧
      rows.map erased = read.map erased := by
  induction h with
  | nil => exact ⟨[], rfl, rfl⟩
  | cons hreads _ ih =>
    obtain ⟨first, hdecode, halike⟩ := hreads
    obtain ⟨read, hmap, hrows⟩ := ih
    refine ⟨first :: read, ?_, ?_⟩
    · rw [List.mapM_cons, hdecode, hmap]
      rfl
    · rw [List.map_cons, List.map_cons, halike, hrows]

theorem lastTurns_map (f : MemoryTurn → MemoryTurn) (turns : List MemoryTurn) (limit : Option ℤ) :
    (lastTurns turns limit).map f = lastTurns (turns.map f) limit := by
  unfold lastTurns
  cases limit with
  | none => rfl
  | some n =>
    simp only
    split_ifs
    · rfl
    · rw [List.map_drop, List.length_map]

theorem Represents.listTurns (h : Represents iso rows s key) (limit : Option ℤ) :
    ∃ read, s.listTurns iso key limit = .ok read ∧
      (lastTurns rows.turns limit).map MemoryTurn.erased = read.map MemoryTurn.erased := by
  obtain ⟨log, hlog, hreads⟩ := h.turns
  obtain ⟨read, hread, hrows⟩ := mapM_readBack hreads
  refine ⟨lastTurns read limit, ?_, ?_⟩
  · unfold SqlMemoryStore.listTurns
    rw [hlog.list, hread]
    rfl
  · rw [lastTurns_map, hrows, lastTurns_map]

theorem Represents.turnCount (h : Represents iso rows s key) :
    s.turnCount key = rows.turns.length := by
  obtain ⟨log, hlog, hreads⟩ := h.turns
  rw [SqlMemoryStore.turnCount, hlog.list, hreads.length_eq]

/-- The keys of the rows are the keys of the facts. -/
theorem Represents.factKeys (h : Represents iso rows s key) :
    rows.facts.keys.Perm ((s.facts.rows key).map (fun row => row.1.itemKey)) := by
  rw [OrderedDict.keys, List.perm_ext_iff_of_nodup rows.facts.nodup (DocTable.itemKeys_nodup _ _)]
  intro name
  have hkeys : name ∈ rows.facts.entries.map Prod.fst ↔ (rows.facts.get? name).isSome = true :=
    rows.facts.mem_keys_iff name
  have hrel := h.facts name
  rw [hkeys, List.mem_map]
  cases hfact : rows.facts.get? name with
  | none =>
    rw [hfact] at hrel
    refine ⟨fun hsome => (by cases hsome), ?_⟩
    rintro ⟨row, hrow, rfl⟩
    rw [DocTable.get_of_mem_rows hrow] at hrel
    cases hrel
  | some fact =>
    rw [hfact] at hrel
    refine ⟨fun _ => ?_, fun _ => rfl⟩
    cases hdoc : s.facts.get key name with
    | none => rw [hdoc] at hrel; cases hrel
    | some data => exact DocTable.mem_rows_of_get hdoc

/-- Rows of the table, in whatever order, are read back as the facts of their keys. -/
theorem Represents.readFacts (h : Represents iso rows s key) :
    ∀ table : List (DocKey × DocRow JsonObj), (∀ row ∈ table, row ∈ s.facts.rows key) →
      ∃ facts : List MemoryFact,
        (table.map (fun row => row.1.itemKey)).map rows.facts.get? = facts.map some ∧
        List.Forall₂ (ReadsAs (decodeFact iso) (fun f f' => f.erased = f'.erased)) facts
          (table.map (fun row => row.2.payload)) := by
  intro table
  induction table with
  | nil => exact fun _ => ⟨[], rfl, .nil⟩
  | cons row table ih =>
    intro hmem
    obtain ⟨facts, hfacts, hreads⟩ := ih (fun r hr => hmem r (List.mem_cons_of_mem _ hr))
    have hrel := h.facts row.1.itemKey
    rw [DocTable.get_of_mem_rows (hmem row List.mem_cons_self)] at hrel
    cases hfact : rows.facts.get? row.1.itemKey with
    | none => rw [hfact] at hrel; cases hrel
    | some fact =>
      rw [hfact] at hrel
      cases hrel with
      | some hread =>
        refine ⟨fact :: facts, ?_, .cons hread hreads⟩
        rw [List.map_cons, List.map_cons, hfacts, hfact, List.map_cons]

/-- The facts come back in the order of the table. -/
theorem Represents.getFacts (h : Represents iso rows s key) :
    ∃ read, s.getFacts iso key = .ok read ∧
      (rows.facts.values.map MemoryFact.erased).Perm (read.map MemoryFact.erased) := by
  have hperm := List.perm_insertionSort DocTable.RowLe (s.facts.rows key)
  obtain ⟨facts, hfacts, hreads⟩ := h.readFacts _ (fun row hrow => hperm.mem_iff.mp hrow)
  obtain ⟨read, hread, hrows⟩ := mapM_readBack hreads
  refine ⟨read, hread, ?_⟩
  rw [← hrows]
  apply List.Perm.map
  have hkeys := (h.factKeys.trans (hperm.symm.map _)).map rows.facts.get?
  rw [hfacts, OrderedDict.map_get?_keys] at hkeys
  exact (List.map_perm_map_iff (Option.some_injective _)).mp hkeys

/-! ### Writes -/

theorem Represents.putSession (h : Represents iso rows s key) {row row' : MemorySession}
    (halike : row.Alike row') :
    Represents iso { rows with session := some row }
      { s with sessions := s.sessions.put key "_" 0 (payloadJson (row'.data iso)) } key where
  session := by
    obtain ⟨read, hdecode, hread⟩ := decodeSession_payload iso row'
    simp only [DocTable.get_put, and_self, if_true]
    exact .some ⟨read, hdecode, halike.sessionId.trans hread.sessionId,
      halike.tenantId.trans hread.tenantId, halike.userId.trans hread.userId,
      halike.metadata.trans hread.metadata⟩
  turns := h.turns
  facts := h.facts
  summary := h.summary

theorem Represents.putTurn (h : Represents iso rows s key) {turn turn' : MemoryTurn}
    (halike : turn.erased = turn'.erased) :
    Represents iso { rows with turns := rows.turns ++ [turn] }
      { s with
        turns := s.turns.put key (turnKey (s.turnCount key)) (s.turnCount key)
          (payloadJson (turn'.data iso)) } key where
  session := h.session
  turns := by
    obtain ⟨log, hlog, hreads⟩ := h.turns
    have hcount : s.turnCount key = log.length := by rw [SqlMemoryStore.turnCount, hlog.list]
    refine ⟨log ++ [payloadJson (turn'.data iso)], ?_, ?_⟩
    · rw [hcount, ← Slots.writeAt_length]
      exact put_numbered hlog (le_refl _) _
    · exact List.rel_append hreads (.cons ⟨turn', decodeTurn_payload iso turn', halike⟩ .nil)
  facts := h.facts
  summary := h.summary

theorem Represents.putFact (h : Represents iso rows s key) {fact fact' : MemoryFact} (name : String)
    (halike : fact.erased = fact'.erased) :
    Represents iso { rows with facts := rows.facts.insert name fact }
      { s with facts := s.facts.put key name 0 (payloadJson (fact'.data iso)) } key where
  session := h.session
  turns := h.turns
  facts name' := by
    rw [OrderedDict.get?_insert, DocTable.get_put]
    by_cases hname : name' = name
    · rw [if_pos hname, if_pos ⟨rfl, hname⟩]
      exact .some ⟨fact', decodeFact_payload iso fact', halike⟩
    · rw [if_neg hname, if_neg (fun hkey => hname hkey.2)]
      exact h.facts name'
  summary := h.summary

theorem Represents.deleteFact (h : Represents iso rows s key) (name : String) :
    Represents iso { rows with facts := rows.facts.erase name } (s.deleteFact key name).2 key where
  session := h.session
  turns := h.turns
  facts name' := by
    change Option.Rel _ _ ((s.facts.delete key name).2.get key name')
    rw [OrderedDict.get?_erase, DocTable.get_delete]
    by_cases hname : name' = name
    · rw [if_pos hname, if_pos ⟨rfl, hname⟩]
      exact .none
    · rw [if_neg hname, if_neg (fun hkey => hname hkey.2)]
      exact h.facts name'
  summary := h.summary

theorem Represents.putSummary (h : Represents iso rows s key) {row row' : MemorySummary}
    (halike : row.erased = row'.erased) :
    Represents iso { rows with summary := some row }
      { s with summaries := s.summaries.put key "_" 0 (payloadJson (row'.data iso)) } key where
  session := h.session
  turns := h.turns
  facts := h.facts
  summary := by
    simp only [DocTable.get_put, and_self, if_true]
    exact .some ⟨row', decodeSummary_payload iso row', halike⟩

theorem Represents.clearSummary (h : Represents iso rows s key) :
    Represents iso { rows with summary := none } (s.clearSummary key).2 key where
  session := h.session
  turns := h.turns
  facts := h.facts
  summary := by
    change Option.Rel _ _ ((s.summaries.delete key "_").2.get key "_")
    rw [DocTable.get_delete, if_pos ⟨rfl, rfl⟩]
    exact .none

/-! ## The operations -/

/-- An operation on the tables answers like the one on the record, and the tables hold what the
record has become. -/
def Simulates (iso : IsoFormat) (key : SessionKey)
    (abstract : Except MemoryRaised MemoryValue × SessionRows)
    (out : Except MemoryRaised MemoryValue × SqlMemoryStore) : Prop :=
  ResultsAlike abstract.1 out.1 ∧ Represents iso abstract.2 out.2 key

theorem simulates_withSession {A : Type} {g : A → MemoryValue} (h : Represents iso rows s key)
    {abstract : Except MemoryRaised MemoryValue × SessionRows}
    {taken : Except MemoryRaised A × SqlMemoryStore}
    (htaken : Simulates iso key abstract (taken.1.map g, taken.2)) :
    Simulates iso key (rows.whenCreated abstract)
      ((s.withSession iso key taken).1.map g, (s.withSession iso key taken).2) := by
  unfold SessionRows.whenCreated SqlMemoryStore.withSession
  by_cases hrow : rows.session = none
  · rw [if_pos hrow, h.requireSession_none hrow]
    exact ⟨trivial, h⟩
  · rw [if_neg hrow, h.requireSession_some hrow]
    exact htaken

variable {drawn drawn' : Drawn}

theorem getOrCreateSession_simulates (h : Represents iso rows s key) (userId : Option String)
    (metadata : Option (OrderedDict String String)) :
    Simulates iso key (rows.operate key drawn (.getOrCreateSession userId metadata))
      (s.operate iso key drawn' (.getOrCreateSession userId metadata)) := by
  obtain ⟨read, hread, hrel⟩ := h.getSession
  simp only [SessionRows.operate, SqlMemoryStore.operate, SqlMemoryStore.getOrCreateSession, hread]
  cases hrow : rows.session with
  | none =>
    rw [hrow] at hrel
    cases hrel
    have halike : (newSession key drawn userId metadata).Alike
        (newSession key drawn' userId metadata) := ⟨rfl, rfl, rfl, List.Perm.refl _⟩
    obtain ⟨made, hdecode, hmade⟩ :=
      decodeSession_data iso (newSession key drawn' userId metadata)
    refine ⟨?_, h.putSession halike⟩
    rw [hdecode]
    exact .session (.some ⟨hmade.sessionId, hmade.tenantId, hmade.userId, hmade.metadata⟩)
  | some row =>
    rw [hrow] at hrel
    cases hrel with
    | some halike =>
      refine ⟨.session (.some halike), ?_⟩
      rw [Option.getD_some, ← hrow]
      exact h

theorem appendTurn_simulates (h : Represents iso rows s key) (role : Role) (content : String)
    (tokenCount : ℤ) (modelUsed : Option String) :
    Simulates iso key (rows.operate key drawn (.appendTurn role content tokenCount modelUsed))
      (s.operate iso key drawn' (.appendTurn role content tokenCount modelUsed)) := by
  refine simulates_withSession h ⟨?_, h.putTurn rfl⟩
  rw [decodeTurn_data]
  exact .turn rfl

theorem setFact_simulates (h : Represents iso rows s key) (name value source : String)
    (confidence : ℚ) :
    Simulates iso key (rows.operate key drawn (.setFact name value source confidence))
      (s.operate iso key drawn' (.setFact name value source confidence)) := by
  simp only [SqlMemoryStore.operate, SqlMemoryStore.setFact]
  by_cases hconfidence : 0 ≤ confidence ∧ confidence ≤ 1
  · rw [if_neg (not_not.mpr hconfidence)]
    apply simulates_withSession h
    rw [if_pos hconfidence, decodeFact_data]
    exact ⟨.fact rfl, h.putFact name rfl⟩
  · -- the record raises one of two errors, the tables always the same one
    rw [if_pos hconfidence]
    simp only [SessionRows.operate, SessionRows.whenCreated, if_neg hconfidence]
    split_ifs
    · exact ⟨trivial, h⟩
    · exact ⟨trivial, h⟩

theorem deleteFact_simulates (h : Represents iso rows s key) (name : String) :
    Simulates iso key (rows.operate key drawn (.deleteFact name))
      (s.operate iso key drawn' (.deleteFact name)) := by
  refine ⟨?_, h.deleteFact name⟩
  have hfound : rows.facts.contains name = (s.deleteFact key name).1 := by
    have hrel := h.facts name
    change (rows.facts.get? name).isSome = (s.facts.delete key name).1
    rw [DocTable.delete_found]
    generalize rows.facts.get? name = fact at hrel
    generalize s.facts.get key name = doc at hrel
    cases hrel <;> rfl
  simp only [SessionRows.operate, SqlMemoryStore.operate, hfound]
  exact .deleted _

theorem upsertSummary_simulates (h : Represents iso rows s key) (text : String)
    (lastAppliedTurnId sourceModel : Option String) (expectedVersion : Option ℤ) :
    Simulates iso key
      (rows.operate key drawn (.upsertSummary text lastAppliedTurnId sourceModel expectedVersion))
      (s.operate iso key drawn'
        (.upsertSummary text lastAppliedTurnId sourceModel expectedVersion)) := by
  obtain ⟨existing, hread, herased⟩ := h.getSummary
  apply simulates_withSession h
  simp only [hread]
  have hversion : summaryVersion existing = summaryVersion rows.summary := by
    have herase : ∀ s, summaryVersion (s.map MemorySummary.erased) = summaryVersion s := by
      intro s; cases s <;> rfl
    rw [← herase existing, ← herased, herase]
  rw [hversion]
  by_cases hexpected : expectedVersion.getD (summaryVersion rows.summary) =
      summaryVersion rows.summary
  · rw [if_pos hexpected, if_neg (not_not.mpr hexpected), decodeSummary_data]
    have halike : (newSummary key drawn rows.summary text lastAppliedTurnId sourceModel).erased =
        (newSummary key drawn' existing text lastAppliedTurnId sourceModel).erased := by
      simp only [newSummary, MemorySummary.erased, hversion]
    exact ⟨.summary (congrArg some halike), h.putSummary halike⟩
  · rw [if_neg hexpected, if_pos hexpected]
    exact ⟨trivial, h⟩

theorem clearSummary_simulates (h : Represents iso rows s key) :
    Simulates iso key (rows.operate key drawn .clearSummary)
      (s.operate iso key drawn' .clearSummary) := by
  refine ⟨?_, h.clearSummary⟩
  have hfound : rows.summary.isSome = (s.clearSummary key).1 := by
    have hrel := h.summary
    change rows.summary.isSome = (s.summaries.delete key "_").1
    rw [DocTable.delete_found]
    generalize rows.summary = row at hrel
    generalize s.summaries.get key "_" = doc at hrel
    cases hrel <;> rfl
  simp only [SessionRows.operate, SqlMemoryStore.operate, hfound]
  exact .deleted _

theorem operate_simulates (h : Represents iso rows s key) (drawn drawn' : Drawn) (op : MemoryOp) :
    Simulates iso key (rows.operate key drawn op) (s.operate iso key drawn' op) := by
  cases op with
  | getOrCreateSession userId metadata => exact getOrCreateSession_simulates h userId metadata
  | getSession =>
    obtain ⟨read, hread, hrel⟩ := h.getSession
    simp only [SessionRows.operate, SqlMemoryStore.operate, hread]
    exact ⟨.session hrel, h⟩
  | appendTurn role content tokenCount modelUsed =>
    exact appendTurn_simulates h role content tokenCount modelUsed
  | listTurns limit =>
    obtain ⟨read, hread, hturns⟩ := h.listTurns limit
    simp only [SessionRows.operate, SqlMemoryStore.operate, hread]
    exact ⟨.turns hturns, h⟩
  | turnCount =>
    simp only [SessionRows.operate, SqlMemoryStore.operate, h.turnCount]
    exact ⟨.count _, h⟩
  | setFact name value source confidence => exact setFact_simulates h name value source confidence
  | getFacts =>
    obtain ⟨read, hread, hfacts⟩ := h.getFacts
    simp only [SessionRows.operate, SqlMemoryStore.operate, hread]
    exact ⟨.facts hfacts, h⟩
  | deleteFact name => exact deleteFact_simulates h name
  | getSummary =>
    obtain ⟨read, hread, hsummary⟩ := h.getSummary
    simp only [SessionRows.operate, SqlMemoryStore.operate, hread]
    exact ⟨.summary hsummary, h⟩
  | upsertSummary text lastAppliedTurnId sourceModel expectedVersion =>
    exact upsertSummary_simulates h text lastAppliedTurnId sourceModel expectedVersion
  | clearSummary => exact clearSummary_simulates h

/-! ### Other sessions -/

/-- Two stores with the same documents of a session. -/
structure SameDocuments (s s' : SqlMemoryStore) (key : SessionKey) : Prop where
  session : s'.sessions.get key "_" = s.sessions.get key "_"
  turns : s'.turns.rows key = s.turns.rows key
  facts : ∀ name, s'.facts.get key name = s.facts.get key name
  summary : s'.summaries.get key "_" = s.summaries.get key "_"

theorem SameDocuments.refl (s : SqlMemoryStore) (key : SessionKey) : SameDocuments s s key :=
  ⟨rfl, rfl, fun _ => rfl, rfl⟩

theorem Represents.of_same {s' : SqlMemoryStore} (h : Represents iso rows s key)
    (hsame : SameDocuments s s' key) : Represents iso rows s' key where
  session := by
    rw [hsame.session]
    exact h.session
  turns := by
    obtain ⟨log, hlog, hreads⟩ := h.turns
    exact ⟨log, hsame.turns.trans hlog, hreads⟩
  facts name := by
    rw [hsame.facts]
    exact h.facts name
  summary := by
    rw [hsame.summary]
    exact h.summary

theorem withSession_same {A : Type} {taken : Except MemoryRaised A × SqlMemoryStore}
    (h : SameDocuments s taken.2 other) : SameDocuments s (s.withSession iso key taken).2 other := by
  unfold SqlMemoryStore.withSession
  split
  · exact .refl s other
  · exact h

/-- An operation leaves the documents of the other sessions alone. -/
theorem operate_same (hne : other ≠ key) (drawn : Drawn) (op : MemoryOp) :
    SameDocuments s (s.operate iso key drawn op).2 other := by
  have hget : ∀ (docs : DocTable JsonObj) (name : String) (i : ℕ) (v : JsonObj) (name' : String),
      (docs.put key name i v).get other name' = docs.get other name' := fun docs name i v name' => by
    rw [DocTable.get_put, if_neg (fun h => hne h.1)]
  have hdelete : ∀ (docs : DocTable JsonObj) (name name' : String),
      (docs.delete key name).2.get other name' = docs.get other name' := fun docs name name' => by
    rw [DocTable.get_delete, if_neg (fun h => hne h.1)]
  cases op with
  | getOrCreateSession userId metadata =>
    simp only [SqlMemoryStore.operate, SqlMemoryStore.getOrCreateSession]
    split
    · exact .refl s other
    · exact .refl s other
    · exact ⟨hget _ _ _ _ _, rfl, fun _ => rfl, rfl⟩
  | appendTurn role content tokenCount modelUsed =>
    simp only [SqlMemoryStore.operate, SqlMemoryStore.appendTurn]
    apply withSession_same
    refine ⟨rfl, ?_, fun _ => rfl, rfl⟩
    exact (rows_put _ _ _ _ _ _).trans (if_neg (fun h => hne h.symm))
  | setFact name value source confidence =>
    simp only [SqlMemoryStore.operate, SqlMemoryStore.setFact]
    by_cases hconfidence : 0 ≤ confidence ∧ confidence ≤ 1
    · rw [if_neg (not_not.mpr hconfidence)]
      apply withSession_same
      exact ⟨rfl, rfl, fun _ => hget _ _ _ _ _, rfl⟩
    · rw [if_pos hconfidence]
      exact .refl s other
  | deleteFact name => exact ⟨rfl, rfl, fun _ => hdelete _ _ _, rfl⟩
  | upsertSummary text lastAppliedTurnId sourceModel expectedVersion =>
    simp only [SqlMemoryStore.operate, SqlMemoryStore.upsertSummary]
    apply withSession_same
    split
    · exact .refl s other
    · split_ifs
      · exact .refl s other
      · exact ⟨rfl, rfl, fun _ => rfl, hget _ _ _ _ _⟩
  | clearSummary => exact ⟨rfl, rfl, fun _ => rfl, hdelete _ _ _⟩
  | getSession | listTurns | turnCount | getFacts | getSummary => exact .refl s other

/-! ## Runs -/

/-- The SQL store and what its callers have seen of it. -/
structure SqlRun where
  store : SqlMemoryStore := {}
  seen : List MemoryEvent := []

/-- One call, with what it draws. -/
def SqlRun.act (iso : IsoFormat) (r : SqlRun) (step : MemoryCall × Drawn) : SqlRun :=
  let out := r.store.perform iso step.1 step.2
  { store := out.2, seen := r.seen ++ [⟨step.1, out.1⟩] }

/-- The same call was answered alike. -/
def EventsAlike (e e' : MemoryEvent) : Prop := e.call = e'.call ∧ ResultsAlike e.result e'.result

theorem perform_simulates {m : InMemoryMemoryStore}
    (h : ∀ key, Represents iso (m.rowsOf key) s key) (call : MemoryCall) (drawn drawn' : Drawn) :
    ResultsAlike (m.perform call drawn).1 (s.perform iso call drawn').1 ∧
      ∀ key, Represents iso ((m.perform call drawn).2.rowsOf key) (s.perform iso call drawn').2 key := by
  obtain ⟨hresult, hrows⟩ := m.perform_rowsOf call drawn
  rw [hresult, hrows]
  unfold SessionRecords.perform SqlMemoryStore.perform
  split_ifs
  · obtain ⟨halike, hrepresents⟩ := operate_simulates (h call.session) drawn drawn' call.op
    refine ⟨halike, fun key => ?_⟩
    by_cases hkey : key = call.session
    · subst hkey
      simp only [Function.update_self]
      exact hrepresents
    · simp only [Function.update_of_ne hkey]
      exact (h key).of_same (operate_same hkey drawn' call.op)
  · exact ⟨trivial, h⟩

theorem runs_alike (iso : IsoFormat) : ∀ (steps : List (MemoryCall × Drawn × Drawn))
    (r : MemoryRun) (r' : SqlRun), (∀ key, Represents iso (r.store.rowsOf key) r'.store key) →
      List.Forall₂ EventsAlike r.seen r'.seen →
      List.Forall₂ EventsAlike
        (Runs.run MemoryRun.act r (steps.map (fun step => (step.1, step.2.1)))).seen
        (Runs.run (SqlRun.act iso) r' (steps.map (fun step => (step.1, step.2.2)))).seen := by
  intro steps
  induction steps with
  | nil => intro r r' _ hseen; exact hseen
  | cons step steps ih =>
    intro r r' hstore hseen
    obtain ⟨hresult, hafter⟩ := perform_simulates hstore step.1 step.2.1 step.2.2
    exact ih _ _ hafter (List.rel_append hseen (.cons ⟨rfl, hresult⟩ .nil))

/-- **Over any sequence of calls the two stores answer alike.** -/
theorem stores_answer_alike (iso : IsoFormat) (steps : List (MemoryCall × Drawn × Drawn)) :
    List.Forall₂ EventsAlike
      (Runs.run MemoryRun.act {} (steps.map (fun step => (step.1, step.2.1)))).seen
      (Runs.run (SqlRun.act iso) {} (steps.map (fun step => (step.1, step.2.2)))).seen :=
  runs_alike iso steps {} {} (Represents.empty iso) .nil

end ModelMeld
