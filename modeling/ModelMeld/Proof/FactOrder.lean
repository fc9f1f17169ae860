import ModelMeld.Lib.DictHistory
import ModelMeld.Proof.Budgets
import ModelMeld.Proof.StoreEquivalence

/-!
# Which facts are dropped

A budget drops facts from the front of what `get_facts` lists. The in-memory
store lists them in the order their keys came in, the SQL store in the order of
their keys, and an overwritten fact keeps its place in both.

* `always_oldest_iff`: every budget drops the oldest facts of a listing exactly
  when it is in the order of time;
* `entered_order`, `getFacts_sorted`: the order of each listing, after any
  history;
* `oldest_dropped_iff`: when the stores' facts are dropped oldest first.
-/

namespace ModelMeld

/-! ## What a budget drops -/

/-- A stored fact, by the fields that are rendered. -/
def MemoryFact.rendered (f : MemoryFact) : Fact := ⟨f.key, f.value⟩

/-- The facts of a listing that a context does without. -/
def droppedFacts (listed : List MemoryFact) (ctx : AssembledContext) : List MemoryFact :=
  listed.take (listed.length - ctx.facts.length)

def keptFacts (listed : List MemoryFact) (ctx : AssembledContext) : List MemoryFact :=
  listed.drop (listed.length - ctx.facts.length)

/-- Every fact that is dropped is as old as every fact that is kept. -/
def OldestDropped (listed : List MemoryFact) (ctx : AssembledContext) : Prop :=
  ∀ old ∈ droppedFacts listed ctx, ∀ f ∈ keptFacts listed ctx, old.timestamp ≤ f.timestamp

/-- A listing in the order of time. -/
def Chronological (listed : List MemoryFact) : Prop :=
  listed.Pairwise (fun f f' => f.timestamp ≤ f'.timestamp)

theorem factChars_pos {facts : List Fact} (h : facts ≠ []) : 0 < factChars facts := by
  unfold factChars
  induction facts with
  | nil => exact absurd rfl h
  | cons f fs ih =>
    rw [List.map_cons, List.sum_cons]
    cases fs with
    | nil =>
      simp only [List.map_nil, List.sum_nil]
      omega
    | cons f' fs =>
      have hrest := ih (List.cons_ne_nil f' fs)
      omega

theorem factChars_drop_lt {facts : List Fact} {m n : ℕ} (hmn : m < n) (hn : n ≤ facts.length) :
    factChars (facts.drop n) < factChars (facts.drop m) := by
  have hsplit : facts.drop m = (facts.drop m).take (n - m) ++ facts.drop n := by
    rw [show n = m + (n - m) by omega, ← List.drop_drop, Nat.add_sub_cancel_left,
      List.take_append_drop]
  have hne : (facts.drop m).take (n - m) ≠ [] := by
    apply List.ne_nil_of_length_pos
    rw [List.length_take, List.length_drop]
    omega
  have hpos := factChars_pos hne
  rw [hsplit]
  unfold factChars at hpos ⊢
  rw [List.map_append, List.sum_append]
  omega

/-- Popping goes on until it stops. -/
theorem popWhile_eq_drop {A : Type} {exceeds : List A → Bool} :
    ∀ (xs : List A) (n : ℕ), n ≤ xs.length → (∀ m, m < n → exceeds (xs.drop m) = true) →
      exceeds (xs.drop n) = false → popWhile exceeds xs = xs.drop n := by
  intro xs
  induction xs with
  | nil =>
    intro n _ _ _
    rw [List.drop_nil]
    rfl
  | cons x xs ih =>
    intro n hn hover hstop
    cases n with
    | zero =>
      exact popWhile_of_not hstop
    | succ n =>
      unfold popWhile
      have hfirst : exceeds (x :: xs) = true := hover 0 (Nat.succ_pos n)
      rw [if_pos hfirst]
      rw [List.drop_succ_cons] at hstop ⊢
      apply ih n (by simpa using hn) _ hstop
      intro m hm
      exact hover (m + 1) (by omega)

/-- A budget that is used up by the last facts leaves those. -/
theorem enforceBudget_facts (facts : List Fact) (summary : Option Summary) {n : ℕ} (hpos : 0 < n)
    (hn : n ≤ facts.length) :
    (enforceBudget (factChars (facts.drop n)) facts summary []).facts = facts.drop n := by
  have hlt := factChars_drop_lt hpos hn
  rw [List.drop_zero] at hlt
  have hsummary : (0 : ℤ) ≤ (summary.map (fun s => (s.text.length : ℤ))).getD 0 := by
    cases summary with
    | none => exact le_rfl
    | some s => exact Int.natCast_nonneg _
  have hover : ¬ estimateChars facts summary [] ≤ factChars (facts.drop n) := by
    unfold estimateChars
    simp only [List.map_nil, List.sum_nil]
    omega
  unfold enforceBudget
  rw [if_neg hover]
  have hturns : popWhile (fun recent => decide (factChars (facts.drop n) <
      estimateChars facts summary recent)) ([] : List LoggedTurn) = [] := rfl
  simp only [hturns]
  rw [if_neg hover]
  -- there is no room for the summary: what is left of it has no text
  have hcut : ∀ cut facts', estimateChars facts'
      (cutSummary (factChars (facts.drop n) - factChars facts) cut summary).1 [] =
        factChars facts' := by
    intro cut facts'
    unfold estimateChars cutSummary
    cases summary with
    | none => simp
    | some s =>
      simp only
      by_cases htext : s.text = ""
      · rw [if_pos htext]
        simp [htext]
      · rw [if_neg htext, if_neg (by omega)]
        simp
  simp only [hcut]
  apply popWhile_eq_drop facts n hn
  · intro m hm
    exact decide_eq_true (factChars_drop_lt hm hn)
  · exact decide_eq_false (lt_irrefl _)

/-- A session of which only facts and summary are read. -/
def augmented : MemoryIdentity := { tenantId := "t", sessionId := some "s" }

def charsConfig (maxChars : ℤ) : AssembleConfig := { budget := .chars maxChars }

/-- **Every budget drops the oldest facts of a listing exactly when it is in the order of time.** -/
theorem always_oldest_iff (listed : List MemoryFact) (summary mark : Option Summary)
    (turns : List LoggedTurn) :
    (∀ config identity, OldestDropped listed (assembleContext config identity
      (some ⟨listed.map MemoryFact.rendered, summary, mark, turns⟩))) ↔ Chronological listed := by
  constructor
  · intro h
    unfold Chronological
    rw [List.pairwise_iff_getElem]
    intro i j hi hj hij
    -- a budget for the facts after the earlier one
    have hold := h (charsConfig (factChars ((listed.map MemoryFact.rendered).drop (i + 1))))
      augmented
    have hctx : (assembleContext
        (charsConfig (factChars ((listed.map MemoryFact.rendered).drop (i + 1)))) augmented
          (some ⟨listed.map MemoryFact.rendered, summary, mark, turns⟩)).facts =
        (listed.map MemoryFact.rendered).drop (i + 1) :=
      enforceBudget_facts _ summary (Nat.succ_pos i) (by simp; omega)
    have hlen : listed.length - ((listed.map MemoryFact.rendered).drop (i + 1)).length = i + 1 := by
      simp
      omega
    unfold OldestDropped droppedFacts keptFacts at hold
    rw [hctx, hlen] at hold
    apply hold
    · rw [List.mem_take_iff_getElem]
      exact ⟨i, by omega, rfl⟩
    · rw [List.mem_drop_iff_getElem]
      exact ⟨j - (i + 1), by omega, by simp [show i + 1 + (j - (i + 1)) = j by omega]⟩
  · intro h config identity old hold f hf
    unfold Chronological at h
    rw [← List.take_append_drop (listed.length - (assembleContext config identity
      (some ⟨listed.map MemoryFact.rendered, summary, mark, turns⟩)).facts.length) listed,
      List.pairwise_append] at h
    exact h.2.2 old hold f hf

/-! ## The facts of a session, through its calls -/

open OrderedDict (Edit after valueAfter EnteredBefore)

/-- What a history of calls does to the facts of one session. -/
structure FactHistory where
  created : Bool := false
  edits : List (Edit String MemoryFact) := []

/-- A call on the session: it is created, or a fact is set or deleted. A fact is not set before the
session is created, nor with a confidence outside `[0, 1]`. -/
def FactHistory.act (key : SessionKey) (h : FactHistory) (step : MemoryCall × Drawn) : FactHistory :=
  if step.1.session = key ∧ validTenantId key.tenantId = true then
    match step.1.op with
    | .getOrCreateSession _ _ => { h with created := true }
    | .setFact name value source confidence =>
      if h.created = true ∧ 0 ≤ confidence ∧ confidence ≤ 1 then
        { h with edits := h.edits ++
            [.set name (newFact key step.2 name value source confidence)] }
      else h
    | .deleteFact name => { h with edits := h.edits ++ [.delete name] }
    | _ => h
  else h

/-- The changes of a session's facts in a history. -/
def factEdits (key : SessionKey) (history : List (MemoryCall × Drawn)) :
    List (Edit String MemoryFact) :=
  (Runs.run (FactHistory.act key) {} history).edits

/-- Of two facts that are there, the one whose key entered first was set no later. -/
def SetInEntryOrder (edits : List (Edit String MemoryFact)) : Prop :=
  ∀ name name' f f', valueAfter edits name = some f → valueAfter edits name' = some f' →
    EnteredBefore edits name name' → f.timestamp ≤ f'.timestamp

/-- Of two facts that are there, the one with the smaller key was set no later. -/
def SetInKeyOrder (edits : List (Edit String MemoryFact)) : Prop :=
  ∀ name name' f f', valueAfter edits name = some f → valueAfter edits name' = some f' →
    name < name' → f.timestamp ≤ f'.timestamp

/-- The record of a session, as its history says. -/
structure FactHistory.Says (h : FactHistory) (rows : SessionRows) : Prop where
  created : h.created = rows.session.isSome
  facts : rows.facts = after h.edits

theorem FactHistory.Says.perform {key : SessionKey} {h : FactHistory} {w : SessionRecords}
    (htells : h.Says (w key)) (call : MemoryCall) (drawn : Drawn) :
    (h.act key (call, drawn)).Says ((w.perform call drawn).2 key) := by
  by_cases hkey : call.session = key
  · subst hkey
    unfold SessionRecords.perform FactHistory.act
    by_cases hvalid : validTenantId call.session.tenantId = true
    · rw [if_pos hvalid, if_pos ⟨rfl, hvalid⟩]
      simp only [Function.update_self]
      have hcreated := htells.created
      have hwhen : ∀ out : Except MemoryRaised MemoryValue × SessionRows,
          out.2.facts = (w call.session).facts → out.2.session = (w call.session).session →
          h.Says ((w call.session).whenCreated out).2 := by
        intro out hfacts hsession
        unfold SessionRows.whenCreated
        split
        · exact htells
        · exact ⟨by rw [hsession]; exact hcreated, by rw [hfacts]; exact htells.facts⟩
      cases hop : call.op with
      | getOrCreateSession userId metadata => exact ⟨rfl, htells.facts⟩
      | setFact name value source confidence =>
        simp only [SessionRows.operate, SessionRows.whenCreated]
        by_cases hrow : (w call.session).session = none
        · rw [if_pos hrow]
          rw [hrow] at hcreated
          rw [if_neg (fun hc => by rw [hcreated] at hc; exact absurd hc.1 (by decide))]
          exact htells
        · rw [if_neg hrow]
          have hthere : h.created = true := by
            rw [hcreated]
            exact Option.isSome_iff_ne_none.2 hrow
          by_cases hconfidence : 0 ≤ confidence ∧ confidence ≤ 1
          · rw [if_pos hconfidence, if_pos ⟨hthere, hconfidence⟩]
            refine ⟨hcreated, ?_⟩
            rw [OrderedDict.after_append, ← htells.facts]
            rfl
          · rw [if_neg hconfidence, if_neg (fun hc => hconfidence hc.2)]
            exact htells
      | deleteFact name =>
        refine ⟨hcreated, ?_⟩
        rw [OrderedDict.after_append, ← htells.facts]
        rfl
      | appendTurn role content tokenCount modelUsed => exact hwhen _ rfl rfl
      | upsertSummary text lastAppliedTurnId sourceModel expectedVersion =>
        simp only [SessionRows.operate]
        apply hwhen
        · split <;> rfl
        · split <;> rfl
      | getSession | listTurns | turnCount | getFacts | getSummary | clearSummary =>
        exact ⟨hcreated, htells.facts⟩
    · rw [if_neg hvalid, if_neg (fun hc => hvalid hc.2)]
      exact htells
  · rw [SessionRecords.perform_of_ne (fun heq => hkey heq.symm)]
    unfold FactHistory.act
    rw [if_neg (fun hc => hkey hc.1)]
    exact htells

/-! ## A listing and its order -/

/-- A listing of the facts that are there, with their keys, in an order of the keys. -/
structure Lists (edits : List (Edit String MemoryFact)) (before : String → String → Prop)
    (pairs : List (String × MemoryFact)) : Prop where
  ordered : pairs.Pairwise (fun p p' => before p.1 p'.1)
  mem : ∀ name f, (name, f) ∈ pairs ↔ valueAfter edits name = some f

theorem Lists.chronological_iff {edits : List (Edit String MemoryFact)}
    {before : String → String → Prop} {pairs : List (String × MemoryFact)}
    (h : Lists edits before pairs) (hasymm : ∀ a b, before a b → ¬ before b a) :
    Chronological (pairs.map Prod.snd) ↔
      ∀ name name' f f', valueAfter edits name = some f → valueAfter edits name' = some f' →
        before name name' → f.timestamp ≤ f'.timestamp := by
  unfold Chronological
  rw [List.pairwise_map, List.pairwise_iff_of_ordered h.ordered (fun a b => hasymm a.1 b.1)]
  constructor
  · intro hall name name' f f' hf hf' hbefore
    exact hall (name, f) ((h.mem name f).2 hf) (name', f') ((h.mem name' f').2 hf') hbefore
  · rintro hall ⟨name, f⟩ hf ⟨name', f'⟩ hf' hbefore
    exact hall name name' f f' ((h.mem name f).1 hf) ((h.mem name' f').1 hf') hbefore

/-! ## The in-memory store -/

/-- The in-memory store after a history. -/
def memoryAfter (history : List (MemoryCall × Drawn)) : InMemoryMemoryStore :=
  (Runs.run MemoryRun.act {} history).store

theorem memoryAfter_append (history : List (MemoryCall × Drawn)) (step : MemoryCall × Drawn) :
    memoryAfter (history ++ [step]) = ((memoryAfter history).perform step.1 step.2).2 := by
  unfold memoryAfter
  rw [Runs.run_append]
  rfl

theorem factHistory_append (key : SessionKey) (history : List (MemoryCall × Drawn))
    (step : MemoryCall × Drawn) :
    Runs.run (FactHistory.act key) {} (history ++ [step]) =
      (Runs.run (FactHistory.act key) {} history).act key step := by
  rw [Runs.run_append]
  rfl

theorem says_memoryAfter (key : SessionKey) (history : List (MemoryCall × Drawn)) :
    (Runs.run (FactHistory.act key) {} history).Says ((memoryAfter history).rowsOf key) := by
  induction history using List.reverseRecOn with
  | nil => exact ⟨rfl, rfl⟩
  | append_singleton history step ih =>
    rw [memoryAfter_append, factHistory_append,
      ((memoryAfter history).perform_rowsOf step.1 step.2).2]
    exact ih.perform step.1 step.2

/-- The in-memory store lists facts in the order in which their keys entered. -/
theorem memory_lists (key : SessionKey) (history : List (MemoryCall × Drawn)) :
    Lists (factEdits key history) (EnteredBefore (factEdits key history))
      ((memoryAfter history).factsOf key).entries := by
  have hfacts : (memoryAfter history).factsOf key = after (factEdits key history) :=
    (says_memoryAfter key history).facts
  rw [hfacts]
  refine ⟨List.pairwise_map.1 (OrderedDict.keys_enteredBefore _), ?_⟩
  intro name f
  rw [OrderedDict.mem_entries_iff, OrderedDict.get?_after]

/-! ## The SQL store -/

namespace DocTable

variable {V : Type}

instance : Std.Total (RowLe (V := V)) where
  total a b := by
    rcases lt_trichotomy a.2.sortIdx b.2.sortIdx with h | h | h
    · exact Or.inl (Or.inl h)
    · rcases String.le_total a.1.itemKey b.1.itemKey with hle | hle
      · exact Or.inl (Or.inr ⟨h, hle⟩)
      · exact Or.inr (Or.inr ⟨h.symm, hle⟩)
    · exact Or.inr (Or.inl h)

instance : IsTrans (DocKey × DocRow V) RowLe where
  trans a b c hab hbc := by
    rcases hab with hab | ⟨hab, hle⟩
    · rcases hbc with hbc | ⟨hbc, -⟩
      · exact Or.inl (hab.trans hbc)
      · exact Or.inl (hbc ▸ hab)
    · rcases hbc with hbc | ⟨hbc, hle'⟩
      · exact Or.inl (hab ▸ hbc)
      · exact Or.inr ⟨hab.trans hbc, String.le_trans hle hle'⟩

end DocTable

section Sql

variable (iso : IsoFormat)

/-- The SQL store after a history. -/
def sqlAfter (history : List (MemoryCall × Drawn)) : SqlMemoryStore :=
  (Runs.run (SqlRun.act iso) {} history).store

theorem sqlAfter_append (history : List (MemoryCall × Drawn)) (step : MemoryCall × Drawn) :
    sqlAfter iso (history ++ [step]) = ((sqlAfter iso history).perform iso step.1 step.2).2 := by
  unfold sqlAfter
  rw [Runs.run_append]
  rfl

/-- The table holds the facts of every record, to the times. -/
def FactsHeld (w : SessionRecords) (s : SqlMemoryStore) : Prop :=
  ∀ key name, s.facts.get? ⟨key, name⟩ =
    ((w key).facts.get? name).map (fun f => ⟨0, payloadJson (f.data iso)⟩)

variable {iso} {w : SessionRecords} {s : SqlMemoryStore}

theorem FactsHeld.of_eq (h : FactsHeld iso w s) {w' : SessionRecords} {s' : SqlMemoryStore}
    (hw : ∀ key, (w' key).facts = (w key).facts) (hs : s'.facts = s.facts) :
    FactsHeld iso w' s' := by
  intro key name
  rw [hw, hs]
  exact h key name

theorem withSession_facts {A : Type} {key : SessionKey}
    {taken : Except MemoryRaised A × SqlMemoryStore} (h : taken.2.facts = s.facts) :
    (s.withSession iso key taken).2.facts = s.facts := by
  unfold SqlMemoryStore.withSession
  split
  · rfl
  · exact h

theorem update_facts {key : SessionKey} {rows : SessionRows} (h : rows.facts = (w key).facts)
    (other : SessionKey) : (Function.update w key rows other).facts = (w other).facts := by
  by_cases hkey : other = key
  · subst hkey
    rw [Function.update_self]
    exact h
  · rw [Function.update_of_ne hkey]

theorem whenCreated_facts {rows : SessionRows} {out : Except MemoryRaised MemoryValue × SessionRows}
    (h : out.2.facts = rows.facts) : (rows.whenCreated out).2.facts = rows.facts := by
  unfold SessionRows.whenCreated
  split
  · rfl
  · exact h

theorem FactsHeld.insert (h : FactsHeld iso w s) (key : SessionKey) (name : String)
    (fact : MemoryFact) :
    FactsHeld iso (Function.update w key { w key with facts := (w key).facts.insert name fact })
      { s with facts := s.facts.put key name 0 (payloadJson (fact.data iso)) } := by
  intro other name'
  change (s.facts.insert ⟨key, name⟩ ⟨0, _⟩).get? ⟨other, name'⟩ = _
  rw [OrderedDict.get?_insert]
  by_cases hkey : other = key
  · subst hkey
    rw [Function.update_self]
    simp only
    rw [OrderedDict.get?_insert]
    by_cases hname : name' = name
    · rw [if_pos (by rw [hname]), if_pos hname]
      rfl
    · rw [if_neg (fun heq => hname (DocKey.mk.inj heq).2), if_neg hname]
      exact h other name'
  · rw [if_neg (fun heq => hkey (DocKey.mk.inj heq).1), Function.update_of_ne hkey]
    exact h other name'

theorem FactsHeld.erase (h : FactsHeld iso w s) (key : SessionKey) (name : String) :
    FactsHeld iso (Function.update w key { w key with facts := (w key).facts.erase name })
      (s.deleteFact key name).2 := by
  intro other name'
  change (s.facts.erase ⟨key, name⟩).get? ⟨other, name'⟩ = _
  rw [OrderedDict.get?_erase]
  by_cases hkey : other = key
  · subst hkey
    rw [Function.update_self]
    simp only
    rw [OrderedDict.get?_erase]
    by_cases hname : name' = name
    · rw [if_pos (by rw [hname]), if_pos hname]
      rfl
    · rw [if_neg (fun heq => hname (DocKey.mk.inj heq).2), if_neg hname]
      exact h other name'
  · rw [if_neg (fun heq => hkey (DocKey.mk.inj heq).1), Function.update_of_ne hkey]
    exact h other name'

theorem FactsHeld.perform (h : FactsHeld iso w s) (hrep : ∀ key, Represents iso (w key) s key)
    (call : MemoryCall) (drawn : Drawn) :
    FactsHeld iso (w.perform call drawn).2 (s.perform iso call drawn).2 := by
  unfold SessionRecords.perform SqlMemoryStore.perform
  split_ifs
  · cases hop : call.op with
    | getOrCreateSession userId metadata =>
      refine h.of_eq (update_facts rfl) ?_
      simp only [SqlMemoryStore.operate, SqlMemoryStore.getOrCreateSession]
      split <;> rfl
    | setFact name value source confidence =>
      have hr := hrep call.session
      simp only [SessionRows.operate, SessionRows.whenCreated, SqlMemoryStore.operate,
        SqlMemoryStore.setFact, SqlMemoryStore.withSession]
      by_cases hconfidence : 0 ≤ confidence ∧ confidence ≤ 1
      · rw [if_neg (not_not.mpr hconfidence), if_pos hconfidence]
        by_cases hrow : (w call.session).session = none
        · rw [if_pos hrow, hr.requireSession_none hrow]
          exact h.of_eq (update_facts rfl) rfl
        · rw [if_neg hrow, hr.requireSession_some hrow]
          exact h.insert call.session name _
      · rw [if_pos hconfidence, if_neg hconfidence]
        apply h.of_eq (update_facts _) rfl
        split <;> rfl
    | deleteFact name => exact h.erase call.session name
    | appendTurn role content tokenCount modelUsed =>
      refine h.of_eq (update_facts (whenCreated_facts rfl)) ?_
      exact withSession_facts rfl
    | upsertSummary text lastAppliedTurnId sourceModel expectedVersion =>
      refine h.of_eq (update_facts (whenCreated_facts ?_)) ?_
      · split <;> rfl
      · simp only [SqlMemoryStore.operate, SqlMemoryStore.upsertSummary]
        apply withSession_facts
        split
        · rfl
        · split_ifs <;> rfl
    | getSession | listTurns | turnCount | getFacts | getSummary | clearSummary =>
      exact h.of_eq (update_facts rfl) rfl
  · exact h

/-- What the tables hold after a history, beside the records of the in-memory store. -/
theorem sqlAfter_holds (iso : IsoFormat) (history : List (MemoryCall × Drawn)) :
    (∀ key, Represents iso ((memoryAfter history).rowsOf key) (sqlAfter iso history) key) ∧
      FactsHeld iso (memoryAfter history).rowsOf (sqlAfter iso history) := by
  induction history using List.reverseRecOn with
  | nil => exact ⟨Represents.empty iso, fun key name => rfl⟩
  | append_singleton history step ih =>
    obtain ⟨hrep, hheld⟩ := ih
    rw [memoryAfter_append, sqlAfter_append]
    refine ⟨(perform_simulates hrep step.1 step.2 step.2).2, ?_⟩
    rw [((memoryAfter history).perform_rowsOf step.1 step.2).2]
    exact hheld.perform hrep step.1 step.2

variable (iso) in
/-- Documents of facts are read back, each under its key. -/
theorem readBack_pairs {edits : List (Edit String MemoryFact)} :
    ∀ table : List (DocKey × DocRow JsonObj),
      (∀ row ∈ table, ∃ f, valueAfter edits row.1.itemKey = some f ∧
        row.2.payload = payloadJson (f.data iso)) →
      ∃ pairs : List (String × MemoryFact),
        pairs.map Prod.fst = table.map (fun row => row.1.itemKey) ∧
        (table.map (fun row => row.2.payload)).mapM (fun data => readBack (decodeFact iso data)) =
          .ok (pairs.map Prod.snd) ∧
        ∀ p ∈ pairs, valueAfter edits p.1 = some p.2 := by
  intro table
  induction table with
  | nil =>
    intro _
    exact ⟨[], rfl, rfl, fun p hp => nomatch hp⟩
  | cons row table ih =>
    intro hrows
    obtain ⟨pairs, hkeys, hread, hvalues⟩ := ih (fun r hr => hrows r (List.mem_cons_of_mem _ hr))
    obtain ⟨f, hf, hpayload⟩ := hrows row List.mem_cons_self
    refine ⟨(row.1.itemKey, f) :: pairs, by rw [List.map_cons, List.map_cons, hkeys], ?_, ?_⟩
    · rw [List.map_cons, List.mapM_cons, hpayload, decodeFact_payload, hread]
      rfl
    · intro p hp
      rcases List.mem_cons.1 hp with rfl | hp
      · exact hf
      · exact hvalues p hp

/-- The SQL store lists facts in the order of their keys. -/
theorem sql_lists (iso : IsoFormat) (key : SessionKey) (history : List (MemoryCall × Drawn)) :
    ∃ pairs, (sqlAfter iso history).getFacts iso key = .ok (pairs.map Prod.snd) ∧
      Lists (factEdits key history) (fun name name' => name < name') pairs := by
  set s := sqlAfter iso history
  have hheld : ∀ name, s.facts.get? ⟨key, name⟩ =
      (valueAfter (factEdits key history) name).map
        (fun f => ⟨0, payloadJson (f.data iso)⟩) := by
    intro name
    have hfacts : ((memoryAfter history).rowsOf key).facts = after (factEdits key history) :=
      (says_memoryAfter key history).facts
    rw [(sqlAfter_holds iso history).2 key name, hfacts, OrderedDict.get?_after]
  set table := (s.facts.rows key).insertionSort DocTable.RowLe
  have hperm : table.Perm (s.facts.rows key) := List.perm_insertionSort _ _
  have hrow : ∀ row ∈ table, ∃ f, valueAfter (factEdits key history) row.1.itemKey = some f ∧
      row.2 = ⟨0, payloadJson (f.data iso)⟩ := by
    intro row hmem
    have hin := hperm.mem_iff.1 hmem
    rw [DocTable.rows, List.mem_filter] at hin
    have hsession : row.1.session = key := by simpa using hin.2
    have hget := (s.facts.mem_entries_iff row.1 row.2).1 hin.1
    have hkey : row.1 = ⟨key, row.1.itemKey⟩ := by rw [← hsession]
    rw [hkey, hheld] at hget
    obtain ⟨f, hf, heq⟩ := Option.map_eq_some_iff.1 hget
    exact ⟨f, hf, heq.symm⟩
  obtain ⟨pairs, hkeys, hread, hvalues⟩ := readBack_pairs iso table
    (fun row hmem => by
      obtain ⟨f, hf, heq⟩ := hrow row hmem
      exact ⟨f, hf, by rw [heq]⟩)
  refine ⟨pairs, hread, ?_, ?_⟩
  · -- the rows are sorted by their keys, which are distinct
    have hnodup : (table.map (fun row => row.1.itemKey)).Nodup :=
      (hperm.map _).nodup_iff.2 (DocTable.itemKeys_nodup _ _)
    have hsorted : table.Pairwise DocTable.RowLe := List.pairwise_insertionSort _ _
    have hle : (table.map (fun row => row.1.itemKey)).Pairwise (· ≤ ·) := by
      rw [List.pairwise_map]
      apply hsorted.imp_of_mem
      intro a b ha hb hab
      obtain ⟨f, -, hfa⟩ := hrow a ha
      obtain ⟨f', -, hfb⟩ := hrow b hb
      rcases hab with hlt | ⟨-, hle⟩
      · rw [hfa, hfb] at hlt
        exact absurd hlt (lt_irrefl _)
      · exact hle
    rw [← List.pairwise_map (f := Prod.fst) (R := fun name name' => name < name'), hkeys]
    refine hle.imp₂ (fun a b hab hne => ?_) hnodup
    exact String.not_le.1 (fun hba => hne (String.le_antisymm hab hba))
  · intro name f
    constructor
    · intro hmem
      exact hvalues (name, f) hmem
    · intro hf
      have hget := hheld name
      rw [hf] at hget
      have hin : (⟨⟨key, name⟩, ⟨0, payloadJson (f.data iso)⟩⟩ : DocKey × DocRow JsonObj) ∈ table := by
        rw [hperm.mem_iff, DocTable.rows, List.mem_filter]
        exact ⟨(s.facts.mem_entries_iff _ _).2 hget, by simp⟩
      have hname : name ∈ pairs.map Prod.fst := by
        rw [hkeys]
        exact List.mem_map.2 ⟨_, hin, rfl⟩
      obtain ⟨p, hp, rfl⟩ := List.mem_map.1 hname
      have hvalue := hvalues p hp
      rw [hf, Option.some.injEq] at hvalue
      rw [hvalue]
      exact hp

end Sql

/-! ## Oldest first -/

/-- **After any history, every budget drops the oldest facts first: in memory, exactly when of two
facts the one whose key entered first was set no later; in the SQL store, exactly when the one with
the smaller key was.** -/
theorem oldest_dropped_iff (iso : IsoFormat) (key : SessionKey)
    (history : List (MemoryCall × Drawn)) (summary mark : Option Summary)
    (turns : List LoggedTurn) :
    ((∀ config identity, OldestDropped ((memoryAfter history).getFacts key)
        (assembleContext config identity (some
          ⟨((memoryAfter history).getFacts key).map MemoryFact.rendered, summary, mark, turns⟩))) ↔
      SetInEntryOrder (factEdits key history)) ∧
    ∃ listed, (sqlAfter iso history).getFacts iso key = .ok listed ∧
      ((∀ config identity, OldestDropped listed (assembleContext config identity
          (some ⟨listed.map MemoryFact.rendered, summary, mark, turns⟩))) ↔
        SetInKeyOrder (factEdits key history)) := by
  constructor
  · rw [always_oldest_iff]
    exact (memory_lists key history).chronological_iff (fun a b hab => hab.asymm)
  · obtain ⟨pairs, hread, hlists⟩ := sql_lists iso key history
    refine ⟨pairs.map Prod.snd, hread, ?_⟩
    rw [always_oldest_iff]
    exact hlists.chronological_iff (fun a b hab => String.lt_asymm hab)

/-- Two facts are set, and the first is set again. -/
def overwrittenFirst : List (MemoryCall × Drawn) :=
  [(⟨⟨"t", "s"⟩, .getOrCreateSession none none⟩, ⟨"0", 0⟩),
    (⟨⟨"t", "s"⟩, .setFact "a" "old" "declared" 1⟩, ⟨"1", 1⟩),
    (⟨⟨"t", "s"⟩, .setFact "b" "old" "declared" 1⟩, ⟨"2", 2⟩),
    (⟨⟨"t", "s"⟩, .setFact "a" "new" "declared" 1⟩, ⟨"3", 3⟩)]

/-- A budget for one of the two drops the newer one. -/
theorem newer_fact_dropped :
    ¬ OldestDropped ((memoryAfter overwrittenFirst).getFacts ⟨"t", "s"⟩)
      (assembleContext (charsConfig 10) augmented (some
        ⟨((memoryAfter overwrittenFirst).getFacts ⟨"t", "s"⟩).map MemoryFact.rendered,
          none, none, []⟩)) := by
  unfold OldestDropped
  decide

end ModelMeld
