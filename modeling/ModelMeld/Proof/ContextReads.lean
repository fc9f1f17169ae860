import ModelMeld.Lib.Runs
import ModelMeld.Proof.Coverage
import ModelMeld.Spec.Context

/-!
# A context that is read piece by piece

An assembly reads the summary for its text, once more for its mark, and then the
log. Appends and summaries that other workers store may come in between. The
context covers the log the assembly began with exactly when the summary read
second reflects no turn of that log the first does not
(`covers_begun_iff`).
-/

namespace ModelMeld

/-! ## What a summary reflects -/

/-- How many turns of a log, from its start on, a summary reflects. -/
def reflected (log : List LoggedTurn) (summary : Option Summary) : ℕ :=
  log.length - (turnsAfter log summary).length

theorem turnsAfterId_suffix {id : String} : ∀ {log rest : List LoggedTurn},
    turnsAfterId id log = some rest → rest <:+ log := by
  intro log
  induction log with
  | nil => intro rest h; cases h
  | cons turn log ih =>
    intro rest h
    unfold turnsAfterId at h
    split_ifs at h with hid
    · cases h
      exact List.suffix_cons turn log
    · exact (ih h).trans (List.suffix_cons turn log)

theorem turnsAfter_suffix (log : List LoggedTurn) (summary : Option Summary) :
    turnsAfter log summary <:+ log := by
  unfold turnsAfter
  split
  · exact List.suffix_refl log
  next id _ =>
    cases hafter : turnsAfterId id log with
    | none => exact List.suffix_refl log
    | some rest => exact turnsAfterId_suffix hafter

theorem turnsAfter_eq_drop (log : List LoggedTurn) (summary : Option Summary) :
    turnsAfter log summary = log.drop (reflected log summary) :=
  List.suffix_iff_eq_drop.mp (turnsAfter_suffix log summary)

/-- A part of a list from some place on, as long as another place does not leave any of it out. -/
theorem mem_drop_of_mem_take_iff {A : Type} {l : List A} (hnd : l.Nodup) {n a b : ℕ}
    (hn : n ≤ l.length) :
    (∀ x ∈ l.take n, x ∈ l.drop a → x ∈ l.drop b) ↔ b ≤ a ∨ n ≤ a := by
  constructor
  · intro h
    by_contra hlt
    rw [not_or, not_le, not_le] at hlt
    obtain ⟨hab, han⟩ := hlt
    have hlen : a < l.length := by omega
    have htake : l[a] ∈ l.take n :=
      List.mem_take_iff_getElem.mpr ⟨a, by omega, rfl⟩
    have hdrop : l[a] ∈ l.drop a :=
      List.mem_drop_iff_getElem.mpr ⟨0, by omega, by simp⟩
    obtain ⟨j, hj, heq⟩ := List.mem_drop_iff_getElem.mp (h _ htake hdrop)
    have hindex : b + j = a := (hnd.getElem_inj_iff).mp heq
    omega
  · rintro (hba | hna) x htake hdrop
    · exact (List.drop_sublist_drop_left l hba).subset hdrop
    · have hdisjoint := List.disjoint_take_drop hnd hna
      exact absurd hdrop (hdisjoint htake)

/-! ## Budgets -/

theorem popWhile_suffix {A : Type} (exceeds : List A → Bool) : ∀ xs : List A,
    popWhile exceeds xs <:+ xs := by
  intro xs
  induction xs with
  | nil => exact List.suffix_refl _
  | cons x xs ih =>
    unfold popWhile
    split
    · exact ih.trans (List.suffix_cons x xs)
    · exact List.suffix_refl _

theorem popWhile_eq_self {A : Type} {exceeds : List A → Bool} {xs : List A}
    (h : ¬ (popWhile exceeds xs).length < xs.length) : popWhile exceeds xs = xs :=
  (popWhile_suffix exceeds xs).eq_of_length_le (not_lt.mp h)

theorem cutSummary_eq_self {room : ℤ} {cut : String → String} {summary : Option Summary}
    (h : (cutSummary room cut summary).2 = false) : (cutSummary room cut summary).1 = summary := by
  unfold cutSummary at h ⊢
  cases summary with
  | none => rfl
  | some s =>
    simp only at h ⊢
    split_ifs at h ⊢
    rfl

/-- What every budget does last: it drops turns, cuts the summary and drops facts, and says so. -/
theorem kept_of_not_truncated {room : ℤ} {cut : String → String} {facts : List Fact}
    {summary : Option Summary} {recent : List LoggedTurn} {overTurns : List LoggedTurn → Bool}
    {overFacts : List Fact → Bool} {truncated : Bool}
    (htruncated : truncated = (decide ((popWhile overTurns recent).length < recent.length) ||
      (cutSummary room cut summary).2 ||
      decide ((popWhile overFacts facts).length < facts.length)))
    (h : truncated = false) :
    (⟨popWhile overFacts facts, (cutSummary room cut summary).1, popWhile overTurns recent,
      truncated⟩ : AssembledContext) = ⟨facts, summary, recent, false⟩ := by
  have hkept := htruncated.symm.trans h
  simp only [Bool.or_eq_false_iff, decide_eq_false_iff_not] at hkept
  rw [h, popWhile_eq_self hkept.2, cutSummary_eq_self hkept.1.2, popWhile_eq_self hkept.1.1]

theorem enforceBudget_of_not_truncated {maxChars : ℤ} {facts : List Fact}
    {summary : Option Summary} {recent : List LoggedTurn}
    (h : (enforceBudget maxChars facts summary recent).truncated = false) :
    enforceBudget maxChars facts summary recent = ⟨facts, summary, recent, false⟩ := by
  unfold enforceBudget at h ⊢
  by_cases hfits : estimateChars facts summary recent ≤ maxChars
  · rw [if_pos hfits]
  · rw [if_neg hfits] at h ⊢
    simp only at h ⊢
    split_ifs at h ⊢
    exact kept_of_not_truncated rfl h

theorem enforceTokenBudget_of_not_truncated {maxTokens : ℤ} {countText : String → ℤ}
    {facts : List Fact} {summary : Option Summary} {recent : List LoggedTurn}
    (h : (enforceTokenBudget maxTokens countText facts summary recent).truncated = false) :
    enforceTokenBudget maxTokens countText facts summary recent =
      ⟨facts, summary, recent, false⟩ := by
  unfold enforceTokenBudget at h ⊢
  by_cases hfits : currentTotal countText facts summary recent ≤ maxTokens
  · rw [if_pos hfits]
  · rw [if_neg hfits] at h ⊢
    simp only at h ⊢
    split_ifs at h ⊢
    exact kept_of_not_truncated rfl h

theorem enforce_of_not_truncated {budget : Budget} {facts : List Fact}
    {summary : Option Summary} {recent : List LoggedTurn}
    (h : (budget.enforce facts summary recent).truncated = false) :
    budget.enforce facts summary recent = ⟨facts, summary, recent, false⟩ := by
  cases budget with
  | chars maxChars => exact enforceBudget_of_not_truncated h
  | tokens maxTokens countText => exact enforceTokenBudget_of_not_truncated h

/-! ## What an assembly covers -/

/-- Neither the cap nor the budget cuts anything. -/
structure Uncut (config : AssembleConfig) (identity : MemoryIdentity) (r : StoreReadings) : Prop where
  cap : capTurns config.hotZoneCap (turnsAfter r.turns r.mark) = turnsAfter r.turns r.mark
  budget : (assembleContext config identity (some r)).truncated = false

/-- Every turn of the log the assembly began with is reflected by the summary it returns or is
among the recent turns. -/
def CoversBegun (config : AssembleConfig) (identity : MemoryIdentity) (w : AssemblyWorld) : Prop :=
  ∀ begun r, w.reader = .finished begun (some r) → Uncut config identity r →
    ∀ turn ∈ begun, turn ∈ turnsAfter r.turns (assembleContext config identity (some r)).summary →
      turn ∈ (assembleContext config identity (some r)).recentTurns

/-- An assembly that is about to list the turns: what it read second reflects no turn of the log
it began with that the summary read first does not. -/
def MarkStays (config : AssembleConfig) (identity : MemoryIdentity) (w : AssemblyWorld)
    (e : AssemblyEvent) : Prop :=
  e = .step → ∀ begun facts summary mark, w.reader = .listing begun facts summary mark →
    Uncut config identity ⟨facts, summary, mark, w.memory.turns⟩ →
      reflected w.memory.turns mark ≤ reflected w.memory.turns summary ∨
        begun.length ≤ reflected w.memory.turns summary

/-- The store draws a new id for every turn. -/
def NewTurnId (w : AssemblyWorld) : AssemblyEvent → Prop
  | .append turn => turn.turnId ∉ turnIds w.memory.turns
  | _ => True

instance (w : AssemblyWorld) : (e : AssemblyEvent) → Decidable (NewTurnId w e)
  | .append turn => inferInstanceAs (Decidable (turn.turnId ∉ turnIds w.memory.turns))
  | .upsert _ _ _ _ _ | .facts _ | .step | .fail => inferInstanceAs (Decidable True)

/-- The log an assembly that still waits began with. -/
def AssemblyState.begun : AssemblyState → Option (List LoggedTurn)
  | .readingFacts begun | .readingSummary begun _ | .rereading begun _ _ | .listing begun _ _ _ =>
    some begun
  | .started | .finished _ _ => none

/-- An assembly that lists the turns is a FULL one. -/
def AssemblyState.isListing : AssemblyState → Bool
  | .rereading _ _ _ | .listing _ _ _ _ => true
  | _ => false

structure AssemblyInv (identity : MemoryIdentity) (w : AssemblyWorld) : Prop where
  ids : (turnIds w.memory.turns).Nodup
  begun : ∀ log, w.reader.begun = some log → log <+: w.memory.turns
  reading : w.reader.begun ≠ none → identity.silent = false
  full : w.reader.isListing = true → identity.mode = .full

variable {config : AssembleConfig} {identity : MemoryIdentity} {w : AssemblyWorld}
  {e : AssemblyEvent}

theorem upsertSummary_turns (m : SessionMemory) (freshId text : String)
    (lastAppliedTurnId sourceModel : Option String) (expectedVersion : Option ℤ)
    (folded : List LoggedTurn) :
    (m.upsertSummary freshId text lastAppliedTurnId sourceModel expectedVersion folded).2.turns =
      m.turns := by
  unfold SessionMemory.upsertSummary
  split_ifs <;> rfl

/-- What an event does to the log. -/
theorem turns_act (identity : MemoryIdentity) (w : AssemblyWorld) (e : AssemblyEvent) :
    (w.act identity e).memory.turns = w.memory.turns ∨
      ∃ turn, e = .append turn ∧ (w.act identity e).memory.turns = w.memory.turns ++ [turn] := by
  cases e with
  | append turn =>
    rcases appendTurn_cases w.memory turn with hsame | hgrown
    · exact .inl (congrArg SessionMemory.turns hsame)
    · exact .inr ⟨turn, rfl, congrArg SessionMemory.turns hgrown⟩
  | upsert freshId text lastAppliedTurnId sourceModel expectedVersion =>
    exact .inl (upsertSummary_turns _ _ _ _ _ _ _)
  | facts | step | fail => exact .inl rfl

/-- What an event does to the assembly. -/
theorem reader_act (identity : MemoryIdentity) (w : AssemblyWorld) (e : AssemblyEvent) :
    (w.act identity e).reader = w.reader ∨
      (e = .step ∧
        (w.act identity e).reader = assemblyStep identity w.memory w.facts w.reader) ∨
      (e = .fail ∧ (w.act identity e).reader = assemblyFails w.reader) := by
  cases e with
  | append | upsert | facts => exact .inl rfl
  | step => exact .inr (.inl ⟨rfl, rfl⟩)
  | fail => exact .inr (.inr ⟨rfl, rfl⟩)

/-- What a step of the assembly keeps, whatever it reads. -/
theorem assemblyStep_inv (m : SessionMemory) (facts : List Fact) {s : AssemblyState}
    (hbegun : ∀ log, s.begun = some log → log <+: m.turns)
    (hreading : s.begun ≠ none → identity.silent = false)
    (hfull : s.isListing = true → identity.mode = .full) :
    (∀ log, (assemblyStep identity m facts s).begun = some log → log <+: m.turns) ∧
      ((assemblyStep identity m facts s).begun ≠ none → identity.silent = false) ∧
      ((assemblyStep identity m facts s).isListing = true → identity.mode = .full) := by
  cases s with
  | started =>
    simp only [assemblyStep]
    split_ifs with hsilent
    · exact ⟨fun _ h => (by cases h), fun h => absurd rfl h, fun h => (by cases h)⟩
    · refine ⟨fun log h => ?_, fun _ => (by simpa using hsilent), fun h => (by cases h)⟩
      cases h
      exact List.prefix_refl _
  | readingFacts begun => exact ⟨hbegun, hreading, fun h => (by cases h)⟩
  | readingSummary begun facts =>
    simp only [assemblyStep]
    split_ifs with hmode
    · exact ⟨hbegun, hreading, fun _ => hmode⟩
    · exact ⟨fun _ h => (by cases h), fun h => absurd rfl h, fun h => (by cases h)⟩
  | rereading begun facts summary => exact ⟨hbegun, hreading, fun _ => hfull rfl⟩
  | listing begun facts summary mark =>
    exact ⟨fun _ h => (by cases h), fun h => absurd rfl h, fun h => (by cases h)⟩
  | finished begun readings =>
    exact ⟨fun _ h => (by cases h), fun h => absurd rfl h, fun h => (by cases h)⟩

theorem assemblyFails_quiet (s : AssemblyState) :
    (assemblyFails s).begun = none ∧ (assemblyFails s).isListing = false := by
  cases s <;> exact ⟨rfl, rfl⟩

theorem AssemblyInv.act (h : AssemblyInv identity w) (hnew : NewTurnId w e) :
    AssemblyInv identity (w.act identity e) := by
  have hgrow : w.memory.turns <+: (w.act identity e).memory.turns := by
    rcases turns_act identity w e with hsame | ⟨turn, -, hgrown⟩
    · rw [hsame]
    · rw [hgrown]
      exact List.prefix_append _ _
  have hids : (turnIds (w.act identity e).memory.turns).Nodup := by
    rcases turns_act identity w e with hsame | ⟨turn, rfl, hgrown⟩
    · rw [hsame]
      exact h.ids
    · rw [hgrown]
      simp only [turnIds, List.map_append, List.map_cons, List.map_nil]
      exact List.nodup_append_comm.mp (List.nodup_cons.mpr ⟨hnew, h.ids⟩)
  rcases reader_act identity w e with hreader | ⟨rfl, hreader⟩ | ⟨rfl, hreader⟩
  · exact ⟨hids, fun log hlog => (h.begun log (hreader ▸ hlog)).trans hgrow,
      fun hne => h.reading (hreader ▸ hne), fun hlist => h.full (hreader ▸ hlist)⟩
  · obtain ⟨hbegun, hreading, hfull⟩ :=
      assemblyStep_inv w.memory w.facts h.begun h.reading h.full
    exact ⟨hids, fun log hlog => hbegun log (hreader ▸ hlog),
      fun hne => hreading (hreader ▸ hne), fun hlist => hfull (hreader ▸ hlist)⟩
  · obtain ⟨hnone, hquiet⟩ := assemblyFails_quiet w.reader
    refine ⟨hids, fun log hlog => ?_, fun hne => ?_, fun hlist => ?_⟩
    · rw [hreader, hnone] at hlog
      cases hlog
    · rw [hreader] at hne
      exact absurd hnone hne
    · rw [hreader, hquiet] at hlist
      cases hlist

/-- What a FULL assembly returns when nothing is cut. -/
theorem assembleContext_uncut {r : StoreReadings} (hsilent : identity.silent = false)
    (hfull : identity.mode = .full) (h : Uncut config identity r) :
    assembleContext config identity (some r) =
      ⟨r.facts, r.summary, turnsAfter r.turns r.mark, false⟩ := by
  have hbudget := h.budget
  unfold assembleContext at hbudget ⊢
  simp only [hsilent, hfull, if_true, h.cap] at hbudget ⊢
  exact enforce_of_not_truncated hbudget

/-- An assembly that ended does not change any more. -/
theorem reader_act_of_finished {begun : List LoggedTurn} {readings : Option StoreReadings}
    (h : w.reader = .finished begun readings) : (w.act identity e).reader = w.reader := by
  rcases reader_act identity w e with hreader | ⟨-, hreader⟩ | ⟨-, hreader⟩
  · exact hreader
  · rw [hreader, h]
    rfl
  · rw [hreader, h]
    rfl

/-- How an assembly ends with a context. -/
theorem finished_cases {begun : List LoggedTurn} {r : StoreReadings}
    (h : (w.act identity e).reader = .finished begun (some r)) :
    w.reader = .finished begun (some r) ∨ r.turns = [] ∨
      (e = .step ∧ w.reader = .listing begun r.facts r.summary r.mark ∧
        r.turns = w.memory.turns) := by
  rcases reader_act identity w e with hreader | ⟨rfl, hreader⟩ | ⟨rfl, hreader⟩
  · exact .inl (hreader ▸ h)
  · rw [hreader] at h
    cases hs : w.reader with
    | started =>
      simp only [hs, assemblyStep] at h
      split_ifs at h
      cases h
    | readingFacts => rw [hs] at h; cases h
    | readingSummary =>
      simp only [hs, assemblyStep] at h
      split_ifs at h
      cases h
      exact .inr (.inl rfl)
    | rereading => rw [hs] at h; cases h
    | listing begun' facts summary mark =>
      rw [hs] at h
      cases h
      exact .inr (.inr ⟨rfl, rfl, rfl⟩)
    | finished begun' readings => rw [hs] at h; exact .inl h
  · rw [hreader] at h
    cases hs : w.reader with
    | finished begun' readings => rw [hs] at h; exact .inl h
    | _ => rw [hs] at h; cases h

theorem coversBegun_act (h : AssemblyInv identity w) (hgood : CoversBegun config identity w) :
    CoversBegun config identity (w.act identity e) ↔ MarkStays config identity w e := by
  have hlisting : ∀ begun facts summary mark,
      w.reader = .listing begun facts summary mark →
      Uncut config identity ⟨facts, summary, mark, w.memory.turns⟩ →
      ((∀ turn ∈ begun, turn ∈ turnsAfter w.memory.turns
          (assembleContext config identity (some ⟨facts, summary, mark, w.memory.turns⟩)).summary →
        turn ∈ (assembleContext config identity
          (some ⟨facts, summary, mark, w.memory.turns⟩)).recentTurns) ↔
        reflected w.memory.turns mark ≤ reflected w.memory.turns summary ∨
          begun.length ≤ reflected w.memory.turns summary) := by
    intro begun facts summary mark hreader huncut
    have hbegun : begun <+: w.memory.turns := h.begun begun (by rw [hreader]; rfl)
    have hsilent := h.reading (by rw [hreader]; exact Option.some_ne_none begun)
    have hfull := h.full (by rw [hreader]; rfl)
    rw [assembleContext_uncut hsilent hfull huncut]
    simp only [turnsAfter_eq_drop]
    have htake : begun = w.memory.turns.take begun.length := List.prefix_iff_eq_take.mp hbegun
    have hdrop := mem_drop_of_mem_take_iff (h.ids.of_map _) (a := reflected w.memory.turns summary)
      (b := reflected w.memory.turns mark) hbegun.length_le
    rw [← htake] at hdrop
    exact hdrop
  constructor
  · rintro hafter rfl begun facts summary mark hreader huncut
    have hfinished : (w.act identity .step).reader =
        .finished begun (some ⟨facts, summary, mark, w.memory.turns⟩) := by
      simp only [AssemblyWorld.act, hreader, assemblyStep]
    exact (hlisting begun facts summary mark hreader huncut).mp (hafter begun _ hfinished huncut)
  · intro hstays begun r hfinished huncut
    rcases finished_cases hfinished with hbefore | hnil | ⟨rfl, hreader, hturns⟩
    · exact hgood begun r hbefore huncut
    · intro turn _ hmem
      rw [hnil] at hmem
      exact absurd ((turnsAfter_suffix [] _).subset hmem) (by simp)
    · obtain ⟨facts, summary, mark, turns⟩ := r
      subst hturns
      exact (hlisting begun facts summary mark hreader huncut).mpr
        (hstays rfl begun facts summary mark hreader huncut)

/-- **A context that is read piece by piece covers the log its assembly began with exactly when
the mark it was cut at reflects no turn of that log that the summary it carries does not.** -/
theorem covers_begun_iff (config : AssembleConfig) (identity : MemoryIdentity) (created : Bool)
    (events : List AssemblyEvent)
    (hnew : Runs.Along (AssemblyWorld.act identity) NewTurnId { memory := { created := created } }
      events) :
    CoversBegun config identity
        (Runs.run (AssemblyWorld.act identity) { memory := { created := created } } events) ↔
      Runs.Along (AssemblyWorld.act identity) (MarkStays config identity)
        { memory := { created := created } } events := by
  have hstart : AssemblyInv identity { memory := { created := created } } :=
    ⟨List.nodup_nil, fun _ h => (by cases h), fun h => absurd rfl h, fun h => (by cases h)⟩
  have hrun := Runs.run_good_iff_of_along (AssemblyWorld.act identity) (AssemblyInv identity)
    (CoversBegun config identity) (fun w e h hnew => h.act hnew)
    (fun w e _ _ hgood begun r hreader => hgood begun r
      ((reader_act_of_finished hreader).trans hreader))
    (fun w e h _ hgood => coversBegun_act (e := e) h hgood) events _ hstart hnew
  rw [hrun]
  exact ⟨fun h => h.2, fun h => ⟨fun _ _ hreader => (by cases hreader), h⟩⟩

/-- Two turns, a summary of the first, and an assembly during which the second is folded too,
between the two readings of the summary. -/
def foldedMeanwhile : List AssemblyEvent :=
  [.append { turnId := "turn_1", role := .user, content := "use tabs" },
    .append { turnId := "turn_2", role := .assistant, content := "noted" },
    .upsert "sum_1" "Tabs." (some "turn_1") none none,
    .step, .step, .step,
    .upsert "sum_2" "Tabs, noted." (some "turn_2") none (some 1),
    .step, .step]

theorem covers_begun_iff_foldedMeanwhile :
    let identity : MemoryIdentity := { tenantId := "acme", sessionId := some "s-1", mode := .full }
    CoversBegun {} identity
        (Runs.run (AssemblyWorld.act identity) { memory := { created := true } } foldedMeanwhile) ↔
      Runs.Along (AssemblyWorld.act identity) (MarkStays {} identity)
        { memory := { created := true } } foldedMeanwhile :=
  covers_begun_iff {} { tenantId := "acme", sessionId := some "s-1", mode := .full } true
    foldedMeanwhile (by decide)

/-- The second turn is neither in the text that is returned nor among the recent turns. -/
theorem turn_lost_between_reads :
    ¬ CoversBegun {} { tenantId := "acme", sessionId := some "s-1", mode := .full }
      (Runs.run (AssemblyWorld.act { tenantId := "acme", sessionId := some "s-1", mode := .full })
        { memory := { created := true } } foldedMeanwhile) := by
  intro h
  have hlost := h _ _ rfl ⟨by decide, by decide⟩
    { turnId := "turn_2", role := .assistant, content := "noted" } (by decide) (by decide)
  revert hlost
  decide

end ModelMeld
