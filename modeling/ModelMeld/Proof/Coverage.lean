import ModelMeld.Lib.Runs
import ModelMeld.Lib.Versioned
import ModelMeld.Spec.Summarizer
import Mathlib.Data.List.DropRight
import Mathlib.Data.List.Nodup

/-!
# The summary and the turns after it cover the log

Any number of executions of `run_once` and of appends, interleaved at the
`await` points, leave the stored summary with exactly the turns up to its mark
folded in, each once (`summary_coverage`). An execution reads the summary twice
and the log after that, so what it folds starts where the second reading ends;
the store only takes it when the version is still that of the first reading, and
then both readings are what is stored (`Versioned.Older`).
-/

namespace ModelMeld

open Versioned

/-! ## Texts that are stored -/

/-- A text that starts with a character that is no space. -/
def StartsSolid (cs : List Char) : Prop := ∃ c rest, cs = c :: rest ∧ isSpace c = false

theorem strip_toList (s : String) :
    (strip s).toList = (s.toList.dropWhile isSpace).rdropWhile isSpace := by
  unfold strip List.rdropWhile
  rw [String.toList_ofList]

/-- A text that starts with a character that is no space is not blank. -/
theorem strip_ne_empty {s : String} (h : StartsSolid s.toList) : strip s ≠ "" := by
  obtain ⟨c, rest, hs, hc⟩ := h
  intro hempty
  have hnil : (s.toList.dropWhile isSpace).rdropWhile isSpace = [] := by
    rw [← strip_toList, hempty]
    rfl
  have hdrop : s.toList.dropWhile isSpace = c :: rest := by
    rw [hs, List.dropWhile_cons_of_neg (by simp [hc])]
  rw [hdrop, List.rdropWhile_eq_nil_iff] at hnil
  have := hnil c (by simp)
  simp [hc] at this

/-- A stripped text that is not empty starts with a character that is no space. -/
theorem strip_startsSolid {s : String} (h : strip s ≠ "") : StartsSolid (strip s).toList := by
  have hne : (strip s).toList ≠ [] := fun hnil => h (String.toList_inj.mp (by simpa using hnil))
  rw [strip_toList] at hne ⊢
  obtain ⟨c, rest, hdrop⟩ : ∃ c rest, s.toList.dropWhile isSpace = c :: rest := by
    cases hd : s.toList.dropWhile isSpace with
    | nil => simp [hd] at hne
    | cons c rest => exact ⟨c, rest, rfl⟩
  have hc : isSpace c = false := by
    have := List.head_dropWhile_not isSpace (l := s.toList) (by simp [hdrop])
    simpa [hdrop] using this
  rw [hdrop] at hne ⊢
  obtain ⟨tail, htail⟩ := List.rdropWhile_prefix isSpace (c :: rest)
  cases hr : (c :: rest).rdropWhile isSpace with
  | nil => exact absurd hr hne
  | cons c' rest' =>
    rw [hr] at htail
    have : c' = c := by simpa using (List.cons_eq_cons.mp htail).1
    exact ⟨c', rest', rfl, this ▸ hc⟩

theorem replaceAll_startsSolid {old new s : String} (hnew : StartsSolid new.toList)
    (h : StartsSolid s.toList) : StartsSolid (replaceAll old new s).toList := by
  obtain ⟨c, rest, hs, hc⟩ := h
  obtain ⟨c', rest', hn, hc'⟩ := hnew
  unfold replaceAll
  rw [String.toList_ofList, hs]
  unfold replaceFrom
  split_ifs
  · rw [hn]
    exact ⟨c', _, rfl, hc'⟩
  · exact ⟨c, _, rfl, hc⟩

theorem escaped_startsSolid {fragments : List (String × String)}
    (hnew : ∀ f ∈ fragments, StartsSolid f.2.toList) {s : String} (h : StartsSolid s.toList) :
    StartsSolid (fragments.foldl (fun text f => replaceAll f.1 f.2 text) s).toList := by
  induction fragments generalizing s with
  | nil => exact h
  | cons f fragments ih =>
    have hf : StartsSolid (replaceAll f.1 f.2 s).toList :=
      replaceAll_startsSolid (hnew f (by simp)) h
    exact ih (fun g hg => hnew g (by simp [hg])) hf

theorem take_startsSolid {cs : List Char} {n : ℕ} (h : StartsSolid cs) (hne : cs.take n ≠ []) :
    StartsSolid (cs.take n) := by
  obtain ⟨c, rest, rfl, hc⟩ := h
  cases n with
  | zero => simp at hne
  | succ n => exact ⟨c, rest.take n, rfl, hc⟩

/-- What `sanitize_summary` lets through is not blank. -/
theorem sanitizeSummary_readable {raw : String} {maxChars : ℤ}
    (h : sanitizeSummary raw maxChars ≠ "") : strip (sanitizeSummary raw maxChars) ≠ "" := by
  apply strip_ne_empty
  unfold sanitizeSummary at h ⊢
  by_cases hstrip : strip raw = ""
  · simp [hstrip] at h
  · have hescaped : StartsSolid (escapedFragments.foldl
        (fun text f => replaceAll f.1 f.2 text) (strip raw)).toList := by
      apply escaped_startsSolid _ (strip_startsSolid hstrip)
      intro f hf
      refine ⟨'&', f.2.toList.tail, ?_, by decide⟩
      simp only [escapedFragments, List.mem_cons, List.not_mem_nil, or_false] at hf
      rcases hf with rfl | rfl | rfl | rfl | rfl | rfl <;> rfl
    simp only [if_neg hstrip] at h ⊢
    split_ifs at h ⊢ with hlong
    · unfold sliceTo at h ⊢
      split_ifs at h ⊢ with hneg
      · rw [String.toList_ofList]
        exact take_startsSolid hescaped (fun hnil => h (by rw [hnil]))
      · rw [String.toList_ofList]
        exact take_startsSolid hescaped (fun hnil => h (by rw [hnil]))
    · exact hescaped

/-! ## What a summary covers -/

/-- A summary has exactly the turns of a log up to its mark folded in, and a text to go on from. -/
structure Covers (log : List LoggedTurn) (s : Summary) : Prop where
  folded : s.folded <+: log
  nonempty : s.folded ≠ []
  mark : s.lastAppliedTurnId = s.folded.getLast?.map LoggedTurn.turnId
  readable : strip s.text ≠ ""

/-- The ids of the turns of a log. -/
def turnIds (log : List LoggedTurn) : List String := log.map LoggedTurn.turnId

theorem Covers.mono {log log' : List LoggedTurn} {s : Summary} (h : Covers log s)
    (hlog : log <+: log') : Covers log' s :=
  { h with folded := h.folded.trans hlog }

theorem turnsAfterId_append {id : String} {before after : List LoggedTurn} {turn : LoggedTurn}
    (hbefore : id ∉ turnIds before) (hturn : turn.turnId = id) :
    turnsAfterId id (before ++ turn :: after) = some after := by
  induction before with
  | nil => simp [turnsAfterId, hturn]
  | cons first before ih =>
    have hne : first.turnId ≠ id := fun h => hbefore (by simp [turnIds, h])
    have hrest : id ∉ turnIds before := fun h => hbefore (by simp [turnIds] at h ⊢; exact .inr h)
    rw [List.cons_append, turnsAfterId, if_neg hne]
    exact ih hrest

/-- What `_turns_after` finds is what was not folded. -/
theorem Covers.folded_append {log : List LoggedTurn} {s : Summary} (h : Covers log s)
    (hids : (turnIds log).Nodup) : s.folded ++ turnsAfter log (some s) = log := by
  obtain ⟨after, hlog⟩ := h.folded
  obtain ⟨before, turn, hfolded⟩ : ∃ before turn, s.folded = before ++ [turn] :=
    ⟨_, _, (List.dropLast_append_getLast h.nonempty).symm⟩
  have hmark : s.lastAppliedTurnId = some turn.turnId := by
    rw [h.mark, hfolded]
    simp
  have hlog' : log = before ++ turn :: after := by
    rw [← hlog, hfolded]
    simp
  have hbefore : turn.turnId ∉ turnIds before := by
    rw [hlog', turnIds, List.map_append, List.nodup_append] at hids
    intro hmem
    exact hids.2.2 _ hmem _ (by simp) rfl
  have hafter : turnsAfter log (some s) = after := by
    simp only [turnsAfter, Option.bind_some, hmark]
    rw [hlog', turnsAfterId_append hbefore rfl]
    rfl
  rw [hafter, hlog]

/-- A summary, when there is one, covers a log. -/
def CoversOpt (log : List LoggedTurn) (summary : Option Summary) : Prop :=
  ∀ s, summary = some s → Covers log s

/-- The turns behind a prompt are the whole log the turns were listed from. -/
theorem CoversOpt.foldedBy_turnsAfter {log : List LoggedTurn} {summary : Option Summary}
    (h : CoversOpt log summary) (hids : (turnIds log).Nodup) :
    foldedBy summary (turnsAfter log summary) = log := by
  cases summary with
  | none => rfl
  | some s =>
    have hs := h s rfl
    have hprevious : previousText (some s) = some (strip s.text) := if_neg hs.readable
    unfold foldedBy
    rw [hprevious]
    exact hs.folded_append hids

/-- What is folded ends where the new turns end. -/
theorem turnsAfter_getLast {log : List LoggedTurn} {summary : Option Summary}
    (h : CoversOpt log summary) (hids : (turnIds log).Nodup)
    (hne : turnsAfter log summary ≠ []) :
    (turnsAfter log summary).getLast? = log.getLast? := by
  cases summary with
  | none => rfl
  | some s =>
    have hlog := (h s rfl).folded_append hids
    conv_rhs => rw [← hlog]
    exact (List.getLast?_append_of_ne_nil _ hne).symm

/-! ## What an execution holds -/

/-- The turns an execution is going to fold: those after its second reading of the summary, in the
log as it stood when it listed them. -/
def Ready (m : SessionMemory) (current : Option Summary) (recent : List LoggedTurn) : Prop :=
  ∃ summary log, Older versionOf current summary ∧ Older versionOf summary m.summary ∧
    log <+: m.turns ∧ CoversOpt log summary ∧ recent = turnsAfter log summary ∧ recent ≠ []

/-- The readings of an execution, as far as it has come. -/
def RunOk (m : SessionMemory) : RunState → Prop
  | .reading _ => True
  | .rereading _ current => Older versionOf current m.summary
  | .listing _ current summary =>
    Older versionOf current summary ∧ Older versionOf summary m.summary ∧
      CoversOpt m.turns summary
  | .asking _ current recent => Ready m current recent
  | .storing _ current recent text => Ready m current recent ∧ strip text ≠ ""
  | .finished _ => True

/-- The session between two steps. -/
structure SessionInv (w : SessionWorld) : Prop where
  distinct : (turnIds w.memory.turns).Nodup
  stored : CoversOpt w.memory.turns w.memory.summary
  runs : ∀ i, RunOk w.memory (w.runs i)

/-- Readings stay good when the log grows and the summary is left, or written with a higher version. -/
theorem RunOk.later {m m' : SessionMemory} {r : RunState} (h : RunOk m r)
    (hturns : m.turns <+: m'.turns)
    (hsummary : m'.summary = m.summary ∨ versionOf m.summary < versionOf m'.summary) :
    RunOk m' r := by
  have holder : ∀ {c}, Older versionOf c m.summary → Older versionOf c m'.summary := by
    intro c hc
    rcases hsummary with heq | hlt
    · rw [heq]
      exact hc
    · exact older_write hc hlt
  have hready : ∀ {c recent}, Ready m c recent → Ready m' c recent := by
    rintro c recent ⟨summary, log, hcs, hsm, hlog, hcovers, hrecent, hne⟩
    exact ⟨summary, log, hcs, holder hsm, hlog.trans hturns, hcovers, hrecent, hne⟩
  cases r with
  | reading attempt => trivial
  | rereading attempt current => exact holder h
  | listing attempt current summary =>
    exact ⟨h.1, holder h.2.1, fun s hs => (h.2.2 s hs).mono hturns⟩
  | asking attempt current recent => exact hready h
  | storing attempt current recent text => exact ⟨hready h.1, h.2⟩
  | finished result => trivial

/-! ## One step -/

variable {config : SummarizerConfig} {m : SessionMemory} {llm : LlmAnswer} {freshId : String}

theorem afterListing_ok {attempt : ℕ} {current : Option Summary} {recent : List LoggedTurn}
    (h : recent ≠ [] → Ready m current recent) :
    RunOk m (afterListing config attempt current recent) := by
  unfold afterListing
  split
  · trivial
  · trivial
  · split_ifs with hnil
    · trivial
    · exact h hnil
    · trivial

theorem afterAnswer_ok {attempt : ℕ} {current : Option Summary} {recent : List LoggedTurn}
    (h : Ready m current recent) :
    RunOk m (afterAnswer config attempt current recent llm) := by
  cases llm with
  | raised => trivial
  | other => trivial
  | text raw =>
    have hreadable : sanitizeSummary raw config.maxSummaryChars ≠ "" →
        strip (sanitizeSummary raw config.maxSummaryChars) ≠ "" := sanitizeSummary_readable
    simp only [afterAnswer]
    -- what the text is made of does not matter from here on
    generalize sanitizeSummary raw config.maxSummaryChars = text at hreadable ⊢
    split_ifs with hempty
    · trivial
    · exact ⟨h, hreadable hempty⟩

/-- The store takes a summary only when the version is still that of the first reading. -/
theorem storeSummary_cases (config : SummarizerConfig) (m : SessionMemory) (freshId : String)
    (current : Option Summary) (recent : List LoggedTurn) (text : String) :
    (∃ e, storeSummary config m freshId current recent text = (.error e, m)) ∨
      (versionOf current = versionOf m.summary ∧
        ∃ updated : Summary, storeSummary config m freshId current recent text =
            (.ok updated, { m with summary := some updated }) ∧
          updated.version = versionOf m.summary + 1 ∧ updated.text = text ∧
          updated.lastAppliedTurnId = recent.getLast?.map LoggedTurn.turnId ∧
          updated.folded = foldedBy current recent) := by
  unfold storeSummary SessionMemory.upsertSummary
  split_ifs with hcreated hversion
  · exact .inl ⟨_, rfl⟩
  · exact .inl ⟨_, rfl⟩
  · right
    have hsame : versionOf current = versionOf m.summary := by
      by_contra hne
      exact hversion ⟨by simp, by simpa using hne⟩
    exact ⟨hsame, _, rfl, rfl, rfl, rfl, rfl⟩

/-- A losing call changes nothing. -/
theorem storeSummary_lost {current : Option Summary} (recent : List LoggedTurn) (text : String)
    (h : versionOf current ≠ versionOf m.summary) :
    (storeSummary config m freshId current recent text).2 = m := by
  rcases storeSummary_cases config m freshId current recent text with ⟨e, he⟩ | ⟨hsame, -⟩
  · rw [he]
  · exact absurd hsame h

/-- A summary the store takes covers the log: both readings are what was stored, so the turns behind
the prompt are a beginning of the log. -/
theorem covers_of_stored {current : Option Summary} {recent : List LoggedTurn} {updated : Summary}
    (hids : (turnIds m.turns).Nodup) (hready : Ready m current recent)
    (hversion : versionOf current = versionOf m.summary)
    (hmark : updated.lastAppliedTurnId = recent.getLast?.map LoggedTurn.turnId)
    (hfolded : updated.folded = foldedBy current recent) (htext : strip updated.text ≠ "") :
    Covers m.turns updated := by
  obtain ⟨summary, log, hcs, hsm, hlog, hcovers, hrecent, hne⟩ := hready
  obtain ⟨rfl, -⟩ := hcs.eq_of_version_eq hsm hversion
  have hids' : (turnIds log).Nodup := hids.sublist (hlog.sublist.map LoggedTurn.turnId)
  have hall : updated.folded = log := by
    rw [hfolded, hrecent, hcovers.foldedBy_turnsAfter hids']
  have hlast : recent.getLast? = log.getLast? := by
    rw [hrecent]
    exact turnsAfter_getLast hcovers hids' (hrecent ▸ hne)
  refine ⟨hall ▸ hlog, ?_, ?_, htext⟩
  · rw [hall]
    rintro rfl
    rw [List.getLast?_nil, List.getLast?_eq_none_iff] at hlast
    exact hne hlast
  · rw [hmark, hall, hlast]

variable (config llm freshId) in
/-- One step of an execution: what it leaves in the memory, and what it holds after it. -/
theorem runStep_ok {r : RunState} (hids : (turnIds m.turns).Nodup)
    (hstored : CoversOpt m.turns m.summary) (hr : RunOk m r) :
    (runStep config m llm freshId r).2.turns = m.turns ∧
      ((runStep config m llm freshId r).2.summary = m.summary ∨
        versionOf m.summary < versionOf (runStep config m llm freshId r).2.summary) ∧
      CoversOpt m.turns (runStep config m llm freshId r).2.summary ∧
      RunOk (runStep config m llm freshId r).2 (runStep config m llm freshId r).1 := by
  cases r with
  | reading attempt => exact ⟨rfl, .inl rfl, hstored, Older.refl _⟩
  | rereading attempt current =>
    exact ⟨rfl, .inl rfl, hstored, hr, Older.refl _, hstored⟩
  | listing attempt current summary =>
    obtain ⟨hcs, hsm, hcovers⟩ := hr
    refine ⟨rfl, .inl rfl, hstored, afterListing_ok fun hne => ?_⟩
    exact ⟨summary, m.turns, hcs, hsm, List.prefix_rfl, hcovers, rfl, hne⟩
  | asking attempt current recent => exact ⟨rfl, .inl rfl, hstored, afterAnswer_ok hr⟩
  | storing attempt current recent text =>
    obtain ⟨hready, htext⟩ := hr
    simp only [runStep]
    rcases storeSummary_cases config m freshId current recent text with
      ⟨e, he⟩ | ⟨hversion, updated, hok, hnext, hupdated, hmark, hfolded⟩
    · rw [he]
      refine ⟨rfl, .inl rfl, hstored, ?_⟩
      cases e <;> trivial
    · rw [hok]
      refine ⟨rfl, .inr ?_, ?_, trivial⟩
      · change versionOf m.summary < updated.version
        omega
      · rintro s ⟨⟩
        exact covers_of_stored hids hready hversion hmark hfolded (hupdated ▸ htext)
  | finished result => exact ⟨rfl, .inl rfl, hstored, trivial⟩

/-! ## A run of the session -/

/-- An appended turn carries an id the log does not have yet, as `uuid4` draws it. -/
def FreshTurn (w : SessionWorld) : SessionEvent → Prop
  | .append turn => turn.turnId ∉ turnIds w.memory.turns
  | .step _ _ _ => True

instance (w : SessionWorld) : (e : SessionEvent) → Decidable (FreshTurn w e)
  | .append turn => inferInstanceAs (Decidable (turn.turnId ∉ turnIds w.memory.turns))
  | .step _ _ _ => inferInstanceAs (Decidable True)

theorem appendTurn_cases (m : SessionMemory) (turn : LoggedTurn) :
    (m.appendTurn turn).2 = m ∨ (m.appendTurn turn).2 = { m with turns := m.turns ++ [turn] } := by
  unfold SessionMemory.appendTurn
  split_ifs
  · exact .inr rfl
  · exact .inl rfl

theorem SessionInv.append {w : SessionWorld} (h : SessionInv w) {turn : LoggedTurn}
    (hfresh : turn.turnId ∉ turnIds w.memory.turns) :
    SessionInv { w with memory := (w.memory.appendTurn turn).2 } := by
  rcases appendTurn_cases w.memory turn with hsame | hgrown
  · rw [hsame]
    exact h
  · rw [hgrown]
    have hgrow : w.memory.turns <+: w.memory.turns ++ [turn] := List.prefix_append _ _
    refine ⟨?_, fun s hs => (h.stored s hs).mono hgrow, fun i => ?_⟩
    · simp only [turnIds, List.map_append, List.map_cons, List.map_nil]
      exact List.nodup_append_comm.mp (List.nodup_cons.mpr ⟨hfresh, h.distinct⟩)
    · exact (h.runs i).later hgrow (.inl rfl)

theorem SessionInv.step {w : SessionWorld} (h : SessionInv w) (configs : ℕ → SummarizerConfig)
    (run : ℕ) (llm : LlmAnswer) (freshId : String) :
    SessionInv (w.act configs (.step run llm freshId)) := by
  obtain ⟨hturns, hsummary, hcovers, hrun⟩ :=
    runStep_ok (configs run) llm freshId h.distinct h.stored (h.runs run)
  simp only [SessionWorld.act]
  refine ⟨?_, ?_, fun i => ?_⟩
  · rw [hturns]
    exact h.distinct
  · rw [hturns]
    exact hcovers
  · dsimp only
    by_cases hi : i = run
    · subst hi
      rw [Function.update_self]
      exact hrun
    · rw [Function.update_of_ne hi]
      -- The others keep their readings: the log is the same, the summary that or a later one.
      have hlog : w.memory.turns <+: (runStep (configs run) w.memory llm freshId
          (w.runs run)).2.turns := by
        rw [hturns]
      exact (h.runs i).later hlog hsummary

theorem SessionInv.act {w : SessionWorld} (h : SessionInv w) (configs : ℕ → SummarizerConfig)
    (e : SessionEvent) (hfresh : FreshTurn w e) : SessionInv (w.act configs e) := by
  cases e with
  | append turn => exact h.append hfresh
  | step run llm freshId => exact h.step configs run llm freshId

/-- A session before anything happened. -/
theorem SessionInv.start (created : Bool) :
    SessionInv { memory := { created := created } } where
  distinct := List.nodup_nil
  stored := by simp [CoversOpt]
  runs _ := trivial

theorem run_sessionInv (configs : ℕ → SummarizerConfig) (created : Bool)
    {es : List SessionEvent}
    (hes : Runs.Along (SessionWorld.act configs) FreshTurn { memory := { created := created } } es) :
    SessionInv (Runs.run (SessionWorld.act configs) { memory := { created := created } } es) := by
  apply Runs.run_invariant (SessionWorld.act configs) SessionInv _ es _ (.start created) hes
  intro w e hw he
  exact hw.act configs e he

/-- The mark of a covering summary, and the log around it. -/
theorem Covers.marked {log : List LoggedTurn} {s : Summary} (h : Covers log s)
    (hids : (turnIds log).Nodup) :
    ∃ before turn, log = before ++ turn :: turnsAfter log (some s) ∧
      s.lastAppliedTurnId = some turn.turnId ∧ s.folded = before ++ [turn] := by
  obtain ⟨before, turn, hfolded⟩ : ∃ before turn, s.folded = before ++ [turn] :=
    ⟨_, _, (List.dropLast_append_getLast h.nonempty).symm⟩
  have hlog : s.folded ++ turnsAfter log (some s) = log := h.folded_append hids
  refine ⟨before, turn, ?_, ?_, hfolded⟩
  · rw [hfolded] at hlog
    simpa using hlog.symm
  · rw [h.mark, hfolded]
    simp

/-- **Whatever the interleaving of appends and executions of `run_once`, the stored summary has
exactly the turns up to its mark folded in, each once, and `turns_since_summary` lists the others;
a store that lost the race for the version changes nothing.** -/
theorem summary_coverage (configs : ℕ → SummarizerConfig) (created : Bool)
    (es : List SessionEvent)
    (hes : Runs.Along (SessionWorld.act configs) FreshTurn { memory := { created := created } } es) :
    let w := Runs.run (SessionWorld.act configs) { memory := { created := created } } es
    w.memory.turns.Nodup ∧
      (∀ s, w.memory.summary = some s → ∃ before turn,
        w.memory.turns = before ++ turn :: turnsAfter w.memory.turns w.memory.summary ∧
          s.lastAppliedTurnId = some turn.turnId ∧ s.folded = before ++ [turn]) ∧
      (w.memory.summary = none → turnsAfter w.memory.turns w.memory.summary = w.memory.turns) ∧
      ∀ run attempt current recent text llm freshId,
        w.runs run = .storing attempt current recent text →
        versionOf current ≠ versionOf w.memory.summary →
          (w.act configs (.step run llm freshId)).memory = w.memory := by
  intro w
  have h : SessionInv w := run_sessionInv configs created hes
  refine ⟨h.distinct.of_map _, ?_, ?_, ?_⟩
  · intro s hs
    rw [hs]
    exact (h.stored s hs).marked h.distinct
  · intro hnone
    rw [hnone]
    rfl
  · intro run attempt current recent text llm freshId hrun hlost
    simp only [SessionWorld.act, hrun, runStep]
    exact storeSummary_lost recent text hlost

/-- Two workers list the same turn, a second turn comes, and both store. -/
def raceEvents : List SessionEvent :=
  let turn (id : String) : LoggedTurn := { turnId := id, role := .user, content := "hi" }
  let step (run : ℕ) : SessionEvent := .step run (.text "They greet.") "summary-1"
  [.append (turn "turn-1"), step 0, step 0, step 1, step 0, step 1, .append (turn "turn-2"),
    step 1, step 0, step 1, step 0, step 1]

theorem summary_coverage_race :
    let w := Runs.run (SessionWorld.act fun _ => { turnThreshold := 1 }) {} raceEvents
    w.memory.turns.Nodup ∧
      (∀ s, w.memory.summary = some s → ∃ before turn,
        w.memory.turns = before ++ turn :: turnsAfter w.memory.turns w.memory.summary ∧
          s.lastAppliedTurnId = some turn.turnId ∧ s.folded = before ++ [turn]) ∧
      w.memory.turns.length = 2 ∧ w.memory.summary.isSome ∧ w.runs 1 = .reading 1 := by
  have h := summary_coverage (fun _ => { turnThreshold := 1 }) true raceEvents
    (by decide)
  exact ⟨h.1, h.2.1, by decide, by decide, by decide⟩

end ModelMeld
