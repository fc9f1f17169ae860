import ModelMeld.Spec.Summarizer

/-!
# Assembling the memory context

`assemble_context`: read facts, summary and recent turns of a session, and pack
them under a budget. The function waits at every read of the store, so it is a
coroutine over the memory of one session, between whose steps turns are
appended and summaries stored.
-/

namespace ModelMeld

/-! ## Identity -/

inductive MemoryMode where
  | augment | full | off
deriving DecidableEq

structure MemoryIdentity where
  tenantId : String
  sessionId : Option String
  userId : Option String := none
  mode : MemoryMode := .augment
deriving DecidableEq

/-- `active`. -/
def MemoryIdentity.active (identity : MemoryIdentity) : Bool := identity.sessionId.isSome

/-! ## Budgets -/

/-- What `assemble_context` returns. -/
structure AssembledContext where
  facts : List Fact := []
  summary : Option Summary := none
  recentTurns : List LoggedTurn := []
  truncated : Bool := false
deriving DecidableEq

/-- What of it is injected. -/
def AssembledContext.injected (ctx : AssembledContext) : MemoryContext where
  facts := ctx.facts
  summary := ctx.summary.map Summary.text
  recentTurns := ctx.recentTurns.map (fun turn => ⟨turn.role, turn.content⟩)

/-- `max_tokens` with a `token_counter`, or else `max_chars`; `countText` is the counter at the
model of the request. -/
inductive Budget where
  | chars (maxChars : ℤ)
  | tokens (maxTokens : ℤ) (countText : String → ℤ)

/-- `xs.pop(0)` while there is something and it is over. -/
def popWhile {A : Type} (exceeds : List A → Bool) : List A → List A
  | [] => []
  | x :: xs => if exceeds (x :: xs) then popWhile exceeds xs else x :: xs

def factChars (facts : List Fact) : ℤ :=
  (facts.map (fun f => (f.key.length + f.value.length + 5 : ℤ))).sum

/-- `_estimate_chars`. -/
def estimateChars (facts : List Fact) (summary : Option Summary) (recent : List LoggedTurn) : ℤ :=
  factChars facts + ((summary.map (fun s => (s.text.length : ℤ))).getD 0) +
    (recent.map (fun t => (t.content.length + 12 : ℤ))).sum

/-- The summary of a context that is too large without any turn, and whether it was touched. -/
def cutSummary (room : ℤ) (cut : String → String) (summary : Option Summary) :
    Option Summary × Bool :=
  match summary with
  | none => (none, false)
  | some s =>
    if s.text = "" then (some s, false)
    else if 0 < room then (some { s with text := cut s.text }, true)
    else (none, true)

/-- `_enforce_budget`. -/
def enforceBudget (maxChars : ℤ) (facts : List Fact) (summary : Option Summary)
    (recent : List LoggedTurn) : AssembledContext :=
  if estimateChars facts summary recent ≤ maxChars then ⟨facts, summary, recent, false⟩
  else
    let kept := popWhile (fun recent => decide (maxChars < estimateChars facts summary recent)) recent
    if estimateChars facts summary kept ≤ maxChars then ⟨facts, summary, kept, true⟩
    else
      let room := maxChars - factChars facts
      let cut := cutSummary room (fun text => sliceTo text (max 0 room)) summary
      let left := popWhile (fun facts => decide (maxChars < estimateChars facts cut.1 kept)) facts
      ⟨left, cut.1, kept,
        decide (kept.length < recent.length) || cut.2 || decide (left.length < facts.length)⟩

/-- The binary search of `_enforce_token_budget`: from `lo` to `hi`, with the best length so far. -/
def bestPrefix (fits : ℕ → Bool) (lo hi : ℤ) (best : ℕ) : ℕ :=
  if lo ≤ hi then
    let mid := (lo + hi) / 2
    if fits mid.toNat then bestPrefix fits (mid + 1) hi mid.toNat
    else bestPrefix fits lo (mid - 1) best
  else best
termination_by (hi + 1 - lo).toNat
decreasing_by all_goals omega

def factTokens (countText : String → ℤ) (facts : List Fact) : ℤ :=
  (facts.map (fun f => countText ("- " ++ f.key ++ ": " ++ f.value) + 1)).sum

/-- `current_total`. -/
def currentTotal (countText : String → ℤ) (facts : List Fact) (summary : Option Summary)
    (recent : List LoggedTurn) : ℤ :=
  factTokens countText facts + (recent.map (fun t => countText t.content + 4)).sum +
    match summary with
    | none => 0
    | some s => if s.text = "" then 0 else countText s.text

/-- `_enforce_token_budget`. -/
def enforceTokenBudget (maxTokens : ℤ) (countText : String → ℤ) (facts : List Fact)
    (summary : Option Summary) (recent : List LoggedTurn) : AssembledContext :=
  let total := currentTotal countText
  if total facts summary recent ≤ maxTokens then ⟨facts, summary, recent, false⟩
  else
    let kept := popWhile (fun recent => decide (maxTokens < total facts summary recent)) recent
    if total facts summary kept ≤ maxTokens then ⟨facts, summary, kept, true⟩
    else
      let room := maxTokens - factTokens countText facts
      let cut := cutSummary room (fun text => sliceTo text
        (bestPrefix (fun n => decide (countText (sliceTo text n) ≤ room)) 0 text.length 0)) summary
      let left := popWhile (fun facts => decide (maxTokens < total facts cut.1 kept)) facts
      ⟨left, cut.1, kept,
        decide (kept.length < recent.length) || cut.2 || decide (left.length < facts.length)⟩

def Budget.enforce (budget : Budget) (facts : List Fact) (summary : Option Summary)
    (recent : List LoggedTurn) : AssembledContext :=
  match budget with
  | .chars maxChars => enforceBudget maxChars facts summary recent
  | .tokens maxTokens countText => enforceTokenBudget maxTokens countText facts summary recent

/-! ## `assemble_context` -/

structure AssembleConfig where
  hotZoneCap : ℤ := 20
  budget : Budget := .chars 48000

/-- What the store answered: `mark` is the summary that `turns_since_summary` reads again. In the
modes other than FULL the last two are not read. -/
structure StoreReadings where
  facts : List Fact
  summary : Option Summary
  mark : Option Summary := none
  turns : List LoggedTurn := []
deriving DecidableEq

/-- The cap of `turns_since_summary`. -/
def capTurns (cap : ℤ) (after : List LoggedTurn) : List LoggedTurn :=
  if 0 < cap ∧ cap < after.length then after.drop (after.length - cap.toNat) else after

/-- Nothing is read for such an identity. -/
def MemoryIdentity.silent (identity : MemoryIdentity) : Bool :=
  !identity.active || decide (identity.mode = .off)

/-- `assemble_context` with its readings; `none` when a read failed. -/
def assembleContext (config : AssembleConfig) (identity : MemoryIdentity)
    (readings : Option StoreReadings) : AssembledContext :=
  if identity.silent then {}
  else
    match readings with
    | none => {}
    | some r =>
      let recent := if identity.mode = .full then
        capTurns config.hotZoneCap (turnsAfter r.turns r.mark) else []
      config.budget.enforce r.facts r.summary recent

/-! ## As a coroutine -/

/-- Where an assembly waits; `begun` is, as a ghost, the log when it began. -/
inductive AssemblyState where
  | started
  | readingFacts (begun : List LoggedTurn)
  | readingSummary (begun : List LoggedTurn) (facts : List Fact)
  /-- For the summary, inside `turns_since_summary`. -/
  | rereading (begun : List LoggedTurn) (facts : List Fact) (summary : Option Summary)
  | listing (begun : List LoggedTurn) (facts : List Fact) (summary mark : Option Summary)
  | finished (begun : List LoggedTurn) (readings : Option StoreReadings)
deriving DecidableEq

/-- The next read. -/
def assemblyStep (identity : MemoryIdentity) (m : SessionMemory) (facts : List Fact) :
    AssemblyState → AssemblyState
  | .started => if identity.silent then .finished m.turns none else .readingFacts m.turns
  | .readingFacts begun => .readingSummary begun facts
  | .readingSummary begun facts =>
    if identity.mode = .full then .rereading begun facts m.summary
    else .finished begun (some { facts := facts, summary := m.summary })
  | .rereading begun facts summary => .listing begun facts summary m.summary
  | .listing begun facts summary mark => .finished begun (some ⟨facts, summary, mark, m.turns⟩)
  | .finished begun readings => .finished begun readings

/-- A read raises: `assemble_context` gives up. -/
def assemblyFails : AssemblyState → AssemblyState
  | .started => .started
  | .readingFacts begun | .readingSummary begun _ | .rereading begun _ _ | .listing begun _ _ _ =>
    .finished begun none
  | .finished begun readings => .finished begun readings

/-- A session with an assembly under way. -/
structure AssemblyWorld where
  memory : SessionMemory := {}
  facts : List Fact := []
  reader : AssemblyState := .started

/-- What happens between two `await` points, and the steps of the assembly. -/
inductive AssemblyEvent where
  | append (turn : LoggedTurn)
  | upsert (freshId text : String) (lastAppliedTurnId sourceModel : Option String)
      (expectedVersion : Option ℤ)
  | facts (facts : List Fact)
  | step
  | fail
deriving DecidableEq

def AssemblyWorld.act (identity : MemoryIdentity) (w : AssemblyWorld) :
    AssemblyEvent → AssemblyWorld
  | .append turn => { w with memory := (w.memory.appendTurn turn).2 }
  | .upsert freshId text lastAppliedTurnId sourceModel expectedVersion =>
    { w with memory := (w.memory.upsertSummary freshId text lastAppliedTurnId sourceModel
        expectedVersion []).2 }
  | .facts facts => { w with facts := facts }
  | .step => { w with reader := assemblyStep identity w.memory w.facts w.reader }
  | .fail => { w with reader := assemblyFails w.reader }

end ModelMeld
