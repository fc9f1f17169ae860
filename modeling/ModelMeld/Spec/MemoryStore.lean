import ModelMeld.Spec.Memory

/-!
# The memory of one session

What `InMemoryMemoryStore` keeps of a session of one tenant: the log of its
turns and its summary, and the helpers over both (`_turns_after`,
`needs_summary_refresh`). A stored summary carries, as a ghost, the turns that
were folded into its text; nothing reads the ghost. Identifiers the source draws
from `uuid4` are inputs.
-/

namespace ModelMeld

/-- A turn of the log. -/
structure LoggedTurn where
  turnId : String
  role : Role
  content : String
  tokenCount : ℤ := 0
  modelUsed : Option String := none
deriving DecidableEq

structure Summary where
  summaryId : String
  text : String
  lastAppliedTurnId : Option String
  version : ℤ
  sourceModel : Option String := none
  /-- The turns folded into the text. -/
  folded : List LoggedTurn := []
deriving DecidableEq

/-- What a call on the store raises. -/
inductive MemoryError where
  /-- `LookupError`: the session was not created. -/
  | lookup
  /-- `SummaryVersionMismatch`. -/
  | versionMismatch (expected actual : ℤ)
deriving DecidableEq

/-- The memory of one session. -/
structure SessionMemory where
  /-- Whether the session was created. -/
  created : Bool := true
  turns : List LoggedTurn := []
  summary : Option Summary := none
deriving DecidableEq

/-- `summary.version if summary else 0`. -/
def versionOf (summary : Option Summary) : ℤ :=
  match summary with
  | none => 0
  | some s => s.version

namespace SessionMemory

/-- `append_turn`. -/
def appendTurn (m : SessionMemory) (turn : LoggedTurn) :
    Except MemoryError LoggedTurn × SessionMemory :=
  if m.created then (.ok turn, { m with turns := m.turns ++ [turn] })
  else (.error .lookup, m)

/-- The new row of a summary, under the id of the one it replaces. -/
def nextSummary (current : Option Summary) (freshId text : String)
    (lastAppliedTurnId sourceModel : Option String) (folded : List LoggedTurn) : Summary where
  summaryId := match current with
    | none => freshId
    | some s => s.summaryId
  text := text
  lastAppliedTurnId := lastAppliedTurnId
  version := versionOf current + 1
  sourceModel := sourceModel
  folded := folded

/-- `upsert_summary`; an expected version of `None` is not checked. -/
def upsertSummary (m : SessionMemory) (freshId text : String)
    (lastAppliedTurnId sourceModel : Option String) (expectedVersion : Option ℤ)
    (folded : List LoggedTurn) : Except MemoryError Summary × SessionMemory :=
  if m.created = false then (.error .lookup, m)
  else if expectedVersion ≠ none ∧ expectedVersion ≠ some (versionOf m.summary) then
    (.error (.versionMismatch (expectedVersion.getD 0) (versionOf m.summary)), m)
  else
    let updated := nextSummary m.summary freshId text lastAppliedTurnId sourceModel folded
    (.ok updated, { m with summary := some updated })

end SessionMemory

/-! ## Helpers over the log and the summary -/

/-- The turns after the first with an id; `none` when there is none. -/
def turnsAfterId (id : String) : List LoggedTurn → Option (List LoggedTurn)
  | [] => none
  | turn :: rest => if turn.turnId = id then some rest else turnsAfterId id rest

/-- `_turns_after`. -/
def turnsAfter (turns : List LoggedTurn) (summary : Option Summary) : List LoggedTurn :=
  match summary.bind Summary.lastAppliedTurnId with
  | none => turns
  | some id => (turnsAfterId id turns).getD turns

/-- `needs_summary_refresh`; a threshold that is not positive is a `ValueError`. -/
def needsSummaryRefresh (behind : ℕ) (turnThreshold : ℤ) : Option Bool :=
  if turnThreshold ≤ 0 then none else some (decide (turnThreshold ≤ behind))

end ModelMeld
