import ModelMeld.Spec.AnthropicSchemas
import ModelMeld.Spec.Memory

/-!
# The stall detector

`detect_stall` reads the history of a conversation as one observation for each
message, from the native body or from the internal request, and fires on the
turn-count floor or on two structural signals. The thresholds may come from the
environment.
-/

namespace ModelMeld

/-! ## Kinds of tools -/

/-- `_EDIT_TOOLS`. -/
def editTools : List String := ["write", "edit", "multiedit", "notebookedit"]

/-- `_EDIT_SUBSTRINGS`. -/
def editSubstrings : List String := ["str_replace", "create_file", "apply_patch", "edit"]

/-- `_READ_TOOLS`. -/
def readTools : List String := ["read", "grep", "glob", "ls", "notebookread", "cat", "find"]

/-- `_READ_SUBSTRINGS`. -/
def readSubstrings : List String := ["read", "grep", "glob", "search"]

/-- A name is one of some tools, or contains one of some texts; `lower` is `str.lower`. -/
def isToolOf (lower : String → String) (tools substrings : List String) (name : String) : Bool :=
  decide (lower name ∈ tools) || substrings.any (fun s => isSubstring s (lower name))

/-- `_is_edit_tool`. -/
def isEditTool (lower : String → String) (name : String) : Bool :=
  isToolOf lower editTools editSubstrings name

/-- `_is_read_tool`. -/
def isReadTool (lower : String → String) (name : String) : Bool :=
  isToolOf lower readTools readSubstrings name

/-! ## Observations -/

/-- What is seen of one message. -/
structure TurnObservation where
  role : Role
  toolNames : List String := []
  hasToolResult : Bool := false
  toolError : Bool := false
deriving DecidableEq, Inhabited

/-- The name of a tool that is used. -/
def toolUseName : AnthropicRequestContentBlock → Option String
  | .toolUse b => some b.name
  | _ => none

/-- `is_error` of a tool result. -/
def toolResultError : AnthropicRequestContentBlock → Option Bool
  | .toolResult b => some (b.isError.getD false)
  | _ => none

/-- The role of a message of the native body. -/
def AnthropicRole.observed : AnthropicRole → Role
  | .user => .user
  | .assistant => .assistant
  | .system => .system

/-- What is seen of a message of the native body. -/
def observeAnthropic (msg : AnthropicMessage) : TurnObservation :=
  match msg.content with
  | .str _ => { role := msg.role.observed }
  | .parts blocks =>
    { role := msg.role.observed
      toolNames := blocks.filterMap toolUseName
      hasToolResult := !(blocks.filterMap toolResultError).isEmpty
      toolError := (blocks.filterMap toolResultError).any id }

/-- `observations_from_anthropic`. -/
def observationsFromAnthropic (body : AnthropicMessagesRequest) : List TurnObservation :=
  body.messages.map observeAnthropic

/-- What is seen of a message of the internal request. -/
def observeInternal : Message → TurnObservation
  | .assistant m =>
    { role := .assistant
      toolNames := (m.toolCalls.getD []).map (fun call => call.function.name) }
  | .tool _ => { role := .tool, hasToolResult := true }
  | .user _ => { role := .user }
  | .system _ => { role := .system }

/-- `observations_from_internal`. -/
def observationsFromInternal (request : ChatCompletionRequest) : List TurnObservation :=
  request.messages.map observeInternal

/-! ## Thresholds -/

structure StallWeights where
  repeatThreshold : ℤ := 2
  errorThreshold : ℤ := 2
  maxTurns : ℤ := 8
deriving DecidableEq, Inhabited

/-- `DEFAULT_STALL_WEIGHTS`. -/
def defaultWeights : StallWeights := {}

/-- The environment: the variables that are set, and `int` of a text. -/
structure Environ where
  get : String → Option String
  intOfText : String → Option ℤ

/-- `_int_env`. -/
def intEnv (env : Environ) (name : String) (default : ℤ) : ℤ :=
  let raw := strip ((env.get name).getD "")
  if raw = "" then default
  else match env.intOfText raw with
    | some n => max 0 n
    | none => default

/-- `default_stall_weights`. -/
def defaultStallWeights (env : Environ) : StallWeights where
  repeatThreshold := intEnv env "MODELMELD_STALL_REPEAT_THRESHOLD" 2
  errorThreshold := intEnv env "MODELMELD_STALL_ERROR_THRESHOLD" 2
  maxTurns := intEnv env "MODELMELD_STALL_MAX_TURNS" 8

/-! ## The signals -/

/-- `_trailing_identical_run`. -/
def trailingIdenticalRun (assistantObs : List TurnObservation) : ℕ :=
  match assistantObs.getLast? with
  | none => 0
  | some last =>
    if last.toolNames = [] then 0
    else (assistantObs.reverse.takeWhile (fun o => decide (o.toolNames = last.toolNames))).length

/-- `_trailing_error_run`. -/
def trailingErrorRun (observations : List TurnObservation) : ℕ :=
  let results := (observations.filter TurnObservation.hasToolResult).map TurnObservation.toolError
  (results.reverse.takeWhile id).length

/-- `first_edit` and `first_read`. -/
structure FirstUses where
  edit : Option ℕ := none
  read : Option ℕ := none

/-- One name of the turn at an index. -/
def FirstUses.see (lower : String → String) (i : ℕ) (uses : FirstUses) (name : String) :
    FirstUses where
  read := if uses.read = none ∧ isReadTool lower name then some i else uses.read
  edit := if uses.edit = none ∧ isEditTool lower name then some i else uses.edit

/-- The loop over the turns, from an index on. -/
def firstUses (lower : String → String) : FirstUses → ℕ → List TurnObservation → FirstUses
  | uses, _, [] => uses
  | uses, i, o :: rest =>
    firstUses lower (o.toolNames.foldl (FirstUses.see lower i) uses) (i + 1) rest

/-- `_patch_before_explore`. -/
def patchBeforeExplore (lower : String → String) (observations : List TurnObservation) : Bool :=
  let uses := firstUses lower {} 0 observations
  match uses.edit with
  | none => false
  | some edit => match uses.read with
    | none => true
    | some read => decide (edit < read)

/-! ## The decision -/

structure StallDecision where
  stalled : Bool
  signals : List String
  rationale : String
deriving DecidableEq

/-- What an index out of range raises. -/
inductive IndexError where
  | listIndex | tupleIndex
deriving DecidableEq

/-- `assistant_obs[-1].tool_names[0]`. -/
def loopedTool (assistantObs : List TurnObservation) : Except IndexError String :=
  match assistantObs.getLast? with
  | none => .error .listIndex
  | some last => match last.toolNames with
    | [] => .error .tupleIndex
    | name :: _ => .ok name

/-- Whether the trailing run is a loop. -/
def isLoop (w : StallWeights) (assistantObs : List TurnObservation) : Bool :=
  decide (w.repeatThreshold ≤ trailingIdenticalRun assistantObs)

/-- The signal of a loop. -/
def loopSignal (w : StallWeights) (assistantObs : List TurnObservation) :
    Except IndexError (List String) :=
  if isLoop w assistantObs then do
    let name ← loopedTool assistantObs
    return ["tool_loop(" ++ name ++ "x" ++ toString (trailingIdenticalRun assistantObs) ++ ")"]
  else .ok []

/-- `detect_stall`. -/
def detectStall (lower : String → String) (observations : List TurnObservation)
    (weights : Option StallWeights) : Except IndexError StallDecision := do
  let w := weights.getD defaultWeights
  let assistantObs := observations.filter (fun o => decide (o.role = .assistant))
  let turnCount := assistantObs.length
  let loop := isLoop w assistantObs
  let loopSignals ← loopSignal w assistantObs
  let errorRun := trailingErrorRun observations
  let consecutiveErrors := decide (w.errorThreshold ≤ errorRun)
  let errorSignal := if consecutiveErrors then ["tool_errors(x" ++ toString errorRun ++ ")"] else []
  let pbe := patchBeforeExplore lower observations
  let pbeSignal := if pbe then ["patch_before_explore"] else []
  let structuralCount := loop.toNat + consecutiveErrors.toNat + pbe.toNat
  let turnFloor := decide (w.maxTurns ≤ turnCount)
  let floorSignal := if turnFloor then ["turn_floor(" ++ toString turnCount ++ ")"] else []
  let signals := loopSignals ++ errorSignal ++ pbeSignal ++ floorSignal
  let stalled := turnFloor || decide (2 ≤ structuralCount)
  return {
    stalled := stalled
    signals := signals
    rationale :=
      if stalled then "stall:" ++ join "," signals
      else "no_stall:turns=" ++ toString turnCount ++ ",structural=" ++
        toString structuralCount }

end ModelMeld
