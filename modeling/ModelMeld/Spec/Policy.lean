import ModelMeld.Spec.Schemas
import Mathlib.Data.Finset.Basic
import Mathlib.Data.Finset.Insert
import Mathlib.Data.Finset.SDiff
import Mathlib.Data.List.Infix

/-!
# Routing policies and routing hints

The alias table of the `modelmeld-*` model names, the provider tiers, the
reasoning-marker count that lets AUTO escalate, and the hints a framework may
send in headers.
-/

namespace ModelMeld

inductive ModelMeldPolicy where
  | saver | auto | quality
deriving DecidableEq, Inhabited

/-- `_OSS_PROVIDERS`. -/
def ossProviders : Finset String := {"vllm", "fireworks", "together", "openrouter"}

/-- `_FRONTIER_PROVIDERS`. -/
def frontierProviders : Finset String := {"anthropic", "openai"}

/-- `_ALIAS_TO_POLICY`. -/
def aliasToPolicy : List (String × ModelMeldPolicy) :=
  [("anthropic/modelmeld-saver", .saver),
   ("anthropic/modelmeld-auto", .auto),
   ("anthropic/modelmeld-quality", .quality),
   ("anthropic/modelmeld-balanced", .auto),
   ("anthropic/modelmeld-coding", .saver),
   ("anthropic/modelmeld-reasoning", .auto),
   ("anthropic/modelmeld-cheap", .saver),
   ("anthropic/modelmeld-frontier-priority", .quality)]

def resolvePolicy (modelId : String) : Option ModelMeldPolicy :=
  if modelId = "" then none else aliasToPolicy.lookup modelId

/-- The environment settings the scout reads, parsed. The parsers clamp the last two at zero. -/
structure PolicySettings where
  /-- `reasoning_markers()`. -/
  reasoningMarkers : List String :=
    ["step by step", "think through", "explain your reasoning", "walk me through your logic",
     "carefully consider", "show your work", "let's reason about", "think carefully",
     "reason carefully", "break this down"]
  /-- `difficulty_routing_enabled()`. -/
  difficultyRoutingEnabled : Bool := false
  /-- `large_context_threshold()`; zero disables. -/
  largeContextThreshold : ℕ := 64000
  /-- `agentic_reliability_floor()`; zero disables. -/
  agenticReliabilityFloor : ℚ := 40 / 100
  floor_nonneg : 0 ≤ agenticReliabilityFloor := by norm_num

def reasoningMarkerEscalationCount : ℕ := 2

/-! ## Message text -/

namespace ContentPart

/-- `getattr(part, "text", None)`. -/
def text? : ContentPart → Option String
  | .text p => some p.text
  | .image _ => none
  | .audio _ => none

end ContentPart

namespace Message

/-- The texts of a message's `content`: the string, or the text of each part that has one.
`none` is a missing content. -/
def contentTexts : Message → Option (List String)
  | .system m => match m.content with
    | .str s => some [s]
    | .parts ps => some (ps.map TextPart.text)
  | .user m => match m.content with
    | .str s => some [s]
    | .parts ps => some (ps.filterMap ContentPart.text?)
  | .assistant m => match m.content with
    | none => none
    | some (.str s) => some [s]
    | some (.parts ps) => some (ps.map TextPart.text)
  | .tool m => match m.content with
    | .str s => some [s]
    | .parts ps => some (ps.map TextPart.text)

/-- The characters of a message's text. -/
def contentChars (m : Message) : ℕ :=
  ((m.contentTexts.getD []).map String.length).sum

end Message

/-! ## Reasoning markers -/

/-- `detect_reasoning_markers`: how many markers occur; `lower` is `str.lower`. -/
def detectReasoningMarkers (lower : String → String) (markers : List String) (text : String) : ℕ :=
  if text = "" then 0 else markers.countP (fun m => isSubstring m (lower text))

/-- The pieces `extract_user_text` collects from one message: an empty part is dropped, an
empty string is kept. -/
def userTextPieces : Message → List String
  | .user m => match m.content with
    | .str s => [s]
    | .parts ps => (ps.filterMap ContentPart.text?).filter (· ≠ "")
  | _ => []

def extractUserText (request : ChatCompletionRequest) : String :=
  join " " (request.messages.flatMap userTextPieces)

/-- `should_escalate_to_frontier`: whether to escalate, and the marker count. -/
def shouldEscalateToFrontier (lower : String → String) (settings : PolicySettings)
    (request : ChatCompletionRequest) : Bool × ℕ :=
  let count := detectReasoningMarkers lower settings.reasoningMarkers (extractUserText request)
  (decide (reasoningMarkerEscalationCount ≤ count), count)

/-! ## Routing hints -/

/-- `AGENT_ROLE_TO_CATEGORY`. -/
def agentRoleToCategory : List (String × String) :=
  [("coder", "coding"), ("programmer", "coding"), ("developer", "coding"),
   ("engineer", "coding"), ("code_writer", "coding"), ("software_engineer", "coding"),
   ("debugger", "coding"), ("researcher", "reasoning"), ("analyst", "reasoning"),
   ("planner", "reasoning"), ("architect", "reasoning"), ("reviewer", "reasoning"),
   ("critic", "reasoning"), ("evaluator", "reasoning"), ("judge", "reasoning"),
   ("strategist", "reasoning"), ("mathematician", "reasoning"),
   ("summarizer", "summarization"), ("writer", "summarization"), ("editor", "summarization"),
   ("scribe", "summarization"), ("executor", "tool_use"), ("tool_caller", "tool_use"),
   ("actor", "tool_use"), ("agent", "tool_use"), ("operator", "tool_use"),
   ("assistant", "simple_qa"), ("chatbot", "simple_qa"), ("responder", "simple_qa"),
   ("qa", "simple_qa")]

structure RoutingHints where
  taskCategory : Option String := none
  agentRole : Option String := none
  qualityThreshold : Option ℚ := none
  excludedProviders : Option (Finset String) := none
  pinModel : Option String := none
deriving DecidableEq

namespace RoutingHints

def derivedCategory (h : RoutingHints) : Option String :=
  h.agentRole.bind (fun role => agentRoleToCategory.lookup role)

/-- `self.task_category or self.derived_category`. -/
def effectiveCategory (h : RoutingHints) : Option String :=
  match h.taskCategory with
  | some c => if c = "" then h.derivedCategory else some c
  | none => h.derivedCategory

end RoutingHints

end ModelMeld
