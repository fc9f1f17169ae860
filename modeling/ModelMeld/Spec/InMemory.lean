import ModelMeld.Spec.Postgres

/-!
# The in-memory store

`InMemoryMemoryStore`: five maps by tenant and session, and the eleven
operations of the `MemoryStore` contract over them. An operation does not give
up control while it holds the lock of a session, so a call is one step. What a
call draws, an id from `uuid4` and the time, is its input.
-/

namespace ModelMeld

/-! ## Rows -/

/-- One conversational session. -/
structure MemorySession where
  sessionId : String
  tenantId : String
  userId : Option String
  createdAt : ℤ
  metadata : OrderedDict String String
deriving DecidableEq

/-- One message exchange. -/
structure MemoryTurn where
  turnId : String
  sessionId : String
  tenantId : String
  role : Role
  content : String
  tokenCount : ℤ
  modelUsed : Option String
  timestamp : ℤ
deriving DecidableEq

/-- One persistent fact about the session. -/
structure MemoryFact where
  factId : String
  sessionId : String
  tenantId : String
  key : String
  value : String
  source : String
  confidence : ℚ
  timestamp : ℤ
deriving DecidableEq

/-- The evolving summary of a session. -/
structure MemorySummary where
  summaryId : String
  sessionId : String
  tenantId : String
  text : String
  lastAppliedTurnId : Option String
  version : ℤ
  sourceModel : Option String
  createdAt : ℤ
  updatedAt : ℤ
deriving DecidableEq

/-! ## The contract -/

inductive MemoryOp where
  | getOrCreateSession (userId : Option String) (metadata : Option (OrderedDict String String))
  | getSession
  | appendTurn (role : Role) (content : String) (tokenCount : ℤ) (modelUsed : Option String)
  | listTurns (limit : Option ℤ)
  | turnCount
  | setFact (key value source : String) (confidence : ℚ)
  | getFacts
  | deleteFact (key : String)
  | getSummary
  | upsertSummary (text : String) (lastAppliedTurnId sourceModel : Option String)
      (expectedVersion : Option ℤ)
  | clearSummary
deriving DecidableEq

structure MemoryCall where
  session : SessionKey
  op : MemoryOp
deriving DecidableEq

/-- What one call draws: the part of a new id that comes from `uuid4`, and the time. -/
structure Drawn where
  id : String
  now : ℤ
deriving DecidableEq

/-- What a call raises. -/
inductive MemoryRaised where
  | invalidTenantId
  | lookupError
  | valueError
  | versionMismatch (expected actual : ℤ)
  /-- A stored document that cannot be read back. -/
  | undecodable
deriving DecidableEq

inductive MemoryValue where
  | session (s : Option MemorySession)
  | turn (t : MemoryTurn)
  | turns (ts : List MemoryTurn)
  | count (n : ℕ)
  | fact (f : MemoryFact)
  | facts (fs : List MemoryFact)
  | summary (s : Option MemorySummary)
  | deleted (found : Bool)
deriving DecidableEq

/-- `turns if limit is None or limit <= 0 else turns[-limit:]`. -/
def lastTurns {V : Type} (turns : List V) (limit : Option ℤ) : List V :=
  match limit with
  | none => turns
  | some n => if n ≤ 0 then turns else turns.drop (turns.length - n.toNat)

/-- `existing.version if existing else 0`. -/
def summaryVersion (existing : Option MemorySummary) : ℤ :=
  match existing with
  | none => 0
  | some s => s.version

/-! ### New rows -/

/-- The row `get_or_create_session` makes. -/
def newSession (key : SessionKey) (drawn : Drawn) (userId : Option String)
    (metadata : Option (OrderedDict String String)) : MemorySession where
  sessionId := key.sessionId
  tenantId := key.tenantId
  userId := userId
  createdAt := drawn.now
  metadata := metadata.getD .empty

/-- The row `append_turn` makes. -/
def newTurn (key : SessionKey) (drawn : Drawn) (role : Role) (content : String) (tokenCount : ℤ)
    (modelUsed : Option String) : MemoryTurn where
  turnId := "turn_" ++ drawn.id
  sessionId := key.sessionId
  tenantId := key.tenantId
  role := role
  content := content
  tokenCount := tokenCount
  modelUsed := modelUsed
  timestamp := drawn.now

/-- The row `set_fact` makes. -/
def newFact (key : SessionKey) (drawn : Drawn) (name value source : String) (confidence : ℚ) :
    MemoryFact where
  factId := "fact_" ++ drawn.id
  sessionId := key.sessionId
  tenantId := key.tenantId
  key := name
  value := value
  source := source
  confidence := confidence
  timestamp := drawn.now

/-- The row `upsert_summary` makes, under the id of the one it replaces. -/
def newSummary (key : SessionKey) (drawn : Drawn) (existing : Option MemorySummary) (text : String)
    (lastAppliedTurnId sourceModel : Option String) : MemorySummary where
  summaryId := (existing.map MemorySummary.summaryId).getD ("sum_" ++ drawn.id)
  sessionId := key.sessionId
  tenantId := key.tenantId
  text := text
  lastAppliedTurnId := lastAppliedTurnId
  version := summaryVersion existing + 1
  sourceModel := sourceModel
  createdAt := (existing.map MemorySummary.createdAt).getD drawn.now
  updatedAt := drawn.now

/-! ## The store -/

structure InMemoryMemoryStore where
  sessions : OrderedDict SessionKey MemorySession := .empty
  turns : OrderedDict SessionKey (List MemoryTurn) := .empty
  facts : OrderedDict SessionKey (OrderedDict String MemoryFact) := .empty
  summaries : OrderedDict SessionKey MemorySummary := .empty
  /-- The sessions that have a lock; nobody holds one between two calls. -/
  locks : OrderedDict SessionKey Unit := .empty

namespace InMemoryMemoryStore

/-- `_lock_for`. -/
def lockFor (s : InMemoryMemoryStore) (key : SessionKey) : InMemoryMemoryStore :=
  match s.locks.get? key with
  | some _ => s
  | none => { s with locks := s.locks.insert key () }

/-- `get_or_create_session`. -/
def getOrCreateSession (s : InMemoryMemoryStore) (key : SessionKey) (userId : Option String)
    (metadata : Option (OrderedDict String String)) (drawn : Drawn) :
    MemorySession × InMemoryMemoryStore :=
  let s := s.lockFor key
  match s.sessions.get? key with
  | some existing => (existing, s)
  | none =>
    let session := newSession key drawn userId metadata
    (session, { s with sessions := s.sessions.insert key session })

/-- `get_session`. -/
def getSession (s : InMemoryMemoryStore) (key : SessionKey) : Option MemorySession :=
  s.sessions.get? key

/-- The turns of a session, without an entry none. -/
def turnsOf (s : InMemoryMemoryStore) (key : SessionKey) : List MemoryTurn := s.turns.getD key []

/-- `append_turn`. -/
def appendTurn (s : InMemoryMemoryStore) (key : SessionKey) (role : Role) (content : String)
    (tokenCount : ℤ) (modelUsed : Option String) (drawn : Drawn) :
    Except MemoryRaised MemoryTurn × InMemoryMemoryStore :=
  let s := s.lockFor key
  if s.sessions.contains key = false then (.error .lookupError, s)
  else
    let turn := newTurn key drawn role content tokenCount modelUsed
    (.ok turn, { s with turns := s.turns.insert key (s.turnsOf key ++ [turn]) })

/-- `list_turns`. -/
def listTurns (s : InMemoryMemoryStore) (key : SessionKey) (limit : Option ℤ) : List MemoryTurn :=
  lastTurns (s.turnsOf key) limit

/-- `turn_count`. -/
def turnCount (s : InMemoryMemoryStore) (key : SessionKey) : ℕ := (s.turnsOf key).length

/-- The facts of a session, without an entry none. -/
def factsOf (s : InMemoryMemoryStore) (key : SessionKey) : OrderedDict String MemoryFact :=
  s.facts.getD key .empty

/-- `set_fact`. -/
def setFact (s : InMemoryMemoryStore) (key : SessionKey) (name value source : String)
    (confidence : ℚ) (drawn : Drawn) : Except MemoryRaised MemoryFact × InMemoryMemoryStore :=
  let s := s.lockFor key
  if s.sessions.contains key = false then (.error .lookupError, s)
  else if ¬ (0 ≤ confidence ∧ confidence ≤ 1) then (.error .valueError, s)
  else
    let fact := newFact key drawn name value source confidence
    (.ok fact, { s with facts := s.facts.insert key ((s.factsOf key).insert name fact) })

/-- `get_facts`. -/
def getFacts (s : InMemoryMemoryStore) (key : SessionKey) : List MemoryFact := (s.factsOf key).values

/-- `delete_fact`. -/
def deleteFact (s : InMemoryMemoryStore) (key : SessionKey) (name : String) :
    Bool × InMemoryMemoryStore :=
  let s := s.lockFor key
  match s.facts.get? key with
  | none => (false, s)
  | some facts =>
    if facts.contains name then (true, { s with facts := s.facts.insert key (facts.erase name) })
    else (false, s)

/-- `get_summary`. -/
def getSummary (s : InMemoryMemoryStore) (key : SessionKey) : Option MemorySummary :=
  s.summaries.get? key

/-- `upsert_summary`. -/
def upsertSummary (s : InMemoryMemoryStore) (key : SessionKey) (text : String)
    (lastAppliedTurnId sourceModel : Option String) (expectedVersion : Option ℤ) (drawn : Drawn) :
    Except MemoryRaised MemorySummary × InMemoryMemoryStore :=
  let s := s.lockFor key
  if s.sessions.contains key = false then (.error .lookupError, s)
  else
    let existing := s.summaries.get? key
    let currentVersion := summaryVersion existing
    if expectedVersion.getD currentVersion ≠ currentVersion then
      (.error (.versionMismatch (expectedVersion.getD currentVersion) currentVersion), s)
    else
      let updated := newSummary key drawn existing text lastAppliedTurnId sourceModel
      (.ok updated, { s with summaries := s.summaries.insert key updated })

/-- `clear_summary`. -/
def clearSummary (s : InMemoryMemoryStore) (key : SessionKey) : Bool × InMemoryMemoryStore :=
  let s := s.lockFor key
  if s.summaries.contains key = false then (false, s)
  else (true, { s with summaries := s.summaries.erase key })

/-- An operation, once the tenant is accepted. -/
def operate (s : InMemoryMemoryStore) (key : SessionKey) (drawn : Drawn) :
    MemoryOp → Except MemoryRaised MemoryValue × InMemoryMemoryStore
  | .getOrCreateSession userId metadata =>
    let out := s.getOrCreateSession key userId metadata drawn
    (.ok (.session (some out.1)), out.2)
  | .getSession => (.ok (.session (s.getSession key)), s)
  | .appendTurn role content tokenCount modelUsed =>
    let out := s.appendTurn key role content tokenCount modelUsed drawn
    (out.1.map .turn, out.2)
  | .listTurns limit => (.ok (.turns (s.listTurns key limit)), s)
  | .turnCount => (.ok (.count (s.turnCount key)), s)
  | .setFact name value source confidence =>
    let out := s.setFact key name value source confidence drawn
    (out.1.map .fact, out.2)
  | .getFacts => (.ok (.facts (s.getFacts key)), s)
  | .deleteFact name =>
    let out := s.deleteFact key name
    (.ok (.deleted out.1), out.2)
  | .getSummary => (.ok (.summary (s.getSummary key)), s)
  | .upsertSummary text lastAppliedTurnId sourceModel expectedVersion =>
    let out := s.upsertSummary key text lastAppliedTurnId sourceModel expectedVersion drawn
    (out.1.map (fun updated => .summary (some updated)), out.2)
  | .clearSummary =>
    let out := s.clearSummary key
    (.ok (.deleted out.1), out.2)

/-- A call: every operation first validates the tenant. -/
def perform (s : InMemoryMemoryStore) (call : MemoryCall) (drawn : Drawn) :
    Except MemoryRaised MemoryValue × InMemoryMemoryStore :=
  if validTenantId call.session.tenantId then s.operate call.session drawn call.op
  else (.error .invalidTenantId, s)

end InMemoryMemoryStore

/-! ## Runs -/

/-- A call and how it ended. -/
structure MemoryEvent where
  call : MemoryCall
  result : Except MemoryRaised MemoryValue

/-- The store and what its callers have seen of it, in the order of the calls. -/
structure MemoryRun where
  store : InMemoryMemoryStore := {}
  seen : List MemoryEvent := []

/-- One call, with what it draws. -/
def MemoryRun.act (r : MemoryRun) (step : MemoryCall × Drawn) : MemoryRun :=
  let out := r.store.perform step.1 step.2
  { store := out.2, seen := r.seen ++ [⟨step.1, out.1⟩] }

end ModelMeld
