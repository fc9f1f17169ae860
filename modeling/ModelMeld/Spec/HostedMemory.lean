import ModelMeld.Spec.FrontDoor
import ModelMeld.Spec.InMemory
import ModelMeld.Spec.Recording

/-!
# The tiered provider over the in-memory store

`TieredMemoryProvider` on `InMemoryMemoryStore`: what `assemble_context` reads of
the session of a request, and the calls `record` makes of the store. A call that
raises ends a recording, and is logged only.
-/

namespace ModelMeld

/-! ## Rows as the context reads them -/

def MemoryFact.read (f : MemoryFact) : Fact := ⟨f.key, f.value⟩

def MemoryTurn.read (t : MemoryTurn) : LoggedTurn where
  turnId := t.turnId
  role := t.role
  content := t.content
  tokenCount := t.tokenCount
  modelUsed := t.modelUsed

def MemorySummary.read (s : MemorySummary) : Summary where
  summaryId := s.summaryId
  text := s.text
  lastAppliedTurnId := s.lastAppliedTurnId
  version := s.version
  sourceModel := s.sourceModel

namespace InMemoryMemoryStore

/-- What `assemble_context` reads of a session; `none` where the first read raises. -/
def readings (s : InMemoryMemoryStore) (session : SessionKey) : Option StoreReadings :=
  if validTenantId session.tenantId then
    some
      { facts := (s.getFacts session).map MemoryFact.read
        summary := (s.getSummary session).map MemorySummary.read
        mark := (s.getSummary session).map MemorySummary.read
        turns := (s.listTurns session none).map MemoryTurn.read }
  else none

/-- `TieredMemoryProvider.retrieve`. -/
def retrieve (s : InMemoryMemoryStore) (identity : MemoryIdentity) : MemoryContext :=
  (assembleContext {} identity
    (identity.sessionId.bind (fun id => s.readings ⟨identity.tenantId, id⟩))).injected

/-- Calls on one session, until one raises. -/
def performAll (s : InMemoryMemoryStore) (session : SessionKey) :
    List (MemoryOp × Drawn) → InMemoryMemoryStore
  | [] => s
  | (op, drawn) :: rest =>
    match s.perform ⟨session, op⟩ drawn with
    | (.ok _, s) => s.performAll session rest
    | (.error _, s) => s

end InMemoryMemoryStore

/-- What the calls of `record` draw. -/
structure RecordDraws where
  session : Drawn
  user : Drawn
  assistant : Drawn

/-- The calls of `record`: the session, the newest user turn if there is one, and the answer. -/
def Exchange.operations (counter : Option TokenCounter) (identity : MemoryIdentity)
    (draws : RecordDraws) (x : Exchange) : List (MemoryOp × Drawn) :=
  (.getOrCreateSession identity.userId none, draws.session) ::
    ((newestUserText x.request).map (fun text =>
      (MemoryOp.appendTurn .user text (countTokens counter text x.modelUsed) (some x.modelUsed),
        draws.user))).toList ++
    [(.appendTurn .assistant x.assistantText x.assistantTokens (some x.modelUsed),
      draws.assistant)]

/-- `TieredMemoryProvider.record`. -/
def InMemoryMemoryStore.record (s : InMemoryMemoryStore) (identity : MemoryIdentity)
    (counter : Option TokenCounter) (draws : RecordDraws) (x : Exchange) : InMemoryMemoryStore :=
  match identity.sessionId with
  | none => s
  | some id => s.performAll ⟨identity.tenantId, id⟩ (x.operations counter identity draws)

/-- The tenant of a request, as `extract_memory_identity` takes it. -/
def AuthState.tenant (auth : AuthState) : String :=
  let tenantId := ((authIdentity auth).map Prod.fst).getD ""
  if tenantId = "" then anonymousTenantId else tenantId

end ModelMeld
