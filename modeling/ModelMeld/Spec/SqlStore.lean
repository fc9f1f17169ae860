import ModelMeld.Spec.InMemory
import ModelMeld.Spec.Summarizer

/-!
# The SQL memory store, one call at a time

`PostgresMemoryStore` as its callers see it when no two calls overlap, with its
payloads as the JSON documents they are: what an operation encodes and what it
decodes. `Postgres` has the statements and the table, and the same operations
interleaved over documents that are typed. The database gives back the value it
was given; `json.dumps` sorts the keys of an object, also inside it.
-/

namespace ModelMeld

/-- `datetime.isoformat`, and `datetime.fromisoformat`, which reads back what it wrote. -/
structure IsoFormat where
  isoformat : ℤ → String
  fromisoformat : String → Option ℤ
  fromisoformat_isoformat : ∀ t, fromisoformat (isoformat t) = some t

/-- Times can be written down, if only as strokes. -/
instance : Nonempty IsoFormat :=
  ⟨{ isoformat := fun t =>
      String.ofList (List.replicate t.toNat '+' ++ List.replicate (-t).toNat '-')
     fromisoformat := fun s => some (s.toList.count '+' - s.toList.count '-')
     fromisoformat_isoformat := fun t => by
      have hplus : (List.replicate t.toNat '+' ++ List.replicate (-t).toNat '-').count '+' =
          t.toNat := by
        rw [List.count_append, List.count_replicate_self, List.count_replicate, if_neg (by decide),
          Nat.add_zero]
      have hminus : (List.replicate t.toNat '+' ++ List.replicate (-t).toNat '-').count '-' =
          (-t).toNat := by
        rw [List.count_append, List.count_replicate_self, List.count_replicate, if_neg (by decide),
          Nat.zero_add]
      rw [String.toList_ofList, hplus, hminus]
      exact congrArg some (by omega) }⟩

/-! ## Documents -/

/-- A text that may be `None`. -/
def Json.ofText (text : Option String) : Json :=
  match text with
  | none => .null
  | some s => .str s

namespace JsonObj

variable (d : JsonObj) (key : String)

/-- `data[key]`, where the key holds a text. -/
def text : Option String :=
  match d.get? key with
  | some (.str s) => some s
  | _ => none

/-- `data[key]`, where the key holds a text or null. -/
def optionalText : Option (Option String) :=
  match d.get? key with
  | some .null => some none
  | some (.str s) => some (some s)
  | _ => none

def integer : Option ℤ :=
  match d.get? key with
  | some (.int n) => some n
  | _ => none

def number : Option ℚ :=
  match d.get? key with
  | some (.float q) => some q
  | some (.int n) => some n
  | _ => none

/-- `_dt(data[key])`. -/
def datetime (iso : IsoFormat) : Option ℤ := (d.text key).bind iso.fromisoformat

end JsonObj

def metadataJson (metadata : OrderedDict String String) : Json :=
  .obj (metadata.entries.map (fun p => (p.1, .str p.2)))

def textField (p : String × Json) : Option (String × String) :=
  match p.2 with
  | .str s => some (p.1, s)
  | _ => none

/-- `data["metadata"]`. -/
def JsonObj.metadata (d : JsonObj) : Option (OrderedDict String String) :=
  match d.get? "metadata" with
  | some (.obj fields) => (fields.mapM textField).map OrderedDict.ofPairs
  | _ => none

/-- `Role(value)`. -/
def Role.ofValue (value : String) : Option Role :=
  if value = "user" then some .user
  else if value = "assistant" then some .assistant
  else if value = "system" then some .system
  else if value = "tool" then some .tool
  else none

def MemorySession.data (iso : IsoFormat) (s : MemorySession) : JsonObj :=
  [("session_id", .str s.sessionId), ("tenant_id", .str s.tenantId),
    ("user_id", .ofText s.userId), ("created_at", .str (iso.isoformat s.createdAt)),
    ("metadata", metadataJson s.metadata)]

/-- `_session`. -/
def decodeSession (iso : IsoFormat) (d : JsonObj) : Option MemorySession := do
  some
    { sessionId := ← d.text "session_id"
      tenantId := ← d.text "tenant_id"
      userId := ← d.optionalText "user_id"
      createdAt := ← d.datetime "created_at" iso
      metadata := ← d.metadata }

def MemoryTurn.data (iso : IsoFormat) (t : MemoryTurn) : JsonObj :=
  [("turn_id", .str t.turnId), ("session_id", .str t.sessionId), ("tenant_id", .str t.tenantId),
    ("role", .str t.role.value), ("content", .str t.content), ("token_count", .int t.tokenCount),
    ("model_used", .ofText t.modelUsed), ("timestamp", .str (iso.isoformat t.timestamp))]

/-- `_turn`. -/
def decodeTurn (iso : IsoFormat) (d : JsonObj) : Option MemoryTurn := do
  some
    { turnId := ← d.text "turn_id"
      sessionId := ← d.text "session_id"
      tenantId := ← d.text "tenant_id"
      role := ← (d.text "role").bind Role.ofValue
      content := ← d.text "content"
      tokenCount := ← d.integer "token_count"
      modelUsed := ← d.optionalText "model_used"
      timestamp := ← d.datetime "timestamp" iso }

def MemoryFact.data (iso : IsoFormat) (f : MemoryFact) : JsonObj :=
  [("fact_id", .str f.factId), ("session_id", .str f.sessionId), ("tenant_id", .str f.tenantId),
    ("key", .str f.key), ("value", .str f.value), ("source", .str f.source),
    ("confidence", .float f.confidence), ("timestamp", .str (iso.isoformat f.timestamp))]

/-- `_fact`. -/
def decodeFact (iso : IsoFormat) (d : JsonObj) : Option MemoryFact := do
  some
    { factId := ← d.text "fact_id"
      sessionId := ← d.text "session_id"
      tenantId := ← d.text "tenant_id"
      key := ← d.text "key"
      value := ← d.text "value"
      source := ← d.text "source"
      confidence := ← d.number "confidence"
      timestamp := ← d.datetime "timestamp" iso }

def MemorySummary.data (iso : IsoFormat) (s : MemorySummary) : JsonObj :=
  [("summary_id", .str s.summaryId), ("session_id", .str s.sessionId),
    ("tenant_id", .str s.tenantId), ("text", .str s.text),
    ("last_applied_turn_id", .ofText s.lastAppliedTurnId), ("version", .int s.version),
    ("source_model", .ofText s.sourceModel), ("created_at", .str (iso.isoformat s.createdAt)),
    ("updated_at", .str (iso.isoformat s.updatedAt))]

/-- `_summary`. -/
def decodeSummary (iso : IsoFormat) (d : JsonObj) : Option MemorySummary := do
  some
    { summaryId := ← d.text "summary_id"
      sessionId := ← d.text "session_id"
      tenantId := ← d.text "tenant_id"
      text := ← d.text "text"
      lastAppliedTurnId := ← d.optionalText "last_applied_turn_id"
      version := ← d.integer "version"
      sourceModel := ← d.optionalText "source_model"
      createdAt := ← d.datetime "created_at" iso
      updatedAt := ← d.datetime "updated_at" iso }

/-- A document that is read back, or the exception of reading it. -/
def readBack {A : Type} (value : Option A) : Except MemoryRaised A :=
  match value with
  | none => .error .undecodable
  | some a => .ok a

/-- `json.dumps` of a payload, as a value. -/
def payloadJson (data : JsonObj) : JsonObj := Json.sortFields data

/-! ## The store -/

structure SqlMemoryStore where
  sessions : DocTable JsonObj := .empty
  turns : DocTable JsonObj := .empty
  facts : DocTable JsonObj := .empty
  summaries : DocTable JsonObj := .empty

namespace SqlMemoryStore

variable (iso : IsoFormat) (s : SqlMemoryStore) (key : SessionKey)

/-- `get_session`. -/
def getSession : Except MemoryRaised (Option MemorySession) :=
  match s.sessions.get key "_" with
  | none => .ok none
  | some data => (readBack (decodeSession iso data)).map some

/-- `_require_session`. -/
def requireSession : Except MemoryRaised Unit := do
  match ← s.getSession iso key with
  | none => .error .lookupError
  | some _ => .ok ()

/-- What is done under the lock when the session exists. -/
def withSession {A : Type} (f : Except MemoryRaised A × SqlMemoryStore) :
    Except MemoryRaised A × SqlMemoryStore :=
  match s.requireSession iso key with
  | .error e => (.error e, s)
  | .ok _ => f

/-- `get_or_create_session`; the second look at the session, under the lock, is the first again. -/
def getOrCreateSession (userId : Option String) (metadata : Option (OrderedDict String String))
    (drawn : Drawn) : Except MemoryRaised MemorySession × SqlMemoryStore :=
  match s.getSession iso key with
  | .error e => (.error e, s)
  | .ok (some existing) => (.ok existing, s)
  | .ok none =>
    let data := (newSession key drawn userId metadata).data iso
    (readBack (decodeSession iso data),
      { s with sessions := s.sessions.put key "_" 0 (payloadJson data) })

/-- `turn_count`. -/
def turnCount : ℕ := (s.turns.list key).length

/-- `append_turn`. -/
def appendTurn (role : Role) (content : String) (tokenCount : ℤ) (modelUsed : Option String)
    (drawn : Drawn) : Except MemoryRaised MemoryTurn × SqlMemoryStore :=
  let turnIdx := s.turnCount key
  let data := (newTurn key drawn role content tokenCount modelUsed).data iso
  s.withSession iso key (readBack (decodeTurn iso data),
    { s with turns := s.turns.put key (turnKey turnIdx) turnIdx (payloadJson data) })

/-- `list_turns`. -/
def listTurns (limit : Option ℤ) : Except MemoryRaised (List MemoryTurn) := do
  let turns ← (s.turns.list key).mapM (fun data => readBack (decodeTurn iso data))
  .ok (lastTurns turns limit)

/-- `set_fact`, which looks at the confidence before it looks for the session. -/
def setFact (name value source : String) (confidence : ℚ) (drawn : Drawn) :
    Except MemoryRaised MemoryFact × SqlMemoryStore :=
  if ¬ (0 ≤ confidence ∧ confidence ≤ 1) then (.error .valueError, s)
  else
    let data := (newFact key drawn name value source confidence).data iso
    s.withSession iso key (readBack (decodeFact iso data),
      { s with facts := s.facts.put key name 0 (payloadJson data) })

/-- `get_facts`. -/
def getFacts : Except MemoryRaised (List MemoryFact) :=
  (s.facts.list key).mapM (fun data => readBack (decodeFact iso data))

/-- `delete_fact`. -/
def deleteFact (name : String) : Bool × SqlMemoryStore :=
  let deleted := s.facts.delete key name
  (deleted.1, { s with facts := deleted.2 })

/-- `get_summary`. -/
def getSummary : Except MemoryRaised (Option MemorySummary) :=
  match s.summaries.get key "_" with
  | none => .ok none
  | some data => (readBack (decodeSummary iso data)).map some

/-- `upsert_summary`. -/
def upsertSummary (text : String) (lastAppliedTurnId sourceModel : Option String)
    (expectedVersion : Option ℤ) (drawn : Drawn) :
    Except MemoryRaised MemorySummary × SqlMemoryStore :=
  s.withSession iso key
    (match s.getSummary iso key with
    | .error e => (.error e, s)
    | .ok existing =>
      let version := summaryVersion existing
      if expectedVersion.getD version ≠ version then
        (.error (.versionMismatch (expectedVersion.getD version) version), s)
      else
        let data := (newSummary key drawn existing text lastAppliedTurnId sourceModel).data iso
        (readBack (decodeSummary iso data),
          { s with summaries := s.summaries.put key "_" 0 (payloadJson data) }))

/-- `clear_summary`. -/
def clearSummary : Bool × SqlMemoryStore :=
  let deleted := s.summaries.delete key "_"
  (deleted.1, { s with summaries := deleted.2 })

/-- An operation, once the tenant is accepted. -/
def operate (drawn : Drawn) : MemoryOp → Except MemoryRaised MemoryValue × SqlMemoryStore
  | .getOrCreateSession userId metadata =>
    let out := s.getOrCreateSession iso key userId metadata drawn
    (out.1.map (fun session => .session (some session)), out.2)
  | .getSession => ((s.getSession iso key).map .session, s)
  | .appendTurn role content tokenCount modelUsed =>
    let out := s.appendTurn iso key role content tokenCount modelUsed drawn
    (out.1.map .turn, out.2)
  | .listTurns limit => ((s.listTurns iso key limit).map .turns, s)
  | .turnCount => (.ok (.count (s.turnCount key)), s)
  | .setFact name value source confidence =>
    let out := s.setFact iso key name value source confidence drawn
    (out.1.map .fact, out.2)
  | .getFacts => ((s.getFacts iso key).map .facts, s)
  | .deleteFact name =>
    let out := s.deleteFact key name
    (.ok (.deleted out.1), out.2)
  | .getSummary => ((s.getSummary iso key).map .summary, s)
  | .upsertSummary text lastAppliedTurnId sourceModel expectedVersion =>
    let out := s.upsertSummary iso key text lastAppliedTurnId sourceModel expectedVersion drawn
    (out.1.map (fun updated => .summary (some updated)), out.2)
  | .clearSummary =>
    let out := s.clearSummary key
    (.ok (.deleted out.1), out.2)

/-- A call: every operation first validates the tenant. -/
def perform (call : MemoryCall) (drawn : Drawn) :
    Except MemoryRaised MemoryValue × SqlMemoryStore :=
  if validTenantId call.session.tenantId then s.operate iso call.session drawn call.op
  else (.error .invalidTenantId, s)

end SqlMemoryStore

end ModelMeld
