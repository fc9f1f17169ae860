import ModelMeld.Lib.OrderedDict
import ModelMeld.Lib.Versioned
import ModelMeld.Spec.MemoryStore
import Mathlib.Data.List.Sort
import Mathlib.Data.Rat.Defs
import Mathlib.Logic.Function.Basic

/-!
# The SQL memory store

Any number of `PostgresMemoryStore` instances, one for each worker process, on
one database. A single statement is atomic and is a transaction of its own; a
call is a coroutine that waits at each statement and at `_write_lock`, which
belongs to its instance. The table of documents is one table for each kind, as
the kind is the first part of the primary key. Payloads are typed documents;
identifiers the source draws from `uuid4` come with the call.
-/

namespace ModelMeld

/-! ## The table of documents -/

structure SessionKey where
  tenantId : String
  sessionId : String
deriving DecidableEq

/-- The primary key of the documents of one kind. -/
structure DocKey where
  session : SessionKey
  itemKey : String
deriving DecidableEq

structure DocRow (V : Type) where
  sortIdx : ℕ
  payload : V
deriving DecidableEq

/-- The documents of one kind. -/
abbrev DocTable (V : Type) := OrderedDict DocKey (DocRow V)

namespace DocTable

variable {V : Type}

/-- `_put`: `INSERT … ON CONFLICT … DO UPDATE`. -/
def put (docs : DocTable V) (session : SessionKey) (itemKey : String) (sortIdx : ℕ) (payload : V) :
    DocTable V :=
  docs.insert ⟨session, itemKey⟩ ⟨sortIdx, payload⟩

/-- `_get`. -/
def get (docs : DocTable V) (session : SessionKey) (itemKey : String) : Option V :=
  (docs.get? ⟨session, itemKey⟩).map DocRow.payload

/-- The rows of a session. -/
def rows (docs : DocTable V) (session : SessionKey) : List (DocKey × DocRow V) :=
  docs.entries.filter (fun row => row.1.session = session)

/-- `ORDER BY sort_idx ASC, item_key ASC`. -/
def RowLe (a b : DocKey × DocRow V) : Prop :=
  a.2.sortIdx < b.2.sortIdx ∨ a.2.sortIdx = b.2.sortIdx ∧ a.1.itemKey ≤ b.1.itemKey

instance : DecidableRel (RowLe (V := V)) := fun _ _ => inferInstanceAs (Decidable (_ ∨ _))

/-- `_list`. -/
def list (docs : DocTable V) (session : SessionKey) : List V :=
  ((docs.rows session).insertionSort RowLe).map (fun row => row.2.payload)

/-- `_delete`, with whether there was a row. -/
def delete (docs : DocTable V) (session : SessionKey) (itemKey : String) : Bool × DocTable V :=
  (docs.contains ⟨session, itemKey⟩, docs.erase ⟨session, itemKey⟩)

end DocTable

structure StoredSession where
  userId : Option String := none
  metadata : List (String × String) := []
deriving DecidableEq

structure StoredFact where
  factId : String
  key : String
  value : String
  source : String := "declared"
  confidence : ℚ := 1
deriving DecidableEq

structure MemoryDb where
  sessions : DocTable StoredSession := .empty
  turns : DocTable LoggedTurn := .empty
  facts : DocTable StoredFact := .empty
  summaries : DocTable Summary := .empty
deriving DecidableEq

/-- `f"{turn_idx:020d}"`. -/
def turnKey (turnIdx : ℕ) : String :=
  String.ofList ((Nat.repr turnIdx).toList.leftpad 20 '0')

namespace MemoryDb

/-- `get_session`. -/
def getSession (db : MemoryDb) (session : SessionKey) : Option StoredSession :=
  db.sessions.get session "_"

/-- `list_turns`. -/
def listTurns (db : MemoryDb) (session : SessionKey) (limit : Option ℤ) : List LoggedTurn :=
  let turns := db.turns.list session
  match limit with
  | none => turns
  | some n => if n ≤ 0 then turns else turns.drop (turns.length - n.toNat)

/-- `turn_count`. -/
def turnCount (db : MemoryDb) (session : SessionKey) : ℕ := (db.turns.list session).length

/-- `get_summary`. -/
def getSummary (db : MemoryDb) (session : SessionKey) : Option Summary :=
  db.summaries.get session "_"

def putSession (db : MemoryDb) (session : SessionKey) (data : StoredSession) : MemoryDb :=
  { db with sessions := db.sessions.put session "_" 0 data }

def putTurn (db : MemoryDb) (session : SessionKey) (turnIdx : ℕ) (turn : LoggedTurn) : MemoryDb :=
  { db with turns := db.turns.put session (turnKey turnIdx) turnIdx turn }

def putFact (db : MemoryDb) (session : SessionKey) (fact : StoredFact) : MemoryDb :=
  { db with facts := db.facts.put session fact.key 0 fact }

def putSummary (db : MemoryDb) (session : SessionKey) (summary : Summary) : MemoryDb :=
  { db with summaries := db.summaries.put session "_" 0 summary }

end MemoryDb

/-! ## Calls -/

/-- `validate_tenant_id`. -/
def validTenantId (tenantId : String) : Bool :=
  tenantId = "__anonymous__" ||
    (tenantId ≠ "" && tenantId.length ≤ 128 && tenantId.toList.all (fun c =>
      ('A' ≤ c && c ≤ 'Z') || ('a' ≤ c && c ≤ 'z') || ('0' ≤ c && c ≤ '9') ||
        c = '_' || c = '.' || c = '-'))

inductive StoreOp where
  | getOrCreateSession (data : StoredSession)
  | getSession
  | appendTurn (turn : LoggedTurn)
  | listTurns (limit : Option ℤ)
  | turnCount
  | setFact (fact : StoredFact)
  | getFacts
  | deleteFact (key : String)
  | getSummary
  | upsertSummary (freshId text : String) (lastAppliedTurnId sourceModel : Option String)
      (expectedVersion : Option ℤ)
  | clearSummary
deriving DecidableEq

structure StoreCall where
  /-- The instance, one for each process. -/
  worker : ℕ
  session : SessionKey
  op : StoreOp
deriving DecidableEq

inductive StoreError where
  | invalidTenantId
  | valueError
  | lookupError
  | versionMismatch (expected actual : ℤ)
deriving DecidableEq

inductive StoreValue where
  | session (s : Option StoredSession)
  | turn (t : LoggedTurn)
  | turns (ts : List LoggedTurn)
  | count (n : ℕ)
  | fact (f : StoredFact)
  | facts (fs : List StoredFact)
  | summary (s : Option Summary)
  | deleted (found : Bool)
deriving DecidableEq

/-- Where a call waits. -/
inductive CallState where
  | started
  /-- For `_write_lock`. -/
  | waiting
  /-- For the row of the session, as the holder of the lock. -/
  | requiring
  | counting
  | puttingTurn (turnIdx : ℕ)
  | readingSummary
  | puttingSummary (existing : Option Summary)
  | puttingSession
  | puttingFact
  | finished (result : Except StoreError StoreValue)
deriving DecidableEq

/-- The call has its tenant accepted; up to the first statement, or to the lock. -/
def beginCall (call : StoreCall) (db : MemoryDb) : CallState × MemoryDb :=
  match call.op with
  | .getOrCreateSession _ =>
    match db.getSession call.session with
    | some data => (.finished (.ok (.session (some data))), db)
    | none => (.waiting, db)
  | .getSession => (.finished (.ok (.session (db.getSession call.session))), db)
  | .appendTurn _ => (.waiting, db)
  | .listTurns limit => (.finished (.ok (.turns (db.listTurns call.session limit))), db)
  | .turnCount => (.finished (.ok (.count (db.turnCount call.session))), db)
  | .setFact fact =>
    (if 0 ≤ fact.confidence ∧ fact.confidence ≤ 1 then .waiting else .finished (.error .valueError),
      db)
  | .getFacts => (.finished (.ok (.facts (db.facts.list call.session))), db)
  | .deleteFact key =>
    let deleted := db.facts.delete call.session key
    (.finished (.ok (.deleted deleted.1)), { db with facts := deleted.2 })
  | .getSummary => (.finished (.ok (.summary (db.getSummary call.session))), db)
  | .upsertSummary _ _ _ _ _ => (.waiting, db)
  | .clearSummary =>
    let deleted := db.summaries.delete call.session "_"
    (.finished (.ok (.deleted deleted.1)), { db with summaries := deleted.2 })

/-- What follows the look at the session. -/
def afterRequire (call : StoreCall) (found : Option StoredSession) : CallState :=
  match call.op, found with
  | .getOrCreateSession _, some data => .finished (.ok (.session (some data)))
  | .getOrCreateSession _, none => .puttingSession
  | _, none => .finished (.error .lookupError)
  | .appendTurn _, some _ => .counting
  | .upsertSummary _ _ _ _ _, some _ => .readingSummary
  | _, some _ => .puttingFact

/-- What follows the look at the summary. -/
def afterSummary (call : StoreCall) (existing : Option Summary) : CallState :=
  match call.op with
  | .upsertSummary _ _ _ _ (some expected) =>
    if expected ≠ versionOf existing then
      .finished (.error (.versionMismatch expected (versionOf existing)))
    else .puttingSummary existing
  | _ => .puttingSummary existing

/-- One step of a call that does not wait for the lock. -/
def callStep (call : StoreCall) (db : MemoryDb) : CallState → CallState × MemoryDb
  | .started =>
    if validTenantId call.session.tenantId then beginCall call db
    else (.finished (.error .invalidTenantId), db)
  | .waiting => (.waiting, db)
  | .requiring => (afterRequire call (db.getSession call.session), db)
  | .counting => (.puttingTurn (db.turnCount call.session), db)
  | .puttingTurn turnIdx =>
    match call.op with
    | .appendTurn turn =>
      (.finished (.ok (.turn turn)), db.putTurn call.session turnIdx turn)
    | _ => (.puttingTurn turnIdx, db)
  | .readingSummary => (afterSummary call (db.getSummary call.session), db)
  | .puttingSummary existing =>
    match call.op with
    | .upsertSummary freshId text lastAppliedTurnId sourceModel _ =>
      let updated := SessionMemory.nextSummary existing freshId text lastAppliedTurnId sourceModel []
      (.finished (.ok (.summary (some updated))), db.putSummary call.session updated)
    | _ => (.puttingSummary existing, db)
  | .puttingSession =>
    match call.op with
    | .getOrCreateSession data =>
      (.finished (.ok (.session (some data))), db.putSession call.session data)
    | _ => (.puttingSession, db)
  | .puttingFact =>
    match call.op with
    | .setFact fact => (.finished (.ok (.fact fact)), db.putFact call.session fact)
    | _ => (.puttingFact, db)
  | .finished result => (.finished result, db)

/-! ## The instances together -/

/-- What was done to the summary of a session, by which call. -/
abbrev SummaryChange := Versioned.Change ℕ

/-- What the step of a call in a state does to the summary of its session. -/
def summaryChange (i : ℕ) (call : StoreCall) : CallState → List SummaryChange
  | .started =>
    if validTenantId call.session.tenantId ∧ call.op = .clearSummary then [.cleared] else []
  | .puttingSummary existing =>
    match call.op with
    | .upsertSummary _ _ _ _ _ => [.stored i (versionOf existing + 1)]
    | _ => []
  | _ => []

structure StoreWorld where
  db : MemoryDb := {}
  /-- The call that holds `_write_lock` of an instance. -/
  lock : ℕ → Option ℕ := fun _ => none
  states : ℕ → CallState := fun _ => .started
  /-- What was done to each summary, the latest first; nothing reads it. -/
  history : SessionKey → List SummaryChange := fun _ => []

def CallState.isFinished : CallState → Bool
  | .finished _ => true
  | _ => false

/-- The call takes its next step. A call that waits for a lock another call holds stays where it
is; a call that ends lets go of its lock. -/
def StoreWorld.act (calls : ℕ → StoreCall) (w : StoreWorld) (i : ℕ) : StoreWorld :=
  let call := calls i
  match w.states i with
  | .waiting =>
    match w.lock call.worker with
    | none =>
      { w with
        lock := Function.update w.lock call.worker (some i)
        states := Function.update w.states i .requiring }
    | some _ => w
  | state =>
    let moved := callStep call w.db state
    { db := moved.2
      lock := if moved.1.isFinished ∧ w.lock call.worker = some i then
          Function.update w.lock call.worker none else w.lock
      states := Function.update w.states i moved.1
      history := Function.update w.history call.session
        (summaryChange i call state ++ w.history call.session) }

end ModelMeld
