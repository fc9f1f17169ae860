import ModelMeld.Lib.OrderedDict
import ModelMeld.Lib.Ranking
import Mathlib.Algebra.Order.Field.Rat

/-!
# The state of sessions

`SessionStallStore` maps session keys to mutable objects. Callers keep the
object they are given and write to it, so the store refers to its objects, and
an object outlives its entry.
-/

namespace ModelMeld

structure SessionStallState where
  turnsSeen : ℤ := 0
  lastSignals : List String := []
  /-- The turn at which the detector first fired. -/
  shadowFiredTurn : Option ℤ := none
  lastSeen : ℚ := 0
deriving DecidableEq, Inhabited

/-- `SessionStallStore`; the entries refer to the objects by their position. -/
structure SessionStallStore where
  ttlSec : ℚ
  maxEntries : ℤ
  entries : OrderedDict String ℕ := .empty
  /-- Every object created so far. -/
  objects : List SessionStallState := []

namespace SessionStallStore

/-- The object a reference is to. -/
def object (s : SessionStallStore) (ref : ℕ) : SessionStallState := (s.objects[ref]?).getD {}

/-- An object changed in place. -/
def write (s : SessionStallStore) (ref : ℕ) (f : SessionStallState → SessionStallState) :
    SessionStallStore :=
  { s with objects := s.objects.modify ref f }

/-- `s.last_seen` of an entry. -/
def lastSeenOf (s : SessionStallStore) (entry : String × ℕ) : ℚ := (s.object entry.2).lastSeen

/-- `_evict_expired`. -/
def evictExpired (s : SessionStallStore) (now : ℚ) : SessionStallStore :=
  let cutoff := now - s.ttlSec
  let expired := s.entries.entries.filter (fun entry => decide (s.lastSeenOf entry < cutoff))
  { s with entries := s.entries.eraseAll (expired.map Prod.fst) }

/-- `_enforce_cap`. -/
def enforceCap (s : SessionStallStore) : SessionStallStore :=
  let overflow := (s.entries.size : ℤ) - s.maxEntries
  if overflow ≤ 0 then s
  else
    let oldest := Ranking.sortedBy s.lastSeenOf s.entries.entries
    { s with entries := s.entries.eraseAll ((oldest.take overflow.toNat).map Prod.fst) }

/-- A new object under a key. -/
def create (s : SessionStallStore) (key : String) (now : ℚ) : SessionStallStore :=
  let state : SessionStallState := { lastSeen := now }
  { s with
    entries := s.entries.insert key s.objects.length
    objects := s.objects ++ [state] }

/-- `get_or_create`: the object returned, and the store. -/
def getOrCreate (s : SessionStallStore) (key : String) (now : ℚ) : ℕ × SessionStallStore :=
  let s := s.evictExpired now
  match s.entries.get? key with
  | none => (s.objects.length, (s.create key now).enforceCap)
  | some ref => (ref, s.write ref (fun state => { state with lastSeen := now }))

end SessionStallStore

end ModelMeld
