import ModelMeld.Lib.Ranking
import Mathlib.Data.Int.Order.Basic

/-!
# The body-size limit

`BodySizeLimitMiddleware` between a server and an application. The application
calls `receive` and `send` as it likes, also at the same time, so the steps of
a request are taken one by one: a call of `receive`, the server's answer to a
call that waits, a `send`, and the second of the two sends of a refusal.
-/

namespace ModelMeld

abbrev Bytes := List UInt8

/-- `text.encode()`. -/
def encode (text : String) : Bytes := text.toUTF8.toList

/-- What `receive` returns. -/
inductive ReceiveMessage where
  | request (body : Option Bytes) (moreBody : Bool)
  | disconnect
deriving DecidableEq

/-- What is sent. -/
inductive SendMessage where
  | start (status : ℤ) (headers : List (Bytes × Bytes))
  | body (body : Bytes) (moreBody : Bool)
deriving DecidableEq

/-- `message.get("body") or b""`. -/
def ReceiveMessage.bytes : ReceiveMessage → Bytes
  | .request body _ => body.getD []
  | .disconnect => []

/-! ## The refusal -/

/-- The body of a 413. -/
def refusalBody (maxBytes : ℤ) : Bytes :=
  encode ("\x7b\"error\": \"payload_too_large\", \"detail\": \"Request body exceeds limit of " ++
    toString maxBytes ++ " bytes.\", \"max_bytes\": " ++ toString maxBytes ++ "\x7d")

/-- The two messages of `_send_413`. -/
def refusalStart (maxBytes : ℤ) : SendMessage :=
  .start 413
    [(encode "content-type", encode "application/json"),
      (encode "content-length", encode (toString (refusalBody maxBytes).length))]

def refusalEnd (maxBytes : ℤ) : SendMessage := .body (refusalBody maxBytes) false

/-! ## The steps of a request -/

/-- Who sends a message to the server. -/
inductive Sender where
  | app | middleware
deriving DecidableEq

/-- What has reached the server and the application. -/
structure Exchanged where
  sent : List (Sender × SendMessage) := []
  delivered : List ReceiveMessage := []

namespace Exchanged

def append (x y : Exchanged) : Exchanged where
  sent := x.sent ++ y.sent
  delivered := x.delivered ++ y.delivered

end Exchanged

/-- The variables of `_make_size_counting_receive`, and the calls under way. -/
structure CountingReceive where
  total : ℕ := 0
  limitHit : Bool := false
  /-- Calls of `receive` that wait for the server. -/
  waiting : ℕ := 0
  /-- Refusals whose second message is still to be sent. -/
  closing : ℕ := 0

inductive BodyStep where
  /-- The application calls `receive`. -/
  | receive
  /-- The server answers a call. -/
  | answer (m : ReceiveMessage)
  /-- The application calls `send`. -/
  | send (m : SendMessage)
  /-- The second message of a refusal. -/
  | refuse

namespace CountingReceive

/-- `wrapped_receive`, once the server has answered. -/
def count (maxBytes : ℤ) (s : CountingReceive) (m : ReceiveMessage) :
    Exchanged × CountingReceive :=
  match m with
  | .disconnect => ({ delivered := [.disconnect] }, s)
  | .request body moreBody =>
    let total := s.total + (body.getD []).length
    if maxBytes < total then
      ({ sent := [(.middleware, refusalStart maxBytes)] },
        { s with total := total, limitHit := true, closing := s.closing + 1 })
    else ({ delivered := [.request body moreBody] }, { s with total := total })

/-- One step, when it can be taken. -/
def step (maxBytes : ℤ) (s : CountingReceive) : BodyStep → Option (Exchanged × CountingReceive)
  | .receive =>
    if s.limitHit then some ({ delivered := [.disconnect] }, s)
    else some ({}, { s with waiting := s.waiting + 1 })
  | .answer m =>
    if s.waiting = 0 then none
    else some (count maxBytes { s with waiting := s.waiting - 1 } m)
  | .send m => some ({ sent := [(.app, m)] }, s)
  | .refuse =>
    if s.closing = 0 then none
    else some ({ sent := [(.middleware, refusalEnd maxBytes)], delivered := [.disconnect] },
      { s with closing := s.closing - 1 })

/-- The steps of a request. -/
def run (maxBytes : ℤ) : CountingReceive → List BodyStep → Option (Exchanged × CountingReceive)
  | s, [] => some ({}, s)
  | s, e :: rest => do
    let now ← step maxBytes s e
    let later ← run maxBytes now.2 rest
    return (now.1.append later.1, later.2)

end CountingReceive

/-! ## The middleware -/

/-- A connection, by what the middleware reads of it. -/
structure Scope where
  type : String
  path : String
  headers : List (Bytes × Bytes)

structure BodySizeLimitMiddleware where
  defaultMaxBytes : ℤ := 4 * 1024 * 1024
  pathLimits : List (String × ℤ) := []

/-- What is done with a connection. -/
inductive BodyRoute where
  /-- The application gets the server's own `receive`. -/
  | forward
  /-- It is refused at once. -/
  | refuse (maxBytes : ℤ)
  /-- The application gets a `receive` that counts. -/
  | count (maxBytes : ℤ)

namespace BodySizeLimitMiddleware

/-- `_limit_for_path`. -/
def limitForPath (mw : BodySizeLimitMiddleware) (path : String) : ℤ :=
  let sortedLimits := Ranking.sortedBy (fun kv : String × ℤ => -(kv.1.length : ℤ)) mw.pathLimits
  match sortedLimits.find? (fun kv => kv.1.toList.isPrefixOf path.toList) with
  | some kv => kv.2
  | none => mw.defaultMaxBytes

/-- The header scan: `int(value.decode("ascii"))` of the first `content-length`. -/
def contentLength (intOfAscii : Bytes → Option ℤ) (headers : List (Bytes × Bytes)) : Option ℤ :=
  (headers.find? (fun h => decide (h.1 = encode "content-length"))).bind (fun h => intOfAscii h.2)

/-- `__call__`, up to the call of the application. -/
def route (mw : BodySizeLimitMiddleware) (intOfAscii : Bytes → Option ℤ) (scope : Scope) :
    BodyRoute :=
  if scope.type ≠ "http" then .forward
  else
    let maxBytes := mw.limitForPath scope.path
    match contentLength intOfAscii scope.headers with
    | none => .count maxBytes
    | some length => if maxBytes < length then .refuse maxBytes else .forward

/-- The application's own exchange with the server. -/
def passThrough : List BodyStep → Option Exchanged
  | [] => some {}
  | .receive :: rest => passThrough rest
  | .answer m :: rest => do return { delivered := [m] : Exchanged }.append (← passThrough rest)
  | .send m :: rest => do return { sent := [(.app, m)] : Exchanged }.append (← passThrough rest)
  | .refuse :: _ => none

/-- `__call__`: what the steps of a connection exchange, when they can be taken. -/
def call (mw : BodySizeLimitMiddleware) (intOfAscii : Bytes → Option ℤ) (scope : Scope)
    (steps : List BodyStep) : Option Exchanged :=
  match mw.route intOfAscii scope with
  | .forward => passThrough steps
  | .refuse maxBytes =>
    if steps.isEmpty then
      some { sent := [(.middleware, refusalStart maxBytes), (.middleware, refusalEnd maxBytes)] }
    else none
  | .count maxBytes => (CountingReceive.run maxBytes {} steps).map Prod.fst

end BodySizeLimitMiddleware

end ModelMeld
