import ModelMeld.Spec.AnthropicStream
import ModelMeld.Spec.Retry

/-!
# The credentials of the Codex passthrough

`CodexPassthroughAdapter` reads its token from `auth.json`, where the Codex CLI
rotates it. A call that is rejected reads the file again and is made once more
when the token changed. Requests share one adapter, and take turns at each
`await`.
-/

namespace ModelMeld

/-! ## The file -/

/-- What reading a file raises outside of the `try` or past its handler. -/
inductive Uncaught where
  | permissionError | unicodeDecodeError
deriving DecidableEq

def Uncaught.exc (text : String) : Uncaught → PyException
  | .permissionError => { className := "PermissionError", text := text }
  | .unicodeDecodeError => { className := "UnicodeDecodeError", text := text }

/-- What reading `auth.json` comes to. -/
inductive AuthFile where
  | missing
  /-- An `OSError` or a `json.JSONDecodeError`, by the name of its type. -/
  | unreadable (typeName : String)
  | raises (kind : Uncaught) (text : String)
  | json (data : Json)

/-- `raise CodexAuthFileError(...)`. -/
def codexAuthFileError (text : String) : PyException where
  className := "CodexAuthFileError"
  text := text

/-- `value.get(key) if isinstance(value, dict) else None`. -/
def dictGet (key : String) : Json → Json
  | .obj fields => (fields.lookup key).getD .null
  | _ => .null

/-- `_load_codex_auth`: the token and the account id, or what is raised. -/
def loadCodexAuth (authPath : String) : AuthFile → Except PyException (Json × Option String)
  | .missing => .error (codexAuthFileError ("Codex auth file not found at " ++ authPath ++
      ". Run \x60codex login\x60 to create one, or pass access_token directly."))
  | .unreadable typeName => .error (codexAuthFileError ("Codex auth file at " ++ authPath ++
      " is unreadable or malformed: " ++ typeName))
  | .raises kind text => .error (kind.exc text)
  | .json data =>
    let accessToken := dictGet "access_token" (dictGet "tokens" data)
    if !accessToken.truthy then
      .error (codexAuthFileError ("Codex auth file at " ++ authPath ++
        " has no tokens.access_token field."))
    else
      match dictGet "account_id" data with
      | .str accountId => .ok (accessToken, some accountId)
      | _ => .ok (accessToken, none)

/-! ## The adapter -/

/-- What the client of the SDK sends with each call. -/
structure CodexClient where
  apiKey : Json
  /-- The header `ChatGPT-Account-ID`. -/
  accountHeader : Option String
deriving DecidableEq

structure CodexPassthroughAdapter where
  accessToken : Json
  accountId : Option String
  authJsonPath : Option String
  client : CodexClient
deriving DecidableEq

namespace CodexPassthroughAdapter

/-- `_build_async_openai_client`. -/
def buildClient (accessToken : Json) (accountId : Option String) : CodexClient where
  apiKey := accessToken
  accountHeader := accountId.filter (· ≠ "")

/-- The token and the account id, in the order of priority. -/
def resolveToken (accessToken accountId authJsonPath environToken : Option String)
    (file : AuthFile) : Except PyException (Json × Option String) :=
  match accessToken, authJsonPath with
  | some token, _ => .ok (.str token, accountId)
  | none, some path => do
    let (token, fileAccountId) ← loadCodexAuth path file
    return (token, if accountId = none then fileAccountId else accountId)
  | none, none => .ok ((environToken.map Json.str).getD .null, accountId)

/-- `__init__`; `environToken` is `CODEX_ACCESS_TOKEN`, and `file` is what is at the path. -/
def create (accessToken accountId authJsonPath environToken : Option String) (file : AuthFile) :
    Except PyException CodexPassthroughAdapter := do
  let (token, resolvedAccountId) ←
    resolveToken accessToken accountId authJsonPath environToken file
  if !token.truthy then
    .error { className := "AdapterError", text :=
      "CodexPassthroughAdapter requires an OAuth access token. Provide one of: access_token=, " ++
      "auth_json_path=, or set CODEX_ACCESS_TOKEN env var." }
  else
    return {
      accessToken := token
      accountId := resolvedAccountId
      authJsonPath := authJsonPath.filter (· ≠ "")
      client := buildClient token resolvedAccountId }

/-- `_try_reload_token`: whether the token changed, and the adapter. -/
def tryReloadToken (adapter : CodexPassthroughAdapter) (file : AuthFile) :
    Except PyException Bool × CodexPassthroughAdapter :=
  match adapter.authJsonPath with
  | none => (.ok false, adapter)
  | some path =>
    match loadCodexAuth path file with
    | .error exc =>
      if exc.className = "CodexAuthFileError" then (.ok false, adapter) else (.error exc, adapter)
    | .ok (newToken, newAccountId) =>
      if newToken = adapter.accessToken then (.ok false, adapter)
      else
        let accountId := match newAccountId.filter (· ≠ "") with
          | some id => some id
          | none => adapter.accountId
        (.ok true, { adapter with
          accessToken := newToken
          accountId := accountId
          client := buildClient newToken accountId })

end CodexPassthroughAdapter

/-! ## Requests -/

/-- What the backend makes of a call. -/
inductive CodexReply (α : Type) where
  | ok (value : α)
  /-- An `AuthenticationError`, which has the status 401. -/
  | unauthorized (text : String)
  /-- Any other exception. -/
  | failed (exc : PyException)

/-- The `AuthenticationError` of the SDK. -/
def authenticationError (text : String) : PyException where
  className := "AuthenticationError"
  statusCode := some 401
  text := text

/-- Where a request is in `retry_async` of `_call` or of `_open_stream`. -/
inductive CodexPhase (α : Type) where
  /-- A call was made: the attempt, whether it is its second call, and the client. -/
  | calling (attempt : ℕ) (again : Bool) (client : CodexClient)
  /-- The backoff after an attempt. -/
  | waiting (attempt : ℕ)
  | done (result : Except PyException α)

/-- What is seen of the requests. -/
inductive CodexSeen (α : Type) where
  | called (request : ℕ) (again : Bool) (client : CodexClient)
  | rejected (request : ℕ) (again : Bool)
  | ended (request : ℕ) (result : Except PyException α)

/-- An adapter, the file, and the requests that share them. -/
structure CodexWorld (α : Type) where
  adapter : CodexPassthroughAdapter
  file : AuthFile
  requests : List (CodexPhase α) := []
  seen : List (CodexSeen α) := []

inductive CodexEvent (α : Type) where
  /-- A request comes in. -/
  | start
  | reply (request : ℕ) (outcome : CodexReply α)
  /-- The backoff of a request is over. -/
  | wake (request : ℕ)
  /-- The Codex CLI, or a user, changes the file. -/
  | write (file : AuthFile)

namespace CodexWorld

variable {α : Type}

/-- `self._client.responses.create(**kwargs)`. -/
def call (w : CodexWorld α) (request attempt : ℕ) (again : Bool) : CodexWorld α :=
  { w with
    requests := w.requests.set request (.calling attempt again w.adapter.client)
    seen := w.seen ++ [.called request again w.adapter.client] }

def finish (w : CodexWorld α) (request : ℕ) (result : Except PyException α) : CodexWorld α :=
  { w with
    requests := w.requests.set request (.done result)
    seen := w.seen ++ [.ended request result] }

/-- An attempt raises. -/
def raise (maxAttempts : ℤ) (w : CodexWorld α) (request attempt : ℕ) (exc : PyException) :
    CodexWorld α :=
  if !isTransientError exc then w.finish request (.error exc)
  else if maxAttempts ≤ attempt then w.finish request (.error exc)
  else { w with requests := w.requests.set request (.waiting attempt) }

/-- The backend answers a call. -/
def answer (maxAttempts : ℤ) (w : CodexWorld α) (request attempt : ℕ) (again : Bool) :
    CodexReply α → CodexWorld α
  | .ok value => w.finish request (.ok value)
  | .failed exc => w.raise maxAttempts request attempt exc
  | .unauthorized text =>
    let w : CodexWorld α := { w with seen := w.seen ++ [.rejected request again] }
    if again then w.raise maxAttempts request attempt (authenticationError text)
    else
      let (reloaded, adapter) := w.adapter.tryReloadToken w.file
      let w : CodexWorld α := { w with adapter := adapter }
      match reloaded with
      | .error exc => w.raise maxAttempts request attempt exc
      | .ok false => w.raise maxAttempts request attempt (authenticationError text)
      | .ok true => w.call request attempt true

/-- A request comes in: its first attempt, where there is one. -/
def enter (maxAttempts : ℤ) (w : CodexWorld α) : CodexWorld α :=
  let request := w.requests.length
  let w : CodexWorld α := { w with requests := w.requests ++ [.waiting 0] }
  if maxAttempts < 1 then w.finish request (.error { className := "AssertionError" })
  else w.call request 1 false

def step (maxAttempts : ℤ) (w : CodexWorld α) : CodexEvent α → CodexWorld α
  | .start => w.enter maxAttempts
  | .reply request outcome =>
    match w.requests[request]? with
    | some (.calling attempt again _) => w.answer maxAttempts request attempt again outcome
    | _ => w
  | .wake request =>
    match w.requests[request]? with
    | some (.waiting attempt) => w.call request (attempt + 1) false
    | _ => w
  | .write file => { w with file := file }

end CodexWorld

end ModelMeld
