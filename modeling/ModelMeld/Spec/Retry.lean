import ModelMeld.Spec.Adapters
import ModelMeld.Spec.Python

/-!
# Retries, and the transports of `AnthropicAdapter`

The classification of exceptions, the retry loop, and what `AnthropicAdapter`
makes of the answers of its upstream in its two modes. The backoff is left out:
it is what the loop waits, and decides nothing.
-/

namespace ModelMeld

/-- An exception, by what `is_transient_error` looks at, and its text. Class names are ASCII. -/
structure PyException where
  className : String
  /-- `isinstance(exc, (asyncio.TimeoutError, ConnectionError))`. -/
  isNetwork : Bool := false
  /-- The attribute `status_code`, when there is one and it is an integer. -/
  statusCode : Option ℕ := none
  text : String := ""

/-- `TRANSIENT_STATUS_CODES`. -/
def transientStatusCodes : List ℕ := [408, 409, 425, 429, 500, 502, 503, 504, 529]

/-- `TRANSIENT_CLASS_HINTS`. -/
def transientClassHints : List String :=
  ["ratelimit", "overloaded", "timeout", "connection", "apiconnection", "internalservererror",
    "serviceunavailable"]

/-- `is_transient_error`. -/
def isTransientError (exc : PyException) : Bool :=
  if exc.isNetwork then true
  else match exc.statusCode with
    | some status => decide (status ∈ transientStatusCodes)
    | none => transientClassHints.any (fun hint => isSubstring hint exc.className.toLower)

/-- What came of a call that is retried, and how often it was made. -/
structure Tried (ε α : Type) where
  result : Except ε α
  attempts : ℕ

/-- The loop of `retry_async` with `left` attempts left, after `n`. -/
def retryLoop {α : Type} (func : ℕ → Except PyException α) : ℕ → ℕ → Tried PyException α
  -- without a first attempt the `assert` after the loop fails
  | 0, n => ⟨.error { className := "AssertionError" }, n⟩
  | left + 1, n =>
    match func n with
    | .ok value => ⟨.ok value, n + 1⟩
    | .error exc =>
      if !isTransientError exc then ⟨.error exc, n + 1⟩
      else if left = 0 then ⟨.error exc, n + 1⟩
      else retryLoop func left (n + 1)

/-- `retry_async`; `func n` is what the attempt after `n` others comes to. -/
def retryAsync {α : Type} (func : ℕ → Except PyException α) (maxAttempts : ℤ) :
    Tried PyException α :=
  retryLoop func maxAttempts.toNat 0

/-- `wrap_as_adapter_error`. -/
def wrapAsAdapterError (exc : PyException) (label : String) : AdapterError where
  kind := if isTransientError exc then .transient else .permanent
  message := label ++ ": " ++ exc.text

/-- A call that is retried, with its exception wrapped. -/
def Tried.wrapped {α : Type} (tried : Tried PyException α) (label : String) :
    Tried AdapterError α where
  result := tried.result.mapError (fun exc => wrapAsAdapterError exc label)
  attempts := tried.attempts

/-! ## The transports -/

/-- What the upstream answers one attempt with: a status, the text of the response, and what a
success is read as. -/
structure HttpAnswer (α : Type) where
  status : ℕ
  text : String := ""
  body : α

/-- `raise AdapterError(...)`, in the middle of `_call`. -/
def adapterException (text : String) : PyException where
  className := "AdapterError"
  text := text

namespace AnthropicAdapter

variable {α : Type}

/-- `client.messages.create`; `raised` is the exception the SDK has for a response. -/
def messagesCreate (raised : HttpAnswer α → PyException) (answer : HttpAnswer α) :
    Except PyException α :=
  if 400 ≤ answer.status then .error (raised answer) else .ok answer.body

/-- `chat`, with an API key. -/
def chat (raised : HttpAnswer α → PyException) (maxAttempts : ℤ) (answers : ℕ → HttpAnswer α) :
    Tried AdapterError α :=
  (retryAsync (fun n => messagesCreate raised (answers n)) maxAttempts).wrapped
    "Anthropic chat call failed"

/-- The text of the error for a response. -/
def oauthText (label : String) (answer : HttpAnswer α) : String :=
  label ++ " " ++ toString answer.status ++ ": " ++ String.ofList (answer.text.toList.take 200)

/-- `_chat_via_oauth`. -/
def chatViaOauth (maxAttempts : ℤ) (answers : ℕ → HttpAnswer α) : Tried AdapterError α :=
  (retryAsync (fun n =>
      if 400 ≤ (answers n).status then
        .error (adapterException (oauthText "Anthropic OAuth" (answers n)))
      else .ok (answers n).body) maxAttempts).wrapped
    "Anthropic OAuth passthrough chat failed"

/-- `stream_chat` up to its first event, with an API key. -/
def openStream (raised : HttpAnswer α → PyException) (maxAttempts : ℤ)
    (answers : ℕ → HttpAnswer α) : Tried AdapterError α :=
  (retryAsync (fun n => messagesCreate raised (answers n)) maxAttempts).wrapped
    "Anthropic stream_chat call failed"

/-- `_stream_chat_via_oauth` up to its first event. It is not retried, and its `AdapterError` is
raised as it is. -/
def openStreamViaOauth (answers : ℕ → HttpAnswer α) : Tried AdapterError α where
  result :=
    if 400 ≤ (answers 0).status then
      .error ⟨.plain, oauthText "Anthropic OAuth stream" (answers 0)⟩
    else .ok (answers 0).body
  attempts := 1

end AnthropicAdapter

end ModelMeld
