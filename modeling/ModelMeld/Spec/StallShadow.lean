import ModelMeld.Spec.SessionKey
import ModelMeld.Spec.SessionState
import ModelMeld.Spec.Stall

/-!
# The shadow of the stall detector

`_maybe_stall_shadow` and `_maybe_stall_shadow_chat`: each request on an auto
alias counts as a turn of its session, and the first turn that the detector
fires on is logged. The session's object is the one the store hands out.
-/

namespace ModelMeld

/-- `stall_shadow_enabled`; `lower` is `str.lower`. -/
def stallShadowEnabled (lower : String → String) (env : Environ) : Bool :=
  decide (lower (strip ((env.get "MODELMELD_STALL_SHADOW").getD "")) ∈ ["1", "true", "yes", "on"])

/-- What `logger.info` is told. -/
structure StallLine where
  session : String
  turn : ℤ
  signals : List String
deriving DecidableEq

/-- `app.state.session_stall`, and the lines logged so far. -/
structure ShadowState where
  store : SessionStallStore
  log : List StallLine := []

/-- The value of `x-modelmeld-stall-shadow`. -/
def stallShadowHeader (turn : ℤ) (signals : List String) : String :=
  "turn=" ++ toString turn ++ ";" ++ join "|" signals

/-- What a turn makes of the object it is given, from what the detector says of it. -/
def shadowTurn (key : String) (detected : Except IndexError StallDecision) (ref : ℕ)
    (st : ShadowState) : Except IndexError (Option String) × ShadowState :=
  let store := st.store.write ref (fun state => { state with turnsSeen := state.turnsSeen + 1 })
  match detected with
  | .error e => (.error e, { st with store := store })
  | .ok decision =>
    if !decision.stalled then (.ok none, { st with store := store })
    else
      let store := store.write ref (fun state => { state with lastSignals := decision.signals })
      let turnsSeen := (store.object ref).turnsSeen
      let header := stallShadowHeader turnsSeen decision.signals
      match (store.object ref).shadowFiredTurn with
      | some _ => (.ok (some header), { st with store := store })
      | none =>
        let line : StallLine := { session := key, turn := turnsSeen, signals := decision.signals }
        (.ok (some header),
          { store := store.write ref (fun state => { state with shadowFiredTurn := some turnsSeen })
            log := st.log ++ [line] })

/-- The request that a hook is called with. -/
inductive ShadowRequest where
  | messages (body : AnthropicMessagesRequest) (internalRequest : ChatCompletionRequest)
  | chat (request : ChatCompletionRequest)

namespace ShadowRequest

/-- The model that the client names. -/
def model : ShadowRequest → String
  | .messages body _ => body.model
  | .chat request => request.model

/-- The request that the session key is derived from. -/
def keyed : ShadowRequest → ChatCompletionRequest
  | .messages _ internalRequest => internalRequest
  | .chat request => request

/-- What the detector is shown; `is_error` is lost on the way to the internal request. -/
def observations : ShadowRequest → List TurnObservation
  | .messages body _ => observationsFromAnthropic body
  | .chat request => observationsFromInternal request

end ShadowRequest

/-- A call of one of the hooks. -/
structure ShadowCall where
  request : ShadowRequest
  headers : List (String × String)
  tenantId : String
  env : Environ
  /-- The reading of the store's clock. -/
  now : ℚ

namespace ShadowCall

/-- Only the requests on an auto alias are observed, where the hook is enabled. -/
def applies (parts : KeyParts) (call : ShadowCall) : Bool :=
  stallShadowEnabled parts.lower call.env &&
    decide (resolvePolicy call.request.model = some .auto)

def key (parts : KeyParts) (call : ShadowCall) : String :=
  deriveSessionKey parts call.headers call.request.keyed call.tenantId

/-- What the detector says. -/
def detected (parts : KeyParts) (call : ShadowCall) : Except IndexError StallDecision :=
  detectStall parts.lower call.request.observations (some (defaultStallWeights call.env))

/-- The body that the two hooks share. -/
def shadow (parts : KeyParts) (call : ShadowCall) (st : ShadowState) :
    Except IndexError (Option String) × ShadowState :=
  if call.applies parts then
    let (ref, store) := st.store.getOrCreate (call.key parts) call.now
    shadowTurn (call.key parts) (call.detected parts) ref { st with store := store }
  else (.ok none, st)

end ShadowCall

/-- `_maybe_stall_shadow`. -/
def maybeStallShadow (parts : KeyParts) (env : Environ) (now : ℚ)
    (headers : List (String × String)) (body : AnthropicMessagesRequest)
    (internalRequest : ChatCompletionRequest) (tenantId : String) :
    ShadowState → Except IndexError (Option String) × ShadowState :=
  ShadowCall.shadow parts
    { request := .messages body internalRequest, headers := headers, tenantId := tenantId,
      env := env, now := now }

/-- `_maybe_stall_shadow_chat`. -/
def maybeStallShadowChat (parts : KeyParts) (env : Environ) (now : ℚ)
    (headers : List (String × String)) (request : ChatCompletionRequest) (tenantId : String) :
    ShadowState → Except IndexError (Option String) × ShadowState :=
  ShadowCall.shadow parts
    { request := .chat request, headers := headers, tenantId := tenantId, env := env, now := now }

/-- The hook that a call is of. -/
def ShadowCall.hook (parts : KeyParts) (call : ShadowCall) :
    ShadowState → Except IndexError (Option String) × ShadowState :=
  match call.request with
  | .messages body internalRequest =>
    maybeStallShadow parts call.env call.now call.headers body internalRequest call.tenantId
  | .chat request =>
    maybeStallShadowChat parts call.env call.now call.headers request call.tenantId

end ModelMeld
