import ModelMeld.Spec.Gateway
import ModelMeld.Spec.RequestHeaders

/-!
# The front door

What the three handlers do with a request before they route it, in their
order: the memory identity, the translation of the body, the allowlist, the
routing hints, the client's keys and its bearer token. `receive` is a request
from its headers to its response, with the stall shadow off: that is modelled by
itself in `StallShadow`.
-/

namespace ModelMeld

/-- What an app reads requests with. -/
structure FrontDoor where
  parts : HeaderParts
  /-- The providers whose optional package can be imported. -/
  installed : String → Bool
  allowSubscriptionPassthrough : Bool := false

/-- A request as it comes in, with what it reads from outside. -/
structure Arrival (ε : Type) where
  headers : Headers
  auth : AuthState := {}
  call : Call
  /-- What the memory provider retrieves for an identity. -/
  retrieve : MemoryIdentity → MemoryContext := fun _ => {}
  outside : Outside ε

/-- What a handler knows of a request when it routes it. -/
structure Admitted where
  identity : MemoryIdentity
  request : ChatCompletionRequest
  creds : ByokCredentials
  inbound : Inbound
  /-- `extra_anthropic_headers`; nothing but on `/v1/messages`. -/
  extraHeaders : Headers := []

namespace Call

/-- The internal request of a call. -/
def translated (texts : PythonText) : Call → Except HttpError ChatCompletionRequest
  | .chat request => .ok request
  | .messages body =>
    match fromAnthropicRequest texts body.toAnthropicMessagesRequest with
    | .ok request => .ok request
    | .error e => .error ⟨400, .text ("translation_error: " ++ e.message)⟩
  | .responses _ request => .ok request

/-- The model the allowlist is asked about. -/
def askedModel : Call → String
  | .chat request => request.model
  | .messages body => body.model
  | .responses _ request => request.model

/-- Whose subscription a bearer token on this surface is of. -/
def vendor : Call → PassthroughVendor
  | .messages _ => .anthropic
  | _ => .codex

/-- The headers a call has forwarded: those of the SDK only with a subscription bearer. -/
def forwarded (headers : Headers) (auth : AuthClassification) : Call → Headers
  | .messages _ =>
    collectAnthropicExtraHeaders headers ++
      (if auth.kind = .oauthBearer then collectOauthCamouflageHeaders headers else [])
  | _ => []

end Call

namespace FrontDoor

/-- The memory identity of a request. -/
def identify (door : FrontDoor) (headers : Headers) (auth : AuthState) :
    Except HttpError MemoryIdentity :=
  let identity := authIdentity auth
  match extractMemoryIdentity door.parts headers (identity.map Prod.fst)
      (identity.bind Prod.snd) with
  | .ok mem => .ok mem
  | .error e => .error ⟨400, .text ("invalid_memory_header: " ++ e)⟩

/-- The translated body of a request whose model is allowed. -/
def accept (texts : PythonText) (allowlist : Option (List String)) (call : Call) :
    Except HttpError ChatCompletionRequest :=
  match call.translated texts with
  | .error e => .error e
  | .ok request =>
    if Gateway.refused { allowlist := allowlist } call.askedModel then
      .error (Gateway.allowlistError call.askedModel)
    else .ok request

/-- The routing hints of a request. -/
def hint (door : FrontDoor) (headers : Headers) : Except HttpError RoutingHints :=
  match extractHintsFromHeaders door.parts headers with
  | .ok hints => .ok hints
  | .error e => .error ⟨400, .text ("invalid_routing_hint: " ++ e)⟩

/-- The adapters of a request's own keys, and the lines logged; none without a key. -/
def ownAdapters (door : FrontDoor) (creds : ByokCredentials) : Option AdapterMap × List String :=
  let built := if creds.isEmpty then (.empty, []) else buildByokAdapters door.installed creds
  (if built.1.keys = ∅ then none else some built.1, built.2)

/-- A handler up to its routing: what it knows then or what it answers, and the lines it logs. -/
def enter (door : FrontDoor) (texts : PythonText) (headers : Headers) (auth : AuthState)
    (call : Call) : Except HttpError Admitted × List String :=
  match door.identify headers auth with
  | .error e => (.error e, [])
  | .ok identity =>
    match accept texts auth.apiKeyModelAllowlist call with
    | .error e => (.error e, [])
    | .ok request =>
      match door.hint headers with
      | .error e => (.error e, [])
      | .ok hints =>
        let creds := extractByokCredentials door.parts.lower headers
        let own := door.ownAdapters creds
        let bearer := classifyAuthorization door.parts.lower (headerValue headers "authorization")
        match resolvePassthroughRouter door.installed bearer call.vendor
            door.allowSubscriptionPassthrough with
        | (.error e, log) => (.error e, own.2 ++ log)
        | (.ok passthrough, log) =>
          (.ok
            { identity := identity
              request := request
              creds := creds
              inbound :=
                { allowlist := auth.apiKeyModelAllowlist
                  hints := some hints
                  byok := own.1
                  passthrough := passthrough
                  tenantId := identity.tenantId }
              extraHeaders := call.forwarded headers bearer }, own.2 ++ log)

end FrontDoor

/-- What a request comes to: how it is handled, the lines its front door logs, and the headers
that ride its calls of an Anthropic adapter. -/
structure Visit (σ D : Type) where
  handled : Handled σ D
  log : List String := []
  extraHeaders : Headers := []

namespace Gateway

variable {σ ε D : Type} [DecidableEq D]

/-- A handler from its routing on. A `RouterError` is told apart by the keys that were sent, not
by the adapters built from them. -/
def handleAdmitted (g : Gateway σ ε D) (st : GatewayState σ D) (admitted : Admitted)
    (outside : Outside ε) (call : Call) : Handled σ D :=
  let handled := g.handle st admitted.inbound outside call
  match ((g.activeRouter admitted.inbound).route st.router outside.routing admitted.request
      admitted.inbound.hints admitted.inbound.byok).1 with
  | .ok _ => handled
  | .error e =>
    { handled with reply := .error (routerHttpError g.safeErrorDetail e admitted.creds.providers) }

/-- A request, from its headers to its response. -/
def receive (g : Gateway σ ε D) (door : FrontDoor) (st : GatewayState σ D) (a : Arrival ε) :
    Visit σ D :=
  match door.enter g.texts a.headers a.auth a.call with
  | (.error e, log) => { handled := { reply := .error e, state := st }, log := log }
  | (.ok admitted, log) =>
    let outside := { a.outside with memory := a.retrieve admitted.identity }
    { handled := g.handleAdmitted st admitted outside a.call
      log := log
      extraHeaders := admitted.extraHeaders }

end Gateway

/-- The state a run of arrivals has reached, and what each came to. -/
structure DoorTrace (σ D : Type) where
  state : GatewayState σ D
  received : List (Visit σ D) := []

/-- One request of a run. -/
def Gateway.welcome {σ ε D : Type} [DecidableEq D] (g : Gateway σ ε D) (door : FrontDoor)
    (t : DoorTrace σ D) (a : Arrival ε) : DoorTrace σ D :=
  let received := g.receive door t.state a
  { state := received.handled.state, received := t.received ++ [received] }

end ModelMeld
