import ModelMeld.Spec.Cache

/-!
# Decoded requests

What a JSON body is decoded into: dictionaries that have a key once, with the
fields a client added apart from the declared ones. Two decoded requests agree
field by field when their dictionaries do, whatever the order of the keys.
-/

namespace ModelMeld

/-! ## Dictionaries -/

namespace Json

mutual

/-- Two decoded values agree: dictionaries whatever the order of their keys. Unlike `==` this tells
`40`, `40.0` and `True` apart. -/
def Same : Json → Json → Prop
  | .arr a, .arr b => SameItems a b
  | .obj a, .obj b => a.length = b.length ∧ SameFields a b
  | a, b => a = b

def SameItems : List Json → List Json → Prop
  | [], [] => True
  | a :: as, b :: bs => Same a b ∧ SameItems as bs
  | _, _ => False

def SameFields : List (String × Json) → List (String × Json) → Prop
  | [], _ => True
  | (key, value) :: fields, other =>
    (∃ v, other.lookup key = some v ∧ Same value v) ∧ SameFields fields other

end

mutual

/-- No object in the value has a key twice, as no `dict` does. -/
def UniqueKeys : Json → Prop
  | .arr items => UniqueItems items
  | .obj fields => (fields.map Prod.fst).Nodup ∧ UniqueFields fields
  | _ => True

def UniqueItems : List Json → Prop
  | [] => True
  | item :: items => UniqueKeys item ∧ UniqueItems items

def UniqueFields : List (String × Json) → Prop
  | [] => True
  | (_, value) :: fields => UniqueKeys value ∧ UniqueFields fields

end

end Json

def JsonObj.Same (d d' : JsonObj) : Prop := Json.Same (.obj d) (.obj d')

def JsonObj.UniqueKeys (d : JsonObj) : Prop := Json.UniqueKeys (.obj d)

/-! ## Agreement -/

structure TextPart.Same (p p' : TextPart) : Prop where
  text : p.text = p'.text
  cacheControl : Option.Rel JsonObj.Same p.cacheControl p'.cacheControl

def ContentPart.Same : ContentPart → ContentPart → Prop
  | .text p, .text p' => p.Same p'
  | p, p' => p = p'

def Content.Same {P : Type} (part : P → P → Prop) : Content P → Content P → Prop
  | .str s, .str s' => s = s'
  | .parts ps, .parts ps' => List.Forall₂ part ps ps'
  | _, _ => False

/-- The fields a client added that are not `None` are the same. -/
def SameExtra (extra extra' : JsonObj) : Prop := (dumpExtra extra).Same (dumpExtra extra')

structure SystemMessage.Same (m m' : SystemMessage) : Prop where
  content : m.content.Same TextPart.Same m'.content
  name : m.name = m'.name
  extra : SameExtra m.extra m'.extra

structure UserMessage.Same (m m' : UserMessage) : Prop where
  content : m.content.Same ContentPart.Same m'.content
  name : m.name = m'.name
  extra : SameExtra m.extra m'.extra

structure AssistantMessage.Same (m m' : AssistantMessage) : Prop where
  content : Option.Rel (Content.Same TextPart.Same) m.content m'.content
  name : m.name = m'.name
  toolCalls : m.toolCalls = m'.toolCalls
  refusal : m.refusal = m'.refusal
  extra : SameExtra m.extra m'.extra

structure ToolMessage.Same (m m' : ToolMessage) : Prop where
  content : m.content.Same TextPart.Same m'.content
  toolCallId : m.toolCallId = m'.toolCallId
  extra : SameExtra m.extra m'.extra

def Message.Same : Message → Message → Prop
  | .system m, .system m' => m.Same m'
  | .user m, .user m' => m.Same m'
  | .assistant m, .assistant m' => m.Same m'
  | .tool m, .tool m' => m.Same m'
  | _, _ => False

structure ResponseFormat.Same (f f' : ResponseFormat) : Prop where
  type : f.type = f'.type
  jsonSchema : Option.Rel JsonObj.Same f.jsonSchema f'.jsonSchema

def ToolChoice.Same : ToolChoice → ToolChoice → Prop
  | .mode s, .mode s' => s = s'
  | .named choice, .named choice' => choice.Same choice'
  | _, _ => False

/-- The fields a client added to the request, less the null ones and `metadata`. -/
def ChatCompletionRequest.keyedExtra (r : ChatCompletionRequest) : JsonObj :=
  (dumpExtra r.extra).filter (fun p => p.1 ∉ nonSemanticFields)

/-- Two requests agree on every field but the model, `stream`, `stream_options`, `user` and
`metadata`. -/
structure ChatCompletionRequest.SameFields (r r' : ChatCompletionRequest) : Prop where
  messages : List.Forall₂ Message.Same r.messages r'.messages
  frequencyPenalty : r.frequencyPenalty = r'.frequencyPenalty
  logitBias : Option.Rel List.Perm r.logitBias r'.logitBias
  logprobs : r.logprobs = r'.logprobs
  topLogprobs : r.topLogprobs = r'.topLogprobs
  maxTokens : r.maxTokens = r'.maxTokens
  maxCompletionTokens : r.maxCompletionTokens = r'.maxCompletionTokens
  n : r.n = r'.n
  presencePenalty : r.presencePenalty = r'.presencePenalty
  responseFormat : Option.Rel ResponseFormat.Same r.responseFormat r'.responseFormat
  seed : r.seed = r'.seed
  stop : r.stop = r'.stop
  temperature : r.temperature = r'.temperature
  topP : r.topP = r'.topP
  tools : r.tools = r'.tools
  toolChoice : Option.Rel ToolChoice.Same r.toolChoice r'.toolChoice
  parallelToolCalls : r.parallelToolCalls = r'.parallelToolCalls
  reasoningEffort : r.reasoningEffort = r'.reasoningEffort
  extra : r.keyedExtra.Same r'.keyedExtra

/-- `served_model`, else `request.model`. -/
def pinnedModel (r : ChatCompletionRequest) (servedModel : Option String) : String :=
  if servedModel.getD "" = "" then r.model else servedModel.getD ""

/-! ## Decoding -/

def TextPart.Decoded (p : TextPart) : Prop := ∀ d ∈ p.cacheControl, JsonObj.UniqueKeys d

def ContentPart.Decoded : ContentPart → Prop
  | .text p => p.Decoded
  | _ => True

def Content.Decoded {P : Type} (part : P → Prop) : Content P → Prop
  | .str _ => True
  | .parts ps => ∀ p ∈ ps, part p

/-- The added fields are a dictionary without the declared ones. -/
structure DecodedExtra (declared : List String) (extra : JsonObj) : Prop where
  unique : extra.UniqueKeys
  added : ∀ p ∈ extra, p.1 ∉ declared

def Message.Decoded : Message → Prop
  | .system m => m.content.Decoded TextPart.Decoded ∧
      DecodedExtra ["role", "content", "name"] m.extra
  | .user m => m.content.Decoded ContentPart.Decoded ∧
      DecodedExtra ["role", "content", "name"] m.extra
  | .assistant m => (∀ c ∈ m.content, c.Decoded TextPart.Decoded) ∧
      DecodedExtra ["role", "content", "name", "tool_calls", "refusal"] m.extra
  | .tool m => m.content.Decoded TextPart.Decoded ∧
      DecodedExtra ["role", "content", "tool_call_id"] m.extra

def ToolChoice.Decoded : ToolChoice → Prop
  | .mode _ => True
  | .named choice => choice.UniqueKeys

/-- The fields `ChatCompletionRequest` declares. -/
def requestFields : List String :=
  ["model", "messages", "frequency_penalty", "logit_bias", "logprobs", "top_logprobs", "max_tokens",
    "max_completion_tokens", "n", "presence_penalty", "response_format", "seed", "stop", "stream",
    "stream_options", "temperature", "top_p", "tools", "tool_choice", "parallel_tool_calls", "user",
    "reasoning_effort"]

/-- A request as it is decoded. -/
structure DecodedRequest where
  request : ChatCompletionRequest
  messages : ∀ m ∈ request.messages, m.Decoded
  logitBias : ∀ b ∈ request.logitBias, (b.map Prod.fst).Nodup
  responseFormat : ∀ f ∈ request.responseFormat, ∀ d ∈ f.jsonSchema, JsonObj.UniqueKeys d
  toolChoice : ∀ c ∈ request.toolChoice, c.Decoded
  extra : DecodedExtra requestFields request.extra

/-! ## The key as a text -/

/-- The digest of a canonical dictionary; `sha256` is the `hexdigest` of the text of a value, whose
keys are sorted. -/
def sortedDigest (sha256 : Json → String) (canonical : JsonObj) : String :=
  sha256 (Json.sortKeys (.obj canonical))

/-- `f"gateway:cache:v1:{bucket}:{digest}"`. -/
def CacheKey.text (key : CacheKey String) : String :=
  "gateway:cache:v1:" ++ key.bucket ++ ":" ++ key.digest

/-- The text `cache_key_for_request` returns, if it returns one. -/
def cacheKeyText (sha256 : Json → String) (request : ChatCompletionRequest)
    (tenantId : Option String) (servedModel : Option String) : Option String :=
  (cacheKeyForRequest (sortedDigest sha256) request tenantId servedModel).map CacheKey.text

end ModelMeld
