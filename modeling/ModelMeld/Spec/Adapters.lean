import ModelMeld.Spec.Schemas
import ModelMeld.Lib.OrderedDict
import Mathlib.Data.Finset.Basic
import Mathlib.Data.Finset.Insert

/-!
# Provider adapters

What the gateway knows of an adapter: its class, which fixes its name and
whether its traffic leaves the customer's network, the model it is pinned to,
and the credential that tells two instances of one class apart. What an
upstream answers is not part of the adapter: it is an input of the step that
calls it.
-/

namespace ModelMeld

/-- The adapter classes; `custom` is any other implementation of the interface. -/
inductive AdapterClass where
  | openai | vllm | tensorrtLlm | anthropic | fireworks | together | openrouter
  | codexPassthrough | stub
  | custom (name : String) (isEgress : Bool)
deriving DecidableEq, Inhabited

/-- The class attribute `name`. -/
def AdapterClass.name : AdapterClass → String
  | .openai => "openai"
  | .vllm => "vllm"
  | .tensorrtLlm => "tensorrt_llm"
  | .anthropic => "anthropic"
  | .fireworks => "fireworks"
  | .together => "together"
  | .openrouter => "openrouter"
  | .codexPassthrough => "codex_passthrough"
  | .stub => "stub"
  | .custom name _ => name

/-- The class attribute `is_egress`. -/
def AdapterClass.isEgress : AdapterClass → Bool
  | .openai | .anthropic | .fireworks | .together | .openrouter | .codexPassthrough => true
  | .vllm | .tensorrtLlm | .stub => false
  | .custom _ isEgress => isEgress

structure ProviderAdapter where
  cls : AdapterClass
  servedModel : Option String := none
  /-- The key or endpoint the instance was built with. -/
  credential : String := ""
deriving DecidableEq, Inhabited

namespace ProviderAdapter

def name (a : ProviderAdapter) : String := a.cls.name

def isEgress (a : ProviderAdapter) : Bool := a.cls.isEgress

/-- `isinstance(adapter, AnthropicAdapter)`. -/
def isAnthropic (a : ProviderAdapter) : Bool := decide (a.cls = .anthropic)

end ProviderAdapter

inductive AdapterErrorKind where
  | plain | transient | permanent
deriving DecidableEq, Inhabited

/-- `AdapterError` and its two subclasses. -/
structure AdapterError where
  kind : AdapterErrorKind
  message : String
deriving DecidableEq, Inhabited

/-- A map from provider to adapter in which each adapter bears the name it is listed under, as
`build_router` and `build_byok_adapters` make them. -/
structure AdapterMap where
  dict : OrderedDict String ProviderAdapter
  named : ∀ p a, dict.get? p = some a → a.name = p

namespace AdapterMap

def get? (m : AdapterMap) (provider : String) : Option ProviderAdapter := m.dict.get? provider

def keys (m : AdapterMap) : Finset String := m.dict.keys.toFinset

/-- No adapters. -/
def empty : AdapterMap := ⟨.empty, fun _ _ h => nomatch h⟩

/-- The map with one more adapter, under its own name. -/
def add (m : AdapterMap) (a : ProviderAdapter) : AdapterMap :=
  ⟨m.dict.insert a.name a, by
    intro p b h
    rw [OrderedDict.get?_insert] at h
    by_cases hp : p = a.name
    · rw [if_pos hp] at h; cases h; exact hp.symm
    · rw [if_neg hp] at h; exact m.named p b h⟩

/-- The map of a list of adapters. -/
def ofList (as : List ProviderAdapter) : AdapterMap := as.foldl add empty

theorem name_of_get? {m : AdapterMap} {p : String} {a : ProviderAdapter} (h : m.get? p = some a) :
    a.name = p :=
  m.named p a h

end AdapterMap

/-! ## Keys the client brings -/

/-- `_BYOK_ELIGIBLE_PROVIDERS`. -/
def byokEligibleProviders : Finset String := {"anthropic", "openai"}

end ModelMeld
