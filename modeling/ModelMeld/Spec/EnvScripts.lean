import ModelMeld.Lib.Shell
import ModelMeld.Spec.Python

/-!
# The env scripts of the setup wizard

The texts that `modelmeld setup` writes to be sourced: the one for Claude Code
and the one for a self-hosted gateway. Values are put into the lines as they
are, outside quotes but for the BYOK header.
-/

namespace ModelMeld

/-! ## Inputs and files -/

/-- `_normalize`. -/
def normalize (value : Option String) : String :=
  match value with
  | none => ""
  | some value => String.ofList
      (((strip value).toList.filter (· ≠ '\r')).filter (· ≠ '\n'))

/-- A value that is not empty. -/
def truthyText (value : Option String) : Option String := value.filter (· ≠ "")

/-- `_arg_value`. -/
def argValue (raw : Option String) : Option String :=
  (truthyText raw).bind (fun raw => truthyText (some (normalize (some raw))))

/-- `replace("\r\n", "\n")`. -/
def crlfToLf : List Char → List Char
  | [] => []
  | [c] => [c]
  | c :: c' :: rest =>
    if c = '\r' ∧ c' = '\n' then '\n' :: crlfToLf rest else c :: crlfToLf (c' :: rest)

/-- What `_atomic_write_text` writes. -/
def writtenText (content : String) : List Char := (crlfToLf content.toList).filter (· ≠ '\r')

/-! ## Claude Code -/

/-- The lines of the BYOK header. -/
def headerParts (byokAnthropic byokOpenai : Option String) : List String :=
  ((truthyText byokAnthropic).map ("x-modelmeld-byok-anthropic: " ++ ·)).toList ++
    ((truthyText byokOpenai).map ("x-modelmeld-byok-openai: " ++ ·)).toList

/-- `_write_claude_code_env_script`: the script it writes to `target`. -/
def claudeCodeEnvScript (target baseUrl apiKey : String)
    (byokAnthropic byokOpenai : Option String) : List Char :=
  let lines := [
    "#!/bin/bash",
    "# ModelMeld + Claude Code setup. Source this from your shell:",
    "#   source " ++ target,
    "",
    "export ANTHROPIC_BASE_URL=" ++ baseUrl,
    "export ANTHROPIC_API_KEY=" ++ apiKey,
    "export CLAUDE_CODE_ENABLE_GATEWAY_MODEL_DISCOVERY=1",
    "unset ANTHROPIC_AUTH_TOKEN  # avoid 'auth conflict' warning"]
  let parts := headerParts byokAnthropic byokOpenai
  let lines := lines ++ (if parts = [] then [] else
    ["export ANTHROPIC_CUSTOM_HEADERS=\"" ++ join "\\n" parts ++ "\""])
  writtenText (join "\n" lines ++ "\n")

/-! ## The self-hosted gateway -/

/-- `if value: env[key] = value`. -/
def envEntry (key : String) (value : Option String) : List (String × String) :=
  ((truthyText value).map (fun value => (key, value))).toList

/-- `_self_host_gateway_env_vars`: the entries in their order, all of different keys. -/
def selfHostGatewayEnvVars (openrouterKey fireworksKey togetherKey vllmEndpoint anthropicKey
    openaiKey : Option String) : List (String × String) :=
  [("MODELMELD_ROUTING_POLICY", "capability")] ++
    envEntry "MODELMELD_OPENROUTER_API_KEY" openrouterKey ++
    envEntry "MODELMELD_FIREWORKS_API_KEY" fireworksKey ++
    envEntry "MODELMELD_TOGETHER_API_KEY" togetherKey ++
    envEntry "MODELMELD_VLLM_ENDPOINT" vllmEndpoint ++
    envEntry "MODELMELD_ANTHROPIC_API_KEY" anthropicKey ++
    envEntry "MODELMELD_OPENAI_API_KEY" openaiKey

/-- `base_url.rsplit(":", 1)[-1]`, when there is a port. -/
def gatewayPort (baseUrl : String) : String :=
  if 2 ≤ baseUrl.toList.count ':' then
    String.ofList ((baseUrl.toList.reverse.takeWhile (· ≠ ':')).reverse)
  else "8080"

/-- `_write_self_host_gateway_env`: the script it writes to `target`; `none` without a policy. -/
def selfHostGatewayEnv (target : String) (envVars : List (String × String)) (baseUrl : String) :
    Option (List Char) := do
  let policy ← envVars.lookup "MODELMELD_ROUTING_POLICY"
  let others := envVars.filter (fun kv => kv.1 ≠ "MODELMELD_ROUTING_POLICY")
  let lines := [
    "#!/bin/bash",
    "# ModelMeld self-host GATEWAY config. Source this, then launch the",
    "# gateway in the same shell:",
    "#   source " ++ target,
    "#   uvicorn modelmeld.api.server:app --host 0.0.0.0 --port " ++ gatewayPort baseUrl,
    "",
    "# Capability routing: the scout picks the cheapest model meeting the",
    "# quality bar per request. WITHOUT this line the gateway falls back",
    "# to a no-op stub and every request returns a canned reply.",
    "export MODELMELD_ROUTING_POLICY=" ++ policy] ++
    others.map (fun kv => "export " ++ kv.1 ++ "=" ++ kv.2)
  return writtenText (join "\n" lines ++ "\n")

end ModelMeld
