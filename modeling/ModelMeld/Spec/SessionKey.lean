import ModelMeld.Lib.OrderedDict
import ModelMeld.Spec.FromAnthropic
import ModelMeld.Spec.Policy

/-!
# Session keys

`derive_session_key`: the session a request belongs to, from a header or from
the system text and the first user text of its conversation. `str.lower` and
`hashlib.sha256(text.encode()).hexdigest()` are parameters.
-/

namespace ModelMeld

/-- `_part_text`; `text?` is `getattr(part, "text", None)`. -/
def Content.partText {P : Type} (text? : P → Option String) : Content P → String
  | .str s => s
  | .parts ps => join " " ((ps.filterMap text?).filter (· ≠ ""))

namespace Message

/-- The text of a system message. -/
def systemPart : Message → Option String
  | .system m => some (m.content.partText (fun p => some p.text))
  | _ => none

/-- The text of a user message. -/
def userPart : Message → Option String
  | .user m => some (m.content.partText ContentPart.text?)
  | _ => none

end Message

/-- The loop of `_stable_prefix`: the system text and the first user text. -/
def scanPrefix : String × String → List Message → String × String
  | texts, [] => texts
  | (systemText, userText), m :: rest =>
    let texts := match m.systemPart, m.userPart with
      | some s, _ => (if systemText = "" then s else systemText, userText)
      | none, some u => (systemText, if userText = "" then u else userText)
      | none, none => (systemText, userText)
    if texts.1 ≠ "" ∧ texts.2 ≠ "" then texts else scanPrefix texts rest

/-- `_stable_prefix`. -/
def stablePrefix (request : ChatCompletionRequest) : String :=
  let texts := scanPrefix ("", "") request.messages
  texts.1 ++ "\n" ++ texts.2

/-- `HEADER_SESSION_ID`. -/
def headerSessionId : String := "x-modelmeld-session-id"

/-- `_IMPLICIT_DIGEST_LEN`. -/
def implicitDigestLen : ℕ := 16

/-- What a session key is made with. -/
structure KeyParts where
  lower : String → String
  sha256 : String → String

/-- The session a request names. -/
def explicitSession (parts : KeyParts) (headers : List (String × String)) : String :=
  let lower := OrderedDict.ofPairs (headers.map (fun h => (parts.lower h.1, h.2)))
  strip (lower.getD headerSessionId "")

/-- The digest of a conversation. -/
def implicitDigest (parts : KeyParts) (tenantId : String) (request : ChatCompletionRequest) :
    String :=
  let digest := parts.sha256 (tenantId ++ "\x00" ++ stablePrefix request)
  String.ofList (digest.toList.take implicitDigestLen)

/-- `derive_session_key`. -/
def deriveSessionKey (parts : KeyParts) (headers : List (String × String))
    (request : ChatCompletionRequest) (tenantId : String) : String :=
  let explicit := explicitSession parts headers
  if explicit ≠ "" then tenantId ++ ":sid:" ++ explicit
  else tenantId ++ ":impl:" ++ implicitDigest parts tenantId request

end ModelMeld
