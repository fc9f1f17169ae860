import ModelMeld.Spec.Schemas

/-!
# The scrubber

`RegexScrubber` over its table of patterns. A pattern is what `re` makes of it:
the text with every match replaced, and the number of matches.
-/

namespace ModelMeld

/-- One PII match: type and count. -/
structure Redaction where
  label : String
  count : ℕ
deriving DecidableEq

/-- A compiled pattern. -/
structure Pattern where
  /-- `pattern.sub(replacement, text)`. -/
  sub : String → String → String
  /-- `len(pattern.findall(text))`. -/
  findall : String → ℕ

/-- `_MAX_SCRUB_LENGTH`. -/
def maxScrubLength : ℕ := 256 * 1024

/-- `RegexScrubber`: labels and patterns, in order. -/
structure RegexScrubber where
  patterns : List (String × Pattern)

namespace RegexScrubber

/-- `_redact_label`. -/
def redactLabel (label : String) : String := "<REDACTED:" ++ label ++ ">"

/-- All patterns, one after the other. -/
def subAll (s : RegexScrubber) (text : String) : String :=
  s.patterns.foldl (fun text p => p.2.sub (redactLabel p.1) text) text

/-- `scrub_text`: past the length bound only the head is scrubbed. -/
def scrubText (s : RegexScrubber) (text : String) : String :=
  if maxScrubLength < text.length then
    s.subAll (String.ofList (text.toList.take maxScrubLength)) ++
      String.ofList (text.toList.drop maxScrubLength)
  else s.subAll text

/-- `_count`. -/
def count (s : RegexScrubber) (text : String) : List Redaction :=
  let text := if maxScrubLength < text.length then
    String.ofList (text.toList.take maxScrubLength) else text
  (s.patterns.map (fun p => (⟨p.1, p.2.findall text⟩ : Redaction))).filter (fun r => r.count ≠ 0)

/-- `_scrub_part` of a text part: the copy has no `cache_control`. -/
def scrubTextPart (s : RegexScrubber) (part : TextPart) : TextPart :=
  { text := s.scrubText part.text }

/-- `_scrub_part`. -/
def scrubPart (s : RegexScrubber) : ContentPart → ContentPart
  | .text part => .text (s.scrubTextPart part)
  | .image url => .image url
  | .audio input => .audio input

/-- `_scrub_str_or_parts`. -/
def scrubStrOrParts (s : RegexScrubber) : Content TextPart → Content TextPart
  | .str text => .str (s.scrubText text)
  | .parts ps => .parts (ps.map s.scrubTextPart)

/-- `_scrub_tool_call`. -/
def scrubToolCall (s : RegexScrubber) (call : ToolCall) : ToolCall :=
  { id := call.id
    function :=
      { name := call.function.name
        arguments := s.scrubText call.function.arguments } }

/-- `_scrub_message`: a message is built anew, without the fields a client added. -/
def scrubMessage (s : RegexScrubber) : Message → Message
  | .system m => .system { content := s.scrubStrOrParts m.content, name := m.name }
  | .user m => .user
      { content := match m.content with
          | .str text => .str (s.scrubText text)
          | .parts ps => .parts (ps.map s.scrubPart)
        name := m.name }
  | .assistant m => .assistant
      { content := m.content.map s.scrubStrOrParts
        name := m.name
        toolCalls := match m.toolCalls with
          | none => none
          | some [] => none
          | some calls => some (calls.map s.scrubToolCall)
        refusal := match m.refusal with
          | none => none
          | some text => if text = "" then none else some (s.scrubText text) }
  | .tool m => .tool { content := s.scrubStrOrParts m.content, toolCallId := m.toolCallId }

/-- The texts `_collect_text` takes from one message. -/
def messageTexts : Message → List String
  | .assistant m =>
    (match m.content with
      | none => []
      | some (.str text) => [text]
      | some (.parts ps) => ps.map TextPart.text) ++
    (match m.refusal with
      | none => []
      | some text => if text = "" then [] else [text]) ++
    (match m.toolCalls with
      | none => []
      | some calls => calls.map (fun call => call.function.arguments))
  | .system m => match m.content with
    | .str text => [text]
    | .parts ps => ps.map TextPart.text
  | .user m => match m.content with
    | .str text => [text]
    | .parts ps => ps.filterMap (fun part => match part with
      | .text part => some part.text
      | _ => none)
  | .tool m => match m.content with
    | .str text => [text]
    | .parts ps => ps.map TextPart.text

/-- `_collect_text`. -/
def collectText (request : ChatCompletionRequest) : String :=
  join "\n" (request.messages.flatMap messageTexts)

/-- `scrub_request`. -/
def scrubRequest (s : RegexScrubber) (request : ChatCompletionRequest) :
    ChatCompletionRequest × List Redaction :=
  (request.withMessages (request.messages.map s.scrubMessage), s.count (collectText request))

end RegexScrubber

end ModelMeld
