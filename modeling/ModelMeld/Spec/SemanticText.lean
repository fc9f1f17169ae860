import ModelMeld.Spec.Cache
import ModelMeld.Spec.Policy

/-!
# The text of a request

`canonicalize_request_text`, the key of the semantic cache: two requests of one
tenant and one served model with one text have similarity 1 in any backend.
-/

namespace ModelMeld

/-- `str` of a `float`, and of a `ResponseFormat`. -/
structure ValueText where
  float : ℚ → String
  responseFormat : ResponseFormat → String

/-- `_text_of` a user message. -/
def userText : Content ContentPart → String
  | .str s => s
  | .parts ps => join " " (ps.filterMap ContentPart.text?)

/-- `_text_of` a message whose parts are all text. -/
def plainText : Content TextPart → String
  | .str s => s
  | .parts ps => join " " (ps.map TextPart.text)

/-- The line of a message; assistant messages have none. -/
def Message.line : Message → Option String
  | .system m => some ("[system] " ++ plainText m.content)
  | .user m => some ("[user] " ++ userText m.content)
  | .tool m => some ("[tool] " ++ plainText m.content)
  | .assistant _ => none

/-- The hyperparameters that go into the text, by their names, each with its `str`. -/
def hyperparameters (t : ValueText) (r : ChatCompletionRequest) : List (String × Option String) :=
  [("temperature", r.temperature.map t.float), ("top_p", r.topP.map t.float),
    ("max_completion_tokens", r.maxCompletionTokens.map toString),
    ("max_tokens", r.maxTokens.map toString),
    ("response_format", r.responseFormat.map t.responseFormat), ("seed", r.seed.map toString)]

/-- `f"{field}={value}"`, unless the value is `None`. -/
def hyperparameterLine (p : String × Option String) : Option String :=
  p.2.map (fun value => p.1 ++ "=" ++ value)

/-- The parts that `canonicalize_request_text` joins. -/
def textLines (t : ValueText) (r : ChatCompletionRequest) (servedModel : Option String) :
    List String :=
  (if servedModel.getD "" = "" then [] else ["model=" ++ servedModel.getD ""]) ++
    r.messages.filterMap Message.line ++ (hyperparameters t r).filterMap hyperparameterLine

/-- `canonicalize_request_text`. -/
def canonicalizeRequestText (t : ValueText) (r : ChatCompletionRequest)
    (servedModel : Option String) : String :=
  join "\n" (textLines t r servedModel)

end ModelMeld
