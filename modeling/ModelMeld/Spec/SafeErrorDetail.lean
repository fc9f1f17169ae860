import ModelMeld.Lib.Regex

/-!
# Error details

`redact_sensitive`, through which the Messages handler puts the text of an upstream error before it
logs it, `safe_error_detail`, through which every handler puts it before a client is sent it, and the
details of the 502 answers. What a retry logs goes through neither. The patterns have no word
boundaries and no Unicode classes.
-/

namespace ModelMeld

open Regex Regex.Expr

namespace SafeErrorDetail

/-- `[A-Za-z0-9_\-]` -/
def keyChar (c : Char) : Bool := c.isAlphanum || c == '_' || c == '-'

/-- `sk-ant-[A-Za-z0-9_\-]{20,}` -/
def anthropicKey : Expr := lit ['s', 'k', '-', 'a', 'n', 't', '-'] (run keyChar 20)

/-- `sk-proj-[A-Za-z0-9_\-]{40,}` -/
def openaiProjectKey : Expr := lit ['s', 'k', '-', 'p', 'r', 'o', 'j', '-'] (run keyChar 40)

/-- `sk-svcacct-[A-Za-z0-9_\-]{40,}` -/
def openaiServiceKey : Expr :=
  lit ['s', 'k', '-', 's', 'v', 'c', 'a', 'c', 'c', 't', '-'] (run keyChar 40)

/-- `sk-[A-Za-z0-9_\-]{40,}` -/
def openaiKey : Expr := lit ['s', 'k', '-'] (run keyChar 40)

/-- `gws_[A-Za-z0-9_\-]{20,}` -/
def modelmeldKey : Expr := lit ['g', 'w', 's', '_'] (run keyChar 20)

/-- `AKIA[0-9A-Z]{16}` -/
def awsKey : Expr :=
  lit ['A', 'K', 'I', 'A'] (times (cls (fun c => c.isDigit || c.isUpper)) 16)

/-- `ghp_[A-Za-z0-9]{36}` -/
def githubPat : Expr := lit ['g', 'h', 'p', '_'] (times (cls Char.isAlphanum) 36)

/-- `github_pat_[A-Za-z0-9_]{20,}` -/
def githubFineGrainedPat : Expr :=
  lit ['g', 'i', 't', 'h', 'u', 'b', '_', 'p', 'a', 't', '_']
    (run (fun c => c.isAlphanum || c == '_') 20)

/-- `_SENSITIVE_PATTERNS`. -/
def sensitivePatterns : List Expr :=
  [anthropicKey, openaiProjectKey, openaiServiceKey, openaiKey, modelmeldKey, awsKey, githubPat,
    githubFineGrainedPat]

/-- `_MAX_DETAIL_LEN`. -/
def maxDetailLen : ℕ := 240

/-- `\b` is in no pattern, so any class of word characters does. -/
def isWord (c : Char) : Bool := c.isAlphanum || c == '_'

/-- `pattern.sub("[REDACTED]", text)`. -/
def redact (text : String) (pattern : Expr) : String :=
  String.ofList (Regex.sub isWord pattern "[REDACTED]".toList text.toList)

end SafeErrorDetail

open SafeErrorDetail

/-- `redact_sensitive`. -/
def redactSensitive (text : String) : String := sensitivePatterns.foldl redact text

/-- `safe_error_detail`; the error is given as its text, if there is an error. -/
def safeErrorDetail (error : Option String) (default : String := "upstream error") : String :=
  let text := error.getD ""
  if text = "" then default
  else
    let text := redactSensitive text
    if text.length > maxDetailLen then
      String.ofList (text.toList.take (maxDetailLen - 16)) ++ "...[truncated]"
    else text

/-- The detail of the 502 answer when the fallback fails as well. -/
def failoverDetail (primary secondary : String) : String :=
  "primary failed: " ++ safeErrorDetail (some primary) ++ "; " ++
    "fallback failed: " ++ safeErrorDetail (some secondary)

end ModelMeld
