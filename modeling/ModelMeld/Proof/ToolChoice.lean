import ModelMeld.Proof.Inbound
import ModelMeld.Spec.AnthropicParams

/-!
# What the model may call

A tool list and a tool choice let the model call some tools, and may force it to
call one of them. `ToolPermission` says so in one vocabulary for the clients of
both surfaces and for the parameters Anthropic is called with. The translators
agree on it except where they lose the choice (`none`, which leaves the tools
callable, the flat named choice of the Responses surface, which is read as
`auto`, a named tool without a name) or a tool (any of the Responses surface
that is not a function with a name): `tool_choice_preserved_iff`.
-/

namespace ModelMeld

open Checked

/-! ## Permissions -/

/-- A tool a client allows: a function, by its name, or anything else, as it was sent. -/
inductive ClientTool where
  | function (name : String)
  | other (tool : JsonObj)
deriving DecidableEq

/-- The tools the model may call, and whether it has to call one. -/
structure ToolPermission where
  callable : List ClientTool
  forced : Bool
deriving DecidableEq

namespace ToolPermission

def free (tools : List ClientTool) : ToolPermission := ⟨tools, false⟩

/-- Some tool, whichever. -/
def oneOf (tools : List ClientTool) : ToolPermission := ⟨tools, true⟩

def nothing : ToolPermission := ⟨[], false⟩

/-- Only the function of that name, and that one for certain. -/
def only (tools : List ClientTool) (name : String) : ToolPermission :=
  ⟨tools.filter (· = .function name), true⟩

end ToolPermission

/-- The names of the tools of a Messages body. -/
def AnthropicMessagesRequest.toolNames (req : AnthropicMessagesRequest) : List String :=
  (req.tools.getD []).map AnthropicToolDef.name

/-- Functions of some names. -/
def functions (names : List String) : List ClientTool := names.map .function

/-- What a client of the Messages surface allows. -/
def AnthropicMessagesRequest.permission (req : AnthropicMessagesRequest) : ToolPermission :=
  match req.toolChoice with
  | none => .free (functions req.toolNames)
  | some (.auto _) => .free (functions req.toolNames)
  | some (.any _) => .oneOf (functions req.toolNames)
  | some (.tool name _) => .only (functions req.toolNames) name
  | some .none => .nothing

/-- The name a tool of a Responses body is called by: function tools with a name have one. -/
def functionToolName (tool : JsonObj) : Option String :=
  if tool.get? "type" = some (.str "function") then
    let holder := match tool.get? "function" with
      | some (.obj (field :: fields)) => field :: fields
      | _ => tool
    match holder.lookup "name" with
    | some (.str name) => if name = "" then none else some name
    | _ => none
  else none

/-- The choices of the Responses surface. -/
inductive ResponsesToolChoice where
  | auto
  | required
  | none
  | function (name : String)
deriving DecidableEq

/-- A choice as it is written in the body. -/
def ResponsesToolChoice.wire : ResponsesToolChoice → ToolChoice
  | .auto => .mode "auto"
  | .required => .mode "required"
  | .none => .mode "none"
  | .function name => .named [("type", .str "function"), ("name", .str name)]

/-- The names of the function tools of a Responses body. -/
def ResponsesRequest.toolNames (req : ResponsesRequest) : List String :=
  (req.tools.getD []).filterMap functionToolName

/-- All tools of a Responses body. -/
def ResponsesRequest.clientTools (req : ResponsesRequest) : List ClientTool :=
  (req.tools.getD []).map (fun tool => (functionToolName tool).elim (.other tool) .function)

/-- What a client of the Responses surface allows by a choice. -/
def ResponsesRequest.permission (req : ResponsesRequest) :
    Option ResponsesToolChoice → ToolPermission
  | none => .free req.clientTools
  | some .auto => .free req.clientTools
  | some .required => .oneOf req.clientTools
  | some .none => .nothing
  | some (.function name) => .only req.clientTools name

/-- What the parameters let the model do. -/
def AnthropicParams.permission (p : AnthropicParams) : ToolPermission :=
  let tools := functions ((p.tools.getD []).map ParamTool.name)
  match p.toolChoice with
  | none => .free tools
  | some .auto => .free tools
  | some .any => .oneOf tools
  | some (.tool (.str name)) => .only tools name
  | some (.tool _) => .oneOf []

/-! ## The way out -/

variable {t : PythonText} {v : BodyValues}

/-- The names of the tools of an internal request. -/
def ChatCompletionRequest.toolNames (chat : ChatCompletionRequest) : List String :=
  (chat.tools.getD []).map (fun tool => tool.function.name)

/-- The parameters have the tools of the request, and its choice in the vendor's words. -/
theorem toAnthropicParams_tools {chat : ChatCompletionRequest} {p : AnthropicParams}
    (h : toAnthropicParams t chat = .ok p) :
    (p.tools.getD []).map ParamTool.name = chat.toolNames ∧
      match chat.toolChoice with
      | none => p.toolChoice = none
      | some choice => translateToolChoice choice = .ok p.toolChoice := by
  simp only [toAnthropicParams, bind_eq_ok, pure_eq_ok] at h
  obtain ⟨split, -, choice, hchoice, rfl⟩ := h
  constructor
  · unfold ChatCompletionRequest.toolNames
    rcases chat.tools with - | - | ⟨tool, tools⟩
    · rfl
    · rfl
    · simp [translateToolDef]
  · cases htc : chat.toolChoice with
    | none =>
      rw [htc] at hchoice
      exact (Except.ok.inj hchoice).symm
    | some c =>
      rw [htc] at hchoice
      exact mapError_eq_ok.mp hchoice

/-! ## Messages -/

theorem inbound_toolNames (req : AnthropicMessagesRequest) :
    (inbound t req).toolNames = req.toolNames := by
  unfold ChatCompletionRequest.toolNames AnthropicMessagesRequest.toolNames inbound
  rcases req.tools with - | - | ⟨tool, tools⟩
  · rfl
  · rfl
  · simp [anthropicToolDefToOpenai]

/-- The named choice of the Messages surface keeps its name unless that is empty. -/
theorem translateToolChoice_named (name : String) (parallel : Option Bool) :
    translateToolChoice (anthropicToolChoiceToOpenai (.tool name parallel)) =
      .ok (some (if name = "" then .auto else .tool (.str name))) := by
  by_cases hname : name = ""
  · subst hname
    rfl
  · have htruthy : (Json.str name).truthy = true := by simp [Json.truthy, hname]
    simp [anthropicToolChoiceToOpenai, translateToolChoice, JsonObj.getD, JsonObj.get?,
      Json.asDict, hname, htruthy, List.lookup_cons, bind, Except.bind, pure, Except.pure]

/-- Where the Messages surface keeps the choice: not for `none` with tools, nor for an empty name. -/
def AnthropicMessagesRequest.ChoiceKept (req : AnthropicMessagesRequest) : Prop :=
  match req.toolChoice with
  | some .none => req.toolNames = []
  | some (.tool name _) => name ≠ ""
  | _ => True

theorem messages_permission_iff {req : AnthropicMessagesRequest} {chat : ChatCompletionRequest}
    {p : AnthropicParams} (hin : fromAnthropicRequest t req = .ok chat)
    (hout : toAnthropicParams t chat = .ok p) :
    p.permission = req.permission ↔ req.ChoiceKept := by
  obtain rfl := fromAnthropicRequest_ok hin
  obtain ⟨hnames, hchoice⟩ := toAnthropicParams_tools hout
  rw [inbound_toolNames] at hnames
  have hmap : (inbound t req).toolChoice = req.toolChoice.map anthropicToolChoiceToOpenai := rfl
  rw [hmap] at hchoice
  unfold AnthropicParams.permission AnthropicMessagesRequest.permission
    AnthropicMessagesRequest.ChoiceKept
  rw [hnames]
  cases htc : req.toolChoice with
  | none =>
    rw [htc] at hchoice
    have hp : p.toolChoice = none := hchoice
    simp [hp]
  | some choice =>
    rw [htc] at hchoice
    cases choice with
    | auto parallel =>
      have hp : some ParamToolChoice.auto = p.toolChoice := Except.ok.inj hchoice
      simp [← hp]
    | any parallel =>
      have hp : some ParamToolChoice.any = p.toolChoice := Except.ok.inj hchoice
      simp [← hp]
    | none =>
      have hp : none = p.toolChoice := Except.ok.inj hchoice
      simp [← hp, ToolPermission.free, ToolPermission.nothing, functions]
    | tool name parallel =>
      have hp := Except.ok.inj ((translateToolChoice_named name parallel).symm.trans hchoice)
      by_cases hname : name = ""
      · simp [← hp, hname, ToolPermission.free, ToolPermission.only]
      · simp [← hp, hname]

/-! ## Responses -/

/-- The dict a tool is described in: under `function`, or the tool itself. -/
theorem functionToolName_of_type {tool : JsonObj}
    (htype : tool.getD "type" .null = .str "function") {fn : JsonObj}
    (hfn : (if (tool.getD "function" .null).truthy then tool.getD "function" .null
      else .obj tool).asDict = .ok fn) :
    functionToolName tool = match fn.lookup "name" with
      | some (.str name) => if name = "" then none else some name
      | _ => none := by
  have htype' : tool.get? "type" = some (.str "function") := by
    unfold JsonObj.getD at htype
    cases hget : tool.get? "type" with
    | none => simp [hget] at htype
    | some value => simpa [hget] using htype
  have hholder : (match tool.get? "function" with
      | some (.obj (field :: fields)) => field :: fields
      | _ => tool) = fn := by
    unfold JsonObj.getD at hfn
    cases hget : tool.get? "function" with
    | none => simpa [hget, Json.truthy, Json.asDict] using hfn
    | some value =>
      cases value with
      | obj fields =>
        cases fields with
        | nil => simpa [hget, Json.truthy, Json.asDict] using hfn
        | cons field fields => simpa [hget, Json.truthy, Json.asDict] using hfn
      | _ =>
        rw [hget] at hfn
        simp only [Option.getD_some] at hfn
        split_ifs at hfn <;> simp_all [Json.asDict]
  unfold functionToolName
  rw [if_pos htype']
  simp only [hholder]

theorem chatTools_names {tools : List JsonObj} {out : List Tool} (h : chatTools v tools = .ok out) :
    out.map (fun tool => tool.function.name) = tools.filterMap functionToolName := by
  induction tools generalizing out with
  | nil =>
    obtain rfl := Except.ok.inj h
    rfl
  | cons tool rest ih =>
    unfold chatTools at h
    by_cases htype : tool.getD "type" .null = .str "function"
    · rw [if_neg (not_not_intro htype)] at h
      simp only [bind_eq_ok] at h
      obtain ⟨fn, hfn, h⟩ := h
      have hname := functionToolName_of_type htype hfn
      by_cases htruthy : (fn.getD "name" .null).truthy = false
      · rw [if_pos htruthy] at h
        have hnone : functionToolName tool = none := by
          rw [hname]
          unfold JsonObj.getD JsonObj.get? at htruthy
          cases hget : fn.lookup "name" with
          | none => rfl
          | some value =>
            cases value with
            | str name => simpa [hget, Json.truthy] using htruthy
            | _ => rfl
        rw [List.filterMap_cons, hnone]
        exact ih h
      · rw [if_neg htruthy] at h
        simp only [bind_eq_ok, pure_eq_ok] at h
        obtain ⟨name, hstr, description, -, parameters, -, strict, -, tools', htools, rfl⟩ := h
        have hsome : functionToolName tool = some name := by
          rw [hname]
          unfold JsonObj.getD JsonObj.get? at htruthy hstr
          cases hget : fn.lookup "name" with
          | none => simp [hget, Json.truthy] at htruthy
          | some value =>
            cases value with
            | str s =>
              have hs : s = name := by simpa [hget, Json.asStr] using hstr
              have hne : s ≠ "" := by simpa [hget, Json.truthy] using htruthy
              simp [hs ▸ hne, hs]
            | _ => simp [hget, Json.asStr] at hstr
        rw [List.filterMap_cons, hsome]
        simp [ih htools]
    · rw [if_pos htype] at h
      have hnone : functionToolName tool = none := by
        unfold functionToolName
        rw [if_neg]
        intro hget
        simp [JsonObj.getD, hget] at htype
      rw [List.filterMap_cons, hnone]
      exact ih h

theorem fromResponsesRequest_tools {req : ResponsesRequest} {chat : ChatCompletionRequest}
    (h : fromResponsesRequest v req = .ok chat) :
    chat.toolNames = req.toolNames ∧ chat.toolChoice = req.toolChoice := by
  simp only [fromResponsesRequest, toChatTools, bind_eq_ok, pure_eq_ok] at h
  obtain ⟨body, -, tools, ⟨out, hout, rfl⟩, rfl⟩ := h
  refine ⟨?_, rfl⟩
  have hnames := chatTools_names hout
  unfold ChatCompletionRequest.toolNames ResponsesRequest.toolNames
  rw [← hnames]
  by_cases hnil : out = []
  · simp [hnil]
  · simp [hnil]

/-- Where the Responses surface keeps what is allowed: without `none`, all tools are functions with
names; with it there is none of these; and never for a named tool. -/
def ResponsesRequest.ChoiceKept (req : ResponsesRequest) : Option ResponsesToolChoice → Prop
  | some .none => req.toolNames = []
  | some (.function _) => False
  | _ => ∀ tool ∈ req.tools.getD [], (functionToolName tool).isSome = true

/-- The functions are all tools exactly when each tool is a function with a name. -/
theorem functions_eq_iff (req : ResponsesRequest) :
    functions req.toolNames = req.clientTools ↔
      ∀ tool ∈ req.tools.getD [], (functionToolName tool).isSome = true := by
  unfold functions ResponsesRequest.toolNames ResponsesRequest.clientTools
  generalize req.tools.getD [] = tools
  induction tools with
  | nil => simp
  | cons tool tools ih =>
    cases hname : functionToolName tool with
    | some name => simp [hname, ih]
    | none =>
      -- the lists have different lengths
      have hle := List.length_filterMap_le functionToolName tools
      have hne : ((tool :: tools).filterMap functionToolName).map ClientTool.function ≠
          (tool :: tools).map (fun tool =>
            (functionToolName tool).elim (ClientTool.other tool) .function) := by
        intro heq
        have hlengths := congrArg List.length heq
        rw [List.filterMap_cons, hname] at hlengths
        simp only [List.length_map, List.length_cons] at hlengths
        omega
      refine iff_of_false hne (fun h => ?_)
      have hsome := h tool List.mem_cons_self
      rw [hname] at hsome
      cases hsome

theorem responses_permission_iff {req : ResponsesRequest} {choice : Option ResponsesToolChoice}
    {chat : ChatCompletionRequest} {p : AnthropicParams}
    (hwire : req.toolChoice = choice.map ResponsesToolChoice.wire)
    (hin : fromResponsesRequest v req = .ok chat) (hout : toAnthropicParams t chat = .ok p) :
    p.permission = req.permission choice ↔ req.ChoiceKept choice := by
  obtain ⟨hnames, hchoice⟩ := toAnthropicParams_tools hout
  obtain ⟨hreq, hsame⟩ := fromResponsesRequest_tools hin
  rw [hreq] at hnames
  rw [hsame, hwire] at hchoice
  unfold AnthropicParams.permission ResponsesRequest.permission ResponsesRequest.ChoiceKept
  rw [hnames]
  have hall := functions_eq_iff req
  cases choice with
  | none =>
    have hp : p.toolChoice = none := hchoice
    simpa [hp, ToolPermission.free] using hall
  | some choice =>
    cases choice with
    | auto =>
      have hp : some ParamToolChoice.auto = p.toolChoice := Except.ok.inj hchoice
      simpa [← hp, ToolPermission.free] using hall
    | required =>
      have hp : some ParamToolChoice.any = p.toolChoice := Except.ok.inj hchoice
      simpa [← hp, ToolPermission.oneOf] using hall
    | none =>
      have hp : none = p.toolChoice := Except.ok.inj hchoice
      simp [← hp, ToolPermission.free, ToolPermission.nothing, functions]
    | function name =>
      -- the flat form has no `function` field to find the name in
      have hauto : translateToolChoice (ResponsesToolChoice.function name).wire =
          .ok (some .auto) := rfl
      have hp := Except.ok.inj (hauto.symm.trans hchoice)
      simp [← hp, ToolPermission.free, ToolPermission.only]

/-! ## Both surfaces -/

/-- **The parameters let the model call exactly what the client allowed exactly when the translators
lose neither the choice nor a tool.** -/
theorem tool_choice_preserved_iff (t : PythonText) (v : BodyValues) :
    (∀ req chat p, fromAnthropicRequest t req = .ok chat → toAnthropicParams t chat = .ok p →
      (p.permission = req.permission ↔ req.ChoiceKept)) ∧
    (∀ (req : ResponsesRequest) choice chat p,
      req.toolChoice = choice.map ResponsesToolChoice.wire →
      fromResponsesRequest v req = .ok chat → toAnthropicParams t chat = .ok p →
      (p.permission = req.permission choice ↔ req.ChoiceKept choice)) := by
  refine ⟨fun req chat p hin hout => messages_permission_iff hin hout, ?_⟩
  intro req choice chat p hwire hin hout
  exact responses_permission_iff hwire hin hout

def weatherTool : AnthropicToolDef where
  name := "weather"

def timeTool : AnthropicToolDef where
  name := "time"

/-- A client that asks for one of its two tools. -/
def asking : AnthropicMessagesRequest where
  model := "claude"
  maxTokens := 100
  messages := [{ role := .user, content := .str "Weather?" }]
  tools := some [weatherTool, timeTool]
  toolChoice := some (.tool "weather" none)

theorem tool_choice_preserved_asking :
    ∃ chat p, fromAnthropicRequest weatherTexts asking = .ok chat ∧
      toAnthropicParams weatherTexts chat = .ok p ∧ p.permission = asking.permission := by
  have hin : fromAnthropicRequest weatherTexts asking = .ok _ := rfl
  have hout : toAnthropicParams weatherTexts (inbound weatherTexts asking) = .ok _ := rfl
  refine ⟨_, _, hin, hout, ?_⟩
  apply ((tool_choice_preserved_iff weatherTexts plainValues).1 asking _ _ hin hout).mpr
  change "weather" ≠ ""
  decide

/-- A client that has a tool and forbids its use. -/
def forbidding : AnthropicMessagesRequest where
  model := "claude"
  maxTokens := 100
  messages := [{ role := .user, content := .str "Weather?" }]
  tools := some [weatherTool]
  toolChoice := some .none

/-- A client of the Responses surface that asks for one of its two tools. -/
def naming : ResponsesRequest where
  model := "gpt"
  input := .str "Weather?"
  tools := some [[("type", .str "function"), ("name", .str "weather")],
    [("type", .str "function"), ("name", .str "time")]]
  toolChoice := some (ResponsesToolChoice.function "weather").wire

/-- A client of the Responses surface that has no function among its tools, and wants one used. -/
def patching : ResponsesRequest where
  model := "gpt"
  input := .str "Weather?"
  tools := some [[("type", .str "custom"), ("name", .str "apply_patch")],
    [("type", .str "web_search")]]
  toolChoice := some ResponsesToolChoice.required.wire

theorem tool_choice_lost :
    (∃ chat p, fromAnthropicRequest weatherTexts forbidding = .ok chat ∧
      toAnthropicParams weatherTexts chat = .ok p ∧
      forbidding.permission = ⟨[], false⟩ ∧ p.permission = ⟨[.function "weather"], false⟩) ∧
    (∃ chat p, fromResponsesRequest plainValues naming = .ok chat ∧
      toAnthropicParams weatherTexts chat = .ok p ∧
      naming.permission (some (.function "weather")) = ⟨[.function "weather"], true⟩ ∧
      p.permission = ⟨[.function "weather", .function "time"], false⟩) ∧
    (∃ chat p, fromResponsesRequest plainValues patching = .ok chat ∧
      toAnthropicParams weatherTexts chat = .ok p ∧
      patching.permission (some .required) =
        ⟨[.other [("type", .str "custom"), ("name", .str "apply_patch")],
          .other [("type", .str "web_search")]], true⟩ ∧
      p.permission = ⟨[], true⟩) :=
  ⟨⟨_, _, rfl, rfl, rfl, rfl⟩, ⟨_, _, rfl, rfl, by decide, rfl⟩, ⟨_, _, rfl, rfl, rfl, rfl⟩⟩

end ModelMeld
