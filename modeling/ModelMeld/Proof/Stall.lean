import ModelMeld.Proof.Inbound
import ModelMeld.Spec.Stall

/-!
# The stall detector on both surfaces

* `stall_signals_agree`: without the error flags, the native body and the internal request it is
  translated to give one decision. What the detector reads is the list of the assistant's turns,
  and the translation keeps it.
* `detect_stall_returns_iff`: with the thresholds of the environment, the detector returns a
  decision iff the repeat threshold is not set to zero or less, or the last turn of the assistant
  uses a tool.
-/

namespace ModelMeld

open Checked

variable {lower : String → String}

/-! ## Edits and reads -/

/-- An edit comes before the first read, in turns of tool names. -/
def editsFirst (lower : String → String) : List (List String) → Bool
  | [] => false
  | names :: rest =>
    if names.any (isReadTool lower) then false
    else if names.any (isEditTool lower) then true
    else editsFirst lower rest

/-- What one name does to a first use. -/
theorem see_names {first : FirstUses → Option ℕ} {p : String → Bool}
    (hsee : ∀ i uses name, first (uses.see lower i name) =
      if first uses = none ∧ p name then some i else first uses) (i : ℕ) :
    ∀ (names : List String) (uses : FirstUses), first (names.foldl (FirstUses.see lower i) uses) =
      (first uses).or (if names.any p then some i else none) := by
  intro names
  induction names with
  | nil =>
    intro uses
    simp
  | cons name names ih =>
    intro uses
    rw [List.foldl_cons, ih, hsee, List.any_cons]
    cases hfirst : first uses with
    | some j => simp
    | none => cases hname : p name <;> simp

/-- A first use is at the first turn that has one. -/
theorem firstUses_eq (first : FirstUses → Option ℕ) (p : String → Bool)
    (hsee : ∀ i uses name, first (uses.see lower i name) =
      if first uses = none ∧ p name then some i else first uses) :
    ∀ (obs : List TurnObservation) (uses : FirstUses) (i : ℕ),
      first (firstUses lower uses i obs) =
        (first uses).or ((obs.findIdx? (fun o => o.toolNames.any p)).map (· + i)) := by
  intro obs
  induction obs with
  | nil =>
    intro uses i
    simp [firstUses]
  | cons o rest ih =>
    intro uses i
    unfold firstUses
    rw [ih, see_names hsee, List.findIdx?_cons]
    cases hany : o.toolNames.any p with
    | true => cases first uses <;> simp
    | false =>
      have hshift : (fun j => j + (i + 1)) = (fun j => j + i) ∘ (fun j => j + 1) := by
        funext j
        simp only [Function.comp_apply]
        omega
      simp [hshift, Option.map_map]

/-- `_patch_before_explore` reads the tool names of the turns only. -/
theorem patchBeforeExplore_eq (obs : List TurnObservation) :
    patchBeforeExplore lower obs = editsFirst lower (obs.map TurnObservation.toolNames) := by
  have hedit := firstUses_eq FirstUses.edit (isEditTool lower)
    (fun _ _ _ => rfl) obs {} 0
  have hread := firstUses_eq FirstUses.read (isReadTool lower)
    (fun _ _ _ => rfl) obs {} 0
  simp only [Option.none_or, Nat.add_zero, Option.map_id'] at hedit hread
  unfold patchBeforeExplore
  simp only [hedit, hread]
  clear hedit hread
  induction obs with
  | nil => rfl
  | cons o rest ih =>
    rw [List.map_cons, List.findIdx?_cons, List.findIdx?_cons]
    unfold editsFirst
    cases hread : o.toolNames.any (isReadTool lower) with
    | true =>
      -- the first read is now, and no edit is before it
      cases o.toolNames.any (isEditTool lower) with
      | true => rfl
      | false => cases rest.findIdx? (fun o => o.toolNames.any (isEditTool lower)) <;> simp
    | false =>
      cases hedit : o.toolNames.any (isEditTool lower) with
      | true => cases rest.findIdx? (fun o => o.toolNames.any (isReadTool lower)) <;> simp
      | false =>
        -- neither is now: both indices are those of the rest, shifted
        simp only [Bool.false_eq_true, if_false]
        rw [← ih]
        cases rest.findIdx? (fun o => o.toolNames.any (isEditTool lower)) with
        | none => rfl
        | some e => cases rest.findIdx? (fun o => o.toolNames.any (isReadTool lower)) <;> simp

/-- Turns without tools do not matter. -/
theorem editsFirst_filter (turns : List (List String)) :
    editsFirst lower (turns.filter (fun names => decide (names ≠ []))) =
      editsFirst lower turns := by
  induction turns with
  | nil => rfl
  | cons names rest ih =>
    by_cases hnames : names = []
    · rw [List.filter_cons_of_neg (by simp [hnames]), ih, hnames]
      rfl
    · rw [List.filter_cons_of_pos (by simp [hnames])]
      unfold editsFirst
      rw [ih]

/-! ## What the detector reads -/

/-- The turns of the assistant, by the tools they use. -/
def observedTurns (obs : List TurnObservation) : List (List String) :=
  (obs.filter (fun o => decide (o.role = .assistant))).map TurnObservation.toolNames

/-- Only the assistant uses tools, and no result is an error. -/
structure Plain (obs : List TurnObservation) : Prop where
  others : ∀ o ∈ obs, o.role ≠ .assistant → o.toolNames = []
  errorless : ∀ o ∈ obs, o.toolError = false

/-- The last turn of the assistant uses a tool. -/
def EndsWithCall (obs : List TurnObservation) : Prop :=
  ∃ names, (observedTurns obs).getLast? = some names ∧ names ≠ []

section Reads

variable {obs obs' : List TurnObservation}

theorem Plain.editsFirst_eq (h : Plain obs) :
    editsFirst lower (obs.map TurnObservation.toolNames) =
      editsFirst lower (observedTurns obs) := by
  have hsame : (obs.map TurnObservation.toolNames).filter (fun names => decide (names ≠ [])) =
      (observedTurns obs).filter (fun names => decide (names ≠ [])) := by
    unfold observedTurns
    rw [List.filter_map, List.filter_map, List.filter_filter]
    congr 1
    refine List.filter_congr ?_
    intro o ho
    by_cases hrole : o.role = .assistant
    · simp [hrole]
    · simp [hrole, h.others o ho hrole]
  rw [← editsFirst_filter, hsame, editsFirst_filter]

theorem Plain.trailingErrorRun_eq (h : Plain obs) : trailingErrorRun obs = 0 := by
  have hnone : ∀ b ∈ ((obs.filter TurnObservation.hasToolResult).map
      TurnObservation.toolError).reverse, b = false := by
    intro b hb
    obtain ⟨o, ho, rfl⟩ := List.mem_map.1 (List.mem_reverse.1 hb)
    exact h.errorless o (List.mem_of_mem_filter ho)
  change (((obs.filter TurnObservation.hasToolResult).map
    TurnObservation.toolError).reverse.takeWhile id).length = 0
  generalize ((obs.filter TurnObservation.hasToolResult).map
    TurnObservation.toolError).reverse = results at hnone
  cases results with
  | nil => rfl
  | cons b rest =>
    have hb := hnone b List.mem_cons_self
    simp [hb]

/-- The trailing run, from the tools of the turns. -/
def identicalRun (turns : List (List String)) : ℕ :=
  match turns.getLast? with
  | none => 0
  | some last =>
    if last = [] then 0 else (turns.reverse.takeWhile (fun names => decide (names = last))).length

/-- The tool of the last turn. -/
def lastTool (turns : List (List String)) : Except IndexError String :=
  match turns.getLast? with
  | none => .error .listIndex
  | some [] => .error .tupleIndex
  | some (name :: _) => .ok name

theorem trailingIdenticalRun_eq (assistantObs : List TurnObservation) :
    trailingIdenticalRun assistantObs =
      identicalRun (assistantObs.map TurnObservation.toolNames) := by
  unfold trailingIdenticalRun identicalRun
  rw [List.getLast?_map]
  cases assistantObs.getLast? with
  | none => rfl
  | some last =>
    by_cases hlast : last.toolNames = []
    · simp [hlast]
    · simp [hlast, ← List.map_reverse, List.takeWhile_map, Function.comp_def]

theorem loopedTool_eq (assistantObs : List TurnObservation) :
    loopedTool assistantObs = lastTool (assistantObs.map TurnObservation.toolNames) := by
  unfold loopedTool lastTool
  rw [List.getLast?_map]
  cases assistantObs.getLast? with
  | none => rfl
  | some last => cases hnames : last.toolNames <;> simp [hnames]

/-- **The detector reads the turns of the assistant.** -/
theorem detectStall_congr (h : Plain obs) (h' : Plain obs')
    (hturns : observedTurns obs = observedTurns obs') (weights : Option StallWeights) :
    detectStall lower obs weights = detectStall lower obs' weights := by
  have hlength : (obs.filter (fun o => decide (o.role = .assistant))).length =
      (obs'.filter (fun o => decide (o.role = .assistant))).length := by
    have := congrArg List.length hturns
    simpa [observedTurns] using this
  unfold observedTurns at hturns
  unfold detectStall loopSignal isLoop
  simp only [trailingIdenticalRun_eq, loopedTool_eq, patchBeforeExplore_eq, h.editsFirst_eq,
    h'.editsFirst_eq, h.trailingErrorRun_eq, h'.trailingErrorRun_eq, hlength, observedTurns,
    hturns]

end Reads

/-! ## When the detector returns -/

section Returns

variable {obs : List TurnObservation}

theorem endsWithCall_iff_run : EndsWithCall obs ↔ 0 < identicalRun (observedTurns obs) := by
  unfold EndsWithCall identicalRun
  cases hlast : (observedTurns obs).getLast? with
  | none => simp
  | some last =>
    by_cases hnil : last = []
    · simp [hnil]
    · -- the last turn itself is in the run
      obtain ⟨before, hturns⟩ := List.getLast?_eq_some_iff.1 hlast
      simp [hnil, hturns]

theorem endsWithCall_iff_tool :
    EndsWithCall obs ↔ ∃ name, lastTool (observedTurns obs) = .ok name := by
  unfold EndsWithCall lastTool
  cases (observedTurns obs).getLast? with
  | none => simp
  | some last => cases last <;> simp

/-- A loop is reported of nothing when the threshold is not positive. -/
theorem loopSignal_returns_iff (w : StallWeights) :
    (∃ signal, loopSignal w (obs.filter (fun o => decide (o.role = .assistant))) = .ok signal) ↔
      0 < w.repeatThreshold ∨ EndsWithCall obs := by
  have hrun : EndsWithCall obs ↔ _ := endsWithCall_iff_run
  unfold loopSignal isLoop
  rw [trailingIdenticalRun_eq, loopedTool_eq]
  change (∃ signal, (if decide (w.repeatThreshold ≤ identicalRun (observedTurns obs)) = true then _
    else _) = Except.ok signal) ↔ _
  by_cases hloop : w.repeatThreshold ≤ identicalRun (observedTurns obs)
  · rw [if_pos (by simpa using hloop)]
    -- the threshold is reached: the tool of the last turn is named
    have htool : (∃ signal, (do
        let name ← lastTool (observedTurns obs)
        return ["tool_loop(" ++ name ++ "x" ++ toString (identicalRun (observedTurns obs)) ++
          ")"]) = Except.ok signal) ↔ EndsWithCall obs := by
      rw [endsWithCall_iff_tool]
      cases lastTool (observedTurns obs) with
      | error e => simp [bind, Except.bind]
      | ok name => simp [bind, Except.bind, pure, Except.pure]
    refine htool.trans ⟨.inr, ?_⟩
    rintro (hpos | hends)
    · rw [hrun]
      omega
    · exact hends
  · rw [if_neg (by simpa using hloop)]
    exact iff_of_true ⟨[], rfl⟩ (.inl (by omega))

theorem detectStall_returns_iff (w : StallWeights) :
    (∃ decision, detectStall lower obs (some w) = .ok decision) ↔
      0 < w.repeatThreshold ∨ EndsWithCall obs := by
  rw [← loopSignal_returns_iff]
  unfold detectStall
  constructor
  · rintro ⟨decision, h⟩
    obtain ⟨signal, hsignal, -⟩ := bind_eq_ok.1 h
    exact ⟨signal, hsignal⟩
  · rintro ⟨signal, hsignal⟩
    exact ⟨_, bind_eq_ok.2 ⟨signal, hsignal, rfl⟩⟩

/-- The environment does not set the repeat threshold to zero or less. -/
def Environ.RepeatsPositive (env : Environ) : Prop :=
  ∀ raw, env.get "MODELMELD_STALL_REPEAT_THRESHOLD" = some raw → strip raw ≠ "" →
    ∀ n, env.intOfText (strip raw) = some n → 0 < n

theorem repeatThreshold_pos_iff (env : Environ) :
    0 < (defaultStallWeights env).repeatThreshold ↔ env.RepeatsPositive := by
  unfold defaultStallWeights Environ.RepeatsPositive
  change 0 < intEnv env "MODELMELD_STALL_REPEAT_THRESHOLD" 2 ↔ _
  unfold intEnv
  have hempty : strip "" = "" := by decide
  cases hget : env.get "MODELMELD_STALL_REPEAT_THRESHOLD" with
  | none => simp [hempty]
  | some raw =>
    by_cases hraw : strip raw = ""
    · simp [hraw]
    · cases hint : env.intOfText (strip raw) with
      | none => simp [hraw, hint]
      | some n => simp [hraw, hint]

end Returns

/-- **The detector returns a decision iff the environment leaves the repeat threshold positive, or
the last turn of the assistant uses a tool.** -/
theorem detect_stall_returns_iff (lower : String → String) (env : Environ)
    (obs : List TurnObservation) :
    (∃ decision, detectStall lower obs (some (defaultStallWeights env)) = .ok decision) ↔
      env.RepeatsPositive ∨ EndsWithCall obs := by
  rw [detectStall_returns_iff, repeatThreshold_pos_iff]

/-- A request with one message of the user. -/
def plainQuestion : ChatCompletionRequest where
  model := "modelmeld-auto"
  messages := [.user { content := .str "Hello" }]

/-- With the threshold set to zero, a request without a turn of the assistant raises. -/
theorem zero_threshold_raises :
    ¬ ∀ (lower : String → String) (env : Environ) (request : ChatCompletionRequest),
      ∃ decision, detectStall lower (observationsFromInternal request)
        (some (defaultStallWeights env)) = .ok decision := by
  intro h
  let env : Environ :=
    { get := fun name => if name = "MODELMELD_STALL_REPEAT_THRESHOLD" then some "0" else none
      intOfText := fun text => if text = "0" then some 0 else none }
  obtain ⟨decision, hdecision⟩ := h id env plainQuestion
  have hraises : (detectStall id (observationsFromInternal plainQuestion)
      (some (defaultStallWeights env))).isOk = false := by decide
  rw [hdecision] at hraises
  cases hraises

/-! ## The two surfaces -/

section Surfaces

variable {t : PythonText}

/-- Only messages of the assistant use tools. -/
def AnthropicMessagesRequest.UsesByAssistant (body : AnthropicMessagesRequest) : Prop :=
  ∀ msg ∈ body.messages, msg.role ≠ .assistant → (observeAnthropic msg).toolNames = []

/-- `dataclasses.replace(o, tool_error=False)`. -/
def TurnObservation.clearError (o : TurnObservation) : TurnObservation :=
  { o with toolError := false }

theorem observeAnthropic_role (msg : AnthropicMessage) :
    (observeAnthropic msg).role = msg.role.observed := by
  unfold observeAnthropic
  cases msg.content <;> rfl

theorem plain_cleared {body : AnthropicMessagesRequest} (huses : body.UsesByAssistant) :
    Plain ((observationsFromAnthropic body).map TurnObservation.clearError) where
  others := by
    intro o ho hrole
    obtain ⟨o', ho', rfl⟩ := List.mem_map.1 ho
    obtain ⟨msg, hmsg, rfl⟩ := List.mem_map.1 ho'
    refine huses msg hmsg ?_
    intro hassistant
    apply hrole
    change (observeAnthropic msg).role = .assistant
    rw [observeAnthropic_role, hassistant]
    rfl
  errorless := by
    intro o ho
    obtain ⟨o', -, rfl⟩ := List.mem_map.1 ho
    rfl

theorem plain_internal (request : ChatCompletionRequest) :
    Plain (observationsFromInternal request) where
  others := by
    intro o ho hrole
    obtain ⟨m, -, rfl⟩ := List.mem_map.1 ho
    cases m with
    | assistant m => exact absurd rfl hrole
    | _ => rfl
  errorless := by
    intro o ho
    obtain ⟨m, -, rfl⟩ := List.mem_map.1 ho
    cases m <;> rfl

theorem observedTurns_append (obs obs' : List TurnObservation) :
    observedTurns (obs ++ obs') = observedTurns obs ++ observedTurns obs' := by
  unfold observedTurns
  rw [List.filter_append, List.map_append]

/-- Messages of others than the assistant are no turns of his. -/
theorem observedTurns_of_others {ms : List Message} (h : ∀ m ∈ ms, ∀ a, m ≠ .assistant a) :
    observedTurns (ms.map observeInternal) = [] := by
  unfold observedTurns
  rw [List.map_eq_nil_iff, List.filter_eq_nil_iff]
  intro o ho
  obtain ⟨m, hm, rfl⟩ := List.mem_map.1 ho
  cases m with
  | assistant a => exact absurd rfl (h _ hm a)
  | _ => simp [observeInternal]

/-- The calls of a translated turn have the names of its uses. -/
theorem toolNames_assistantBody (msg : AnthropicMessage) :
    (observeInternal (.assistant (assistantBody t msg.content))).toolNames =
      (observeAnthropic msg).toolNames := by
  unfold observeAnthropic observeInternal assistantBody
  cases msg.content with
  | str s => rfl
  | parts blocks =>
    have hcalls : (blocks.filterMap (toolCallOf t)).map (fun call => call.function.name) =
        blocks.filterMap toolUseName := by
      rw [List.map_filterMap]
      refine List.filterMap_congr ?_
      intro b _
      cases b <;> rfl
    by_cases hnone : blocks.filterMap (toolCallOf t) = []
    · simp [hnone, ← hcalls]
    · simp [hnone, ← hcalls]

theorem userBody_not_assistant {content : Content AnthropicRequestContentBlock} {m : Message}
    (hm : m ∈ userBody content) : ∀ a, m ≠ .assistant a := by
  intro a
  cases content with
  | str text =>
    have : m = .user { content := .str text } := by simpa [userBody] using hm
    simp [this]
  | parts blocks =>
    rcases List.mem_append.1 hm with hm | hm
    · obtain ⟨b, -, hb⟩ := List.mem_filterMap.1 hm
      cases b <;> simp [toolMessageOf] at hb
      simp [← hb]
    · unfold userMessageOf at hm
      split at hm
      · simp at hm
      · split at hm <;> simp_all
      · simp_all

/-- A translated message is one turn if it is the assistant's, and none otherwise. -/
theorem observedTurns_bodyOf (msg : AnthropicMessage) :
    observedTurns ((bodyOf t msg).map observeInternal) =
      observedTurns [(observeAnthropic msg).clearError] := by
  have hrole : (observeAnthropic msg).clearError.role = msg.role.observed :=
    observeAnthropic_role msg
  cases hmsg : msg.role with
  | user =>
    have hother : ∀ m ∈ bodyOf t msg, ∀ a, m ≠ .assistant a := by
      intro m hm
      rw [bodyOf, hmsg] at hm
      exact userBody_not_assistant hm
    rw [observedTurns_of_others hother]
    simp [observedTurns, hrole, hmsg, AnthropicRole.observed]
  | system =>
    have hnone : bodyOf t msg = [] := by rw [bodyOf, hmsg]
    rw [hnone]
    simp [observedTurns, hrole, hmsg, AnthropicRole.observed]
  | assistant =>
    have hbody : bodyOf t msg = [.assistant (assistantBody t msg.content)] := by
      rw [bodyOf, hmsg]
    have hnames := toolNames_assistantBody (t := t) msg
    rw [hbody]
    simp only [observedTurns, hrole, hmsg, AnthropicRole.observed, List.map_cons, List.map_nil,
      List.filter_cons, List.filter_nil]
    simpa [observeInternal, TurnObservation.clearError] using hnames

theorem leadingSystem_not_assistant {parts : List TextPart} {m : Message}
    (hm : m ∈ leadingSystem parts) : ∀ a, m ≠ .assistant a := by
  intro a
  unfold leadingSystem at hm
  split at hm
  · exact absurd hm List.not_mem_nil
  · split at hm <;> simp_all

/-- The assistant's turns of a translated request are those of the body. -/
theorem observedTurns_translated {body : AnthropicMessagesRequest}
    {request : ChatCompletionRequest} (h : fromAnthropicRequest t body = .ok request) :
    observedTurns (observationsFromInternal request) =
      observedTurns ((observationsFromAnthropic body).map TurnObservation.clearError) := by
  rw [fromAnthropicRequest_ok h]
  unfold observationsFromInternal observationsFromAnthropic inbound
  rw [List.map_append, observedTurns_append,
    observedTurns_of_others (fun m hm => leadingSystem_not_assistant hm), List.nil_append]
  induction body.messages with
  | nil => rfl
  | cons msg rest ih =>
    have hsplit : ((msg :: rest).map observeAnthropic).map TurnObservation.clearError =
        [(observeAnthropic msg).clearError] ++
          (rest.map observeAnthropic).map TurnObservation.clearError := rfl
    rw [List.flatMap_cons, List.map_append, observedTurns_append, ih, hsplit,
      observedTurns_append, observedTurns_bodyOf]

/-- All three thresholds are positive. -/
structure StallWeights.Positive (w : StallWeights) : Prop where
  repeatThreshold : 0 < w.repeatThreshold
  errorThreshold : 0 < w.errorThreshold
  maxTurns : 0 < w.maxTurns

end Surfaces

/-- **The stall signals agree across the surfaces**: without the error flags, a body and the
request it is translated to give one decision. -/
theorem stall_signals_agree (lower : String → String) (t : PythonText)
    {body : AnthropicMessagesRequest} {request : ChatCompletionRequest}
    (htranslated : fromAnthropicRequest t body = .ok request) (huses : body.UsesByAssistant)
    {w : StallWeights} (hw : w.Positive) :
    ∃ decision,
      detectStall lower (observationsFromInternal request) (some w) = .ok decision ∧
      detectStall lower ((observationsFromAnthropic body).map TurnObservation.clearError)
        (some w) = .ok decision := by
  obtain ⟨decision, hdecision⟩ : ∃ decision,
      detectStall lower (observationsFromInternal request) (some w) = .ok decision :=
    (detectStall_returns_iff w).2 (.inl hw.repeatThreshold)
  refine ⟨decision, hdecision, ?_⟩
  rw [← detectStall_congr (plain_internal request) (plain_cleared huses)
    (observedTurns_translated htranslated)]
  exact hdecision

theorem stall_signals_agree_weather : ∃ decision,
    detectStall id (observationsFromInternal (inbound weatherTexts weatherRequest))
      (some defaultWeights) = .ok decision ∧
    detectStall id ((observationsFromAnthropic weatherRequest).map TurnObservation.clearError)
      (some defaultWeights) = .ok decision :=
  stall_signals_agree id weatherTexts weatherRequest_accepted
    (by simp [AnthropicMessagesRequest.UsesByAssistant, weatherRequest, weatherTurns,
      observeAnthropic, toolUseName])
    ⟨by decide, by decide, by decide⟩

end ModelMeld
