import ModelMeld.Proof.Gateway
import ModelMeld.Proof.Router

/-!
# What reaches an egress adapter

The scrub is decided once, on the first decision, and only the internal request
is scrubbed.

* `egress_scrubbed_iff`: when everything handed to egress adapters is scrubbed.
-/

namespace ModelMeld

/-! ## Texts of a native body -/

/-- The texts of a content block; the input of a tool use as its JSON text. -/
def blockTexts (t : PythonText) : AnthropicRequestContentBlock → List String
  | .text b => [b.text]
  | .image _ => []
  | .toolUse b => [t.dumps b.input]
  | .toolResult b => match b.content with
    | .str s => [s]
    | .parts blocks => blocks.map AnthropicTextBlock.text

/-- All message texts of a native body, the system prompt included. -/
def nativeTexts (t : PythonText) (body : AnthropicMessagesRequest) : List String :=
  (match body.system with
    | none => []
    | some (.str s) => [s]
    | some (.parts blocks) => blocks.map AnthropicTextBlock.text) ++
  body.messages.flatMap (fun msg => match msg.content with
    | .str s => [s]
    | .parts blocks => blocks.flatMap (blockTexts t))

/-- Reconciling a native body with the model it is sent to leaves its texts as they are. -/
theorem nativeTexts_upstream (t : PythonText) (body : AnthropicMessagesRequest)
    (served : Option String) (entry : Option ModelEntry) :
    nativeTexts t (nativeBodyForUpstream body served entry) = nativeTexts t body := by
  unfold nativeBodyForUpstream
  simp only
  split <;> rfl

/-! ## Scrubbed dispatches -/

/-- What is dispatched is what the scrubber made of the request with its memory, under some model;
and it comes with no native text that the scrubber would change. -/
structure Scrubbed (s : RegexScrubber) (t : PythonText) (injected : ChatCompletionRequest)
    (d : Dispatch) : Prop where
  request : ∃ model, d.request = (s.scrubRequest injected).1.withModel model
  native : ∀ body, d.native = some body → ∀ text ∈ nativeTexts t body, s.scrubText text = text

theorem applyModelOverride_withModel (request : ChatCompletionRequest)
    (decision : RoutingDecision) : ∃ model, applyModelOverride request decision =
      request.withModel model := by
  cases h : decision.modelIdOverride with
  | none => exact ⟨request.model, by unfold applyModelOverride; rw [h]; rfl⟩
  | some modelId => exact ⟨_, CapabilityRouter.applyModelOverride_eq h request⟩

/-- A request that agrees with its scrubbed form up to the model agrees with it altogether. -/
theorem scrubRequest_eq_of_withModel {s : RegexScrubber} {request : ChatCompletionRequest}
    {m m' : String} (h : request.withModel m = (s.scrubRequest request).1.withModel m') :
    (s.scrubRequest request).1 = request := by
  have hmsgs : request.messages = request.messages.map s.scrubMessage :=
    congrArg ChatCompletionRequest.messages h
  unfold RegexScrubber.scrubRequest ChatCompletionRequest.withMessages
  simp only
  rw [← hmsgs]

/-- An `AnthropicAdapter` is an egress adapter. -/
theorem isEgress_of_isAnthropic {a : ProviderAdapter} (h : a.isAnthropic = true) :
    a.isEgress = true := by
  have hcls : a.cls = .anthropic := of_decide_eq_true h
  unfold ProviderAdapter.isEgress
  rw [hcls]
  rfl

theorem nativeDispatch_native {t : PythonText} {outgoing : ChatCompletionRequest}
    {body upstream : AnthropicMessagesRequest} {entry : RoutingDecision → Option ModelEntry}
    {d : RoutingDecision} (h : (nativeDispatch outgoing body entry d).native = some upstream) :
    d.adapter.isAnthropic = true ∧ nativeTexts t upstream = nativeTexts t body := by
  unfold nativeDispatch at h
  by_cases ha : d.adapter.isAnthropic = true
  · rw [if_pos ha] at h
    cases h
    exact ⟨ha, nativeTexts_upstream _ _ _ _⟩
  · rw [if_neg ha] at h
    cases h

namespace Gateway

variable {σ ε D : Type} [DecidableEq D] {g : Gateway σ ε D} {st : GatewayState σ D}
  {inbound : Inbound} {outside : Outside ε} {call : Call} {s : RegexScrubber}
  {outgoing : ChatCompletionRequest}

omit [DecidableEq D] in
theorem sendFor_adapter (call : Call) (d : RoutingDecision) :
    (g.sendFor outgoing call d).adapter = d.adapter := by
  cases call with
  | messages body => unfold sendFor; split <;> rfl
  | _ => rfl

omit [DecidableEq D] in
theorem sendFor_request (call : Call) (d : RoutingDecision) :
    (g.sendFor outgoing call d).request = applyModelOverride outgoing d := by
  cases call with
  | messages body => unfold sendFor; split <;> rfl
  | _ => rfl

omit [DecidableEq D] in
/-- The native body goes to an `AnthropicAdapter` on `/v1/messages`, and nowhere else. -/
theorem sendFor_native (call : Call) (d : RoutingDecision) {upstream : AnthropicMessagesRequest} :
    (g.sendFor outgoing call d).native = some upstream →
      ∃ body, call = .messages body ∧ d.adapter.isAnthropic = true ∧
        nativeTexts g.texts upstream = nativeTexts g.texts body.toAnthropicMessagesRequest := by
  intro h
  cases call with
  | messages body =>
    refine ⟨body, rfl, ?_⟩
    simp only [sendFor] at h
    by_cases hstream : outgoing.streaming = true
    · rw [if_pos hstream] at h
      exact nativeDispatch_native h
    · rw [if_neg hstream] at h
      exact nativeDispatch_native h
  | chat request => cases h
  | responses stream request => cases h

omit [DecidableEq D] in
theorem sendFor_native_isSome (g : Gateway σ ε D) (outgoing : ChatCompletionRequest)
    (body : AcceptedMessagesRequest) {d : RoutingDecision}
    (h : d.adapter.isAnthropic = true) : ∃ upstream,
      (g.sendFor outgoing (.messages body) d).native = some upstream ∧
        nativeTexts g.texts upstream = nativeTexts g.texts body.toAnthropicMessagesRequest := by
  unfold sendFor
  split
  · exact ⟨_, if_pos h, nativeTexts_upstream _ _ _ _⟩
  · exact ⟨_, if_pos h, nativeTexts_upstream _ _ _ _⟩

/-- Everything a call hands to an egress adapter is scrubbed. -/
def EgressScrubbed (g : Gateway σ ε D) (s : RegexScrubber) (st : GatewayState σ D)
    (inbound : Inbound) (outside : Outside ε) (call : Call) : Prop :=
  ∀ request, g.internal call = some request →
    ∀ d ∈ (g.handle st inbound outside call).dispatches, d.adapter.isEgress = true →
      Scrubbed s g.texts (injectIntoRequest request outside.memory) d

/-- Neither of the two ways past the scrubber is open: a failover from an adapter inside the
network to an egress one, with something to scrub; and a native body with something to scrub, on
its way to an `AnthropicAdapter`. -/
structure NothingSlipsBy (g : Gateway σ ε D) (s : RegexScrubber) (st : GatewayState σ D)
    (inbound : Inbound) (outside : Outside ε) (call : Call) : Prop where
  crossing : ∀ request primary st' fallback, g.internal call = some request →
    g.routeRequest st inbound outside request = (.ok primary, st') →
    g.fallbackFor st'.router outside (g.outgoingFor outside request primary) call primary =
      some fallback →
    primary.adapter.isEgress = false → fallback.adapter.isEgress = true →
      (s.scrubRequest (injectIntoRequest request outside.memory)).1 =
        injectIntoRequest request outside.memory
  native : ∀ body request primary st', call = .messages body → g.internal call = some request →
    g.routeRequest st inbound outside request = (.ok primary, st') →
    (primary.adapter.isAnthropic = true ∨ ∃ fallback,
      g.fallbackFor st'.router outside (g.outgoingFor outside request primary) call primary =
        some fallback ∧ fallback.adapter.isAnthropic = true) →
    ∀ text ∈ nativeTexts g.texts body.toAnthropicMessagesRequest, s.scrubText text = text

omit [DecidableEq D] in
/-- What goes out under an egress decision is scrubbed; under any other it is as it came. -/
theorem outgoingFor_eq (hs : g.scrubber = some s) (request : ChatCompletionRequest)
    (primary : RoutingDecision) :
    g.outgoingFor outside request primary =
      if primary.adapter.isEgress then
        (s.scrubRequest (injectIntoRequest request outside.memory)).1
      else injectIntoRequest request outside.memory := by
  unfold outgoingFor maybeScrub
  rw [hs]
  simp only
  split <;> rfl

theorem scrubbed_of_nothingSlipsBy (hs : g.scrubber = some s)
    (h : NothingSlipsBy g s st inbound outside call) : EgressScrubbed g s st inbound outside call := by
  intro request hint d hd hegress
  rcases handle_dispatches g st inbound outside call with
    hnone | ⟨request', primary, st', hint', hr, hdisp⟩
  · rw [hnone] at hd; cases hd
  · rw [hint] at hint'
    cases hint'
    rw [hdisp] at hd
    -- the dispatch is the first one, or that of the failover
    have hmem : d = g.sendFor (g.outgoingFor outside request primary) call primary ∨
        ∃ fallback, g.fallbackFor st'.router outside (g.outgoingFor outside request primary) call
          primary = some fallback ∧
          d = g.sendFor (g.outgoingFor outside request primary) call fallback := by
      rcases List.mem_cons.1 hd with hd | hd
      · exact Or.inl hd
      · obtain ⟨fallback, hfb, hd⟩ := Option.map_eq_some_iff.1 (Option.mem_toList.1 hd)
        exact Or.inr ⟨fallback, hfb, hd.symm⟩
    constructor
    · -- the internal request
      rcases hmem with rfl | ⟨fallback, hfb, rfl⟩
      · rw [sendFor_adapter] at hegress
        rw [sendFor_request, outgoingFor_eq hs, if_pos hegress]
        exact applyModelOverride_withModel _ _
      · rw [sendFor_adapter] at hegress
        rw [sendFor_request, outgoingFor_eq hs]
        -- the failover sends what was made for the first decision
        by_cases hp : primary.adapter.isEgress = true
        · rw [if_pos hp]
          exact applyModelOverride_withModel _ _
        · have hsame := h.crossing request primary st' fallback hint hr hfb
            (Bool.eq_false_of_not_eq_true hp) hegress
          rw [if_neg hp, hsame]
          exact applyModelOverride_withModel _ _
    · -- the native body
      intro upstream hup text htext
      rcases hmem with rfl | ⟨fallback, hfb, rfl⟩
      · obtain ⟨body, hcall, ha, hsame⟩ := sendFor_native call primary hup
        rw [hsame] at htext
        exact h.native body request primary st' hcall hint hr (Or.inl ha) text htext
      · obtain ⟨body, hcall, ha, hsame⟩ := sendFor_native call fallback hup
        rw [hsame] at htext
        exact h.native body request primary st' hcall hint hr (Or.inr ⟨fallback, hfb, ha⟩) text htext

theorem nothingSlipsBy_of_scrubbed (hs : g.scrubber = some s)
    (hdisp : (g.handle st inbound outside call).dispatches ≠ [])
    (h : EgressScrubbed g s st inbound outside call) : NothingSlipsBy g s st inbound outside call := by
  rcases handle_dispatches g st inbound outside call with
    hnone | ⟨request, primary, st', hint, hr, hd⟩
  · exact absurd hnone hdisp
  · have hall := h request hint
    rw [hd] at hall
    constructor
    · intro request' primary' st'' fallback hint' hr' hfb hp hf
      rw [hint] at hint'
      cases hint'
      rw [hr] at hr'
      cases hr'
      -- the second dispatch carries what the first decision left unscrubbed
      have hmem : g.sendFor (g.outgoingFor outside request primary) call fallback ∈
          g.dispatchesFor st'.router outside (g.outgoingFor outside request primary) call
            primary := by
        unfold dispatchesFor
        rw [hfb]
        simp
      obtain ⟨model, hreq⟩ := (hall _ hmem (by rw [sendFor_adapter]; exact hf)).request
      rw [sendFor_request, outgoingFor_eq hs, hp] at hreq
      simp only [Bool.false_eq_true, if_false] at hreq
      obtain ⟨model', hover⟩ := applyModelOverride_withModel
        (injectIntoRequest request outside.memory) fallback
      rw [hover] at hreq
      exact scrubRequest_eq_of_withModel hreq
    · intro body request' primary' st'' hcall hint' hr' ha text htext
      rw [hint] at hint'
      cases hint'
      rw [hr] at hr'
      cases hr'
      subst hcall
      have hsent : ∀ d : RoutingDecision, d.adapter.isAnthropic = true →
          g.sendFor (g.outgoingFor outside request primary) (.messages body) d ∈
            g.dispatchesFor st'.router outside (g.outgoingFor outside request primary)
              (.messages body) primary → s.scrubText text = text := by
        intro d hd' hmem
        obtain ⟨upstream, hup, hsame⟩ := sendFor_native_isSome g
          (g.outgoingFor outside request primary) body hd'
        refine (hall _ hmem ?_).native upstream hup text (by rw [hsame]; exact htext)
        rw [sendFor_adapter]
        exact isEgress_of_isAnthropic hd'
      rcases ha with ha | ⟨fallback, hfb, ha⟩
      · exact hsent primary ha (List.mem_cons_self)
      · refine hsent fallback ha ?_
        unfold dispatchesFor
        rw [hfb]
        simp

/-- **Everything handed to egress adapters is scrubbed exactly when the call is not dispatched, or
it neither fails over out of the network with something to scrub nor has something to scrub in a
native body on its way to an `AnthropicAdapter`.** -/
theorem egress_scrubbed_iff (g : Gateway σ ε D) (s : RegexScrubber) (hs : g.scrubber = some s)
    (st : GatewayState σ D) (inbound : Inbound) (outside : Outside ε) (call : Call) :
    EgressScrubbed g s st inbound outside call ↔
      (g.handle st inbound outside call).dispatches = [] ∨
        NothingSlipsBy g s st inbound outside call := by
  constructor
  · intro h
    by_cases hd : (g.handle st inbound outside call).dispatches = []
    · exact Or.inl hd
    · exact Or.inr (nothingSlipsBy_of_scrubbed hs hd h)
  · rintro (hd | h)
    · intro request _ d hmem
      rw [hd] at hmem
      cases hmem
    · exact scrubbed_of_nothingSlipsBy hs h

/-! ## A gateway with one pattern -/

/-- Three digits, two and four, with hyphens between. -/
def isSsn (cs : List Char) : Bool :=
  match cs with
  | [a, b, c, '-', d, e, '-', f, g, h, i] => [a, b, c, d, e, f, g, h, i].all Char.isDigit
  | _ => false

def isWordChar (c : Char) : Bool := c.isAlphanum || c == '_'

/-- Left to right over the text: how many characters of a match are still to be passed over, and
whether the last character was a word character. -/
def subSsn (replacement : List Char) : ℕ → Bool → List Char → List Char × ℕ
  | _, _, [] => ([], 0)
  | skip + 1, _, c :: cs => subSsn replacement skip (isWordChar c) cs
  | 0, inWord, c :: cs =>
    let after := ((c :: cs).drop 11).head?
    if !inWord && isSsn ((c :: cs).take 11) && !(after.any isWordChar) then
      let rest := subSsn replacement 10 (isWordChar c) cs
      (replacement ++ rest.1, rest.2 + 1)
    else
      let rest := subSsn replacement 0 (isWordChar c) cs
      (c :: rest.1, rest.2)

/-- The `SSN` pattern. -/
def ssnPattern : Pattern where
  sub replacement text := String.ofList (subSsn replacement.toList 0 false text.toList).1
  findall text := (subSsn [] 0 false text.toList).2

def ssnScrubber : RegexScrubber := ⟨[("SSN", ssnPattern)]⟩

def plainTexts : PythonText where
  dumps _ := "{}"
  loads _ := .ok (.obj [])
  reprStr s := "'" ++ s ++ "'"

/-- A gateway with the scrubber on and one adapter. -/
def scrubbingGateway (adapter : ProviderAdapter) : Gateway Unit Unit JsonObj where
  router := singleAdapterRouter Unit Unit adapter
  scrubber := some ssnScrubber
  modelRegistry := none
  digest := id
  texts := plainTexts
  safeErrorDetail := id

def noCaches : GatewayState Unit JsonObj := ⟨(), none, none⟩

/-- Every upstream is down. -/
def allDown : Outside Unit where
  routing := ()
  failover := ()
  chat _ _ := .failed ⟨.transient, "503"⟩
  stream _ _ := .failed ⟨.transient, "503"⟩

/-- One user message to `/v1/messages`. -/
def plainBody (model text : String) : AcceptedMessagesRequest where
  model := model
  messages := [{ role := .user, content := .str text }]
  maxTokens := 16

/-- A message with a social security number in it. -/
def ssnBody : AcceptedMessagesRequest := plainBody "claude-haiku" "my ssn is 123-45-6789"

def ssnChat : Call := .chat
  { model := "gpt-5-mini", messages := [.user { content := .str "my ssn is 123-45-6789" }] }

theorem egress_scrubbed_openai :
    EgressScrubbed (scrubbingGateway { cls := .openai }) ssnScrubber noCaches {} allDown ssnChat := by
  refine (egress_scrubbed_iff (scrubbingGateway { cls := .openai }) ssnScrubber rfl noCaches {}
    allDown ssnChat).2 (Or.inr ⟨?_, ?_⟩)
  · intro request primary st' fallback _ _ hfb
    unfold fallbackFor at hfb
    split at hfb <;> cases hfb
  · intro body request primary st' hcall
    cases hcall

/-- The native body reaches Anthropic with the number in it. -/
theorem native_body_not_scrubbed :
    ¬ EgressScrubbed (scrubbingGateway { cls := .anthropic }) ssnScrubber noCaches {} allDown
      (.messages ssnBody) := by
  intro h
  have hdisp : ((scrubbingGateway { cls := .anthropic }).handle noCaches {} allDown
      (.messages ssnBody)).dispatches.map (fun d => (d.adapter.isEgress,
        d.native.map (nativeTexts plainTexts))) =
      [(true, some ["my ssn is 123-45-6789"])] := by decide
  obtain ⟨d, rest, hd, hview, -⟩ := List.map_eq_cons_iff.1 hdisp
  obtain ⟨hegress, hnative⟩ := Prod.mk.inj hview
  obtain ⟨body, hbody, htexts⟩ := Option.map_eq_some_iff.1 hnative
  cases hint : (scrubbingGateway { cls := .anthropic }).internal (.messages ssnBody) with
  | none => exact absurd hint (by decide)
  | some request =>
    have hclean := (h request hint d (by rw [hd]; exact List.mem_cons_self) hegress).native body
      hbody "my ssn is 123-45-6789" (by
        have htexts' : nativeTexts (scrubbingGateway { cls := .anthropic }).texts body =
          ["my ssn is 123-45-6789"] := htexts
        rw [htexts']
        exact List.mem_cons_self)
    exact absurd hclean (by decide)

end Gateway

end ModelMeld
