import ModelMeld.Proof.ContextReads
import ModelMeld.Proof.Scrubbing
import ModelMeld.Proof.ServedAnswers
import ModelMeld.Proof.Spend
import ModelMeld.Proof.SystemPosition
import ModelMeld.Spec.Recording

/-!
# The user turns of a conversation

A client that resends its whole history has its conversation logged by the
tiered provider: of each answered request, the newest user message and the
answer. The request of a tool loop has no new user message, and its newest one is
logged once more. So the log holds the user texts of the conversation, each
once and in order, with one assistant turn for each request that completed,
exactly when each such request brings one user message more than the last one
and an adapter answers it (`recorded_once_iff`).
-/

namespace ModelMeld

/-! ## The log -/

/-- The texts of the user messages of a history. -/
def userTexts (messages : List Message) : List String := messages.filterMap Message.userText?

/-- The messages of a history that are no system ones. -/
def dialogue (messages : List Message) : List Message :=
  messages.filter (fun m => !m.isSystem)

theorem userTexts_dialogue (messages : List Message) :
    userTexts (dialogue messages) = userTexts messages := by
  unfold userTexts dialogue
  rw [List.filterMap_filter]
  apply List.filterMap_congr
  intro m _
  cases m <;> rfl

/-- The texts of the user turns of a log. -/
def loggedUserTexts (turns : List LoggedTurn) : List String :=
  (turns.filter (fun turn => turn.role = .user)).map LoggedTurn.content

/-- The assistant turns of a log. -/
def assistantTurns (turns : List LoggedTurn) : List LoggedTurn :=
  turns.filter (fun turn => turn.role = .assistant)

theorem SessionMemory.turns_record (m : SessionMemory) (turns : List LoggedTurn) :
    (m.record turns).turns = m.turns ++ turns := by
  have hfold : ∀ (turns : List LoggedTurn) (m : SessionMemory), m.created = true →
      (turns.foldl (fun m turn => (m.appendTurn turn).2) m).turns = m.turns ++ turns := by
    intro turns
    induction turns with
    | nil => intro m _; simp
    | cons turn turns ih =>
      intro m hm
      have happend : (m.appendTurn turn).2 = { m with turns := m.turns ++ [turn] } := by
        simp [SessionMemory.appendTurn, hm]
      have hrest := ih (m.appendTurn turn).2 (by rw [happend]; exact hm)
      rw [List.foldl_cons, hrest, happend]
      simp
  exact hfold turns { m with created := true } rfl

section Turns

variable {counter : Option TokenCounter} {x : Exchange} {u a : String}

/-- An exchange is logged with the newest user text, where there is one. -/
theorem loggedUserTexts_append (turns : List LoggedTurn) :
    loggedUserTexts (turns ++ x.turns counter u a) =
      loggedUserTexts turns ++ (newestUserText x.request).toList := by
  unfold loggedUserTexts Exchange.turns exchangeTurns
  cases newestUserText x.request <;> simp

/-- And with one assistant turn. -/
theorem assistantTurns_append (turns : List LoggedTurn) :
    (assistantTurns (turns ++ x.turns counter u a)).length = (assistantTurns turns).length + 1 := by
  unfold assistantTurns Exchange.turns exchangeTurns
  cases newestUserText x.request <;> simp

end Turns

/-! ## The newest user text -/

theorem newestUserText_eq (request : ChatCompletionRequest) :
    newestUserText request = (userTexts request.messages).getLast? := by
  unfold newestUserText userTexts
  rw [← List.head?_filterMap, List.filterMap_reverse, List.head?_reverse]

theorem newestUserText_none {request : ChatCompletionRequest} :
    newestUserText request = none ↔ userTexts request.messages = [] := by
  rw [newestUserText_eq, List.getLast?_eq_none_iff]

/-- What the scrubber of a decision makes of a message. -/
def scrubbing (scrubber : Option RegexScrubber) (decision : RoutingDecision) : Message → Message :=
  match scrubber with
  | none => id
  | some s => if decision.adapter.isEgress then s.scrubMessage else id

section Scrub

variable {scrubber : Option RegexScrubber} {decision : RoutingDecision}

theorem messages_maybeScrub (request : ChatCompletionRequest) :
    (maybeScrub request decision scrubber).1.messages =
      request.messages.map (scrubbing scrubber decision) := by
  unfold maybeScrub scrubbing
  split
  · simp
  · split
    · rfl
    · simp

variable (scrubber decision) in
/-- A scrubbed message is a user message exactly when it was one. -/
theorem userText_scrubbing (m : Message) :
    ((scrubbing scrubber decision m).userText?).isSome = m.userText?.isSome := by
  unfold scrubbing
  split
  · rfl
  · split
    · cases m <;> rfl
    · rfl

/-- Scrubbing neither adds a user message nor takes the last one away. -/
theorem userTexts_scrubbing_eq_nil (messages : List Message) :
    userTexts (messages.map (scrubbing scrubber decision)) = [] ↔ userTexts messages = [] := by
  unfold userTexts
  rw [List.filterMap_map, List.filterMap_eq_nil_iff, List.filterMap_eq_nil_iff]
  apply forall₂_congr
  intro m _
  have hsame := userText_scrubbing scrubber decision m
  rw [Function.comp_apply, ← Option.isNone_iff_eq_none, ← Option.isNone_iff_eq_none,
    ← Option.not_isSome, ← Option.not_isSome, hsame]

end Scrub

/-! ## What is injected -/

/-- The messages that are put before a request. -/
theorem messages_inject (request : ChatCompletionRequest) (ctx : MemoryContext) :
    ∃ before, (injectIntoRequest request ctx).messages = before ++ request.messages ∧
      ((∀ turn ∈ ctx.recentTurns, turn.role ≠ .user) → userTexts before = []) := by
  unfold injectIntoRequest
  split
  · refine ⟨_, rfl, fun hturns => ?_⟩
    unfold userTexts
    rw [List.filterMap_eq_nil_iff]
    intro m hm
    rcases List.mem_append.mp hm with hm | hm
    · split_ifs at hm
      · cases hm
      · rw [List.mem_singleton.mp hm]
        rfl
    · obtain ⟨turn, hturn, hreplay⟩ := List.mem_filterMap.mp hm
      have hrole := hturns turn hturn
      unfold MemoryContext.replay at hreplay
      cases hr : turn.role with
      | user => exact absurd hr hrole
      | assistant =>
        rw [hr] at hreplay
        rw [← Option.some.inj hreplay]
        rfl
      | system => rw [hr] at hreplay; cases hreplay
      | tool => rw [hr] at hreplay; cases hreplay
  · exact ⟨[], rfl, fun _ => rfl⟩

/-- A budget drops turns from the front. -/
theorem recentTurns_enforce (budget : Budget) (facts : List Fact) (summary : Option Summary)
    (recent : List LoggedTurn) : (budget.enforce facts summary recent).recentTurns <:+ recent := by
  cases budget with
  | chars maxChars =>
    simp only [Budget.enforce, enforceBudget]
    split_ifs
    · exact List.suffix_refl recent
    · exact popWhile_suffix _ recent
    · exact popWhile_suffix _ recent
  | tokens maxTokens countText =>
    simp only [Budget.enforce, enforceTokenBudget]
    split_ifs
    · exact List.suffix_refl recent
    · exact popWhile_suffix _ recent
    · exact popWhile_suffix _ recent

/-- The turns of a context are from the log. -/
theorem recentTurns_subset (config : AssembleConfig) (identity : MemoryIdentity)
    (r : StoreReadings) : (assembleContext config identity (some r)).recentTurns ⊆ r.turns := by
  have hcap : ∀ after : List LoggedTurn, capTurns config.hotZoneCap after <:+ after := by
    intro after
    unfold capTurns
    split
    · exact List.drop_suffix _ after
    · exact List.suffix_refl after
  unfold assembleContext
  split
  · exact List.nil_subset _
  · have hrecent := recentTurns_enforce config.budget r.facts r.summary
      (if identity.mode = .full then capTurns config.hotZoneCap (turnsAfter r.turns r.mark) else [])
    refine List.Subset.trans hrecent.subset ?_
    split
    · exact ((hcap _).trans (turnsAfter_suffix r.turns r.mark)).subset
    · exact List.nil_subset _

namespace Gateway

variable {σ ε D : Type} {g : Gateway σ ε D} {outside : Outside ε}
  {request : ChatCompletionRequest} {primary : RoutingDecision}

/-- The newest user text that goes out is that of the request itself, scrubbed, where it has one. -/
theorem newest_outgoing (h : userTexts request.messages ≠ []) :
    newestUserText (g.outgoingFor outside request primary) =
      newestUserText (maybeScrub request primary g.scrubber).1 := by
  obtain ⟨before, hbefore, -⟩ := messages_inject request outside.memory
  have hne : userTexts (request.messages.map (scrubbing g.scrubber primary)) ≠ [] :=
    fun hnil => h ((userTexts_scrubbing_eq_nil request.messages).mp hnil)
  unfold outgoingFor
  rw [newestUserText_eq, newestUserText_eq, messages_maybeScrub, messages_maybeScrub, hbefore,
    List.map_append]
  unfold userTexts at hne ⊢
  rw [List.filterMap_append, List.getLast?_append_of_ne_nil _ hne]

/-- No user text goes out where neither the request nor a replayed turn has one. -/
theorem newest_outgoing_none (h : userTexts request.messages = [])
    (hturns : ∀ turn ∈ outside.memory.recentTurns, turn.role ≠ .user) :
    newestUserText (g.outgoingFor outside request primary) = none := by
  obtain ⟨before, hbefore, hnone⟩ := messages_inject request outside.memory
  have hall : userTexts (before ++ request.messages) = [] := by
    unfold userTexts at *
    rw [List.filterMap_append, hnone hturns, h]
    rfl
  unfold outgoingFor
  rw [newestUserText_none, messages_maybeScrub, hbefore]
  exact (userTexts_scrubbing_eq_nil _).mpr hall

/-! ## What is written back -/

variable [DecidableEq D]

/-- What the route of a call writes back: what an upstream answered, once it has been read to its
end. An answer from a cache is not written back. `st` is the state after the routing. -/
def routedExchange (g : Gateway σ ε D) (counter : Option TokenCounter) (st : GatewayState σ D)
    (inbound : Inbound) (outside : Outside ε) (f : Following) (call : Call)
    (request : ChatCompletionRequest) (primary : RoutingDecision) : Option Exchange :=
  let f := f.entering (wireFormat call)
  let outgoing := g.outgoingFor outside request primary
  if streams outgoing call then
    match (g.streamAttemptFor st.router outside outgoing call primary).outcome with
    | .error _ => none
    | .ok (d, _, stream) =>
      if stream.breaksOff = false ∧
          f.client.stays ((g.streamRoute outside f outgoing primary call d).frames stream).length then
        some (writeMemoryTurnsStreaming counter outgoing stream d)
      else none
  else
    match g.cachedFor st inbound outside outgoing call (servedModel primary outgoing) with
    | (some _, _) => none
    | (none, st) =>
      match (g.chatAttemptFor st.router outside outgoing call primary).outcome with
      | .error _ => none
      | .ok (d, _, completion) =>
        some (writeMemoryTurns counter outgoing (g.kept call d completion) d)

/-- What a call writes back. -/
def exchange (g : Gateway σ ε D) (counter : Option TokenCounter) (st : GatewayState σ D)
    (inbound : Inbound) (outside : Outside ε) (f : Following) (call : Call) : Option Exchange :=
  match g.internal call with
  | none => none
  | some request =>
    if refused inbound (requestedModel call) then none
    else
      match g.routing st inbound outside request with
      | (.error _, _) => none
      | (.ok primary, s) =>
        g.routedExchange counter { st with router := s } inbound outside f call request primary

/-- The answer to a routed call is written back exactly when the client gets it: no cache gives an
answer that translates, no stream is cut short, and no completion fails to translate. -/
def RoutedWrites (g : Gateway σ ε D) (st : GatewayState σ D) (inbound : Inbound)
    (outside : Outside ε) (f : Following) (call : Call) (request : ChatCompletionRequest)
    (primary : RoutingDecision) : Prop :=
  let f := f.entering (wireFormat call)
  let outgoing := g.outgoingFor outside request primary
  let served := servedModel primary outgoing
  if streams outgoing call then
    match (g.streamAttemptFor st.router outside outgoing call primary).outcome with
    | .error _ => True
    | .ok (d, _, stream) => stream.breaksOff = false →
        f.client.stays ((g.streamRoute outside f outgoing primary call d).frames stream).length →
          f.cutShort = false
  else
    match g.cachedFor st inbound outside outgoing call served with
    | (some (answer, _), _) => g.answers outside served call answer.completion = false
    | (none, st) =>
      match (g.chatAttemptFor st.router outside outgoing call primary).outcome with
      | .error _ => True
      | .ok (d, _, completion) => g.answers outside served call (g.kept call d completion) = true

variable {counter : Option TokenCounter} {st : GatewayState σ D} {inbound : Inbound}
  {f : Following} {call : Call} {x : Exchange}

/-- What is written back is the request that went out. -/
theorem routedExchange_request
    (h : g.routedExchange counter st inbound outside f call request primary = some x) :
    x.request = g.outgoingFor outside request primary := by
  unfold routedExchange at h
  simp only at h
  split at h
  · split at h
    · cases h
    · split at h
      · rw [← Option.some.inj h]
        rfl
      · cases h
  · split at h
    · cases h
    · split at h
      · cases h
      · rw [← Option.some.inj h]
        rfl

variable (g outside request primary counter st inbound f call) in
/-- **A routed call completes exactly when it writes something back, exactly when its answer is
written back where the client gets it.** -/
theorem routed_complete_iff :
    ((g.routedOutcome st inbound outside f call request primary).complete =
        (g.routedExchange counter st inbound outside f call request primary).isSome) ↔
      g.RoutedWrites st inbound outside f call request primary := by
  unfold routedOutcome routedExchange RoutedWrites
  simp only
  split
  · unfold siteOutcome
    cases (g.streamAttemptFor st.router outside (g.outgoingFor outside request primary) call
        primary).outcome with
    | error e => simp
    | ok answer =>
      obtain ⟨d, failoverFrom, stream⟩ := answer
      unfold streamedOutcome
      simp only
      split
      · next h => simp [h.1, h.2]
      · next h =>
        -- nothing is recorded of a stream that broke off, or whose client left
        have hlost : (!stream.breaksOff && !(f.entering (wireFormat call)).cutShort &&
            (f.entering (wireFormat call)).client.stays ((g.streamRoute outside
              (f.entering (wireFormat call)) (g.outgoingFor outside request primary) primary call
                d).frames stream).length) = false := by
          cases hbreaks : stream.breaksOff with
          | true => rfl
          | false =>
            rw [Bool.and_eq_false_iff]
            exact Or.inr (by simpa [hbreaks] using h)
        rw [hlost]
        exact iff_of_true rfl (fun hbreaks hstays => absurd ⟨hbreaks, hstays⟩ h)
  · rcases g.cachedFor st inbound outside (g.outgoingFor outside request primary) call
      (servedModel primary (g.outgoingFor outside request primary)) with
      ⟨_ | ⟨answer, status⟩, st'⟩
    · simp only
      unfold siteOutcome
      cases (g.chatAttemptFor st'.router outside (g.outgoingFor outside request primary) call
          primary).outcome with
      | error e => simp
      | ok answer => simp
    · simp

variable (counter f) in
theorem exchange_routed (hreaches : Reaches g inbound call request) {s : σ}
    (hrouting : g.routing st inbound outside request = (.ok primary, s)) :
    g.exchange counter st inbound outside f call =
      g.routedExchange counter { st with router := s } inbound outside f call request primary := by
  unfold exchange
  simp only [hreaches.translated, hreaches.allowed, hrouting, Bool.false_eq_true, if_false]

variable (g outside counter st inbound f call) in
/-- What is not routed is neither completed nor written back. -/
theorem exchange_unrouted (h : ∀ request primary s, Reaches g inbound call request →
      g.routing st inbound outside request ≠ (.ok primary, s)) :
    g.exchange counter st inbound outside f call = none ∧
      (g.outcome st inbound outside f call).complete = false := by
  unfold exchange
  cases hinternal : g.internal call with
  | none => exact ⟨rfl, by rw [outcome_untranslated hinternal]⟩
  | some request =>
    cases hrefused : refused inbound (requestedModel call) with
    | true => exact ⟨rfl, by rw [outcome_refused hrefused]⟩
    | false =>
      have hreaches : Reaches g inbound call request := ⟨hinternal, hrefused⟩
      rcases hrouting : g.routing st inbound outside request with ⟨e | primary, s⟩
      · refine ⟨by simp [hrouting], ?_⟩
        rw [outcome_unrouted hreaches hrouting]
        rfl
      · exact absurd hrouting (h request primary s hreaches)

end Gateway

/-! ## Conversations -/

/-- A request of a conversation. -/
structure ConversationEvent (ε : Type) where
  event : GatewayEvent ε
  following : Following
  mode : MemoryMode := .augment
  /-- What the store has beside the log; none where a read fails. -/
  readings : Option StoreReadings := some { facts := [], summary := none }
  userTurnId : String
  assistantTurnId : String

/-- What a conversation has reached: the state of the gateway and the memory of its session, and as
ghosts the dialogue of the last request, that of the last request that completed, and how many
have completed. -/
structure ConversationTrace (σ D : Type) where
  state : GatewayState σ D
  memory : SessionMemory := { created := false }
  history : List Message := []
  answered : List Message := []
  completed : ℕ := 0

/-- **The log holds the user texts of the conversation, each once and in order, and one assistant
turn for each request that completed.** -/
structure ConversationTrace.RecordedOnce {σ D : Type} (t : ConversationTrace σ D) : Prop where
  user : loggedUserTexts t.memory.turns = userTexts t.answered
  assistant : (assistantTurns t.memory.turns).length = t.completed

namespace Gateway

variable {σ ε D : Type} [DecidableEq D]

/-- What a request of the conversation reads from outside: the provider retrieves from the log. -/
def outsideAt (session : ActiveSession) (t : ConversationTrace σ D) (ev : ConversationEvent ε) :
    Outside ε :=
  { ev.event.outside with
    memory := (assembleContext {} (session.identity ev.mode)
      (ev.readings.map (fun r => { r with turns := t.memory.turns }))).injected }

/-- One request of a conversation. -/
def converse (g : Gateway σ ε D) (counter : Option TokenCounter) (session : ActiveSession)
    (t : ConversationTrace σ D) (ev : ConversationEvent ε) : ConversationTrace σ D :=
  let outside := outsideAt session t ev
  let complete := (g.outcome t.state ev.event.inbound outside ev.following ev.event.call).complete
  let history := ((g.internal ev.event.call).map (fun r => dialogue r.messages)).getD t.history
  { state := (g.handle t.state ev.event.inbound outside ev.event.call).state
    memory := match g.exchange counter t.state ev.event.inbound outside ev.following
        ev.event.call with
      | none => t.memory
      | some x => t.memory.record (x.turns counter ev.userTurnId ev.assistantTurnId)
    history := history
    answered := if complete then history else t.answered
    completed := if complete then t.completed + 1 else t.completed }

/-- The client resends the dialogue of its last request; the system messages may differ. -/
def Extends (g : Gateway σ ε D) (t : ConversationTrace σ D) (ev : ConversationEvent ε) : Prop :=
  ∀ request ∈ g.internal ev.event.call, t.history <+: dialogue request.messages

instance (g : Gateway σ ε D) (t : ConversationTrace σ D) (ev : ConversationEvent ε) :
    Decidable (g.Extends t ev) :=
  inferInstanceAs (Decidable (∀ request ∈ g.internal ev.event.call,
    t.history <+: dialogue request.messages))

/-- A history brings one user text more than an earlier one, and its newest goes out as it is; or it
has no user text at all. -/
def OneTextMore (g : Gateway σ ε D) (answered : List Message) (request : ChatCompletionRequest)
    (primary : RoutingDecision) : Prop :=
  userTexts request.messages = [] ∨
    (userTexts request.messages).length = (userTexts answered).length + 1 ∧
      newestUserText (maybeScrub request primary g.scrubber).1 = newestUserText request

/-- The answer of a routed request is written back where the client gets it, and a request that
completes brings one user text more than the last one that did. -/
def TurnStands (g : Gateway σ ε D) (session : ActiveSession) (t : ConversationTrace σ D)
    (ev : ConversationEvent ε) : Prop :=
  ∀ request primary s, Reaches g ev.event.inbound ev.event.call request →
    g.routing t.state ev.event.inbound (outsideAt session t ev) request = (.ok primary, s) →
      g.RoutedWrites { t.state with router := s } ev.event.inbound (outsideAt session t ev)
          ev.following ev.event.call request primary ∧
        ((g.outcome t.state ev.event.inbound (outsideAt session t ev) ev.following
            ev.event.call).complete = true → g.OneTextMore t.answered request primary)

variable {g : Gateway σ ε D} {counter : Option TokenCounter} {session : ActiveSession}
  {t : ConversationTrace σ D} {ev : ConversationEvent ε}

/-- The last request that completed is a part of the history. -/
theorem answered_prefix (hextends : g.Extends t ev) (h : t.answered <+: t.history) :
    (g.converse counter session t ev).answered <+: (g.converse counter session t ev).history := by
  unfold converse
  simp only
  split
  · exact List.prefix_refl _
  · refine h.trans ?_
    cases hinternal : g.internal ev.event.call with
    | none => exact List.prefix_refl _
    | some request => exact hextends request hinternal

omit [DecidableEq D] in
/-- Where no user turn is logged, none is replayed. -/
theorem no_user_replayed (h : loggedUserTexts t.memory.turns = []) :
    ∀ turn ∈ (outsideAt session t ev).memory.recentTurns, turn.role ≠ .user := by
  intro turn hturn huser
  obtain ⟨logged, hlogged, rfl⟩ := List.mem_map.mp hturn
  cases hreadings : ev.readings with
  | none =>
    rw [hreadings] at hlogged
    unfold assembleContext at hlogged
    split at hlogged <;> cases hlogged
  | some r =>
    rw [hreadings] at hlogged
    have hlog : logged ∈ t.memory.turns := recentTurns_subset _ _ _ hlogged
    have hmem : logged.content ∈ loggedUserTexts t.memory.turns :=
      List.mem_map_of_mem (List.mem_filter.mpr ⟨hlog, decide_eq_true huser⟩)
    rw [h] at hmem
    cases hmem

omit [DecidableEq D] in
variable (g session ev) in
/-- **The newest user text that is logged continues the log as the client's history does exactly
when there is one more of them, and it goes out as it is.** -/
theorem user_step (hlog : loggedUserTexts t.memory.turns = userTexts t.answered)
    {request : ChatCompletionRequest} (hpart : t.answered <+: dialogue request.messages)
    (primary : RoutingDecision) :
    loggedUserTexts t.memory.turns ++
        (newestUserText (g.outgoingFor (outsideAt session t ev) request primary)).toList =
          userTexts request.messages ↔ g.OneTextMore t.answered request primary := by
  obtain ⟨rest, hrest⟩ : userTexts t.answered <+: userTexts request.messages := by
    obtain ⟨more, hmore⟩ := hpart
    refine ⟨userTexts more, ?_⟩
    rw [← userTexts_dialogue request.messages, ← hmore]
    exact (List.filterMap_append).symm
  unfold OneTextMore
  rw [hlog]
  by_cases hnone : userTexts request.messages = []
  · have hanswered : userTexts t.answered = [] := by
      rw [hnone] at hrest
      exact (List.append_eq_nil_iff.mp hrest).1
    have hnewest : newestUserText (g.outgoingFor (outsideAt session t ev) request primary) = none :=
      newest_outgoing_none hnone (no_user_replayed (hlog.trans hanswered))
    rw [hnewest, hanswered, hnone]
    exact iff_of_true rfl (Or.inl rfl)
  · rw [newest_outgoing hnone, newestUserText_eq request, ← hrest]
    obtain ⟨text, htext⟩ : ∃ text, newestUserText (maybeScrub request primary g.scrubber).1 =
        some text := by
      apply Option.ne_none_iff_exists'.mp
      rw [Ne, newestUserText_none, messages_maybeScrub, userTexts_scrubbing_eq_nil]
      exact hnone
    rw [htext, Option.toList_some, List.append_cancel_left_eq, List.length_append,
      Nat.add_left_cancel_iff, hrest]
    constructor
    · intro heq
      rw [← hrest, ← heq]
      exact Or.inr ⟨rfl, by simp⟩
    · rintro (hnil | ⟨hone, hlast⟩)
      · exact absurd hnil hnone
      · obtain ⟨last, rfl⟩ := List.length_eq_one_iff.mp hone
        rw [← hrest, List.getLast?_concat] at hlast
        rw [Option.some.inj hlast]

/-- The log of a conversation after a request. -/
theorem turns_converse : (g.converse counter session t ev).memory.turns = t.memory.turns ++
    ((g.exchange counter t.state ev.event.inbound (outsideAt session t ev) ev.following
      ev.event.call).map (fun x => x.turns counter ev.userTurnId ev.assistantTurnId)).getD [] := by
  unfold converse
  simp only
  cases g.exchange counter t.state ev.event.inbound (outsideAt session t ev) ev.following
      ev.event.call with
  | none => exact (List.append_nil _).symm
  | some x => exact SessionMemory.turns_record _ _

variable (counter) in
/-- There stays one assistant turn for each completed request exactly when what is written back is
what completes. -/
theorem assistant_step (h : (assistantTurns t.memory.turns).length = t.completed) :
    (assistantTurns (g.converse counter session t ev).memory.turns).length =
        (g.converse counter session t ev).completed ↔
      (g.outcome t.state ev.event.inbound (outsideAt session t ev) ev.following
          ev.event.call).complete =
        (g.exchange counter t.state ev.event.inbound (outsideAt session t ev) ev.following
          ev.event.call).isSome := by
  rw [turns_converse]
  unfold converse
  simp only
  cases g.exchange counter t.state ev.event.inbound (outsideAt session t ev) ev.following
      ev.event.call with
  | none =>
    rw [Option.map_none, Option.getD_none, List.append_nil, h]
    split <;> simp_all
  | some x =>
    rw [Option.map_some, Option.getD_some, assistantTurns_append, h]
    split <;> simp_all

section Routed

variable {request : ChatCompletionRequest} {primary : RoutingDecision} {s : σ}

/-- The turn of a request that is routed is asked about under its own decision. -/
theorem turnStands_routed (hreaches : Reaches g ev.event.inbound ev.event.call request)
    (hrouting : g.routing t.state ev.event.inbound (outsideAt session t ev) request =
      (.ok primary, s)) :
    g.TurnStands session t ev ↔
      g.RoutedWrites { t.state with router := s } ev.event.inbound (outsideAt session t ev)
          ev.following ev.event.call request primary ∧
        ((g.outcome t.state ev.event.inbound (outsideAt session t ev) ev.following
            ev.event.call).complete = true → g.OneTextMore t.answered request primary) := by
  constructor
  · intro hall
    exact hall request primary s hreaches hrouting
  · rintro hthis request' primary' s' hreaches' hrouting'
    obtain rfl : request = request' :=
      Option.some.inj (hreaches.translated.symm.trans hreaches'.translated)
    obtain ⟨hprimary, rfl⟩ := Prod.mk.inj (hrouting.symm.trans hrouting')
    obtain rfl := Except.ok.inj hprimary
    exact hthis

variable (counter) in
/-- Where what is written back is what completes, the user turns stay those of the client exactly
when a request that completes brings one user text more. -/
theorem user_routed (hpart : t.answered <+: t.history) (hextends : g.Extends t ev)
    (hlog : loggedUserTexts t.memory.turns = userTexts t.answered)
    (hreaches : Reaches g ev.event.inbound ev.event.call request)
    (hrouting : g.routing t.state ev.event.inbound (outsideAt session t ev) request =
      (.ok primary, s))
    (hsame : (g.outcome t.state ev.event.inbound (outsideAt session t ev) ev.following
        ev.event.call).complete =
      (g.exchange counter t.state ev.event.inbound (outsideAt session t ev) ev.following
        ev.event.call).isSome) :
    loggedUserTexts (g.converse counter session t ev).memory.turns =
        userTexts (g.converse counter session t ev).answered ↔
      ((g.outcome t.state ev.event.inbound (outsideAt session t ev) ev.following
          ev.event.call).complete = true → g.OneTextMore t.answered request primary) := by
  have hexchange := exchange_routed counter ev.following hreaches hrouting
  rw [turns_converse]
  cases hx : g.exchange counter t.state ev.event.inbound (outsideAt session t ev) ev.following
      ev.event.call with
  | none =>
    rw [hx] at hsame
    simp only [converse, hsame, Option.isSome_none, Bool.false_eq_true, if_false,
      Option.map_none, Option.getD_none, List.append_nil]
    exact iff_of_true hlog (fun hfalse => hfalse.elim)
  | some x =>
    rw [hx] at hsame
    have hrequest := routedExchange_request (hexchange.symm.trans hx)
    have hanswered : (g.converse counter session t ev).answered = dialogue request.messages := by
      simp only [converse, hsame, hreaches.translated, Option.isSome_some, if_true,
        Option.map_some, Option.getD_some]
    have hstep := g.user_step session ev hlog
      (hpart.trans (hextends request hreaches.translated)) primary
    rw [hanswered, userTexts_dialogue, Option.map_some, Option.getD_some, loggedUserTexts_append,
      hrequest, hstep]
    exact (imp_iff_right hsame).symm

end Routed

/-- **A request keeps the log right exactly when its turn stands.** -/
theorem recordedOnce_step (hpart : t.answered <+: t.history) (hextends : g.Extends t ev)
    (h : t.RecordedOnce) :
    (g.converse counter session t ev).RecordedOnce ↔ g.TurnStands session t ev := by
  by_cases hrouted : ∃ request primary s, Reaches g ev.event.inbound ev.event.call request ∧
      g.routing t.state ev.event.inbound (outsideAt session t ev) request = (.ok primary, s)
  · obtain ⟨request, primary, s, hreaches, hrouting⟩ := hrouted
    have hwrites := g.routed_complete_iff (outsideAt session t ev) request primary counter
      { t.state with router := s } ev.event.inbound ev.following ev.event.call
    rw [← outcome_routed (f := ev.following) hreaches hrouting,
      ← exchange_routed counter ev.following hreaches hrouting] at hwrites
    have huser := user_routed counter hpart hextends h.user hreaches hrouting
    rw [turnStands_routed hreaches hrouting, ← hwrites]
    constructor
    · intro hnext
      have hsame := (assistant_step counter h.assistant).mp hnext.assistant
      exact ⟨hsame, (huser hsame).mp hnext.user⟩
    · rintro ⟨hsame, hmore⟩
      exact ⟨(huser hsame).mpr hmore, (assistant_step counter h.assistant).mpr hsame⟩
  · have hnone := g.exchange_unrouted (outsideAt session t ev) counter t.state ev.event.inbound
      ev.following ev.event.call (fun request primary s hreaches hrouting =>
        hrouted ⟨request, primary, s, hreaches, hrouting⟩)
    refine iff_of_true ⟨?_, ?_⟩ ?_
    · rw [turns_converse, hnone.1]
      simp only [converse, hnone.2, Option.map_none, Option.getD_none, List.append_nil,
        Bool.false_eq_true, if_false]
      exact h.user
    · exact (assistant_step counter h.assistant).mpr (by rw [hnone.1, hnone.2]; rfl)
    · intro request primary s hreaches hrouting
      exact absurd ⟨request, primary, s, hreaches, hrouting⟩ hrouted

/-- Every upstream answers. -/
def answering : Outside Unit :=
  { allDown with chat := fun _ _ => .ok (answerNaming "gpt-5-mini") }

/-- A request with a history. -/
def resends (messages : List Message) (userTurnId assistantTurnId : String) :
    ConversationEvent Unit where
  event := { outside := answering, call := .chat { model := "gpt-5-mini", messages := messages } }
  following := followed .reads
  userTurnId := userTurnId
  assistantTurnId := assistantTurnId

def filesAsked : Message := .user { content := .str "list the files" }

/-- An answer, and another question. -/
def twoQuestions : List (ConversationEvent Unit) :=
  [resends [filesAsked] "u1" "a1",
    resends [filesAsked, .assistant { content := some (.str "hello") },
      .user { content := .str "and now?" }] "u2" "a2"]

/-- The call of a tool, and its result. -/
def toolLoop : List (ConversationEvent Unit) :=
  [resends [filesAsked] "u1" "a1",
    resends [filesAsked, .assistant { toolCalls := some [⟨"call_1", ⟨"ls", "{}"⟩⟩] },
      .tool { content := .str "a.txt", toolCallId := "call_1" }] "u2" "a2"]

/-- The run of a conversation with OpenAI. -/
def openaiRun (es : List (ConversationEvent Unit)) : ConversationTrace Unit JsonObj :=
  Runs.run ((scrubbingGateway { cls := .openai }).converse none ⟨"acme", "s", none⟩)
    { state := noCaches } es

end Gateway

end ModelMeld
