import ModelMeld.Spec.AdapterStreams
import ModelMeld.Proof.Inbound
import ModelMeld.Proof.Scrubbing
import ModelMeld.Proof.Transport

/-!
# No stream is spliced

* `iterate_produced`: a generator yields a prefix of what its upstream stream produced, and all of it
  when nothing is raised;
* `attempts_silent`: all attempts to open a stream but the last have failed, and yielded nothing;
* `answer_ok`, `answer_failed`: what the handler goes through is what the generator yields, and a
  stream that is failed over has yielded nothing;
* `streams_not_spliced`: the client of a streamed request gets the chunks of one upstream stream.
-/

namespace ModelMeld

/-! ## The generator -/

namespace SdkStream

/-- **A generator yields a prefix of what the upstream stream produced.** -/
theorem iterate_produced (fails : Option PyException) :
    ∀ (events : List (Except PyException (Option ChatCompletionChunk))),
      (iterate fails events).1 <+: produced ⟨events, fails⟩ ∧
        ((iterate fails events).2 = none →
          (iterate fails events).1 = produced ⟨events, fails⟩ ∧ fails = none) := by
  intro events
  induction events with
  | nil =>
    refine ⟨List.nil_prefix, ?_⟩
    intro hnone
    exact ⟨rfl, hnone⟩
  | cons event events ih =>
    cases event with
    | error exc =>
      refine ⟨List.nil_prefix, ?_⟩
      intro hnone
      cases hnone
    | ok chunk =>
      cases chunk with
      | none => exact ih
      | some chunk =>
        obtain ⟨hyielded, hall⟩ := ih
        refine ⟨List.cons_prefix_cons.2 ⟨rfl, hyielded⟩, ?_⟩
        intro hnone
        obtain ⟨heq, hfails⟩ := hall hnone
        exact ⟨congrArg (chunk :: ·) heq, hfails⟩

end SdkStream

/-- The chunks a generator yields of an attempt. -/
def yielded : Except PyException SdkStream → List ChatCompletionChunk
  | .error _ => []
  | .ok stream => (SdkStream.iterate stream.fails stream.events).1

namespace StreamCode

variable {code : StreamCode} {upstream : ℕ → Except PyException SdkStream}

/-- **The opening of a stream comes to its last attempt, and the others have failed; or no attempt is
made, and it fails.** -/
theorem tries_spec (code : StreamCode) (upstream : ℕ → Except PyException SdkStream) :
    (∃ k, code.tries upstream = ⟨upstream k, k + 1⟩ ∧
        ∀ i < k, ∃ exc, upstream i = .error exc) ∨
      ∃ exc, code.tries upstream = ⟨.error exc, 0⟩ := by
  unfold tries
  cases code.maxAttempts with
  | none => exact Or.inl ⟨0, rfl, fun i hi => by omega⟩
  | some maxAttempts =>
    simp only
    rcases le_or_gt maxAttempts 0 with hmax | hmax
    · exact Or.inr ⟨_, retryAsync_none hmax⟩
    · obtain ⟨k, -, -, hbefore, -, hloop⟩ := retryLoop_spec upstream maxAttempts.toNat 0 (by omega)
      refine Or.inl ⟨k, hloop, ?_⟩
      intro i hi
      have hends := hbefore i (Nat.zero_le i) hi
      cases hup : upstream i with
      | error exc => exact ⟨exc, rfl⟩
      | ok stream =>
        -- a success would have ended the loop
        rw [hup] at hends
        exact absurd trivial hends

end StreamCode

namespace StreamUpstreams

variable {u : StreamUpstreams} {i : ℕ} {d : Dispatch}

theorem attemptsOf_of_tries {k : ℕ} (htries : (u.code d).tries (u.upstream i d) =
    ⟨u.upstream i d k, k + 1⟩) :
    u.attemptsOf i d = (List.range k).map (u.upstream i d) ++ [u.upstream i d k] := by
  unfold attemptsOf
  rw [htries]
  simp [List.range_succ]

/-- **All attempts of a dispatch but the last yield nothing.** -/
theorem attempts_silent (u : StreamUpstreams) (i : ℕ) (d : Dispatch) :
    ∀ a ∈ (u.attemptsOf i d).dropLast, yielded a = [] := by
  intro a ha
  rcases (u.code d).tries_spec (u.upstream i d) with ⟨k, htries, hfailed⟩ | ⟨exc, htries⟩
  · rw [attemptsOf_of_tries htries, List.dropLast_concat] at ha
    obtain ⟨j, hj, rfl⟩ := List.mem_map.1 ha
    obtain ⟨exc, hexc⟩ := hfailed j (List.mem_range.1 hj)
    rw [hexc]
    rfl
  · unfold attemptsOf at ha
    rw [htries] at ha
    simp at ha

/-- **The generator reads the stream of the last attempt, or all attempts have failed.** -/
theorem streamChat_cases (u : StreamUpstreams) (i : ℕ) (d : Dispatch) :
    (∃ s, (u.attemptsOf i d).getLast? = some (.ok s) ∧
        (u.code d).streamChat (u.upstream i d) = ⟨(SdkStream.iterate s.fails s.events).1,
          (SdkStream.iterate s.fails s.events).2.map (u.code d).breakFailure⟩) ∨
      (∃ failure, (u.code d).streamChat (u.upstream i d) = ⟨[], some failure⟩ ∧
        ∀ a ∈ u.attemptsOf i d, ∃ exc, a = .error exc) := by
  rcases (u.code d).tries_spec (u.upstream i d) with ⟨k, htries, hfailed⟩ | ⟨exc, htries⟩
  · have hattempts := attemptsOf_of_tries htries
    unfold StreamCode.streamChat
    rw [htries]
    cases hlast : u.upstream i d k with
    | ok s =>
      refine Or.inl ⟨s, ?_, rfl⟩
      rw [hattempts, hlast, List.getLast?_concat]
    | error exc =>
      refine Or.inr ⟨_, rfl, ?_⟩
      intro a ha
      rw [hattempts, hlast] at ha
      rcases List.mem_append.1 ha with ha | ha
      · obtain ⟨j, hj, rfl⟩ := List.mem_map.1 ha
        exact hfailed j (List.mem_range.1 hj)
      · exact ⟨exc, List.mem_singleton.1 ha⟩
  · unfold StreamCode.streamChat attemptsOf
    rw [htries]
    refine Or.inr ⟨_, rfl, ?_⟩
    intro a ha
    simp at ha

/-! ## The handler -/

/-- What an opened stream comes to for the handler: what it has yet to yield, when it yields
anything or ends well; else its failure. -/
theorem openedUpstream_cases (iter : ChunkIter) :
    ((iter.pending ≠ [] ∨ iter.failure = none) ∧
        openedUpstream (tryOpenStream iter) = .ok ⟨iter.pending, iter.failure.isSome⟩) ∨
      (iter.pending = [] ∧
        ((∃ error, openedUpstream (tryOpenStream iter) = .failed error) ∨
          openedUpstream (tryOpenStream iter) = .raised)) := by
  obtain ⟨pending, failure⟩ := iter
  cases pending with
  | cons first rest => exact Or.inl ⟨Or.inl (List.cons_ne_nil first rest), rfl⟩
  | nil =>
    cases failure with
    | none => exact Or.inl ⟨Or.inr rfl, rfl⟩
    | some failure =>
      cases failure with
      | adapter error => exact Or.inr ⟨rfl, Or.inl ⟨error, rfl⟩⟩
      | other exc => exact Or.inr ⟨rfl, Or.inr rfl⟩

/-- **A stream that the handler goes through is that of the last attempt**: a prefix of what it
produced, and all of it when nothing breaks off. -/
theorem answer_ok {stream : ChunkStream} (h : u.answer i d = .ok stream) :
    ∃ s, (u.attemptsOf i d).getLast? = some (.ok s) ∧ stream.chunks <+: s.produced ∧
      (stream.breaksOff = false → stream.chunks = s.produced ∧ s.fails = none) := by
  unfold answer at h
  rcases openedUpstream_cases ((u.code d).streamChat (u.upstream i d)) with
    ⟨hopen, hok⟩ | ⟨-, ⟨error, hfailed⟩ | hraised⟩
  · rw [hok] at h
    obtain rfl := Upstream.ok.inj h
    rcases streamChat_cases u i d with ⟨s, hlast, hchat⟩ | ⟨failure, hchat, -⟩
    · obtain ⟨hyielded, hall⟩ := SdkStream.iterate_produced s.fails s.events
      rw [hchat]
      refine ⟨s, hlast, hyielded, ?_⟩
      intro hends
      apply hall
      simpa using hends
    · -- what did not open is not gone through
      rw [hchat] at hopen
      rcases hopen with hopen | hopen
      · exact absurd rfl hopen
      · cases hopen
  · rw [hfailed] at h
    cases h
  · rw [hraised] at h
    cases h

/-- **A stream that is failed over has yielded nothing.** -/
theorem answer_failed {error : AdapterError} (h : u.answer i d = .failed error) :
    ∀ a ∈ u.attemptsOf i d, yielded a = [] := by
  unfold answer at h
  rcases openedUpstream_cases ((u.code d).streamChat (u.upstream i d)) with
    ⟨-, hok⟩ | ⟨hpending, -⟩
  · rw [hok] at h
    cases h
  · rcases streamChat_cases u i d with ⟨s, hlast, hchat⟩ | ⟨failure, -, hfailed⟩
    · intro a ha
      rw [hchat] at hpending
      obtain ⟨ys, hys⟩ := List.getLast?_eq_some_iff.1 hlast
      have hsilent := attempts_silent u i d
      rw [hys, List.dropLast_concat] at hsilent
      rw [hys] at ha
      rcases List.mem_append.1 ha with ha | ha
      · exact hsilent a ha
      · rw [List.mem_singleton.1 ha]
        exact hpending
    · intro a ha
      obtain ⟨exc, rfl⟩ := hfailed a ha
      rfl

theorem attemptsFrom_one (u : StreamUpstreams) (d : Dispatch) :
    u.attemptsFrom 0 [d] = u.attemptsOf 0 d := by
  simp [attemptsFrom]

theorem attemptsFrom_two (u : StreamUpstreams) (d d' : Dispatch) :
    u.attemptsFrom 0 [d, d'] = u.attemptsOf 0 d ++ u.attemptsOf 1 d' := by
  simp [attemptsFrom]

/-- After a dispatch that has yielded nothing, too, all attempts but the last yield nothing. -/
theorem attempts_silent_two {d d' : Dispatch} (h : ∀ a ∈ u.attemptsOf 0 d, yielded a = []) :
    ∀ a ∈ (u.attemptsFrom 0 [d, d']).dropLast, yielded a = [] := by
  intro a ha
  rw [attemptsFrom_two, List.dropLast_append] at ha
  split at ha
  · exact h a (List.mem_of_mem_dropLast ha)
  · rcases List.mem_append.1 ha with ha | ha
    · exact h a ha
    · exact attempts_silent u 1 d' a ha

end StreamUpstreams

/-! ## Requests -/

/-- What a response body makes of a stream, on the surface it is of. -/
def ReplyBody.Carries (body : ReplyBody) (stream : ChunkStream) : Prop :=
  match body with
  | .chatStream events => ∃ model, events = sseStream stream model
  | .messageStream events => ∃ ids requestModel inputTokens,
      events = sseAnthropicStream ids stream requestModel inputTokens
  | .responseStream _ s => s = stream
  | .completion _ | .message _ | .response _ _ => False

/-- **No stream is spliced**: at most one failover is made; an attempt to open a stream is followed
by another, of the same dispatch or of the fallback, only if it yielded no chunk; and the response
carries a prefix of what the upstream stream of the last attempt produced, all of it when that ends
without an error. -/
structure NotSpliced (u : StreamUpstreams) (dispatches : List Dispatch)
    (reply : Except HttpError Reply) : Prop where
  failover_once : dispatches.length ≤ 2
  silent : ∀ a ∈ (u.attemptsFrom 0 dispatches).dropLast, yielded a = []
  one_stream : ∀ r, reply = .ok r → ∃ s stream,
    (u.attemptsFrom 0 dispatches).getLast? = some (.ok s) ∧ r.body.Carries stream ∧
      stream.chunks <+: s.produced ∧
      (stream.breaksOff = false → stream.chunks = s.produced ∧ s.fails = none)

namespace Gateway

variable {σ ε D : Type} [DecidableEq D] {g : Gateway σ ε D} {st : GatewayState σ D}
  {inbound : Inbound} {outside : Outside ε} {u : StreamUpstreams}

omit [DecidableEq D] in
/-- A request goes out as a stream exactly when it asks for one. -/
theorem streams_eq_asksStream {call : Call} {request : ChatCompletionRequest}
    {primary : RoutingDecision} (h : g.internal call = some request) :
    streams (g.outgoingFor outside request primary) call = call.asksStream := by
  have hstream : (g.outgoingFor outside request primary).stream = request.stream := by
    unfold outgoingFor maybeScrub
    have hinject : (injectIntoRequest request outside.memory).stream = request.stream := by
      unfold injectIntoRequest
      split <;> rfl
    split
    · exact hinject
    · split
      · exact hinject
      · exact hinject
  cases call with
  | responses stream request => rfl
  | chat request' =>
    obtain rfl := Option.some.inj h
    exact congrArg (fun stream => stream.getD false) hstream
  | messages body =>
    have htranslated : (fromAnthropicRequest g.texts body.toAnthropicMessagesRequest).toOption =
        some request := h
    cases hbody : fromAnthropicRequest g.texts body.toAnthropicMessagesRequest with
    | error e =>
      rw [hbody] at htranslated
      cases htranslated
    | ok request' =>
      rw [hbody] at htranslated
      obtain rfl := Option.some.inj htranslated
      have hbodyStream : request'.stream = some (body.stream.getD false) := by
        rw [fromAnthropicRequest_ok hbody]
        rfl
      unfold streams Call.asksStream ChatCompletionRequest.streaming
      rw [hstream, hbodyStream]
      rfl

omit [DecidableEq D] in
/-- **The dispatches of a streamed request are not spliced.** -/
theorem streamAttempt_not_spliced {s : σ} {outgoing : ChatCompletionRequest} {call : Call}
    {primary : RoutingDecision}
    {reply : RoutingDecision → Option Tier → ChunkStream → Except HttpError Reply}
    (hcarries : ∀ d f stream r, reply d f stream = .ok r → r.body.Carries stream) :
    NotSpliced u (g.streamAttemptFor s (outside.withUpstreams u) outgoing call primary).dispatches
      (replyOf (g.streamAttemptFor s (outside.withUpstreams u) outgoing call primary) reply) := by
  -- what is streamed through a dispatch whose attempts are the last ones
  have hstreamed : ∀ {i : ℕ} {d : Dispatch} {ds : List Dispatch} {decision : RoutingDecision}
      {f : Option Tier} {stream : ChunkStream}, u.answer i d = .ok stream →
      (∀ s, (u.attemptsOf i d).getLast? = some (.ok s) →
        (u.attemptsFrom 0 ds).getLast? = some (.ok s)) →
      ∀ r, reply decision f stream = .ok r → ∃ s stream,
        (u.attemptsFrom 0 ds).getLast? = some (.ok s) ∧ r.body.Carries stream ∧
          stream.chunks <+: s.produced ∧
          (stream.breaksOff = false → stream.chunks = s.produced ∧ s.fails = none) := by
    intro i d ds decision f stream hanswer hlast r hr
    obtain ⟨s, hs, hyielded, hall⟩ := StreamUpstreams.answer_ok hanswer
    exact ⟨s, stream, hlast s hs, hcarries _ _ _ r hr, hyielded, hall⟩
  unfold streamAttemptFor withFailover
  have hanswer : (outside.withUpstreams u).stream = u.answer := rfl
  rw [hanswer]
  cases hfirst : u.answer 0 (g.sendFor outgoing call primary) with
  | ok stream =>
    refine ⟨Nat.le_succ 1, ?_, ?_⟩
    · rw [StreamUpstreams.attemptsFrom_one]
      exact StreamUpstreams.attempts_silent u 0 _
    · apply hstreamed hfirst
      intro s hs
      rw [StreamUpstreams.attemptsFrom_one]
      exact hs
  | raised =>
    refine ⟨Nat.le_succ 1, ?_, ?_⟩
    · rw [StreamUpstreams.attemptsFrom_one]
      exact StreamUpstreams.attempts_silent u 0 _
    · intro r hr
      cases hr
  | failed error =>
    simp only
    have hnothing := StreamUpstreams.answer_failed hfirst
    rcases g.router.fallback s (outside.withUpstreams u).failover primary outgoing error with
      ⟨_ | fallback, s'⟩
    · refine ⟨Nat.le_succ 1, ?_, ?_⟩
      · rw [StreamUpstreams.attemptsFrom_one]
        exact StreamUpstreams.attempts_silent u 0 _
      · intro r hr
        cases hr
    · simp only
      cases hsecond : u.answer 1 (g.sendFor outgoing call fallback) with
      | ok stream =>
        refine ⟨le_refl 2, StreamUpstreams.attempts_silent_two hnothing, ?_⟩
        apply hstreamed hsecond
        intro s hs
        rw [StreamUpstreams.attemptsFrom_two, List.getLast?_append, hs]
        rfl
      | raised =>
        refine ⟨le_refl 2, StreamUpstreams.attempts_silent_two hnothing, ?_⟩
        intro r hr
        cases hr
      | failed error' =>
        refine ⟨le_refl 2, StreamUpstreams.attempts_silent_two hnothing, ?_⟩
        intro r hr
        cases hr

/-- **Streamed requests are not spliced**, on every surface, for every router and every pattern of
what their upstreams do. -/
theorem streams_not_spliced (g : Gateway σ ε D) (st : GatewayState σ D) (inbound : Inbound)
    (outside : Outside ε) (u : StreamUpstreams) (call : Call) (hstreamed : call.asksStream = true) :
    NotSpliced u (g.handle st inbound (outside.withUpstreams u) call).dispatches
      (g.handle st inbound (outside.withUpstreams u) call).reply := by
  have hd := handle_handling g st inbound (outside.withUpstreams u) call
  generalize g.handle st inbound (outside.withUpstreams u) call = handled at hd ⊢
  have hnone : ∀ e, NotSpliced u [] (.error e) := by
    intro e
    refine ⟨Nat.zero_le 2, ?_, ?_⟩
    · intro a ha
      cases ha
    · intro r hr
      cases hr
  cases hd with
  | rejected e => exact hnone e
  | unrouted request e st' hr => exact hnone e
  | streamed request primary st' hrouted hstreams =>
    apply streamAttempt_not_spliced
    intro d f stream r hr
    obtain rfl := Except.ok.inj hr
    cases call with
    | chat request' => exact ⟨_, rfl⟩
    | messages body => exact ⟨_, _, _, rfl⟩
    | responses s request' => rfl
  | hit request primary st' st'' answer status hrouted hlooks hfound =>
    have hstreams := streams_of_looksUp hlooks
    rw [streams_eq_asksStream hrouted.translated, hstreamed] at hstreams
    cases hstreams
  | missed request primary st' st'' hrouted hlooks hmissed =>
    have hstreams := streams_of_looksUp hlooks
    rw [streams_eq_asksStream hrouted.translated, hstreamed] at hstreams
    cases hstreams
  | uncached request primary st' hrouted hlooks hstreams =>
    rw [streams_eq_asksStream hrouted.translated, hstreamed] at hstreams
    cases hstreams

/-- An upstream that is at its rate limit once, and then breaks off after a chunk. -/
def limitedThenBroken : StreamUpstreams where
  code _ := .openai 3
  upstream _ _ n :=
    if n = 0 then .error { className := "RateLimitError", statusCode := some 429 }
    else .ok
      { events := [.ok (some { id := "c", created := 0, model := "m", choices := [] })]
        fails := some { className := "APIError" } }

/-- A chat that asks for a stream. -/
def streamedChat : Call := .chat
  { model := "m", messages := [.user { content := .str "hi" }], stream := some true }

theorem streams_not_spliced_retried :
    NotSpliced limitedThenBroken
      ((scrubbingGateway { cls := .openai }).handle noCaches {}
        (allDown.withUpstreams limitedThenBroken) streamedChat).dispatches
      ((scrubbingGateway { cls := .openai }).handle noCaches {}
        (allDown.withUpstreams limitedThenBroken) streamedChat).reply :=
  streams_not_spliced (scrubbingGateway { cls := .openai }) noCaches {} allDown limitedThenBroken
    streamedChat (by decide)

/-- There the second attempt is read to where it breaks off. -/
example : (limitedThenBroken.attemptsFrom 0 ((scrubbingGateway { cls := .openai }).handle noCaches {}
    (allDown.withUpstreams limitedThenBroken) streamedChat).dispatches).map
      (fun a => (yielded a).length) = [0, 1] := by
  decide

end Gateway

end ModelMeld
