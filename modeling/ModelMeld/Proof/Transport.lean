import ModelMeld.Spec.Persistent
import ModelMeld.Spec.Retry

/-!
# Failures over the transports of `AnthropicAdapter`

* `retryLoop_spec`: where a retried call stops, and on what;
* `apiKey_agree`: with an API key, a chat and the opening of a stream fail alike;
* `chats_agree_iff`: a chat fails alike with a key and with a bearer exactly when no attempt is made
  or its first status is not a transient one;
* `transport_independent_iff`: all four fail alike exactly on the answers whose first is a success.
-/

namespace ModelMeld

variable {α : Type}

/-! ## The retry loop -/

/-- What ends a retried call: a success, a permanent failure, or its last attempt. -/
def Ends (outcome : Except PyException α) : Prop :=
  match outcome with
  | .ok _ => True
  | .error exc => isTransientError exc = false

/-- **A retried call stops at the first attempt that is a success or a permanent failure, and at its
last at the latest; it comes to what that attempt comes to.** -/
theorem retryLoop_spec (func : ℕ → Except PyException α) :
    ∀ (left n : ℕ), 0 < left →
      ∃ k, n ≤ k ∧ k < n + left ∧ (∀ i, n ≤ i → i < k → ¬ Ends (func i)) ∧
        (Ends (func k) ∨ k + 1 = n + left) ∧ retryLoop func left n = ⟨func k, k + 1⟩ := by
  intro left
  induction left with
  | zero => intro n hpos; omega
  | succ left ih =>
    intro n _
    unfold retryLoop
    cases hfunc : func n with
    | ok value =>
      refine ⟨n, le_refl n, by omega, fun i h h' => by omega, Or.inl ?_, by rw [hfunc]⟩
      rw [hfunc]
      trivial
    | error exc =>
      simp only
      cases htransient : isTransientError exc with
      | false =>
        refine ⟨n, le_refl n, by omega, fun i h h' => by omega, Or.inl ?_, by simp [hfunc]⟩
        rw [hfunc]
        exact htransient
      | true =>
        simp only [Bool.not_true, Bool.false_eq_true, if_false]
        rcases Nat.eq_zero_or_pos left with rfl | hleft
        · refine ⟨n, le_refl n, by omega, fun i h h' => by omega, Or.inr (by omega), ?_⟩
          rw [if_pos rfl, hfunc]
        · have hne : left ≠ 0 := by omega
          obtain ⟨k, hk, hlt, hbefore, hend, hloop⟩ := ih (n + 1) hleft
          refine ⟨k, by omega, by omega, ?_, ?_, ?_⟩
          · intro i hi hik
            rcases Nat.eq_or_lt_of_le hi with rfl | hi
            · rw [hfunc]
              unfold Ends
              simp [htransient]
            · exact hbefore i hi hik
          · rcases hend with hend | hlast
            · exact Or.inl hend
            · exact Or.inr (by omega)
          · rw [if_neg hne, hloop]

/-- A first attempt that ends the call is the only one. -/
theorem retryAsync_of_ends (func : ℕ → Except PyException α) {maxAttempts : ℤ}
    (hmax : 1 ≤ maxAttempts) (hends : Ends (func 0)) :
    retryAsync func maxAttempts = ⟨func 0, 1⟩ := by
  unfold retryAsync
  obtain ⟨k, -, -, hbefore, -, hloop⟩ := retryLoop_spec func maxAttempts.toNat 0 (by omega)
  have hk : k = 0 := by
    by_contra hne
    exact hbefore 0 (le_refl 0) (by omega) hends
  rw [hloop, hk]

/-- A call that is attempted once comes to what its first attempt comes to. -/
theorem retryAsync_of_once {func : ℕ → Except PyException α} {maxAttempts : ℤ}
    (hmax : 1 ≤ maxAttempts) :
    (retryAsync func maxAttempts).attempts = 1 → retryAsync func maxAttempts = ⟨func 0, 1⟩ := by
  unfold retryAsync
  obtain ⟨k, -, -, -, -, hloop⟩ := retryLoop_spec func maxAttempts.toNat 0 (by omega)
  rw [hloop]
  intro hone
  have hk : k = 0 := by
    have hsucc : k + 1 = 1 := hone
    omega
  rw [hk]

theorem retryAsync_none {func : ℕ → Except PyException α} {maxAttempts : ℤ}
    (hmax : maxAttempts ≤ 0) :
    retryAsync func maxAttempts = ⟨.error { className := "AssertionError" }, 0⟩ := by
  have hzero : maxAttempts.toNat = 0 := by omega
  unfold retryAsync
  rw [hzero]
  rfl

/-! ## Failing alike -/

/-- The class of the error a call raises, if it raises one. -/
def Tried.errorClass (tried : Tried AdapterError α) : Option AdapterErrorKind :=
  match tried.result with
  | .ok _ => none
  | .error error => some error.kind

/-- Two calls make the same number of attempts, and raise errors of the same class. -/
structure FailAlike (x y : Tried AdapterError α) : Prop where
  attempts : x.attempts = y.attempts
  classes : x.errorClass = y.errorClass

/-- A router's failover looks at the class of an error only, at whether it is permanent. -/
theorem fallback_congr (p : PersistentRouter) (health : RouterHealth) (e : RouterReadings)
    (decision : RoutingDecision) (outgoing : ChatCompletionRequest) {error error' : AdapterError}
    (hkind : error.kind = error'.kind) :
    p.toRouter.fallback health e decision outgoing error =
      p.toRouter.fallback health e decision outgoing error' := by
  cases p with
  | single adapter => rfl
  | tiered r =>
    simp only [Router.fallback, PersistentRouter.toRouter, TieredRouter.routeAfterFailure,
      Option.map_some, hkind]
  | capability r =>
    simp only [Router.fallback, PersistentRouter.toRouter, CapabilityRouter.routeAfterFailure,
      Option.map_some, hkind]

/-- **Errors of calls that fail alike are failed over alike.** -/
theorem failAlike_failover {x y : Tried AdapterError α} (h : FailAlike x y)
    {error error' : AdapterError} (hx : x.result = .error error) (hy : y.result = .error error')
    (p : PersistentRouter) (health : RouterHealth) (e : RouterReadings)
    (decision : RoutingDecision) (outgoing : ChatCompletionRequest) :
    p.toRouter.fallback health e decision outgoing error =
      p.toRouter.fallback health e decision outgoing error' := by
  have hclasses := h.classes
  unfold Tried.errorClass at hclasses
  rw [hx, hy] at hclasses
  exact fallback_congr p health e decision outgoing (Option.some.inj hclasses)

namespace AnthropicAdapter

/-- Whether the adapter has an API key or a subscription's bearer. -/
inductive Transport where
  | apiKey | oauth

inductive Operation where
  | chat | openStream

/-- The four code paths. -/
def perform (raised : HttpAnswer α → PyException) (maxAttempts : ℤ) (answers : ℕ → HttpAnswer α) :
    Transport → Operation → Tried AdapterError α
  | .apiKey, .chat => chat raised maxAttempts answers
  | .apiKey, .openStream => openStream raised maxAttempts answers
  | .oauth, .chat => chatViaOauth maxAttempts answers
  | .oauth, .openStream => openStreamViaOauth answers

/-- **The transport does not show in a failure**: on one sequence of answers the four paths make the
same number of attempts and raise an error of the same class, transient or permanent, and so every
router decides the same failover. -/
structure TransportIndependent (raised : HttpAnswer α → PyException) (maxAttempts : ℤ)
    (answers : ℕ → HttpAnswer α) : Prop where
  alike : ∀ t o t' o', FailAlike (perform raised maxAttempts answers t o)
    (perform raised maxAttempts answers t' o')
  classed : ∀ t o, (perform raised maxAttempts answers t o).errorClass ≠ some .plain
  failover : ∀ (p : PersistentRouter) health e decision outgoing t o t' o' error error',
    (perform raised maxAttempts answers t o).result = .error error →
    (perform raised maxAttempts answers t' o').result = .error error' →
      p.toRouter.fallback health e decision outgoing error =
        p.toRouter.fallback health e decision outgoing error'

/-- The exceptions of the SDK carry the status of the response. -/
def CarryStatus (raised : HttpAnswer α → PyException) : Prop :=
  ∀ answer, 400 ≤ answer.status →
    (raised answer).isNetwork = false ∧ (raised answer).statusCode = some answer.status

variable {raised : HttpAnswer α → PyException} {maxAttempts : ℤ} {answers : ℕ → HttpAnswer α}

/-- An exception of the SDK is classified by its status. -/
theorem isTransientError_raised (hsdk : CarryStatus raised) {answer : HttpAnswer α}
    (hstatus : 400 ≤ answer.status) :
    isTransientError (raised answer) = decide (answer.status ∈ transientStatusCodes) := by
  obtain ⟨hnetwork, hcode⟩ := hsdk answer hstatus
  unfold isTransientError
  rw [hnetwork, hcode]
  rfl

/-- An `AdapterError` has no status, and its name is no hint. -/
theorem isTransientError_adapterException (text : String) :
    isTransientError (adapterException text) = false := by
  have hname : transientClassHints.any (fun hint => isSubstring hint "AdapterError".toLower) =
      false := by
    decide +kernel
  exact hname

/-- **With an API key, a chat and the opening of a stream fail alike.** -/
theorem apiKey_agree (raised : HttpAnswer α → PyException) (maxAttempts : ℤ)
    (answers : ℕ → HttpAnswer α) :
    FailAlike (chat raised maxAttempts answers) (openStream raised maxAttempts answers) := by
  constructor
  · rfl
  · unfold chat openStream Tried.errorClass Tried.wrapped
    cases (retryAsync (fun n => messagesCreate raised (answers n)) maxAttempts).result <;> rfl

variable (raised) in
/-- A success at the first attempt. -/
theorem perform_of_success (hmax : 1 ≤ maxAttempts) (hstatus : (answers 0).status < 400)
    (t : Transport) (o : Operation) :
    perform raised maxAttempts answers t o = ⟨.ok (answers 0).body, 1⟩ := by
  have hnot : ¬ 400 ≤ (answers 0).status := by omega
  have hkey : retryAsync (fun n => messagesCreate raised (answers n)) maxAttempts =
      ⟨.ok (answers 0).body, 1⟩ := by
    have hfirst : messagesCreate raised (answers 0) = .ok (answers 0).body := if_neg hnot
    rw [retryAsync_of_ends _ hmax (by rw [hfirst]; trivial), hfirst]
  cases t with
  | apiKey =>
    cases o with
    | chat =>
      unfold perform chat
      rw [hkey]
      rfl
    | openStream =>
      unfold perform openStream
      rw [hkey]
      rfl
  | oauth =>
    cases o with
    | chat =>
      unfold perform chatViaOauth
      simp only
      rw [retryAsync_of_ends _ hmax (by rw [if_neg hnot]; trivial), if_neg hnot]
      rfl
    | openStream =>
      unfold perform openStreamViaOauth
      simp only [if_neg hnot]

/-- A chat with a bearer is attempted once, and fails for good. -/
theorem chatViaOauth_of_failure (hmax : 1 ≤ maxAttempts) (hstatus : 400 ≤ (answers 0).status) :
    (chatViaOauth maxAttempts answers).attempts = 1 ∧
      (chatViaOauth maxAttempts answers).errorClass = some .permanent := by
  have hpermanent := isTransientError_adapterException (oauthText "Anthropic OAuth" (answers 0))
  unfold chatViaOauth
  rw [retryAsync_of_ends _ hmax (by rw [if_pos hstatus]; exact hpermanent), if_pos hstatus]
  refine ⟨rfl, ?_⟩
  unfold Tried.errorClass Tried.wrapped wrapAsAdapterError
  simp only [Except.mapError, hpermanent, Bool.false_eq_true, if_false]

/-- A chat with a key that stops after one attempt fails as its first exception does. -/
theorem chat_of_once (hstatus : 400 ≤ (answers 0).status)
    (htried : retryAsync (fun n => messagesCreate raised (answers n)) maxAttempts =
      ⟨messagesCreate raised (answers 0), 1⟩) :
    (chat raised maxAttempts answers).attempts = 1 ∧
      (chat raised maxAttempts answers).errorClass =
        some (if isTransientError (raised (answers 0)) then .transient else .permanent) := by
  have hfirst : messagesCreate raised (answers 0) = .error (raised (answers 0)) := if_pos hstatus
  unfold chat
  rw [htried, hfirst]
  refine ⟨rfl, ?_⟩
  unfold Tried.errorClass Tried.wrapped wrapAsAdapterError
  simp only [Except.mapError]

/-- **A chat fails alike with a key and with a bearer exactly when no attempt is made, or the first
answer is no transient failure.** -/
theorem chats_agree_iff (hsdk : CarryStatus raised) :
    FailAlike (chat raised maxAttempts answers) (chatViaOauth maxAttempts answers) ↔
      maxAttempts ≤ 0 ∨ (answers 0).status < 400 ∨
        (answers 0).status ∉ transientStatusCodes := by
  constructor
  · intro halike
    by_contra hnot
    simp only [not_or, not_le, not_lt, Decidable.not_not] at hnot
    obtain ⟨hpos, hstatus, htransient⟩ := hnot
    have hmax : 1 ≤ maxAttempts := by omega
    obtain ⟨hone, hclass⟩ := chatViaOauth_of_failure hmax hstatus
    have hretry : isTransientError (raised (answers 0)) = true := by
      rw [isTransientError_raised hsdk hstatus]
      exact decide_eq_true htransient
    -- one attempt is made, and its exception is wrapped as a transient one
    have hattempts : (chat raised maxAttempts answers).attempts = 1 := halike.attempts.trans hone
    have hkey := (chat_of_once hstatus (retryAsync_of_once hmax hattempts)).2
    rw [hretry, if_pos rfl, halike.classes, hclass] at hkey
    cases hkey
  · intro h
    rcases le_or_gt maxAttempts 0 with hmax | hmax
    · unfold chat chatViaOauth
      rw [retryAsync_none hmax, retryAsync_none hmax]
      exact ⟨rfl, rfl⟩
    · rcases lt_or_ge (answers 0).status 400 with hstatus | hstatus
      · have hkey : chat raised maxAttempts answers = ⟨.ok (answers 0).body, 1⟩ :=
          perform_of_success raised hmax hstatus .apiKey .chat
        have hbearer : chatViaOauth maxAttempts answers = ⟨.ok (answers 0).body, 1⟩ :=
          perform_of_success raised hmax hstatus .oauth .chat
        rw [hkey, hbearer]
        exact ⟨rfl, rfl⟩
      · have hpermanent : (answers 0).status ∉ transientStatusCodes := by
          rcases h with h | h | h
          · omega
          · omega
          · exact h
        obtain ⟨hone, hclass⟩ := chatViaOauth_of_failure hmax hstatus
        have hfirst : messagesCreate raised (answers 0) = .error (raised (answers 0)) :=
          if_pos hstatus
        have hfinal : isTransientError (raised (answers 0)) = false := by
          rw [isTransientError_raised hsdk hstatus]
          exact decide_eq_false hpermanent
        have htried := retryAsync_of_ends (fun n => messagesCreate raised (answers n)) hmax
          (by rw [hfirst]; exact hfinal)
        obtain ⟨hattempts, hkey⟩ := chat_of_once hstatus htried
        rw [hfinal, if_neg Bool.false_ne_true] at hkey
        exact ⟨hattempts.trans hone.symm, hkey.trans hclass.symm⟩

/-- **The transport does not show exactly on the answers whose first is a success, when an attempt
is made at all.** -/
theorem transport_independent_iff (raised : HttpAnswer α → PyException) (maxAttempts : ℤ)
    (answers : ℕ → HttpAnswer α) :
    TransportIndependent raised maxAttempts answers ↔
      1 ≤ maxAttempts ∧ (answers 0).status < 400 := by
  constructor
  · intro h
    have hclassed := h.classed .oauth .openStream
    have halike := (h.alike .oauth .openStream .oauth .chat).attempts
    constructor
    · by_contra hmax
      -- a stream is opened once at any rate
      have hzero : (chatViaOauth maxAttempts answers).attempts = 0 := by
        unfold chatViaOauth
        rw [retryAsync_none (by omega)]
        rfl
      have hone : 1 = (chatViaOauth maxAttempts answers).attempts := halike
      omega
    · by_contra hstatus
      have hfailed : 400 ≤ (answers 0).status := by omega
      refine hclassed ?_
      unfold perform openStreamViaOauth Tried.errorClass
      simp only [if_pos hfailed]
  · rintro ⟨hmax, hstatus⟩
    have hperform := perform_of_success raised hmax hstatus
    have halike : ∀ t o t' o', FailAlike (perform raised maxAttempts answers t o)
        (perform raised maxAttempts answers t' o') := by
      intro t o t' o'
      rw [hperform t o, hperform t' o']
      exact ⟨rfl, rfl⟩
    refine ⟨halike, ?_, ?_⟩
    · intro t o
      rw [hperform t o]
      intro hplain
      cases hplain
    · intro p health e decision outgoing t o t' o' error error' herror herror'
      exact failAlike_failover (halike t o t' o') herror herror' p health e decision outgoing

/-- The answers of an upstream at its rate limit, and then of one that is up. -/
def limitedOnce (n : ℕ) : HttpAnswer Unit where
  status := if n = 0 then 429 else 200
  body := ()

/-- **With an API key the second attempt succeeds; with a bearer there is none.** -/
theorem transport_shows :
    ¬ ∀ (raised : HttpAnswer Unit → PyException) (maxAttempts : ℤ) (answers : ℕ → HttpAnswer Unit),
      CarryStatus raised → 1 ≤ maxAttempts → TransportIndependent raised maxAttempts answers := by
  intro h
  have hind := h (fun answer => { className := "APIStatusError", statusCode := some answer.status })
    3 limitedOnce (fun answer _ => ⟨rfl, rfl⟩) (by decide)
  have halike := (hind.alike .apiKey .chat .oauth .chat).attempts
  exact absurd halike (by decide +kernel)

end AnthropicAdapter

end ModelMeld
