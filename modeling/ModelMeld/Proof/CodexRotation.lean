import ModelMeld.Lib.Runs
import ModelMeld.Spec.CodexAuth

/-!
# Tokens that rotate under concurrent requests

Requests share one adapter and take turns at each `await`, while the file of the
token is changed under them.

* `step_cases`: what one step can do;
* `step_rejected`: a rejected call is made again, or ends its request;
* `codex_token_rotation`: in every run each change of the file rescues at most one rejected call,
  and every other rejected call ends its request.
-/

namespace ModelMeld

open Runs

variable {α : Type}

/-! ## What is seen -/

namespace CodexSeen

/-- A call that is made again. -/
def isAgain : CodexSeen α → Bool
  | .called _ again _ => again
  | _ => false

def isRejected : CodexSeen α → Bool
  | .rejected _ _ => true
  | _ => false

/-- A request that ends with an error. -/
def isFailure : CodexSeen α → Bool
  | .ended _ (.error _) => true
  | _ => false

/-- A call of a request. -/
def isCallOf (request : ℕ) : CodexSeen α → Bool
  | .called r _ _ => decide (r = request)
  | _ => false

/-- The client of a call. -/
def client? : CodexSeen α → Option CodexClient
  | .called _ _ client => some client
  | _ => none

end CodexSeen

/-- A change of the file. -/
def CodexEvent.isWrite : CodexEvent α → Bool
  | .write _ => true
  | _ => false

/-- What the file is changed to. -/
def CodexEvent.file? : CodexEvent α → Option AuthFile
  | .write file => some file
  | _ => none

/-! ## The adapter -/

namespace CodexPassthroughAdapter

variable {adapter adapter' : CodexPassthroughAdapter} {file : AuthFile}

/-- What a reload that changed the token did. -/
theorem tryReloadToken_true (h : adapter.tryReloadToken file = (.ok true, adapter')) :
    ∃ path newAccountId, adapter.authJsonPath = some path ∧
      loadCodexAuth path file = .ok (adapter'.accessToken, newAccountId) ∧
      adapter'.accessToken ≠ adapter.accessToken ∧ adapter'.authJsonPath = some path ∧
      adapter'.client = buildClient adapter'.accessToken adapter'.accountId ∧
      (newAccountId = adapter'.accountId ∧ adapter'.accountId.filter (· ≠ "") ≠ none ∨
        adapter'.accountId = adapter.accountId) := by
  unfold tryReloadToken at h
  cases hpath : adapter.authJsonPath with
  | none =>
    rw [hpath] at h
    cases h
  | some path =>
    rw [hpath] at h
    dsimp only at h
    cases hload : loadCodexAuth path file with
    | error exc =>
      rw [hload] at h
      dsimp only at h
      split at h <;> cases h
    | ok read =>
      obtain ⟨newToken, newAccountId⟩ := read
      rw [hload] at h
      dsimp only at h
      split at h
      · cases h
      next hne =>
        obtain rfl := (Prod.mk.inj h).2
        refine ⟨path, newAccountId, rfl, hload, hne, rfl, rfl, ?_⟩
        cases hkept : newAccountId.filter (· ≠ "") with
        | none => exact .inr rfl
        | some id =>
          have hsome := Option.filter_eq_some_iff.1 hkept
          refine .inl ⟨hsome.1, ?_⟩
          dsimp only
          rw [← hsome.1, hkept]
          exact Option.some_ne_none id

/-- A reload that did not change the token left the adapter. -/
theorem tryReloadToken_of_ne {reloaded : Except PyException Bool}
    (h : adapter.tryReloadToken file = (reloaded, adapter')) (hne : reloaded ≠ .ok true) :
    adapter' = adapter := by
  unfold tryReloadToken at h
  split at h
  · exact (Prod.mk.inj h).2.symm
  · split at h
    · split at h <;> exact (Prod.mk.inj h).2.symm
    · split at h
      · exact (Prod.mk.inj h).2.symm
      · exact absurd (Prod.mk.inj h).1.symm hne

theorem isTransientError_uncaught (kind : Uncaught) (text : String) :
    isTransientError (kind.exc text) = false := by
  cases kind with
  | permissionError => 
    change transientClassHints.any (fun hint => isSubstring hint "PermissionError".toLower) = false
    decide +kernel
  | unicodeDecodeError =>
    change transientClassHints.any
      (fun hint => isSubstring hint "UnicodeDecodeError".toLower) = false
    decide +kernel

/-- What a reload raises is not worth another attempt. -/
theorem isTransientError_of_reload {exc : PyException}
    (h : adapter.tryReloadToken file = (.error exc, adapter')) : isTransientError exc = false := by
  unfold tryReloadToken at h
  split at h
  · cases h
  next path _ =>
    split at h
    next raised hload =>
      split at h
      · cases h
      next hother =>
        obtain rfl : raised = exc := by simpa using (Prod.mk.inj h).1
        cases file with
        | missing => exact absurd (congrArg PyException.className (Except.error.inj hload)).symm hother
        | unreadable typeName =>
          exact absurd (congrArg PyException.className (Except.error.inj hload)).symm hother
        | raises kind text =>
          rw [← Except.error.inj hload]
          exact isTransientError_uncaught kind text
        | json data =>
          unfold loadCodexAuth at hload
          dsimp only at hload
          split at hload
          · exact absurd (congrArg PyException.className (Except.error.inj hload)).symm hother
          · split at hload <;> cases hload
    · split at h <;> cases h

end CodexPassthroughAdapter

/-! ## One step -/

namespace CodexWorld

open CodexPassthroughAdapter

variable {maxAttempts : ℤ} {w w' : CodexWorld α} {e : CodexEvent α}

/-- What a step does to the adapter, to the file and to what is seen. -/
inductive Effect (w w' : CodexWorld α) (e : CodexEvent α) : Prop
  /-- Nothing is rejected. -/
  | calm (new : List (CodexSeen α)) (hseen : w'.seen = w.seen ++ new)
      (hnew : ∀ s ∈ new, s.isAgain = false ∧ s.isRejected = false ∧
        ∀ client ∈ s.client?, client = w.adapter.client)
      (hadapter : w'.adapter = w.adapter) (hfile : w'.file = w.file) (hwrite : e.isWrite = false)
  | wrote (file : AuthFile) (heq : w' = { w with file := file }) (hwrite : e.file? = some file)
  /-- A rejected call ends its request. -/
  | surfaced (request : ℕ) (again : Bool) (exc : PyException)
      (hseen : w'.seen = w.seen ++ [.rejected request again, .ended request (.error exc)])
      (hadapter : w'.adapter = w.adapter) (hfile : w'.file = w.file) (hwrite : e.isWrite = false)
  /-- A rejected call is made again. -/
  | rescued (request : ℕ) (hreload : w.adapter.tryReloadToken w.file = (.ok true, w'.adapter))
      (hseen : w'.seen =
        w.seen ++ [.rejected request false, .called request true w'.adapter.client])
      (hfile : w'.file = w.file) (hwrite : e.isWrite = false)

theorem raise_of_not_transient {exc : PyException} (h : isTransientError exc = false)
    (request attempt : ℕ) :
    w.raise maxAttempts request attempt exc = w.finish request (.error exc) := by
  unfold raise
  rw [h]
  rfl

theorem isTransientError_authenticationError (text : String) :
    isTransientError (authenticationError text) = false := by
  change decide (401 ∈ transientStatusCodes) = false
  decide

/-- A failed attempt is seen when it is the last. -/
theorem raise_seen (maxAttempts : ℤ) (w : CodexWorld α) (request attempt : ℕ)
    (exc : PyException) :
    ∃ new, (w.raise maxAttempts request attempt exc).seen = w.seen ++ new ∧
      (∀ s ∈ new, s = .ended request (.error exc)) ∧
      (w.raise maxAttempts request attempt exc).adapter = w.adapter ∧
      (w.raise maxAttempts request attempt exc).file = w.file := by
  have hends : ∀ s ∈ [CodexSeen.ended request (.error exc : Except PyException α)],
      s = .ended request (.error exc) := fun s hs => List.mem_singleton.1 hs
  unfold raise
  split
  · exact ⟨_, rfl, hends, rfl, rfl⟩
  · split
    · exact ⟨_, rfl, hends, rfl, rfl⟩
    · exact ⟨[], (List.append_nil _).symm, fun s hs => absurd hs List.not_mem_nil, rfl, rfl⟩

theorem answer_effect (request attempt : ℕ) (again : Bool) (outcome : CodexReply α) :
    Effect w (w.answer maxAttempts request attempt again outcome) (.reply request outcome) := by
  cases outcome with
  | ok value =>
    refine .calm [.ended request (.ok value)] rfl ?_ rfl rfl rfl
    intro s hs
    rw [List.mem_singleton.1 hs]
    exact ⟨rfl, rfl, fun client hclient => by cases hclient⟩
  | failed exc =>
    obtain ⟨new, hseen, hnew, hadapter, hfile⟩ := raise_seen maxAttempts w request attempt exc
    refine .calm new hseen ?_ hadapter hfile rfl
    intro s hs
    rw [hnew s hs]
    exact ⟨rfl, rfl, fun client hclient => by cases hclient⟩
  | unauthorized text =>
    have htwo : ∀ s s' : CodexSeen α, (w.seen ++ [s]) ++ [s'] = w.seen ++ [s, s'] := by
      intro s s'
      rw [List.append_assoc]
      rfl
    unfold answer
    dsimp only
    cases again with
    | true =>
      rw [if_pos rfl, raise_of_not_transient (isTransientError_authenticationError text)]
      exact .surfaced request true _ (htwo _ _) rfl rfl rfl
    | false =>
      rw [if_neg Bool.false_ne_true]
      rcases hreload : w.adapter.tryReloadToken w.file with ⟨reloaded, adapter⟩
      cases reloaded with
      | error exc =>
        have hkept := tryReloadToken_of_ne hreload (by simp)
        dsimp only
        rw [raise_of_not_transient (isTransientError_of_reload hreload)]
        exact .surfaced request false _ (htwo _ _) hkept rfl rfl
      | ok changed =>
        cases changed with
        | false =>
          have hkept := tryReloadToken_of_ne hreload (by simp)
          dsimp only
          rw [raise_of_not_transient (isTransientError_authenticationError text)]
          exact .surfaced request false _ (htwo _ _) hkept rfl rfl
        | true => exact .rescued request hreload (htwo _ _) rfl rfl

/-- A first call of an attempt. -/
theorem effect_call {v : CodexWorld α} (hseen : v.seen = w.seen) (hadapter : v.adapter = w.adapter)
    (hfile : v.file = w.file) (hwrite : e.isWrite = false) (request attempt : ℕ) :
    Effect w (v.call request attempt false) e := by
  refine .calm [.called request false w.adapter.client] ?_ ?_ hadapter hfile hwrite
  · unfold call
    rw [hseen, hadapter]
  · intro s hs
    rw [List.mem_singleton.1 hs]
    exact ⟨rfl, rfl, fun client hclient => (Option.some.inj hclient).symm⟩

theorem effect_self (hwrite : e.isWrite = false) : Effect w w e :=
  .calm [] (List.append_nil _).symm (fun s hs => absurd hs List.not_mem_nil) rfl rfl hwrite

/-- **What a step can do.** -/
theorem step_cases (maxAttempts : ℤ) (w : CodexWorld α) (e : CodexEvent α) :
    Effect w (w.step maxAttempts e) e := by
  cases e with
  | start =>
    unfold step enter
    dsimp only
    split
    · refine .calm [.ended _ _] rfl ?_ rfl rfl rfl
      intro s hs
      rw [List.mem_singleton.1 hs]
      exact ⟨rfl, rfl, fun client hclient => by cases hclient⟩
    · refine effect_call ?_ ?_ ?_ ?_ _ _
      all_goals rfl
  | reply request outcome =>
    unfold step
    dsimp only
    split
    · exact answer_effect request _ _ outcome
    · exact effect_self rfl
  | wake request =>
    unfold step
    dsimp only
    split
    · exact effect_call rfl rfl rfl rfl _ _
    · exact effect_self rfl
  | write file => exact .wrote file rfl rfl

/-! ## Counts -/

/-- The calls that were made again. -/
def rescues (w : CodexWorld α) : ℕ := w.seen.countP CodexSeen.isAgain

def rejections (w : CodexWorld α) : ℕ := w.seen.countP CodexSeen.isRejected

/-- The requests that ended with an error. -/
def failures (w : CodexWorld α) : ℕ := w.seen.countP CodexSeen.isFailure

/-- A rejection would change the token. -/
def stale (w : CodexWorld α) : Bool :=
  match (w.adapter.tryReloadToken w.file).1 with
  | .ok changed => changed
  | .error _ => false

theorem stale_congr (hadapter : w'.adapter = w.adapter) (hfile : w'.file = w.file) :
    w'.stale = w.stale := by
  unfold stale
  rw [hadapter, hfile]

/-- After a reload the token is the file's. -/
theorem not_stale_of_reload (h : w.adapter.tryReloadToken w.file = (.ok true, w'.adapter))
    (hfile : w'.file = w.file) : w'.stale = false := by
  obtain ⟨path, accountId, -, hload, -, hpath, -⟩ := tryReloadToken_true h
  unfold stale tryReloadToken
  rw [hfile, hpath]
  dsimp only
  rw [hload]
  dsimp only
  rw [if_pos rfl]

theorem countP_append_pair (p : CodexSeen α → Bool) (ss : List (CodexSeen α))
    (a b : CodexSeen α) :
    (ss ++ [a, b]).countP p =
      ss.countP p + ((if p a then 1 else 0) + (if p b then 1 else 0)) := by
  rw [List.countP_append, List.countP_cons, List.countP_cons, List.countP_nil]
  omega

/-- **A step rescues a call at the expense of a change of the file.** -/
theorem rescues_step (h : Effect w w' e) :
    w'.rescues + w'.stale.toNat ≤ w.rescues + w.stale.toNat + e.isWrite.toNat := by
  cases h with
  | calm new hseen hnew hadapter hfile hwrite =>
    have hnone : new.countP CodexSeen.isAgain = 0 := by
      rw [List.countP_eq_zero]
      intro s hs
      rw [(hnew s hs).1]
      exact Bool.false_ne_true
    unfold rescues
    rw [hseen, List.countP_append, hnone, stale_congr hadapter hfile]
    omega
  | wrote file heq hwrite =>
    subst heq
    have hone : ∀ b : Bool, b.toNat ≤ 1 := Bool.toNat_le
    have hevent : e.isWrite = true := by
      cases e with
      | write file => rfl
      | _ => cases hwrite
    have hbefore := hone ({ w with file := file } : CodexWorld α).stale
    rw [hevent]
    unfold rescues
    dsimp only [Bool.toNat_true]
    omega
  | surfaced request again exc hseen hadapter hfile hwrite =>
    unfold rescues
    rw [hseen, countP_append_pair, stale_congr hadapter hfile]
    simp [CodexSeen.isAgain]
  | rescued request hreload hseen hfile hwrite =>
    have hafter := not_stale_of_reload hreload hfile
    have hbefore : w.stale = true := by
      unfold stale
      rw [hreload]
    unfold rescues
    rw [hseen, countP_append_pair, hafter, hbefore]
    simp [CodexSeen.isAgain]

/-- **A rejected call is made again or ends its request.** -/
theorem rejections_step (h : Effect w w' e) :
    w'.rejections + (w.rescues + w.failures) ≤ w.rejections + (w'.rescues + w'.failures) := by
  cases h with
  | calm new hseen hnew hadapter hfile hwrite =>
    have hnone : new.countP CodexSeen.isRejected = 0 := by
      rw [List.countP_eq_zero]
      intro s hs
      rw [(hnew s hs).2.1]
      exact Bool.false_ne_true
    unfold rejections rescues failures
    rw [hseen, List.countP_append, List.countP_append, List.countP_append, hnone]
    omega
  | wrote file heq hwrite =>
    subst heq
    exact le_rfl
  | surfaced request again exc hseen hadapter hfile hwrite =>
    unfold rejections rescues failures
    rw [hseen, countP_append_pair, countP_append_pair, countP_append_pair]
    simp only [CodexSeen.isRejected, CodexSeen.isAgain, CodexSeen.isFailure, if_true,
      Bool.false_eq_true, if_false]
    omega
  | rescued request hreload hseen hfile hwrite =>
    unfold rejections rescues failures
    rw [hseen, countP_append_pair, countP_append_pair, countP_append_pair]
    simp only [CodexSeen.isRejected, CodexSeen.isAgain, CodexSeen.isFailure, if_true,
      Bool.false_eq_true, if_false]
    omega

theorem stale_iff : w.stale = true ↔ ∃ path token accountId,
    w.adapter.authJsonPath = some path ∧ loadCodexAuth path w.file = .ok (token, accountId) ∧
      token ≠ w.adapter.accessToken := by
  unfold stale
  constructor
  · intro h
    rcases hreload : w.adapter.tryReloadToken w.file with ⟨reloaded, adapter⟩
    rw [hreload] at h
    cases reloaded with
    | error exc => cases h
    | ok changed =>
      obtain rfl : changed = true := h
      obtain ⟨path, accountId, hpath, hload, hne, -⟩ := tryReloadToken_true hreload
      exact ⟨path, adapter.accessToken, accountId, hpath, hload, hne⟩
  · rintro ⟨path, token, accountId, hpath, hload, hne⟩
    unfold tryReloadToken
    rw [hpath]
    dsimp only
    rw [hload]
    dsimp only
    rw [if_neg hne]

theorem not_stale_of_reload_ne {reloaded : Except PyException Bool}
    {adapter : CodexPassthroughAdapter}
    (h : w.adapter.tryReloadToken w.file = (reloaded, adapter)) (hne : reloaded ≠ .ok true) :
    w.stale = false := by
  unfold stale
  rw [h]
  cases reloaded with
  | error exc => rfl
  | ok changed =>
    cases changed with
    | false => rfl
    | true => exact absurd rfl hne

/-- A request that ends with an error when a call of it was rejected. -/
theorem finish_rejected (w : CodexWorld α) (adapter : CodexPassthroughAdapter) {request : ℕ}
    (again : Bool) (exc : PyException) (hlt : request < w.requests.length) :
    let v : CodexWorld α :=
      { w with adapter := adapter, seen := w.seen ++ [.rejected request again] }
    (v.finish request (.error exc)).rescues = w.rescues ∧
      (v.finish request (.error exc)).requests[request]? = some (.done (.error exc)) := by
  dsimp only
  constructor
  · unfold rescues finish
    dsimp only
    rw [List.append_assoc, List.countP_append]
    rfl
  · unfold finish
    dsimp only
    rw [List.getElem?_set_self hlt]

/-- A rejected call is made again when it was the first and a reload changes the token, and ends its
request otherwise. -/
theorem step_rejected (maxAttempts : ℤ) {request attempt : ℕ} {again : Bool} {client : CodexClient}
    (hphase : w.requests[request]? = some (.calling attempt again client)) (text : String) :
    let w' := w.step maxAttempts (.reply request (.unauthorized text))
    (again = false ∧ w.stale = true) ∧ w'.rescues = w.rescues + 1 ∧
        w'.requests[request]? = some (.calling attempt true w'.adapter.client) ∨
      ¬(again = false ∧ w.stale = true) ∧ w'.rescues = w.rescues ∧
        ∃ exc, w'.requests[request]? = some (.done (.error exc)) := by
  have hlt : request < w.requests.length := (List.getElem?_eq_some_iff.1 hphase).1
  unfold step
  dsimp only
  rw [hphase]
  dsimp only
  unfold answer
  dsimp only
  cases again with
  | true =>
    -- the call has been made again once; the file is not looked at
    rw [if_pos rfl, raise_of_not_transient (isTransientError_authenticationError text)]
    have hends := finish_rejected w w.adapter true (authenticationError text) hlt
    exact .inr ⟨fun h => Bool.noConfusion h.1, hends.1, _, hends.2⟩
  | false =>
    rw [if_neg Bool.false_ne_true]
    rcases hreload : w.adapter.tryReloadToken w.file with ⟨reloaded, adapter⟩
    cases reloaded with
    | error exc =>
      -- the file cannot be read: its error ends the request, not the rejection
      have hstale := not_stale_of_reload_ne hreload (by simp)
      dsimp only
      rw [raise_of_not_transient (isTransientError_of_reload hreload), hstale]
      have hends := finish_rejected w adapter false exc hlt
      exact .inr ⟨fun h => Bool.noConfusion h.2, hends.1, _, hends.2⟩
    | ok changed =>
      cases changed with
      | false =>
        -- the file has the token that was rejected
        have hstale := not_stale_of_reload_ne hreload (by simp)
        dsimp only
        rw [raise_of_not_transient (isTransientError_authenticationError text), hstale]
        have hends := finish_rejected w adapter false (authenticationError text) hlt
        exact .inr ⟨fun h => Bool.noConfusion h.2, hends.1, _, hends.2⟩
      | true =>
        have hstale : w.stale = true := by
          unfold stale
          rw [hreload]
        refine .inl ⟨⟨rfl, hstale⟩, ?_, ?_⟩
        · unfold rescues call
          dsimp only
          rw [List.append_assoc, List.countP_append]
          rfl
        · unfold call
          dsimp only
          rw [List.getElem?_set_self hlt]

/-! ## The calls of a request -/

/-- How many calls a request may have made where it is. -/
def Fits (maxAttempts : ℤ) (n : ℕ) : Option (CodexPhase α) → Prop
  | none => n = 0
  | some (.calling attempt again _) =>
    n + (if again then 0 else 1) ≤ 2 * attempt ∧ attempt ≤ maxAttempts.toNat
  | some (.waiting attempt) => n ≤ 2 * attempt ∧ attempt < maxAttempts.toNat
  | some (.done _) => n ≤ 2 * maxAttempts.toNat

def callsOf (w : CodexWorld α) (request : ℕ) : ℕ := w.seen.countP (CodexSeen.isCallOf request)

/-- No request has made more calls than it may. -/
def Budget (maxAttempts : ℤ) (w : CodexWorld α) : Prop :=
  ∀ request, Fits maxAttempts (w.callsOf request) w.requests[request]?

variable {request attempt : ℕ}

theorem Budget.finish (h : Budget maxAttempts w) (hlt : request < w.requests.length)
    (hcalls : w.callsOf request ≤ 2 * maxAttempts.toNat) (result : Except PyException α) :
    Budget maxAttempts (w.finish request result) := by
  intro r
  have hcount : (w.finish request result).callsOf r = w.callsOf r := by
    unfold callsOf CodexWorld.finish
    rw [List.countP_append]
    rfl
  have hphase : (w.finish request result).requests[r]? =
      if request = r then some (.done result) else w.requests[r]? := by
    unfold CodexWorld.finish
    rw [List.getElem?_set]
    simp [hlt]
  rw [hcount, hphase]
  by_cases hr : request = r
  · subst hr
    rw [if_pos rfl]
    exact hcalls
  · rw [if_neg hr]
    exact h r

theorem Budget.call (h : Budget maxAttempts w) (hlt : request < w.requests.length) {again : Bool}
    (hcalls : w.callsOf request + 1 + (if again then 0 else 1) ≤ 2 * attempt)
    (hattempt : attempt ≤ maxAttempts.toNat) :
    Budget maxAttempts (w.call request attempt again) := by
  intro r
  have hcount : (w.call request attempt again).callsOf r =
      w.callsOf r + (if request = r then 1 else 0) := by
    unfold callsOf CodexWorld.call
    rw [List.countP_append, List.countP_singleton]
    simp [CodexSeen.isCallOf]
  have hphase : (w.call request attempt again).requests[r]? =
      if request = r then some (.calling attempt again w.adapter.client)
      else w.requests[r]? := by
    unfold CodexWorld.call
    rw [List.getElem?_set]
    simp [hlt]
  rw [hcount, hphase]
  by_cases hr : request = r
  · subst hr
    rw [if_pos rfl, if_pos rfl]
    exact ⟨hcalls, hattempt⟩
  · rw [if_neg hr, if_neg hr]
    exact h r

theorem Budget.raise (h : Budget maxAttempts w) (hlt : request < w.requests.length)
    (hcalls : w.callsOf request ≤ 2 * attempt) (hattempt : attempt ≤ maxAttempts.toNat)
    (exc : PyException) : Budget maxAttempts (w.raise maxAttempts request attempt exc) := by
  have hends : Budget maxAttempts (w.finish request (.error exc)) :=
    h.finish hlt (hcalls.trans (Nat.mul_le_mul_left 2 hattempt)) _
  unfold CodexWorld.raise
  split
  · exact hends
  · split
    · exact hends
    next hmore =>
      intro r
      have hphase : (w.requests.set request (.waiting attempt))[r]? =
          if request = r then some (.waiting attempt) else w.requests[r]? := by
        rw [List.getElem?_set]
        simp [hlt]
      change Fits maxAttempts (w.callsOf r) (w.requests.set request (.waiting attempt))[r]?
      rw [hphase]
      by_cases hr : request = r
      · subst hr
        rw [if_pos rfl]
        refine ⟨hcalls, ?_⟩
        omega
      · rw [if_neg hr]
        exact h r

theorem Budget.answer (h : Budget maxAttempts w) {again : Bool} {client : CodexClient}
    (hphase : w.requests[request]? = some (.calling attempt again client))
    (outcome : CodexReply α) :
    Budget maxAttempts (w.answer maxAttempts request attempt again outcome) := by
  have hlt : request < w.requests.length := (List.getElem?_eq_some_iff.1 hphase).1
  have hfits := h request
  rw [hphase] at hfits
  obtain ⟨hcalls, hattempt⟩ := hfits
  cases outcome with
  | ok value => exact h.finish hlt (by omega) _
  | failed exc => exact h.raise hlt (by omega) hattempt exc
  | unauthorized text =>
    -- a rejection is no call
    have hseen : ∀ adapter : CodexPassthroughAdapter,
        Budget maxAttempts { w with
          adapter := adapter, seen := w.seen ++ [.rejected request again] } ∧
        ∀ r, callsOf { w with
          adapter := adapter, seen := w.seen ++ [.rejected request again] } r = w.callsOf r := by
      intro adapter
      have hcount : ∀ r, (w.seen ++ [CodexSeen.rejected request again]).countP
          (CodexSeen.isCallOf r) = w.callsOf r := by
        intro r
        rw [List.countP_append]
        rfl
      refine ⟨?_, hcount⟩
      intro r
      have hfits := h r
      rw [← hcount r] at hfits
      exact hfits
    have hsome : ∀ n : ℕ, n + (if again then 0 else 1) ≤ 2 * attempt → n ≤ 2 * attempt := by
      intro n hn
      omega
    unfold CodexWorld.answer
    dsimp only
    cases again with
    | true =>
      rw [if_pos rfl]
      refine (hseen w.adapter).1.raise hlt ?_ hattempt _
      rw [(hseen w.adapter).2]
      exact hcalls
    | false =>
      rw [if_neg Bool.false_ne_true]
      rcases hreload : w.adapter.tryReloadToken w.file with ⟨reloaded, adapter⟩
      have hraise : ∀ exc, Budget maxAttempts (CodexWorld.raise maxAttempts
          { w with adapter := adapter, seen := w.seen ++ [.rejected request false] }
          request attempt exc) := by
        intro exc
        refine (hseen adapter).1.raise hlt ?_ hattempt _
        rw [(hseen adapter).2]
        exact hsome _ hcalls
      cases reloaded with
      | error exc => exact hraise exc
      | ok changed =>
        cases changed with
        | false => exact hraise _
        | true =>
          refine (hseen adapter).1.call hlt ?_ hattempt
          rw [(hseen adapter).2]
          exact hcalls

theorem Budget.enter (h : Budget maxAttempts w) : Budget maxAttempts (w.enter maxAttempts) := by
  have hnew : ∀ p q : CodexPhase α,
      (w.requests ++ [p]).set w.requests.length q = w.requests ++ [q] := by
    intro p q
    rw [List.set_append_right _ _ le_rfl, Nat.sub_self]
    rfl
  have hnone : w.callsOf w.requests.length = 0 := by
    have hfits := h w.requests.length
    rw [List.getElem?_eq_none le_rfl] at hfits
    exact hfits
  -- any phase that fits will do, since the first step of the request replaces it
  let failed : CodexPhase α := .done (.error { className := "AssertionError" })
  have hopen : Budget maxAttempts { w with requests := w.requests ++ [failed] } := by
    intro r
    change Fits maxAttempts (w.callsOf r) (w.requests ++ [failed])[r]?
    rcases lt_trichotomy r w.requests.length with hlt | rfl | hgt
    · rw [List.getElem?_append_left hlt]
      exact h r
    · rw [List.getElem?_concat_length, hnone]
      exact Nat.zero_le _
    · have hfits := h r
      rw [List.getElem?_eq_none hgt.le] at hfits
      rw [List.getElem?_eq_none (by rw [List.length_append, List.length_singleton]; omega)]
      exact hfits
  have hlt : w.requests.length < (w.requests ++ [failed]).length := by
    rw [List.length_append, List.length_singleton]
    omega
  unfold CodexWorld.enter
  dsimp only
  split
  · have hends := hopen.finish hlt (le_of_eq_of_le hnone (Nat.zero_le _))
      (.error { className := "AssertionError" })
    unfold CodexWorld.finish at hends ⊢
    dsimp only at hends ⊢
    rw [hnew] at hends ⊢
    exact hends
  next hroom =>
    have hfirst : w.callsOf w.requests.length + 1 + 1 ≤ 2 * 1 := by omega
    have hcalled : Budget maxAttempts (CodexWorld.call _ _ 1 false) :=
      hopen.call hlt hfirst (by omega)
    unfold CodexWorld.call at hcalled ⊢
    dsimp only at hcalled ⊢
    rw [hnew] at hcalled ⊢
    exact hcalled

theorem calls_le_of_fits {n : ℕ} {phase : Option (CodexPhase α)} (h : Fits maxAttempts n phase) :
    n ≤ 2 * maxAttempts.toNat := by
  match phase with
  | none => exact le_of_eq_of_le h (Nat.zero_le _)
  | some (.calling attempt again client) =>
    obtain ⟨hcalls, hattempt⟩ := h
    omega
  | some (.waiting attempt) =>
    obtain ⟨hcalls, hattempt⟩ := h
    omega
  | some (.done result) => exact h

/-- **No step lets a request make more calls than it may.** -/
theorem budget_step (h : Budget maxAttempts w) (e : CodexEvent α) :
    Budget maxAttempts (w.step maxAttempts e) := by
  cases e with
  | start => exact h.enter
  | reply request outcome =>
    unfold step
    dsimp only
    split
    next attempt again client hphase => exact h.answer hphase outcome
    · exact h
  | wake request =>
    unfold step
    dsimp only
    split
    next attempt hphase =>
      have hfits := h request
      rw [hphase] at hfits
      obtain ⟨hcalls, hattempt⟩ := hfits
      refine h.call (List.getElem?_eq_some_iff.1 hphase).1 ?_ hattempt
      simp only [Bool.false_eq_true, if_false]
      omega
    · exact h
  | write file => exact h

/-! ## Where clients come from -/

/-- What a client sends is what the adapter began with, or was read from the file. -/
def Known (adapter : CodexPassthroughAdapter) (files : List AuthFile) (client : CodexClient) :
    Prop :=
  (client.apiKey = adapter.accessToken ∨
    ∃ path ∈ adapter.authJsonPath, ∃ file ∈ files, ∃ accountId,
      loadCodexAuth path file = .ok (client.apiKey, accountId)) ∧
  (client.accountHeader = adapter.client.accountHeader ∨
    client.accountHeader ≠ none ∧ ∃ path ∈ adapter.authJsonPath, ∃ file ∈ files, ∃ token,
      loadCodexAuth path file = .ok (token, client.accountHeader))

theorem Known.mono {adapter : CodexPassthroughAdapter} {files files' : List AuthFile}
    {client : CodexClient} (h : Known adapter files client) (hsub : files ⊆ files') :
    Known adapter files' client := by
  refine ⟨h.1.imp_right ?_, h.2.imp_right ?_⟩
  · rintro ⟨path, hpath, file, hfile, hload⟩
    exact ⟨path, hpath, file, hsub hfile, hload⟩
  · rintro ⟨hsome, path, hpath, file, hfile, hload⟩
    exact ⟨hsome, path, hpath, file, hsub hfile, hload⟩

/-- The adapter is built from its fields, which come from the files so far. -/
structure Sourced (adapter : CodexPassthroughAdapter) (files : List AuthFile)
    (w : CodexWorld α) : Prop where
  built : w.adapter.client = buildClient w.adapter.accessToken w.adapter.accountId
  path : w.adapter.authJsonPath = adapter.authJsonPath
  file : w.file ∈ files
  known : Known adapter files w.adapter.client
  calls : ∀ s ∈ w.seen, ∀ client ∈ s.client?, Known adapter files client

variable {adapter : CodexPassthroughAdapter} {files : List AuthFile}

/-- A reload reads what it changes from the file. -/
theorem Sourced.reload (h : Sourced adapter files w)
    (hreload : w.adapter.tryReloadToken w.file = (.ok true, w'.adapter)) :
    w'.adapter.client = buildClient w'.adapter.accessToken w'.adapter.accountId ∧
      w'.adapter.authJsonPath = adapter.authJsonPath ∧ Known adapter files w'.adapter.client := by
  obtain ⟨path, accountId, hpath, hload, -, hpath', hbuilt, haccount⟩ :=
    tryReloadToken_true hreload
  have hstart : adapter.authJsonPath = some path := by rw [← h.path, hpath]
  refine ⟨hbuilt, by rw [hpath', hstart], ?_, ?_⟩
  · rw [hbuilt]
    exact .inr ⟨path, hstart, w.file, h.file, accountId, hload⟩
  · rw [hbuilt]
    rcases haccount with ⟨hread, hsome⟩ | hkept
    · obtain ⟨id, hid⟩ := Option.ne_none_iff_exists'.1 hsome
      have hheader : (buildClient w'.adapter.accessToken w'.adapter.accountId).accountHeader =
          w'.adapter.accountId := by
        change w'.adapter.accountId.filter (· ≠ "") = _
        rw [hid, (Option.filter_eq_some_iff.1 hid).1]
      refine .inr ⟨hsome, path, hstart, w.file, h.file, w'.adapter.accessToken, ?_⟩
      rw [hheader, hload, hread]
    · have hheader : (buildClient w'.adapter.accessToken w'.adapter.accountId).accountHeader =
          w.adapter.client.accountHeader := by
        rw [h.built, hkept]
        rfl
      rw [hheader]
      exact h.known.2

theorem sourced_step (h : Sourced adapter files w) (heffect : Effect w w' e) :
    Sourced adapter (files ++ e.file?.toList) w' := by
  have hsub : files ⊆ files ++ e.file?.toList := List.subset_append_left _ _
  cases heffect with
  | calm new hseen hnew hadapter hfile hwrite =>
    constructor
    · rw [hadapter]
      exact h.built
    · rw [hadapter]
      exact h.path
    · rw [hfile]
      exact hsub h.file
    · rw [hadapter]
      exact h.known.mono hsub
    · intro s hs client hclient
      rw [hseen] at hs
      rcases List.mem_append.1 hs with hold | hlast
      · exact (h.calls s hold client hclient).mono hsub
      · rw [(hnew s hlast).2.2 client hclient]
        exact h.known.mono hsub
  | wrote file heq hwrite =>
    subst heq
    rw [hwrite] at hsub ⊢
    exact ⟨h.built, h.path, List.mem_append_right _ (List.mem_singleton_self file),
      h.known.mono hsub, fun s hs client hclient => (h.calls s hs client hclient).mono hsub⟩
  | surfaced request again exc hseen hadapter hfile hwrite =>
    constructor
    · rw [hadapter]
      exact h.built
    · rw [hadapter]
      exact h.path
    · rw [hfile]
      exact hsub h.file
    · rw [hadapter]
      exact h.known.mono hsub
    · intro s hs client hclient
      rw [hseen] at hs
      rcases List.mem_append.1 hs with hold | hlast
      · exact (h.calls s hold client hclient).mono hsub
      · simp only [List.mem_cons, List.not_mem_nil, or_false] at hlast
        rcases hlast with rfl | rfl <;> cases hclient
  | rescued request hreload hseen hfile hwrite =>
    obtain ⟨hbuilt, hpath, hknown⟩ := h.reload hreload
    constructor
    · exact hbuilt
    · exact hpath
    · rw [hfile]
      exact hsub h.file
    · exact hknown.mono hsub
    · intro s hs client hclient
      rw [hseen] at hs
      rcases List.mem_append.1 hs with hold | hlast
      · exact (h.calls s hold client hclient).mono hsub
      · simp only [List.mem_cons, List.not_mem_nil, or_false] at hlast
        rcases hlast with rfl | rfl
        · cases hclient
        · rw [← Option.some.inj hclient]
          exact hknown.mono hsub

/-! ## Runs -/

theorem path_step (h : Effect w w' e) : w'.adapter.authJsonPath = w.adapter.authJsonPath := by
  cases h with
  | calm new hseen hnew hadapter hfile hwrite => rw [hadapter]
  | wrote file heq hwrite => rw [heq]
  | surfaced request again exc hseen hadapter hfile hwrite => rw [hadapter]
  | rescued request hreload hseen hfile hwrite =>
    obtain ⟨path, accountId, hpath, -, -, hpath', -⟩ := tryReloadToken_true hreload
    rw [hpath, hpath']

/-- Without a file there is nothing to reload. -/
theorem not_stale_of_no_path (h : w.adapter.authJsonPath = none) : w.stale = false := by
  unfold stale tryReloadToken
  rw [h]

theorem rescues_run (maxAttempts : ℤ) (events : List (CodexEvent α)) (w : CodexWorld α) :
    (run (step maxAttempts) w events).rescues + (run (step maxAttempts) w events).stale.toNat ≤
      w.rescues + w.stale.toNat + events.countP CodexEvent.isWrite := by
  induction events generalizing w with
  | nil => exact Nat.le_add_right _ _
  | cons e events ih =>
    have hone := rescues_step (step_cases maxAttempts w e)
    have hrest := ih (w.step maxAttempts e)
    have hcount : (e :: events).countP CodexEvent.isWrite =
        events.countP CodexEvent.isWrite + e.isWrite.toNat := by
      rw [List.countP_cons]
      cases e.isWrite <;> rfl
    rw [run_cons, hcount]
    omega

theorem rescues_run_of_no_path (maxAttempts : ℤ) (events : List (CodexEvent α))
    (w : CodexWorld α) (h : w.adapter.authJsonPath = none) :
    (run (step maxAttempts) w events).rescues = w.rescues := by
  induction events generalizing w with
  | nil => rfl
  | cons e events ih =>
    have heffect := step_cases maxAttempts w e
    have hpath := path_step heffect
    have hnext := ih _ (hpath.trans h)
    have hstale := not_stale_of_no_path h
    rw [run_cons, hnext]
    cases heffect with
    | calm new hseen hnew hadapter hfile hwrite =>
      have hnone : new.countP CodexSeen.isAgain = 0 := by
        rw [List.countP_eq_zero]
        intro s hs
        rw [(hnew s hs).1]
        exact Bool.false_ne_true
      unfold rescues
      rw [hseen, List.countP_append, hnone]
      rfl
    | wrote file heq hwrite => rw [heq]; rfl
    | surfaced request again exc hseen hadapter hfile hwrite =>
      unfold rescues
      rw [hseen, countP_append_pair]
      rfl
    | rescued request hreload hseen hfile hwrite =>
      unfold stale at hstale
      rw [hreload] at hstale
      cases hstale

theorem rejections_run (maxAttempts : ℤ) (events : List (CodexEvent α)) (w : CodexWorld α) :
    (run (step maxAttempts) w events).rejections + (w.rescues + w.failures) ≤
      w.rejections + ((run (step maxAttempts) w events).rescues +
        (run (step maxAttempts) w events).failures) := by
  induction events generalizing w with
  | nil => exact le_rfl
  | cons e events ih =>
    have hone := rejections_step (step_cases maxAttempts w e)
    have hrest := ih (w.step maxAttempts e)
    rw [run_cons]
    omega

theorem budget_run (events : List (CodexEvent α)) (h : Budget maxAttempts w) :
    Budget maxAttempts (run (step maxAttempts) w events) :=
  run_invariant (step maxAttempts) (Budget maxAttempts) (P := fun _ _ => True)
    (fun _ e hw _ => budget_step hw e) events w h (along_of_forall (fun _ _ => trivial) events w)

theorem sourced_run (maxAttempts : ℤ) {adapter : CodexPassthroughAdapter}
    (events : List (CodexEvent α)) {files : List AuthFile} {w : CodexWorld α}
    (h : Sourced adapter files w) :
    Sourced adapter (files ++ events.filterMap CodexEvent.file?)
      (run (step maxAttempts) w events) := by
  induction events generalizing w files with
  | nil =>
    rw [List.filterMap_nil, List.append_nil]
    exact h
  | cons e events ih =>
    have hnext := ih (sourced_step h (step_cases maxAttempts w e))
    have hsplit : (e :: events).filterMap CodexEvent.file? =
        e.file?.toList ++ events.filterMap CodexEvent.file? := by
      rw [List.filterMap_cons]
      cases e.file? <;> rfl
    rw [hsplit, ← List.append_assoc]
    exact hnext

end CodexWorld

/-! ## The adapter at the start -/

namespace CodexPassthroughAdapter

variable {accessToken accountId authJsonPath environToken : Option String} {file : AuthFile}
  {adapter : CodexPassthroughAdapter}

theorem eq_of_create
    (h : create accessToken accountId authJsonPath environToken file = .ok adapter) :
    ∃ token resolved,
      resolveToken accessToken accountId authJsonPath environToken file = .ok (token, resolved) ∧
      adapter = {
        accessToken := token
        accountId := resolved
        authJsonPath := authJsonPath.filter (· ≠ "")
        client := buildClient token resolved } := by
  unfold create at h
  cases hresolve : resolveToken accessToken accountId authJsonPath environToken file with
  | error exc =>
    rw [hresolve] at h
    cases h
  | ok read =>
    obtain ⟨token, resolved⟩ := read
    rw [hresolve] at h
    change (if (!token.truthy) = true then _ else _) = _ at h
    split at h
    · cases h
    · exact ⟨token, resolved, rfl, (Except.ok.inj h).symm⟩

theorem load_of_resolveToken {path : String} {token : Json} {resolved : Option String}
    (h : resolveToken none accountId (some path) environToken file = .ok (token, resolved)) :
    ∃ fileAccountId, loadCodexAuth path file = .ok (token, fileAccountId) := by
  cases hload : loadCodexAuth path file with
  | error exc =>
    change loadCodexAuth path file >>= _ = _ at h
    rw [hload] at h
    cases h
  | ok read =>
    obtain ⟨token', fileAccountId⟩ := read
    change loadCodexAuth path file >>= _ = _ at h
    rw [hload] at h
    exact ⟨fileAccountId, by rw [(Prod.mk.inj (Except.ok.inj h)).1]⟩

/-- The token of a new adapter that was given none is the file's. -/
theorem not_stale_of_create (α : Type)
    (h : create none accountId authJsonPath environToken file = .ok adapter) :
    CodexWorld.stale ({ adapter := adapter, file := file } : CodexWorld α) = false := by
  obtain ⟨token, resolved, hresolve, rfl⟩ := eq_of_create h
  cases hpath : authJsonPath.filter (· ≠ "") with
  | none => exact CodexWorld.not_stale_of_no_path rfl
  | some path =>
    obtain rfl := (Option.filter_eq_some_iff.1 hpath).1
    obtain ⟨fileAccountId, hload⟩ := load_of_resolveToken hresolve
    unfold CodexWorld.stale tryReloadToken
    dsimp only
    rw [hload]
    dsimp only
    rw [if_pos rfl]

end CodexPassthroughAdapter

open CodexWorld CodexPassthroughAdapter in
/-- **Tokens that rotate under concurrent requests.** Whatever the order of requests, answers and
changes of the file: what is sent is what the adapter was built with or was read from the file; a
request makes at most two calls for each attempt; each change of the file rescues at most one
rejected call. A rejected call is made again exactly when it is the first of its attempt and the
file has another token than the adapter has by then; every other rejected call ends its request. -/
theorem codex_token_rotation {accessToken accountId authJsonPath environToken : Option String}
    {file : AuthFile} {adapter : CodexPassthroughAdapter}
    (hcreate : create accessToken accountId authJsonPath environToken file = .ok adapter)
    (maxAttempts : ℤ) (events : List (CodexEvent α)) :
    let w := run (step maxAttempts) { adapter := adapter, file := file } events
    (∀ s ∈ w.seen, ∀ client ∈ s.client?,
      Known adapter (file :: events.filterMap CodexEvent.file?) client) ∧
    (∀ request, w.callsOf request ≤ 2 * maxAttempts.toNat) ∧
    w.rescues ≤ (if adapter.authJsonPath = none then 0
      else events.countP CodexEvent.isWrite + (if accessToken = none then 0 else 1)) ∧
    w.rejections ≤ w.rescues + w.failures ∧
    ∀ request attempt again client text,
      w.requests[request]? = some (.calling attempt again client) →
      let w' := w.step maxAttempts (.reply request (.unauthorized text))
      (w'.rescues = w.rescues + 1 ↔ again = false ∧
        ∃ path token accountId, w.adapter.authJsonPath = some path ∧
          loadCodexAuth path w.file = .ok (token, accountId) ∧
          token ≠ w.adapter.accessToken) ∧
      (w'.rescues = w.rescues + 1 ∧
          w'.requests[request]? = some (.calling attempt true w'.adapter.client) ∨
        w'.rescues = w.rescues ∧ ∃ exc, w'.requests[request]? = some (.done (.error exc))) := by
  dsimp only
  have hstart : Sourced adapter [file] ({ adapter := adapter, file := file } : CodexWorld α) := by
    obtain ⟨token, resolved, -, rfl⟩ := eq_of_create hcreate
    exact ⟨rfl, rfl, List.mem_singleton_self file, ⟨.inl rfl, .inl rfl⟩,
      fun s hs => absurd hs List.not_mem_nil⟩
  refine ⟨(sourced_run maxAttempts events hstart).calls, ?_, ?_, ?_, ?_⟩
  · intro request
    have hbudget : Budget maxAttempts
        ({ adapter := adapter, file := file } : CodexWorld α) := fun r => rfl
    exact calls_le_of_fits (budget_run events hbudget request)
  · have hrun := rescues_run maxAttempts events
      ({ adapter := adapter, file := file } : CodexWorld α)
    split
    next hpath =>
      exact (rescues_run_of_no_path maxAttempts events _ hpath).le
    · have hbefore : ({ adapter := adapter, file := file } : CodexWorld α).rescues = 0 := rfl
      split
      next htoken =>
        subst htoken
        have hstale := not_stale_of_create α hcreate
        rw [hbefore, hstale, Bool.toNat_false] at hrun
        omega
      · have hone : ({ adapter := adapter, file := file } : CodexWorld α).stale.toNat ≤ 1 :=
          Bool.toNat_le _
        rw [hbefore] at hrun
        omega
  · have hrun := rejections_run maxAttempts events
      ({ adapter := adapter, file := file } : CodexWorld α)
    have hzero : ({ adapter := adapter, file := file } : CodexWorld α).rejections = 0 := rfl
    rw [hzero] at hrun
    omega
  · intro request attempt again client text hphase
    rw [← stale_iff]
    rcases step_rejected maxAttempts hphase text with
      ⟨hmade, hrescues, hcalls⟩ | ⟨hnot, hrescues, hends⟩
    · exact ⟨iff_of_true hrescues hmade, .inl ⟨hrescues, hcalls⟩⟩
    · refine ⟨iff_of_false (fun h => ?_) hnot, .inr ⟨hrescues, hends⟩⟩
      rw [hrescues] at h
      omega

/-! ## One rotation under two requests -/

/-- The file with a token. -/
def authFile (token : String) : AuthFile :=
  .json (.obj [("tokens", .obj [("access_token", .str token)]), ("account_id", .str "acct")])

/-- The adapter that is built from the file. -/
def builtAdapter : CodexPassthroughAdapter where
  accessToken := .str "old"
  accountId := some "acct"
  authJsonPath := some "auth.json"
  client := CodexPassthroughAdapter.buildClient (.str "old") (some "acct")

/-- Two requests are rejected after the CLI rotated the token. -/
def rotatedOnce : List (CodexEvent Unit) :=
  [.start, .start, .write (authFile "new"), .reply 0 (.unauthorized "expired"),
    .reply 1 (.unauthorized "expired"), .reply 0 (.ok ())]

/-- The first of them is rescued and the second is not. -/
example :
    ((run (CodexWorld.step 3) { adapter := builtAdapter, file := authFile "old" }
        rotatedOnce).rescues,
      (run (CodexWorld.step 3) { adapter := builtAdapter, file := authFile "old" }
        rotatedOnce).failures) = (1, 1) := by decide

theorem builtAdapter_created :
    CodexPassthroughAdapter.create none none (some "auth.json") none (authFile "old") =
      .ok builtAdapter := rfl

open CodexWorld CodexPassthroughAdapter in
theorem codex_token_rotation_once :
    let w := run (step 3) { adapter := builtAdapter, file := authFile "old" } rotatedOnce
    (∀ s ∈ w.seen, ∀ client ∈ s.client?,
      Known builtAdapter (authFile "old" :: rotatedOnce.filterMap CodexEvent.file?) client) ∧
    (∀ request, w.callsOf request ≤ 2 * (3 : ℤ).toNat) ∧
    w.rescues ≤ (if builtAdapter.authJsonPath = none then 0
      else rotatedOnce.countP CodexEvent.isWrite + (if (none : Option String) = none then 0 else 1)) ∧
    w.rejections ≤ w.rescues + w.failures ∧
    ∀ request attempt again client text,
      w.requests[request]? = some (.calling attempt again client) →
      let w' := w.step 3 (.reply request (.unauthorized text))
      (w'.rescues = w.rescues + 1 ↔ again = false ∧
        ∃ path token accountId, w.adapter.authJsonPath = some path ∧
          loadCodexAuth path w.file = .ok (token, accountId) ∧
          token ≠ w.adapter.accessToken) ∧
      (w'.rescues = w.rescues + 1 ∧
          w'.requests[request]? = some (.calling attempt true w'.adapter.client) ∨
        w'.rescues = w.rescues ∧ ∃ exc, w'.requests[request]? = some (.done (.error exc))) :=
  codex_token_rotation builtAdapter_created 3 rotatedOnce

end ModelMeld
