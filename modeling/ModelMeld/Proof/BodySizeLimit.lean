import ModelMeld.Spec.BodySizeLimit
import Mathlib.Algebra.BigOperators.Group.List.Basic
import Mathlib.Algebra.GroupWithZero.Nat

/-!
# The body-size limit answers once

`body_limit_answers_once_iff`: without a Content-Length header, a request is answered once and
within its limit iff the body stays within the limit and the application starts one response, or
the body crosses the limit before the application starts one and the application is silent
afterwards. The refusal shares `send` with the application, and nothing stops the application.
-/

namespace ModelMeld

/-! ## What the steps ask for -/

namespace BodyStep

/-- The body bytes the server hands over. -/
def bytes : BodyStep → ℕ
  | .answer m => m.bytes.length
  | _ => 0

/-- What the application sends. -/
def appSend? : BodyStep → Option SendMessage
  | .send m => some m
  | _ => none

/-- The server hands over a part of the body. -/
def handsOver : BodyStep → Bool
  | .answer (.request _ _) => true
  | _ => false

/-- What a step within the limit sends. -/
def sends (maxBytes : ℤ) : BodyStep → List (Sender × SendMessage)
  | .send m => [(.app, m)]
  | .refuse => [(.middleware, refusalEnd maxBytes)]
  | _ => []

end BodyStep

def SendMessage.isStart : SendMessage → Bool
  | .start _ _ => true
  | .body _ _ => false

def bodyBytes (steps : List BodyStep) : ℕ := (steps.map BodyStep.bytes).sum

def appSends (steps : List BodyStep) : List SendMessage := steps.filterMap BodyStep.appSend?

def appStarts (steps : List BodyStep) : ℕ := (appSends steps).countP SendMessage.isStart

def handOvers (steps : List BodyStep) : ℕ := steps.countP BodyStep.handsOver

section Steps

variable (e : BodyStep) (rest : List BodyStep)

@[simp] theorem bodyBytes_nil : bodyBytes [] = 0 := rfl

@[simp] theorem bodyBytes_cons : bodyBytes (e :: rest) = e.bytes + bodyBytes rest := rfl

theorem bodyBytes_append (before after : List BodyStep) :
    bodyBytes (before ++ after) = bodyBytes before + bodyBytes after := by
  simp [bodyBytes]

theorem appSends_cons : appSends (e :: rest) = e.appSend?.toList ++ appSends rest := by
  unfold appSends
  cases hsend : e.appSend? with
  | none => simp [hsend]
  | some m => simp [hsend]

@[simp] theorem appStarts_cons :
    appStarts (e :: rest) = (e.appSend?.toList.countP SendMessage.isStart) + appStarts rest := by
  unfold appStarts
  rw [appSends_cons, List.countP_append]

@[simp] theorem handOvers_cons :
    handOvers (e :: rest) = (if e.handsOver then 1 else 0) + handOvers rest := by
  unfold handOvers
  rw [List.countP_cons, Nat.add_comm]

theorem appStarts_eq_zero_of_silent {steps : List BodyStep} (h : appSends steps = []) :
    appStarts steps = 0 := by
  unfold appStarts
  rw [h]
  rfl

end Steps

namespace BodyStep

variable {e : BodyStep}

theorem appSend?_of_handsOver (h : e.handsOver = true) : e.appSend? = none := by
  cases e with
  | answer m => rfl
  | _ => simp [handsOver] at h

theorem bytes_of_not_handsOver (h : e.handsOver = false) : e.bytes = 0 := by
  cases e with
  | answer m =>
    cases m with
    | request body more => simp [handsOver] at h
    | disconnect => rfl
  | _ => rfl

theorem starts_sends (maxBytes : ℤ) (e : BodyStep) :
    (e.sends maxBytes).countP (fun m => m.2.isStart) =
      e.appSend?.toList.countP SendMessage.isStart := by
  cases e with
  | send m => simp [sends, appSend?, List.countP_cons]
  | refuse => simp [sends, appSend?, refusalEnd, SendMessage.isStart]
  | _ => rfl

theorem app_mem_sends {maxBytes : ℤ} {m : SendMessage} :
    (.app, m) ∈ e.sends maxBytes ↔ m ∈ e.appSend?.toList := by
  cases e with
  | send n => simp [sends, appSend?]
  | _ => simp [sends, appSend?]

theorem refusalStart_not_mem_sends {maxBytes : ℤ} :
    (.middleware, refusalStart maxBytes) ∉ e.sends maxBytes := by
  cases e with
  | refuse => simp [sends, refusalStart, refusalEnd]
  | _ => simp [sends]

end BodyStep

/-! ## What is exchanged -/

namespace Exchanged

/-- The body bytes that reach the application. -/
def bytes (x : Exchanged) : ℕ := (x.delivered.map (fun m => m.bytes.length)).sum

/-- The responses started at the server. -/
def starts (x : Exchanged) : ℕ := x.sent.countP (fun m => m.2.isStart)

variable (x y : Exchanged)

@[simp] theorem bytes_append : (x.append y).bytes = x.bytes + y.bytes := by
  simp [bytes, append]

@[simp] theorem starts_append : (x.append y).starts = x.starts + y.starts := by
  simp [starts, append]

@[simp] theorem sent_append : (x.append y).sent = x.sent ++ y.sent := rfl

/-- Nothing is delivered beyond the limit, one response is started at most, and nothing of the
application follows a refusal. -/
structure AnswersOnce (maxBytes : ℤ) (x : Exchanged) : Prop where
  within : (x.bytes : ℤ) ≤ maxBytes
  once : x.starts ≤ 1
  silent : ∀ before after m,
    x.sent = before ++ (.middleware, refusalStart maxBytes) :: after → (.app, m) ∉ after

end Exchanged

namespace CountingReceive

variable {maxBytes : ℤ} {s s' : CountingReceive} {steps : List BodyStep} {x : Exchanged}

/-! ## One step -/

/-- The step takes the body over the limit, or over it once more. -/
def Crosses (maxBytes : ℤ) (s : CountingReceive) (e : BodyStep) : Prop :=
  e.handsOver = true ∧ maxBytes < ((s.total + e.bytes : ℕ) : ℤ)

/-- What a step does: a part that crosses the limit is answered by a refusal and kept back, and
everything else is handed on. -/
theorem step_cases {e : BodyStep} (h : step maxBytes s e = some (x, s')) :
    s'.total = s.total + e.bytes ∧
      ((Crosses maxBytes s e ∧
          x = { sent := [(.middleware, refusalStart maxBytes)] }) ∨
        (¬Crosses maxBytes s e ∧ x.sent = e.sends maxBytes ∧ x.bytes = e.bytes)) := by
  cases e with
  | receive =>
    have hquiet : ¬Crosses maxBytes s .receive := fun hcross => Bool.false_ne_true hcross.1
    by_cases hhit : s.limitHit = true
    · simp only [step, if_pos hhit, Option.some.injEq, Prod.mk.injEq] at h
      obtain ⟨rfl, rfl⟩ := h
      exact ⟨rfl, .inr ⟨hquiet, rfl, rfl⟩⟩
    · simp only [step, if_neg hhit, Option.some.injEq, Prod.mk.injEq] at h
      obtain ⟨rfl, rfl⟩ := h
      exact ⟨rfl, .inr ⟨hquiet, rfl, rfl⟩⟩
  | send m =>
    have hquiet : ¬Crosses maxBytes s (.send m) := fun hcross => Bool.false_ne_true hcross.1
    simp only [step, Option.some.injEq, Prod.mk.injEq] at h
    obtain ⟨rfl, rfl⟩ := h
    exact ⟨rfl, .inr ⟨hquiet, rfl, rfl⟩⟩
  | refuse =>
    have hquiet : ¬Crosses maxBytes s .refuse := fun hcross => Bool.false_ne_true hcross.1
    by_cases hclose : s.closing = 0
    · simp [step, hclose] at h
    simp only [step, if_neg hclose, Option.some.injEq, Prod.mk.injEq] at h
    obtain ⟨rfl, rfl⟩ := h
    exact ⟨rfl, .inr ⟨hquiet, rfl, rfl⟩⟩
  | answer m =>
    by_cases hwait : s.waiting = 0
    · simp [step, hwait] at h
    simp only [step, if_neg hwait, Option.some.injEq] at h
    cases m with
    | disconnect =>
      have hquiet : ¬Crosses maxBytes s (.answer .disconnect) :=
        fun hcross => Bool.false_ne_true hcross.1
      simp only [count, Prod.mk.injEq] at h
      obtain ⟨rfl, rfl⟩ := h
      exact ⟨rfl, .inr ⟨hquiet, rfl, rfl⟩⟩
    | request body more =>
      by_cases hover : maxBytes < ((s.total + (body.getD []).length : ℕ) : ℤ)
      · simp only [count, if_pos hover, Prod.mk.injEq] at h
        obtain ⟨rfl, rfl⟩ := h
        exact ⟨rfl, .inl ⟨⟨rfl, hover⟩, rfl⟩⟩
      · simp only [count, if_neg hover, Prod.mk.injEq] at h
        obtain ⟨rfl, rfl⟩ := h
        exact ⟨rfl, .inr ⟨fun hcross => hover hcross.2, rfl,
          by simp [Exchanged.bytes, BodyStep.bytes]⟩⟩

/-! ## A run -/

theorem run_cons {e : BodyStep} {rest : List BodyStep}
    (h : run maxBytes s (e :: rest) = some (x, s')) :
    ∃ now mid later, step maxBytes s e = some (now, mid) ∧
      run maxBytes mid rest = some (later, s') ∧ x = now.append later := by
  unfold run at h
  simp only [Option.bind_eq_bind, Option.bind_eq_some_iff, Option.pure_def, Option.some.injEq,
    Prod.mk.injEq] at h
  obtain ⟨⟨now, mid⟩, hstep, ⟨later, last⟩, hrun, rfl, rfl⟩ := h
  exact ⟨now, mid, later, hstep, hrun, rfl⟩

/-- The run of a list in two parts. -/
theorem run_append : ∀ {before : List BodyStep} {s : CountingReceive} {x : Exchanged}
    {after : List BodyStep}, run maxBytes s (before ++ after) = some (x, s') →
      ∃ first mid second, run maxBytes s before = some (first, mid) ∧
        run maxBytes mid after = some (second, s') ∧ x = first.append second := by
  intro before
  induction before with
  | nil =>
    intro s x after h
    exact ⟨{}, s, x, rfl, h, rfl⟩
  | cons e before ih =>
    intro s x after h
    obtain ⟨now, mid, later, hstep, hrun, rfl⟩ := run_cons h
    obtain ⟨first, last, second, hfirst, hsecond, rfl⟩ := ih hrun
    refine ⟨now.append first, last, second, ?_, hsecond, ?_⟩
    · unfold run
      simp [hstep, hfirst]
    · simp [Exchanged.append]

/-- As long as the body stays within the limit, everything is handed on. -/
theorem run_under : ∀ {steps : List BodyStep} {s : CountingReceive} {x : Exchanged},
    run maxBytes s steps = some (x, s') → ((s.total + bodyBytes steps : ℕ) : ℤ) ≤ maxBytes →
      s'.total = s.total + bodyBytes steps ∧ x.bytes = bodyBytes steps ∧
        x.sent = steps.flatMap (BodyStep.sends maxBytes) := by
  intro steps
  induction steps with
  | nil =>
    intro s x h _
    simp only [run, Option.some.injEq, Prod.mk.injEq] at h
    obtain ⟨rfl, rfl⟩ := h
    exact ⟨rfl, rfl, rfl⟩
  | cons e rest ih =>
    intro s x h hwithin
    obtain ⟨now, mid, later, hstep, hrun, rfl⟩ := run_cons h
    obtain ⟨htotal, hnow⟩ := step_cases hstep
    rw [bodyBytes_cons] at hwithin ⊢
    obtain ⟨hlast, hbytes, hsent⟩ := ih hrun (by rw [htotal]; push_cast at hwithin ⊢; omega)
    rcases hnow with ⟨⟨_, hover⟩, _⟩ | ⟨_, hnowSent, hnowBytes⟩
    · push_cast at hover hwithin
      omega
    · refine ⟨by omega, ?_, ?_⟩
      · rw [Exchanged.bytes_append, hnowBytes, hbytes]
      · rw [Exchanged.sent_append, hnowSent, hsent, List.flatMap_cons]

/-- Over the limit no body is delivered, every further part is refused again, and what the
application sends goes out. -/
theorem run_over : ∀ {steps : List BodyStep} {s : CountingReceive} {x : Exchanged},
    run maxBytes s steps = some (x, s') → maxBytes < (s.total : ℤ) →
      x.bytes = 0 ∧ x.starts = appStarts steps + handOvers steps ∧
        ∀ m, (.app, m) ∈ x.sent ↔ m ∈ appSends steps := by
  intro steps
  induction steps with
  | nil =>
    intro s x h _
    simp only [run, Option.some.injEq, Prod.mk.injEq] at h
    obtain ⟨rfl, rfl⟩ := h
    exact ⟨rfl, rfl, by simp [appSends]⟩
  | cons e rest ih =>
    intro s x h hover
    obtain ⟨now, mid, later, hstep, hrun, rfl⟩ := run_cons h
    obtain ⟨htotal, hnow⟩ := step_cases hstep
    obtain ⟨hbytes, hstarts, hsent⟩ := ih hrun (by rw [htotal]; push_cast; omega)
    rcases hnow with ⟨⟨hhands, _⟩, rfl⟩ | ⟨hquiet, hnowSent, hnowBytes⟩
    · have hsilent : e.appSend? = none := BodyStep.appSend?_of_handsOver hhands
      refine ⟨by rw [Exchanged.bytes_append, hbytes]; rfl, ?_, ?_⟩
      · rw [Exchanged.starts_append, hstarts, appStarts_cons, handOvers_cons, hhands, hsilent]
        simp [Exchanged.starts, refusalStart, SendMessage.isStart]
        omega
      · intro m
        rw [Exchanged.sent_append, appSends_cons, hsilent]
        simpa using hsent m
    · have hhands : e.handsOver = false := by
        rcases Bool.eq_false_or_eq_true e.handsOver with h' | h'
        · exact absurd ⟨h', by push_cast; omega⟩ hquiet
        · exact h'
      refine ⟨?_, ?_, ?_⟩
      · rw [Exchanged.bytes_append, hbytes, hnowBytes, BodyStep.bytes_of_not_handsOver hhands]
      · rw [Exchanged.starts_append, hstarts, appStarts_cons, handOvers_cons, hhands]
        unfold Exchanged.starts
        rw [hnowSent, BodyStep.starts_sends]
        simp
        omega
      · intro m
        rw [Exchanged.sent_append, hnowSent, appSends_cons, List.mem_append, List.mem_append,
          hsent m, BodyStep.app_mem_sends]

/-- A run in which one part takes the body over the limit. -/
theorem run_crossing {before after : List BodyStep} {body : Option Bytes} {more : Bool}
    (h : run maxBytes s (before ++ .answer (.request body more) :: after) = some (x, s'))
    (hbefore : ((s.total + bodyBytes before : ℕ) : ℤ) ≤ maxBytes)
    (hover : maxBytes < ((s.total + bodyBytes before + (body.getD []).length : ℕ) : ℤ)) :
    ∃ later : Exchanged,
      x.sent = before.flatMap (BodyStep.sends maxBytes) ++
        (.middleware, refusalStart maxBytes) :: later.sent ∧
      x.bytes = bodyBytes before ∧ later.starts = appStarts after + handOvers after ∧
      ∀ m, (.app, m) ∈ later.sent ↔ m ∈ appSends after := by
  obtain ⟨first, mid, second, hfirst, hsecond, rfl⟩ := run_append h
  obtain ⟨now, last, later, hstep, hlater, rfl⟩ := run_cons hsecond
  obtain ⟨hmid, hfirstBytes, hfirstSent⟩ := run_under hfirst hbefore
  obtain ⟨hlast, ⟨_, rfl⟩ | ⟨hquiet, _⟩⟩ := step_cases hstep
  · have hlastOver : maxBytes < (last.total : ℤ) := by
      rw [hlast, hmid]
      exact hover
    obtain ⟨hbytes, hstarts, hsent⟩ := run_over hlater hlastOver
    refine ⟨later, ?_, ?_, hstarts, hsent⟩
    · rw [Exchanged.sent_append, Exchanged.sent_append, hfirstSent]
      rfl
    · rw [Exchanged.bytes_append, Exchanged.bytes_append, hfirstBytes, hbytes]
      rfl
  · exact absurd ⟨rfl, by rw [hmid]; exact hover⟩ hquiet

end CountingReceive

/-! ## The whole request -/

/-- A body over the limit has a part that takes it there. -/
theorem exists_crossing {maxBytes : ℤ} : ∀ (steps : List BodyStep) (total : ℕ),
    (total : ℤ) ≤ maxBytes → maxBytes < ((total + bodyBytes steps : ℕ) : ℤ) →
      ∃ before body more after, steps = before ++ .answer (.request body more) :: after ∧
        ((total + bodyBytes before : ℕ) : ℤ) ≤ maxBytes ∧
        maxBytes < ((total + bodyBytes before + (body.getD []).length : ℕ) : ℤ) := by
  intro steps
  induction steps with
  | nil =>
    intro total hwithin hover
    simp only [bodyBytes_nil, Nat.add_zero] at hover
    omega
  | cons e rest ih =>
    intro total hwithin hover
    rw [bodyBytes_cons, ← Nat.add_assoc] at hover
    by_cases hnow : maxBytes < ((total + e.bytes : ℕ) : ℤ)
    · have hhands : e.handsOver = true := by
        by_contra hquiet
        rw [BodyStep.bytes_of_not_handsOver (by simpa using hquiet)] at hnow
        omega
      cases e with
      | answer m =>
        cases m with
        | request body more => exact ⟨[], body, more, rest, rfl, hwithin, hnow⟩
        | disconnect => simp [BodyStep.handsOver] at hhands
      | _ => simp [BodyStep.handsOver] at hhands
    · obtain ⟨before, body, more, after, rfl, hbefore, hcross⟩ :=
        ih (total + e.bytes) (by omega) hover
      refine ⟨e :: before, body, more, after, rfl, ?_, ?_⟩
      · rw [bodyBytes_cons, ← Nat.add_assoc]
        exact hbefore
      · rw [bodyBytes_cons, ← Nat.add_assoc]
        exact hcross

/-- The messages after a list's only occurrence of one of them. -/
theorem mem_after_of_append_eq {α : Type*} {a : α} {before after before' after' : List α}
    (h : before ++ a :: after = before' ++ a :: after') (ha : a ∉ before) {b : α}
    (hb : b ∈ after') : b ∈ after := by
  rcases List.append_eq_append_iff.1 h with ⟨mid, rfl, hmid⟩ | ⟨mid, rfl, hmid⟩
  · cases mid with
    | nil =>
      rw [List.nil_append, List.cons.injEq] at hmid
      rw [hmid.2]
      exact hb
    | cons c mid =>
      rw [List.cons_append, List.cons.injEq] at hmid
      rw [hmid.2]
      exact List.mem_append_right _ (List.mem_cons_of_mem _ hb)
  · cases mid with
    | nil =>
      rw [List.nil_append, List.cons.injEq] at hmid
      rw [← hmid.2]
      exact hb
    | cons c mid =>
      rw [List.cons_append, List.cons.injEq] at hmid
      exact absurd (List.mem_append_right _ (by simp [hmid.1])) ha

theorem starts_flatMap_sends (maxBytes : ℤ) (steps : List BodyStep) :
    (steps.flatMap (BodyStep.sends maxBytes)).countP (fun m => m.2.isStart) =
      appStarts steps := by
  induction steps with
  | nil => rfl
  | cons e rest ih =>
    rw [List.flatMap_cons, List.countP_append, BodyStep.starts_sends, ih, appStarts_cons]

theorem refusalStart_not_mem (maxBytes : ℤ) (steps : List BodyStep) :
    (.middleware, refusalStart maxBytes) ∉ steps.flatMap (BodyStep.sends maxBytes) := by
  intro hmem
  obtain ⟨e, _, he⟩ := List.mem_flatMap.1 hmem
  exact BodyStep.refusalStart_not_mem_sends he

/-- The application and the server keep to one answer: the body stays within the limit and one
response is started at most, or the body is cut before any is started, and then the application
sends nothing and no further part is handed over. -/
def OneAnswer (maxBytes : ℤ) (steps : List BodyStep) : Prop :=
  0 ≤ maxBytes ∧
    (((bodyBytes steps : ℤ) ≤ maxBytes ∧ appStarts steps ≤ 1) ∨
      ∃ before body more after, steps = before ++ .answer (.request body more) :: after ∧
        (bodyBytes before : ℤ) ≤ maxBytes ∧
        maxBytes < ((bodyBytes before + (body.getD []).length : ℕ) : ℤ) ∧
        appStarts before = 0 ∧ appSends after = [] ∧ handOvers after = 0)

section Requests

variable {maxBytes : ℤ} {s' : CountingReceive} {x : Exchanged} {steps : List BodyStep}

theorem answersOnce_under (h : CountingReceive.run maxBytes {} steps = some (x, s'))
    (hwithin : (bodyBytes steps : ℤ) ≤ maxBytes) :
    x.AnswersOnce maxBytes ↔ appStarts steps ≤ 1 := by
  obtain ⟨_, hbytes, hsent⟩ := CountingReceive.run_under h (by simpa using hwithin)
  have hstarts : x.starts = appStarts steps := by
    unfold Exchanged.starts
    rw [hsent, starts_flatMap_sends]
  constructor
  · intro honce
    rw [← hstarts]
    exact honce.once
  · intro hone
    refine ⟨by rw [hbytes]; exact hwithin, by rw [hstarts]; exact hone, ?_⟩
    intro before after m hsplit
    -- there is no refusal
    have hmem : (.middleware, refusalStart maxBytes) ∈ x.sent := by
      rw [hsplit]
      exact List.mem_append_right _ List.mem_cons_self
    rw [hsent] at hmem
    exact absurd hmem (refusalStart_not_mem maxBytes steps)

theorem answersOnce_crossing {before after : List BodyStep} {body : Option Bytes} {more : Bool}
    (h : CountingReceive.run maxBytes {} (before ++ .answer (.request body more) :: after) =
      some (x, s'))
    (hbefore : (bodyBytes before : ℤ) ≤ maxBytes)
    (hover : maxBytes < ((bodyBytes before + (body.getD []).length : ℕ) : ℤ)) :
    x.AnswersOnce maxBytes ↔
      appStarts before = 0 ∧ appSends after = [] ∧ handOvers after = 0 := by
  obtain ⟨later, hsent, hbytes, hstarts, hlater⟩ :=
    CountingReceive.run_crossing h (by simpa using hbefore) (by simpa using hover)
  have hcount : x.starts = appStarts before + 1 + (appStarts after + handOvers after) := by
    unfold Exchanged.starts at hstarts ⊢
    rw [hsent, List.countP_append, List.countP_cons, starts_flatMap_sends, hstarts]
    simp [refusalStart, SendMessage.isStart]
    omega
  constructor
  · intro honce
    have hone := honce.once
    refine ⟨by omega, ?_, by omega⟩
    refine List.eq_nil_iff_forall_not_mem.2 ?_
    intro m hm
    exact honce.silent _ _ m hsent ((hlater m).2 hm)
  · rintro ⟨hnone, hsilent, hlast⟩
    have hstarted := appStarts_eq_zero_of_silent hsilent
    refine ⟨by rw [hbytes]; exact hbefore, by omega, ?_⟩
    intro before' after' m hsplit hm
    have hmem := mem_after_of_append_eq (hsent.symm.trans hsplit)
      (refusalStart_not_mem maxBytes before) hm
    rw [hlater m, hsilent] at hmem
    exact List.not_mem_nil hmem

theorem answersOnce_iff (h : CountingReceive.run maxBytes {} steps = some (x, s')) :
    x.AnswersOnce maxBytes ↔ OneAnswer maxBytes steps := by
  by_cases hlimit : 0 ≤ maxBytes
  · by_cases hwithin : (bodyBytes steps : ℤ) ≤ maxBytes
    · rw [answersOnce_under h hwithin]
      constructor
      · intro hone
        exact ⟨hlimit, .inl ⟨hwithin, hone⟩⟩
      · rintro ⟨_, ⟨_, hone⟩ | ⟨before, body, more, after, rfl, _, hover, _⟩⟩
        · exact hone
        · rw [bodyBytes_append, bodyBytes_cons] at hwithin
          change ((bodyBytes before + ((body.getD []).length + bodyBytes after) : ℕ) : ℤ) ≤ _
            at hwithin
          omega
    · constructor
      · intro honce
        obtain ⟨before, body, more, after, rfl, hbefore, hover⟩ :=
          exists_crossing steps 0 (by simpa using hlimit) (by rw [Nat.zero_add]; omega)
        rw [Nat.zero_add] at hbefore hover
        obtain ⟨hnone, hsilent, hlast⟩ := (answersOnce_crossing h hbefore hover).1 honce
        exact ⟨hlimit, .inr ⟨before, body, more, after, rfl, hbefore, hover, hnone, hsilent,
          hlast⟩⟩
      · rintro ⟨_, ⟨hwithin', _⟩ | ⟨before, body, more, after, rfl, hbefore, hover, hquiet⟩⟩
        · exact absurd hwithin' hwithin
        · exact (answersOnce_crossing h hbefore hover).2 hquiet
  · constructor
    · intro honce
      have hbytes := honce.within
      omega
    · intro hone
      exact absurd hone.1 hlimit

end Requests

/-- Without a Content-Length header the body is counted. -/
theorem call_counted (mw : BodySizeLimitMiddleware) (intOfAscii : Bytes → Option ℤ) {scope : Scope}
    (htype : scope.type = "http") (hlength : ∀ h ∈ scope.headers, h.1 ≠ encode "content-length")
    (steps : List BodyStep) :
    mw.call intOfAscii scope steps =
      (CountingReceive.run (mw.limitForPath scope.path) {} steps).map Prod.fst := by
  have hnone : scope.headers.find? (fun h => decide (h.1 = encode "content-length")) = none := by
    refine List.find?_eq_none.2 ?_
    intro h hmem
    simpa using hlength h hmem
  have hroute : mw.route intOfAscii scope = .count (mw.limitForPath scope.path) := by
    unfold BodySizeLimitMiddleware.route BodySizeLimitMiddleware.contentLength
    rw [if_neg (not_not.2 htype), hnone]
    rfl
  unfold BodySizeLimitMiddleware.call
  rw [hroute]

/-- **A request without a Content-Length header is answered once iff its application and its
body leave room for one answer.** -/
theorem body_limit_answers_once_iff (mw : BodySizeLimitMiddleware)
    (intOfAscii : Bytes → Option ℤ) (scope : Scope) (htype : scope.type = "http")
    (hlength : ∀ h ∈ scope.headers, h.1 ≠ encode "content-length") (steps : List BodyStep)
    (x : Exchanged) (hcall : mw.call intOfAscii scope steps = some x) :
    x.AnswersOnce (mw.limitForPath scope.path) ↔
      OneAnswer (mw.limitForPath scope.path) steps := by
  rw [call_counted mw intOfAscii htype hlength, Option.map_eq_some_iff] at hcall
  obtain ⟨⟨x', s'⟩, hrun, rfl⟩ := hcall
  exact answersOnce_iff hrun

/-- An application that reads one part and answers it. -/
theorem body_limit_answers_once_iff_small : (.some
    { sent := [(.app, .start 200 []), (.app, .body [] false)],
      delivered := [.request (some [1, 2]) false] } : Option Exchanged) =
      BodySizeLimitMiddleware.call { defaultMaxBytes := 4 } (fun _ => none)
        { type := "http", path := "/v1/messages", headers := [] }
        [.receive, .answer (.request (some [1, 2]) false), .send (.start 200 []),
          .send (.body [] false)] ∧
    Exchanged.AnswersOnce 4
      { sent := [(.app, .start 200 []), (.app, .body [] false)],
        delivered := [.request (some [1, 2]) false] } := by
  refine ⟨rfl, (body_limit_answers_once_iff { defaultMaxBytes := 4 } (fun _ => none)
    { type := "http", path := "/v1/messages", headers := [] } rfl (by simp)
    [.receive, .answer (.request (some [1, 2]) false), .send (.start 200 []),
      .send (.body [] false)] _ rfl).2 ⟨by decide, .inl ⟨by decide, by decide⟩⟩⟩

/-- An application that answers the disconnect of a refused body: two responses are started. -/
theorem refused_body_answered_twice :
    ¬∀ (mw : BodySizeLimitMiddleware) (intOfAscii : Bytes → Option ℤ) (scope : Scope)
      (steps : List BodyStep) (x : Exchanged), scope.type = "http" →
        (∀ h ∈ scope.headers, h.1 ≠ encode "content-length") →
        mw.call intOfAscii scope steps = some x →
        x.AnswersOnce (mw.limitForPath scope.path) := by
  intro h
  have honce := (h { defaultMaxBytes := 4 } (fun _ => none)
    { type := "http", path := "/v1/messages", headers := [] }
    [.receive, .answer (.request (some [1, 2, 3, 4, 5]) false), .refuse,
      .send (.start 500 []), .send (.body [] false)] _ rfl (by simp) rfl).once
  exact absurd honce (by decide)

end ModelMeld
