import Mathlib.Data.List.Basic

/-!
# Runs of a state machine

A machine is a step function on a state and an event; a run folds it over a
list of events. `Along` says that every step of a run meets a condition on the
state before it and its event.

* `run_invariant`: what each step preserves holds of the state a run reaches;
* `run_good_iff`, `run_good_iff_of_along`: a property that is never regained holds at the end
  exactly when every step met the condition for keeping it;
* `run_always_iff`, `run_always_iff_of_along`: the same of a property that may be regained, in
  every state of the run;
* `related_runs`: two runs, aligned step by step, stay related;
* `run_view_eq`: a view that foreign events leave alone is determined by one's own events.
-/

namespace Runs

variable {S T E : Type}

/-- The state a list of events leads to. -/
def run (step : S → E → S) (s : S) (es : List E) : S := es.foldl step s

/-- Every step of the run meets `P`. -/
def Along (step : S → E → S) (P : S → E → Prop) : S → List E → Prop
  | _, [] => True
  | s, e :: es => P s e ∧ Along step P (step s e) es

variable {step : S → E → S} {P : S → E → Prop}

instance decidableAlong [∀ s e, Decidable (P s e)] : (s : S) → (es : List E) →
    Decidable (Along step P s es)
  | _, [] => inferInstanceAs (Decidable True)
  | s, e :: es =>
    have := decidableAlong (step s e) es
    inferInstanceAs (Decidable (_ ∧ _))

@[simp] theorem run_nil (s : S) : run step s [] = s := rfl

@[simp] theorem run_cons (s : S) (e : E) (es : List E) :
    run step s (e :: es) = run step (step s e) es := rfl

theorem run_append (s : S) (es fs : List E) :
    run step s (es ++ fs) = run step (run step s es) fs :=
  List.foldl_append

theorem along_of_forall (h : ∀ s e, P s e) : ∀ (es : List E) (s : S), Along step P s es := by
  intro es
  induction es with
  | nil => intro s; trivial
  | cons e es ih => intro s; exact ⟨h s e, ih _⟩

theorem along_mono {Q : S → E → Prop} (h : ∀ s e, P s e → Q s e) : ∀ (es : List E) (s : S),
    Along step P s es → Along step Q s es := by
  intro es
  induction es with
  | nil => intro s _; trivial
  | cons e es ih => intro s hal; exact ⟨h s e hal.1, ih _ hal.2⟩

/-- Two conditions that agree in the states of an invariant are met along the same runs. -/
theorem along_congr {Q : S → E → Prop} (Inv : S → Prop) (hinv : ∀ s e, Inv s → Inv (step s e))
    (hiff : ∀ s e, Inv s → (P s e ↔ Q s e)) : ∀ (es : List E) (s : S), Inv s →
      (Along step P s es ↔ Along step Q s es) := by
  intro es
  induction es with
  | nil => intro s _; exact Iff.rfl
  | cons e es ih =>
    intro s hs
    exact and_congr (hiff s e hs) (ih _ (hinv s e hs))

/-- A condition on the events alone joins one on the states too. -/
theorem along_and {Q : E → Prop} : ∀ (es : List E) (s : S), (∀ e ∈ es, Q e) →
    Along step P s es → Along step (fun s e => Q e ∧ P s e) s es := by
  intro es
  induction es with
  | nil => intro s _ _; trivial
  | cons e es ih =>
    intro s hQ hal
    exact ⟨⟨hQ e List.mem_cons_self, hal.1⟩,
      ih _ (fun f hf => hQ f (List.mem_cons_of_mem _ hf)) hal.2⟩

variable (step) in
/-- **What every step meeting the condition preserves holds of the state a run reaches.** -/
theorem run_invariant (Inv : S → Prop)
    (hstep : ∀ s e, Inv s → P s e → Inv (step s e)) : ∀ (es : List E) (s : S),
    Inv s → Along step P s es → Inv (run step s es) := by
  intro es
  induction es with
  | nil => intro s hs _; exact hs
  | cons e es ih =>
    intro s hs hal
    exact ih _ (hstep s e hs hal.1) hal.2

variable (step) in
/-- **A property that is never regained holds at the end of a run exactly when it held at the
start and every step met the condition for keeping it**, in the runs whose steps are allowed. -/
theorem run_good_iff_of_along (Inv Good : S → Prop) {Allowed : S → E → Prop}
    (hinv : ∀ s e, Inv s → Allowed s e → Inv (step s e))
    (hback : ∀ s e, Inv s → Allowed s e → Good (step s e) → Good s)
    (hstep : ∀ s e, Inv s → Allowed s e → Good s → (Good (step s e) ↔ P s e)) :
    ∀ (es : List E) (s : S), Inv s → Along step Allowed s es →
      (Good (run step s es) ↔ Good s ∧ Along step P s es) := by
  intro es
  induction es with
  | nil => intro s _ _; simp [Along]
  | cons e es ih =>
    intro s hs hallowed
    rw [run_cons, ih _ (hinv s e hs hallowed.1) hallowed.2]
    constructor
    · rintro ⟨hg, hal⟩
      have hg' := hback s e hs hallowed.1 hg
      exact ⟨hg', (hstep s e hs hallowed.1 hg').1 hg, hal⟩
    · rintro ⟨hg, hP, hal⟩
      exact ⟨(hstep s e hs hallowed.1 hg).2 hP, hal⟩

variable (step) in
/-- **The same where every step is allowed.** -/
theorem run_good_iff (Inv Good : S → Prop) (hinv : ∀ s e, Inv s → Inv (step s e))
    (hback : ∀ s e, Inv s → Good (step s e) → Good s)
    (hstep : ∀ s e, Inv s → Good s → (Good (step s e) ↔ P s e)) (es : List E) (s : S)
    (hs : Inv s) : Good (run step s es) ↔ Good s ∧ Along step P s es :=
  run_good_iff_of_along step Inv Good (fun s e h _ => hinv s e h) (fun s e h _ => hback s e h)
    (fun s e h _ => hstep s e h) es s hs (along_of_forall (fun _ _ => trivial) es s)

variable (step) in
/-- **A property holds in every state of a run exactly when it held at the start and every step
met the condition for keeping it**, in the runs whose steps are allowed. -/
theorem run_always_iff_of_along (Inv Good : S → Prop) {Allowed : S → E → Prop}
    (hinv : ∀ s e, Inv s → Allowed s e → Inv (step s e))
    (hstep : ∀ s e, Inv s → Allowed s e → Good s → (Good (step s e) ↔ P s e)) :
    ∀ (es : List E) (s : S), Inv s → Along step Allowed s es →
      ((∀ fs, fs <+: es → Good (run step s fs)) ↔ Good s ∧ Along step P s es) := by
  intro es
  induction es with
  | nil => intro s _ _; simp [Along]
  | cons e es ih =>
    intro s hs hallowed
    have hnext := ih (step s e) (hinv s e hs hallowed.1) hallowed.2
    constructor
    · intro hall
      have hg : Good s := hall [] List.nil_prefix
      have hall' : ∀ fs, fs <+: es → Good (run step (step s e) fs) := fun fs hfs =>
        hall (e :: fs) (List.cons_prefix_cons.mpr ⟨rfl, hfs⟩)
      obtain ⟨hg', hal⟩ := hnext.mp hall'
      exact ⟨hg, (hstep s e hs hallowed.1 hg).mp hg', hal⟩
    · rintro ⟨hg, hP, hal⟩ fs hfs
      have hall' := hnext.mpr ⟨(hstep s e hs hallowed.1 hg).mpr hP, hal⟩
      cases fs with
      | nil => exact hg
      | cons f fs =>
        obtain ⟨rfl, hfs'⟩ := List.cons_prefix_cons.mp hfs
        exact hall' fs hfs'

variable (step) in
/-- **The same where every step is allowed.** -/
theorem run_always_iff (Inv Good : S → Prop) (hinv : ∀ s e, Inv s → Inv (step s e))
    (hstep : ∀ s e, Inv s → Good s → (Good (step s e) ↔ P s e)) (es : List E) (s : S)
    (hs : Inv s) : (∀ fs, fs <+: es → Good (run step s fs)) ↔ Good s ∧ Along step P s es :=
  run_always_iff_of_along step Inv Good (fun s e h _ => hinv s e h) (fun s e h _ => hstep s e h)
    es s hs (along_of_forall (fun _ _ => trivial) es s)

/-! ## Two runs -/

/-- The step of an event that one of two aligned runs may not make. -/
def stepOpt (step : S → E → S) (s : S) : Option E → S
  | none => s
  | some e => step s e

/-- Every aligned pair of steps meets `P`. -/
def AlongPair {F : Type} (stepL : S → E → S) (stepR : T → F → T)
    (P : S → T → Option E × Option F → Prop) : S → T → List (Option E × Option F) → Prop
  | _, _, [] => True
  | s, t, p :: ps => P s t p ∧ AlongPair stepL stepR P (stepOpt stepL s p.1) (stepOpt stepR t p.2) ps

/-- A condition on the aligned events alone joins one on the states too. -/
theorem alongPair_and {F : Type} {stepL : S → E → S} {stepR : T → F → T}
    {Q : Option E × Option F → Prop} {P : S → T → Option E × Option F → Prop} :
    ∀ (ps : List (Option E × Option F)) (s : S) (t : T), (∀ p ∈ ps, Q p) →
      AlongPair stepL stepR P s t ps → AlongPair stepL stepR (fun s t p => Q p ∧ P s t p) s t ps := by
  intro ps
  induction ps with
  | nil => intro s t _ _; trivial
  | cons p ps ih =>
    intro s t hQ hal
    exact ⟨⟨hQ p List.mem_cons_self, hal.1⟩,
      ih _ _ (fun q hq => hQ q (List.mem_cons_of_mem _ hq)) hal.2⟩

/-- **Two runs, aligned step by step, stay related.** -/
theorem related_runs {F : Type} {stepL : S → E → S} {stepR : T → F → T}
    (R : S → T → Prop) {P : S → T → Option E × Option F → Prop}
    (hstep : ∀ s t p, R s t → P s t p → R (stepOpt stepL s p.1) (stepOpt stepR t p.2)) :
    ∀ (ps : List (Option E × Option F)) (s : S) (t : T), R s t → AlongPair stepL stepR P s t ps →
      R (run stepL s (ps.filterMap Prod.fst)) (run stepR t (ps.filterMap Prod.snd)) := by
  intro ps
  induction ps with
  | nil => intro s t hR _; exact hR
  | cons p ps ih =>
    intro s t hR hal
    have hnext := ih _ _ (hstep s t p hR hal.1) hal.2
    obtain ⟨l, r⟩ := p
    cases l with
    | none => cases r <;> exact hnext
    | some e => cases r <;> exact hnext

/-! ## Views -/

section View

variable {V : Type} (view : S → V) (own : E → Bool)

variable (step) in
/-- Foreign events can be left out of a run without a change to the view. -/
theorem run_view_filter (hother : ∀ s e, own e = false → view (step s e) = view s)
    (hown : ∀ s t e, own e = true → view s = view t → view (step s e) = view (step t e)) :
    ∀ (es : List E) (s t : S), view s = view t →
      view (run step s es) = view (run step t (es.filter own)) := by
  intro es
  induction es with
  | nil => intro s t h; exact h
  | cons e es ih =>
    intro s t h
    cases he : own e with
    | true =>
      rw [List.filter_cons_of_pos he]
      exact ih _ _ (hown s t e he h)
    | false =>
      rw [List.filter_cons_of_neg (by simp [he])]
      exact ih _ _ ((hother s e he).trans h)

variable (step) in
/-- **Two runs with the same own events look the same.** -/
theorem run_view_eq (hother : ∀ s e, own e = false → view (step s e) = view s)
    (hown : ∀ s t e, own e = true → view s = view t → view (step s e) = view (step t e))
    {es fs : List E} {s t : S} (h : view s = view t) (heq : es.filter own = fs.filter own) :
    view (run step s es) = view (run step t fs) := by
  have hes := run_view_filter step view own hother hown es s s rfl
  have hfs := run_view_filter step view own hother hown fs t s h.symm
  rw [hes, hfs, heq]

end View

end Runs
