import Mathlib.Data.List.Basic

/-!
# Runs of a transducer

A transducer is a step function from a state and an input to the outputs it
emits and the next state; a run concatenates the outputs of its steps.

* `run_unique`: what goes by the steps is the run;
* `run_inv`: what every step preserves of the inputs read, the outputs emitted and the state;
* `run_expand`: a step that is a run of smaller steps.
-/

namespace Transducer

variable {S I J O : Type}

/-- The outputs of a list of inputs, and the state after them. -/
def run (step : S → I → List O × S) : S → List I → List O × S
  | s, [] => ([], s)
  | s, i :: is =>
    let now := step s i
    let later := run step now.2 is
    (now.1 ++ later.1, later.2)

variable {step : S → I → List O × S}

@[simp] theorem run_nil (s : S) : run step s [] = ([], s) := rfl

theorem run_cons (s : S) (i : I) (is : List I) :
    run step s (i :: is) =
      ((step s i).1 ++ (run step (step s i).2 is).1, (run step (step s i).2 is).2) := rfl

theorem run_append (is js : List I) : ∀ s : S,
    run step s (is ++ js) = ((run step s is).1 ++ (run step (run step s is).2 js).1,
      (run step (run step s is).2 js).2) := by
  induction is with
  | nil => intro s; rfl
  | cons i is ih =>
    intro s
    rw [List.cons_append, run_cons, ih, run_cons]
    simp only [List.append_assoc]

theorem run_singleton (s : S) (i : I) : run step s [i] = step s i := by
  rw [run_cons, run_nil, List.append_nil]

variable (step) in
/-- A function on lists of inputs that goes by the steps is the run. -/
theorem run_unique {f : S → List I → List O × S} (hnil : ∀ s, f s [] = ([], s))
    (hcons : ∀ s i is, f s (i :: is) =
      ((step s i).1 ++ (f (step s i).2 is).1, (f (step s i).2 is).2)) :
    ∀ (is : List I) (s : S), f s is = run step s is := by
  intro is
  induction is with
  | nil => exact hnil
  | cons i is ih =>
    intro s
    rw [hcons, ih, run_cons]

variable (step) in
/-- **A relation between the inputs read, the outputs emitted and the state that every step
preserves holds along a run.** -/
theorem run_inv (Inv : List I → List O → S → Prop)
    (hstep : ∀ seen out s i, Inv seen out s → Inv (seen ++ [i]) (out ++ (step s i).1) (step s i).2) :
    ∀ (is seen : List I) (out : List O) (s : S), Inv seen out s →
      Inv (seen ++ is) (out ++ (run step s is).1) (run step s is).2 := by
  intro is
  induction is with
  | nil =>
    intro seen out s h
    simpa using h
  | cons i is ih =>
    intro seen out s h
    have hnext := ih _ _ _ (hstep seen out s i h)
    rw [List.append_assoc, List.append_assoc, List.singleton_append] at hnext
    exact hnext

/-- **A step that is a run of smaller steps makes runs of smaller steps.** -/
theorem run_expand {inner : S → J → List O × S} {expand : I → List J}
    (h : ∀ s i, step s i = run inner s (expand i)) : ∀ (is : List I) (s : S),
    run step s is = run inner s (is.flatMap expand) := by
  intro is
  induction is with
  | nil => intro s; rfl
  | cons i is ih =>
    intro s
    rw [run_cons, List.flatMap_cons, run_append, h, ih]

end Transducer
