import Mathlib.Data.List.Forall2

/-!
# Computations that may fail

What it takes for a computation in `Except` to succeed, one lemma for each way
computations are put together. `simp only` with them peels a `do` block apart.

* `bind_eq_ok`, `pure_eq_ok`, `mapError_eq_ok`;
* `mapM_eq_ok`: a traversal succeeds when each of its steps does;
* `tolerates_bind`, `tolerates_mapM`: what it takes to end in no error but those a
  caller catches.
-/

namespace Checked

variable {ε ε' α β : Type}

theorem bind_eq_ok {x : Except ε α} {f : α → Except ε β} {b : β} :
    (x >>= f) = .ok b ↔ ∃ a, x = .ok a ∧ f a = .ok b := by
  cases x with
  | error e => simp [bind, Except.bind]
  | ok a => simp [bind, Except.bind]

theorem pure_eq_ok {a b : α} : (pure a : Except ε α) = .ok b ↔ a = b := by
  simp [pure, Except.pure]

theorem mapError_eq_ok {x : Except ε α} {f : ε → ε'} {a : α} :
    x.mapError f = .ok a ↔ x = .ok a := by
  cases x with
  | error e => simp [Except.mapError]
  | ok a => simp [Except.mapError]

theorem mapM_eq_ok {f : α → Except ε β} {as : List α} {bs : List β} :
    as.mapM f = .ok bs ↔ List.Forall₂ (fun a b => f a = .ok b) as bs := by
  induction as generalizing bs with
  | nil =>
    rw [List.mapM_nil, pure_eq_ok, List.forall₂_nil_left_iff]
    exact eq_comm
  | cons a as ih =>
    simp only [List.mapM_cons, bind_eq_ok, pure_eq_ok, List.forall₂_cons_left_iff]
    constructor
    · rintro ⟨b, hb, bs', hbs, rfl⟩
      exact ⟨b, bs', hb, ih.mp hbs, rfl⟩
    · rintro ⟨b, bs', hb, hbs, rfl⟩
      exact ⟨b, hb, bs', ih.mpr hbs, rfl⟩

/-- Whatever the computation returns has the property. -/
def Ensures (Q : α → Prop) (x : Except ε α) : Prop := ∀ a, x = .ok a → Q a

theorem ensures_bind {Q : β → Prop} {x : Except ε α} {f : α → Except ε β}
    (h : ∀ a, x = .ok a → Ensures Q (f a)) : Ensures Q (x >>= f) := by
  intro b hb
  obtain ⟨a, ha, hfa⟩ := bind_eq_ok.mp hb
  exact h a ha b hfa

theorem ensures_pure {Q : α → Prop} {a : α} (h : Q a) : Ensures Q (pure a : Except ε α) := by
  intro b hb
  rwa [← pure_eq_ok.mp hb]

/-! ## What a caller tolerates -/

/-- The computation returns. -/
def Succeeds (x : Except ε α) : Prop := ∃ a, x = .ok a

/-- The computation returns, or ends in an error its caller catches. -/
def Tolerates (caught : ε → Bool) (x : Except ε α) : Prop := ∀ e, x = .error e → caught e = true

/-- `may` holds of the elements of a list up to the first that `ok` does not hold of. -/
def UpTo (ok may : α → Prop) : List α → Prop
  | [] => True
  | a :: as => may a ∧ (ok a → UpTo ok may as)

theorem upTo_congr {ok ok' may may' : α → Prop} (hok : ∀ a, ok a ↔ ok' a)
    (hmay : ∀ a, may a ↔ may' a) (as : List α) : UpTo ok may as ↔ UpTo ok' may' as := by
  rw [show ok = ok' from funext fun a => propext (hok a),
    show may = may' from funext fun a => propext (hmay a)]

theorem upTo_self {ok : α → Prop} (as : List α) : UpTo ok ok as ↔ ∀ a ∈ as, ok a := by
  induction as with
  | nil => simp [UpTo]
  | cons a as ih =>
    rw [UpTo, List.forall_mem_cons, ih]
    exact and_congr_right fun ha => forall_prop_of_true ha

variable {caught : ε → Bool}

/-- To return is to end in no error, whatever is caught. -/
theorem succeeds_iff_tolerates {x : Except ε α} : Succeeds x ↔ Tolerates (fun _ => false) x := by
  cases x with
  | error e => simp [Succeeds, Tolerates]
  | ok a => simp [Succeeds, Tolerates]

@[simp] theorem tolerates_ok (a : α) : Tolerates caught (.ok a : Except ε α) := by
  intro e h
  cases h

@[simp] theorem tolerates_error (e : ε) :
    Tolerates caught (.error e : Except ε α) ↔ caught e = true := by
  simp [Tolerates]

@[simp] theorem succeeds_ok (a : α) : Succeeds (.ok a : Except ε α) := ⟨a, rfl⟩

@[simp] theorem not_succeeds_error (e : ε) : ¬ Succeeds (.error e : Except ε α) := by
  rintro ⟨a, h⟩
  cases h

/-- The second computation matters only where the first returns. -/
theorem tolerates_bind {x : Except ε α} {f : α → Except ε β} {P : Prop}
    (hf : ∀ a, x = .ok a → (Tolerates caught (f a) ↔ P)) :
    Tolerates caught (x >>= f) ↔ Tolerates caught x ∧ (Succeeds x → P) := by
  cases x with
  | error e => simp [bind, Except.bind]
  | ok a => simp [bind, Except.bind, hf a rfl]

theorem succeeds_bind {x : Except ε α} {f : α → Except ε β} {P : Prop}
    (hf : ∀ a, x = .ok a → (Succeeds (f a) ↔ P)) :
    Succeeds (x >>= f) ↔ Succeeds x ∧ P := by
  cases x with
  | error e => simp [bind, Except.bind]
  | ok a => simp [bind, Except.bind, hf a rfl]

theorem succeeds_mapM {f : α → Except ε β} {as : List α} :
    Succeeds (as.mapM f) ↔ ∀ a ∈ as, Succeeds (f a) := by
  induction as with
  | nil => simp [pure, Except.pure]
  | cons a as ih =>
    rw [List.mapM_cons, List.forall_mem_cons, ← ih]
    refine succeeds_bind fun b _ => ?_
    rw [succeeds_bind (P := True) (fun bs _ => by simp [pure, Except.pure]), and_true]

/-- **A traversal is tolerated when its steps are, up to the first that does not return.** -/
theorem tolerates_mapM {f : α → Except ε β} {as : List α} :
    Tolerates caught (as.mapM f) ↔
      UpTo (fun a => Succeeds (f a)) (fun a => Tolerates caught (f a)) as := by
  induction as with
  | nil => simp [UpTo, pure, Except.pure]
  | cons a as ih =>
    rw [List.mapM_cons, UpTo, ← ih]
    refine tolerates_bind fun b _ => ?_
    rw [tolerates_bind (P := True) (fun bs _ => by simp [pure, Except.pure])]
    exact and_iff_left fun _ => trivial

end Checked
