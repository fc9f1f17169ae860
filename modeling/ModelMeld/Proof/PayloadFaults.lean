import ModelMeld.Lib.Checked
import ModelMeld.Spec.RegistryPayload

/-!
# Which payloads raise what nobody catches

`from_json` is called under `except (KeyError, ValueError)`. A missing key and a
text that is no number are caught; a value of a type its conversion does not take
is not. The fields are read in a fixed order, so what counts is the first of them
that cannot be read.

* `rowFromJson_tolerated`, `fromJson_tolerated`: no other error comes out exactly
  when the fields, up to that one, have values their conversions take;
* `rowFromJson_succeeds`, `fromJson_succeeds`: what it takes to load.
-/

namespace ModelMeld

open Checked

/-! ## Fields of a row -/

/-- What a loader does with the value of a field. -/
inductive FieldUse where
  | kept | integer | number | pairs | items
deriving DecidableEq

/-- What a loader does where a field is missing. -/
inductive FieldPresence where
  /-- `row[key]`. -/
  | required
  /-- `row.get(key, default)`. -/
  | defaulted
  /-- `None` is as good as missing. -/
  | nullable
deriving DecidableEq

structure RowField where
  key : String
  presence : FieldPresence
  use : FieldUse
deriving DecidableEq

/-- The fields of a row whose reading can fail, in the order `from_json` reads them. -/
def rowFields : List RowField :=
  [⟨"model_id", .required, .kept⟩, ⟨"provider", .required, .kept⟩,
    ⟨"context_window", .required, .integer⟩, ⟨"cost_per_m_input", .required, .number⟩,
    ⟨"cost_per_m_output", .required, .number⟩, ⟨"task_scores", .defaulted, .pairs⟩,
    ⟨"max_output_tokens", .nullable, .integer⟩, ⟨"supported_betas", .defaulted, .items⟩,
    ⟨"median_ttft_s", .nullable, .number⟩, ⟨"median_output_tps", .nullable, .number⟩]

/-- An element that `dict(pairs)` takes: it has elements, and if they are two the first is hashable. -/
def PairTaken : PyValue → Prop
  | .arr items => ∀ key value, items = [key, value] → hashable key = true
  | .obj _ | .str _ => True
  | _ => False

/-- An element that is a pair. -/
def PairRead : PyValue → Prop
  | .arr items => ∃ key value, items = [key, value] ∧ hashable key = true
  | .obj fields => fields.length = 2
  | .str s => s.length = 2
  | _ => False

namespace FieldUse

variable (c : Conversions)

/-- The conversion takes a value of this type; it may still find the value malformed. -/
def Takes : FieldUse → PyValue → Prop
  | .kept, _ => True
  | .integer, v => match v with
    -- to `int` an infinity is an overflow, and a NaN is malformed
    | .float x => ∀ negative, x ≠ .infinite negative
    | .bool _ | .int _ | .str _ => True
    | _ => False
  | .number, v => match v with
    | .int n => (c.floatOfInt n).isSome = true
    | .bool _ | .float _ | .str _ => True
    | _ => False
  | .pairs, v => match v with
    | .arr elements => UpTo PairRead PairTaken elements
    | .obj _ | .str _ => True
    | _ => False
  | .items, v => match v with
    | .arr _ | .obj _ | .str _ => True
    | _ => False

/-- The conversion has a result. -/
def Reads : FieldUse → PyValue → Prop
  | .kept, _ => True
  | .integer, v => match v with
    | .bool _ | .int _ => True
    | .float x => x.finite?.isSome = true
    | .str s => (c.intOfStr s).isSome = true
    | _ => False
  | .number, v => match v with
    | .int n => (c.floatOfInt n).isSome = true
    | .bool _ | .float _ => True
    | .str s => (c.floatOfStr s).isSome = true
    | _ => False
  | .pairs, v => match v with
    | .arr elements => ∀ item ∈ elements, PairRead item
    | .obj _ => True
    | .str s => s = ""
    | _ => False
  | .items, v => match v with
    | .arr _ | .obj _ | .str _ => True
    | _ => False

end FieldUse

namespace RowField

variable (c : Conversions) (d : PyDict)

/-- No error but a caught one comes of the field. -/
def Taken (f : RowField) : Prop :=
  match d.get? f.key with
  | none => True
  | some v => (f.presence = .nullable ∧ v = .null) ∨ f.use.Takes c v

/-- The field is read. -/
def Read (f : RowField) : Prop :=
  match d.get? f.key with
  | none => f.presence ≠ .required
  | some v => (f.presence = .nullable ∧ v = .null) ∨ f.use.Reads c v

end RowField

/-- A row out of which only caught errors come. -/
def RowTaken (c : Conversions) : PyValue → Prop
  | .obj d => UpTo (RowField.Read c d) (RowField.Taken c d) rowFields
  | _ => False

/-- A row that loads. -/
def RowRead (c : Conversions) : PyValue → Prop
  | .obj d => ∀ f ∈ rowFields, f.Read c d
  | _ => False

/-- The id under which a row is indexed. -/
def rowId : PyValue → PyValue
  | .obj d => (PyDict.get? d "model_id").getD .null
  | _ => .null

/-- The rows of a list out of which only caught errors come. -/
def RowsTaken (c : Conversions) (rows : List PyValue) : Prop :=
  UpTo (RowRead c) (RowTaken c) rows ∧
    ((∀ row ∈ rows, RowRead c row) → ∀ row ∈ rows, hashable (rowId row) = true)

/-- A payload out of which only caught errors come. -/
def PayloadTaken (c : Conversions) : PyValue → Prop
  | .obj d =>
    equalsOne ((PyDict.get? d "version").getD (.int 1)) = true →
      match (PyDict.get? d "models").getD (.arr []) with
      | .arr rows => RowsTaken c rows
      -- the elements of a text or of an object are texts
      | .obj fields => fields = []
      | .str s => s = ""
      | _ => False
  | _ => False

/-- A payload that loads. -/
def PayloadRead (c : Conversions) : PyValue → Prop
  | .obj d =>
    equalsOne ((PyDict.get? d "version").getD (.int 1)) = true ∧
      match (PyDict.get? d "models").getD (.arr []) with
      | .arr rows => ∀ row ∈ rows, RowRead c row ∧ hashable (rowId row) = true
      | .obj fields => fields = []
      | .str s => s = ""
      | _ => False
  | _ => False

/-! ## Conversions -/

/-- What `except (KeyError, ValueError)` lets pass no further. -/
abbrev Tolerated {A : Type} (x : Except PyError A) : Prop := Tolerates PyError.isKeyOrValue x

variable {c : Conversions} {d : PyDict}

theorem int_tolerated (v : PyValue) : Tolerated (c.int v) ↔ FieldUse.integer.Takes c v := by
  cases v with
  | float x => cases x <;> simp [Conversions.int, FieldUse.Takes, PyError.isKeyOrValue]
  | str s => cases h : c.intOfStr s <;> simp [Conversions.int, FieldUse.Takes, h, PyError.isKeyOrValue]
  | _ => simp [Conversions.int, FieldUse.Takes, PyError.isKeyOrValue]

theorem int_succeeds (v : PyValue) : Succeeds (c.int v) ↔ FieldUse.integer.Reads c v := by
  cases v with
  | float x => cases x <;> simp [Conversions.int, FieldUse.Reads, PyFloat.finite?]
  | str s => cases h : c.intOfStr s <;> simp [Conversions.int, FieldUse.Reads, h]
  | _ => simp [Conversions.int, FieldUse.Reads]

theorem float_tolerated (v : PyValue) : Tolerated (c.float v) ↔ FieldUse.number.Takes c v := by
  cases v with
  | int n =>
    cases h : c.floatOfInt n <;> simp [Conversions.float, FieldUse.Takes, h, PyError.isKeyOrValue]
  | str s =>
    cases h : c.floatOfStr s <;> simp [Conversions.float, FieldUse.Takes, h, PyError.isKeyOrValue]
  | _ => simp [Conversions.float, FieldUse.Takes, PyError.isKeyOrValue]

theorem float_succeeds (v : PyValue) : Succeeds (c.float v) ↔ FieldUse.number.Reads c v := by
  cases v with
  | int n => cases h : c.floatOfInt n <;> simp [Conversions.float, FieldUse.Reads, h]
  | str s => cases h : c.floatOfStr s <;> simp [Conversions.float, FieldUse.Reads, h]
  | _ => simp [Conversions.float, FieldUse.Reads]

theorem iterate_tolerated (v : PyValue) : Tolerated (iterate v) ↔ FieldUse.items.Takes c v := by
  cases v <;> simp [iterate, FieldUse.Takes, PyError.isKeyOrValue]

theorem iterate_succeeds (v : PyValue) : Succeeds (iterate v) ↔ FieldUse.items.Reads c v := by
  cases v <;> simp [iterate, FieldUse.Reads]

/-! ## Pairs -/

theorem pairOf_arr (items : List PyValue) :
    pairOf (.arr items) = match items with
      | [key, value] => if hashable key then .ok (key, value) else .error .typeError
      | _ => .error .valueError := rfl

theorem pairOf_obj (fields : List (String × PyValue)) :
    pairOf (.obj fields) = match fields with
      | [p, q] => .ok (.str p.1, .str q.1)
      | _ => .error .valueError := by
  rcases fields with _ | ⟨p, _ | ⟨q, _ | ⟨r, rest⟩⟩⟩ <;> rfl

theorem pairOf_str (s : String) :
    pairOf (.str s) = match s.toList with
      | [x, y] => .ok (.str (String.singleton x), .str (String.singleton y))
      | _ => .error .valueError := by
  have h : pairOf (.str s) =
      match s.toList.map (fun x => PyValue.str (String.singleton x)) with
      | [key, value] => if hashable key then .ok (key, value) else .error .typeError
      | _ => .error .valueError := rfl
  rw [h]
  rcases s.toList with _ | ⟨x, _ | ⟨y, _ | ⟨z, rest⟩⟩⟩ <;> rfl

theorem pairOf_tolerated (item : PyValue) : Tolerated (pairOf item) ↔ PairTaken item := by
  cases item with
  | arr items =>
    rw [pairOf_arr, PairTaken]
    rcases items with _ | ⟨x, _ | ⟨y, _ | ⟨z, rest⟩⟩⟩
    · simp [PyError.isKeyOrValue]
    · simp [PyError.isKeyOrValue]
    · cases h : hashable x <;> simp [h, PyError.isKeyOrValue]
    · simp [PyError.isKeyOrValue]
  | obj fields =>
    rw [pairOf_obj, PairTaken]
    split <;> simp [PyError.isKeyOrValue]
  | str s =>
    rw [pairOf_str, PairTaken]
    split <;> simp [PyError.isKeyOrValue]
  | _ => simp [pairOf, iterate, PairTaken, PyError.isKeyOrValue, bind, Except.bind]

theorem pairOf_succeeds (item : PyValue) : Succeeds (pairOf item) ↔ PairRead item := by
  cases item with
  | arr items =>
    rw [pairOf_arr, PairRead]
    rcases items with _ | ⟨x, _ | ⟨y, _ | ⟨z, rest⟩⟩⟩
    · simp
    · simp
    · cases h : hashable x <;> simp [h]
    · simp
  | obj fields =>
    rw [pairOf_obj, PairRead]
    rcases fields with _ | ⟨p, _ | ⟨q, _ | ⟨r, rest⟩⟩⟩ <;> simp
  | str s =>
    rw [pairOf_str, PairRead, ← String.length_toList]
    rcases s.toList with _ | ⟨x, _ | ⟨y, _ | ⟨z, rest⟩⟩⟩ <;> simp
  | _ => simp [pairOf, iterate, PairRead, bind, Except.bind]

/-- The characters of a text are no pairs, and `dict` says so with a `ValueError`. -/
theorem pairOf_singleton (x : Char) :
    pairOf (.str (String.singleton x)) = .error .valueError := by
  rw [pairOf_str, String.toList_singleton]

theorem dictOf_tolerated (v : PyValue) : Tolerated (dictOf v) ↔ FieldUse.pairs.Takes c v := by
  cases v with
  | arr items =>
    have h : dictOf (.arr items) = items.mapM pairOf := rfl
    rw [h, Tolerated, tolerates_mapM]
    exact upTo_congr pairOf_succeeds pairOf_tolerated items
  | obj fields => simp [dictOf, FieldUse.Takes]
  | str s =>
    have h : dictOf (.str s) = (s.toList.map (fun x => PyValue.str (String.singleton x))).mapM pairOf :=
      rfl
    rw [h]
    cases s.toList with
    | nil => simp [FieldUse.Takes, pure, Except.pure]
    | cons x rest =>
      simp [pairOf_singleton, FieldUse.Takes, PyError.isKeyOrValue, bind, Except.bind]
  | _ => simp [dictOf, iterate, FieldUse.Takes, PyError.isKeyOrValue, bind, Except.bind]

theorem dictOf_succeeds (v : PyValue) : Succeeds (dictOf v) ↔ FieldUse.pairs.Reads c v := by
  cases v with
  | arr items =>
    have h : dictOf (.arr items) = items.mapM pairOf := rfl
    rw [h, succeeds_mapM]
    exact forall₂_congr fun item _ => pairOf_succeeds item
  | obj fields => simp [dictOf, FieldUse.Reads]
  | str s =>
    have h : dictOf (.str s) = (s.toList.map (fun x => PyValue.str (String.singleton x))).mapM pairOf :=
      rfl
    rw [h, succeeds_mapM, FieldUse.Reads, ← String.toList_eq_nil_iff]
    cases s.toList with
    | nil => simp
    | cons x rest => simp [pairOf_singleton]
  | _ => simp [dictOf, iterate, FieldUse.Reads, bind, Except.bind]

/-! ## Rows -/

section Steps

variable {caught : PyError → Bool} {takes : FieldUse → PyValue → Prop} {A B : Type}

/-- No error but one of `caught` comes of the field. -/
def RowField.Passes (caught : PyError → Bool) (takes : FieldUse → PyValue → Prop) (d : PyDict)
    (f : RowField) : Prop :=
  match d.get? f.key with
  | none => f.presence = .required → caught .keyError = true
  | some v => (f.presence = .nullable ∧ v = .null) ∨ takes f.use v

variable {key : String} {use : FieldUse} {convert : PyValue → Except PyError A}
  {k : A → Except PyError B} {P : Prop}

theorem required_step (ht : ∀ v, Tolerates caught (convert v) ↔ takes use v)
    (hr : ∀ v, Succeeds (convert v) ↔ use.Reads c v) (hk : ∀ a, Tolerates caught (k a) ↔ P) :
    Tolerates caught (subscript (.obj d) key >>= fun v => convert v >>= k) ↔
      RowField.Passes caught takes d ⟨key, .required, use⟩ ∧
        (RowField.Read c d ⟨key, .required, use⟩ → P) := by
  unfold RowField.Passes RowField.Read
  cases h : PyDict.get? d key with
  | none =>
    have hget : subscript (.obj d) key = .error .keyError := by simp [subscript, h]
    rw [hget]
    change Tolerates caught (.error .keyError) ↔ _
    simp
  | some v =>
    have hget : subscript (.obj d) key = .ok v := by simp [subscript, h]
    rw [hget]
    change Tolerates caught (convert v >>= k) ↔ _
    rw [tolerates_bind fun a _ => hk a, ht, hr]
    simp

theorem defaulted_step {default : PyValue} (hdefault : Succeeds (convert default))
    (ht : ∀ v, Tolerates caught (convert v) ↔ takes use v)
    (hr : ∀ v, Succeeds (convert v) ↔ use.Reads c v) (hk : ∀ a, Tolerates caught (k a) ↔ P) :
    Tolerates caught (getOr (.obj d) key default >>= fun v => convert v >>= k) ↔
      RowField.Passes caught takes d ⟨key, .defaulted, use⟩ ∧
        (RowField.Read c d ⟨key, .defaulted, use⟩ → P) := by
  unfold RowField.Passes RowField.Read
  cases h : PyDict.get? d key with
  | none =>
    have hget : getOr (.obj d) key default = .ok default := by simp [getOr, h]
    obtain ⟨a, ha⟩ := hdefault
    rw [hget]
    change Tolerates caught (convert default >>= k) ↔ _
    rw [ha]
    change Tolerates caught (k a) ↔ _
    simp [hk]
  | some v =>
    have hget : getOr (.obj d) key default = .ok v := by simp [getOr, h]
    rw [hget]
    change Tolerates caught (convert v >>= k) ↔ _
    rw [tolerates_bind fun a _ => hk a, ht, hr]
    simp

theorem nullable_step {k : Option A → Except PyError B}
    (ht : ∀ v, Tolerates caught (convert v) ↔ takes use v)
    (hr : ∀ v, Succeeds (convert v) ↔ use.Reads c v) (hk : ∀ a, Tolerates caught (k a) ↔ P) :
    Tolerates caught (optionally (.obj d) key convert >>= k) ↔
      RowField.Passes caught takes d ⟨key, .nullable, use⟩ ∧
        (RowField.Read c d ⟨key, .nullable, use⟩ → P) := by
  have hsome : ∀ v, Tolerates caught ((some <$> convert v) >>= k) ↔
      takes use v ∧ (use.Reads c v → P) := by
    intro v
    rw [← ht, ← hr]
    cases hv : convert v with
    | error e => simp [bind, Except.bind, Functor.map, Except.map]
    | ok a => simp [bind, Except.bind, Functor.map, Except.map, hk]
  unfold RowField.Passes RowField.Read
  cases h : PyDict.get? d key with
  | none =>
    have hget : optionally (.obj d) key convert = .ok none := by
      simp [optionally, getOr, h, bind, Except.bind]
    rw [hget]
    change Tolerates caught (k none) ↔ _
    simp [hk]
  | some v =>
    by_cases hv : v = .null
    · subst hv
      have hget : optionally (.obj d) key convert = .ok none := by
        simp [optionally, getOr, h, bind, Except.bind]
      rw [hget]
      change Tolerates caught (k none) ↔ _
      simp [hk]
    · have hget : optionally (.obj d) key convert = some <$> convert v := by
        simp only [optionally, getOr, h, Option.getD_some]
        cases v with
        | null => exact absurd rfl hv
        | _ => rfl
      rw [hget, hsome]
      simp [hv]

theorem kept_step {k : PyValue → Except PyError B} (hkept : ∀ v, takes .kept v)
    (hk : ∀ a, Tolerates caught (k a) ↔ P) :
    Tolerates caught (subscript (.obj d) key >>= k) ↔
      RowField.Passes caught takes d ⟨key, .required, .kept⟩ ∧
        (RowField.Read c d ⟨key, .required, .kept⟩ → P) := by
  have ht : ∀ v : PyValue, Tolerates caught (.ok v : Except PyError PyValue) ↔ takes .kept v :=
    fun v => iff_of_true (tolerates_ok v) (hkept v)
  have hr : ∀ v : PyValue, Succeeds (.ok v : Except PyError PyValue) ↔ FieldUse.kept.Reads c v :=
    fun v => iff_of_true (succeeds_ok v) trivial
  exact required_step ht hr hk

/-- A field that is read whatever it is. -/
theorem getOr_step {k : PyValue → Except PyError B} {default : PyValue}
    (hk : ∀ a, Tolerates caught (k a) ↔ P) :
    Tolerates caught (getOr (.obj d) key default >>= k) ↔ P :=
  hk _

theorem map_step {k : A → Except PyError B} {f : PyValue → A} {default : PyValue}
    (hk : ∀ a, Tolerates caught (k a) ↔ P) :
    Tolerates caught ((f <$> getOr (.obj d) key default) >>= k) ↔ P :=
  hk _

variable (takes) in
/-- **The errors of a row are those of its fields, up to the first that is not read.** -/
theorem rowFromJson_tolerates (hkept : ∀ v, takes .kept v)
    (hint : ∀ v, Tolerates caught (c.int v) ↔ takes .integer v)
    (hfloat : ∀ v, Tolerates caught (c.float v) ↔ takes .number v)
    (hpairs : ∀ v, Tolerates caught (dictOf v) ↔ takes .pairs v)
    (hitems : ∀ v, Tolerates caught (iterate v) ↔ takes .items v) :
    Tolerates caught (rowFromJson c (.obj d)) ↔
      UpTo (RowField.Read c d) (RowField.Passes caught takes d) rowFields := by
  unfold rowFromJson
  simp only [rowFields, UpTo]
  refine kept_step hkept fun modelId => ?_
  refine kept_step hkept fun provider => ?_
  refine required_step hint int_succeeds fun contextWindow => ?_
  refine required_step hfloat float_succeeds fun costPerMInput => ?_
  refine required_step hfloat float_succeeds fun costPerMOutput => ?_
  refine defaulted_step (succeeds_ok _) hpairs dictOf_succeeds fun taskScores => ?_
  refine getOr_step fun lastUpdated => ?_
  refine getOr_step fun source => ?_
  refine getOr_step fun providerModelId => ?_
  refine map_step fun supportsTools => ?_
  refine map_step fun enabled => ?_
  refine map_step fun reasoningInterface => ?_
  refine nullable_step hint int_succeeds fun maxOutputTokens => ?_
  refine defaulted_step (succeeds_ok _) hitems iterate_succeeds fun supportedBetas => ?_
  refine nullable_step hfloat float_succeeds fun medianTtftS => ?_
  refine nullable_step hfloat float_succeeds fun medianOutputTps => ?_
  refine getOr_step fun latencySource => ?_
  exact iff_of_true (tolerates_ok _) trivial

end Steps

/-- A row that is no object has no `model_id` to subscript. -/
theorem rowFromJson_typeError {row : PyValue} (h : ∀ d, row ≠ .obj d) :
    rowFromJson c row = .error .typeError := by
  cases row with
  | obj d => exact absurd rfl (h d)
  | _ => rfl

theorem rowFromJson_tolerated (row : PyValue) : Tolerated (rowFromJson c row) ↔ RowTaken c row := by
  by_cases hrow : ∃ d, row = .obj d
  · obtain ⟨d, rfl⟩ := hrow
    rw [RowTaken, Tolerated, rowFromJson_tolerates (FieldUse.Takes c) (fun _ => trivial)
      int_tolerated float_tolerated dictOf_tolerated iterate_tolerated]
    refine upTo_congr (fun _ => Iff.rfl) (fun f => ?_) rowFields
    unfold RowField.Passes RowField.Taken
    cases h : PyDict.get? d f.key with
    | none => exact iff_of_true (fun _ => rfl) trivial
    | some v => rfl
  · rw [rowFromJson_typeError (fun d hd => hrow ⟨d, hd⟩)]
    cases row with
    | obj d => exact absurd ⟨d, rfl⟩ hrow
    | _ => simp [RowTaken, PyError.isKeyOrValue]

theorem rowFromJson_succeeds (row : PyValue) : Succeeds (rowFromJson c row) ↔ RowRead c row := by
  by_cases hrow : ∃ d, row = .obj d
  · obtain ⟨d, rfl⟩ := hrow
    rw [RowRead, succeeds_iff_tolerates, ← upTo_self,
      rowFromJson_tolerates (FieldUse.Reads c) (fun _ => trivial)
        (fun v => succeeds_iff_tolerates.symm.trans (int_succeeds v))
        (fun v => succeeds_iff_tolerates.symm.trans (float_succeeds v))
        (fun v => succeeds_iff_tolerates.symm.trans (dictOf_succeeds v))
        (fun v => succeeds_iff_tolerates.symm.trans (iterate_succeeds v))]
    refine upTo_congr (fun _ => Iff.rfl) (fun f => ?_) rowFields
    unfold RowField.Passes RowField.Read
    cases h : PyDict.get? d f.key with
    | none => simp
    | some v => rfl
  · rw [rowFromJson_typeError (fun d hd => hrow ⟨d, hd⟩)]
    cases row with
    | obj d => exact absurd ⟨d, rfl⟩ hrow
    | _ => simp [RowRead]

/-! ## Payloads -/

theorem modelId_of_rowFromJson {row : PyValue} {r : RegistryRow} (h : rowFromJson c row = .ok r) :
    r.modelId = rowId row := by
  have hread : RowRead c row := (rowFromJson_succeeds row).1 ⟨r, h⟩
  cases row with
  | obj d =>
    unfold rowFromJson at h
    obtain ⟨modelId, hid, h⟩ := bind_eq_ok.mp h
    have hkept : r.modelId = modelId := by
      -- nothing after it changes the id
      refine (?_ : Ensures (fun r : RegistryRow => r.modelId = modelId) _) r h
      repeat refine ensures_bind fun _ _ => ?_
      exact ensures_pure rfl
    rw [hkept]
    simp only [subscript] at hid
    cases hget : PyDict.get? d "model_id" with
    | none =>
      rw [hget] at hid
      cases hid
    | some v =>
      rw [hget] at hid
      rw [rowId, hget]
      exact (Except.ok.inj hid).symm
  | _ => exact absurd hread id

/-- The check of the ids, as the index makes it. -/
theorem ids_hashable {rows : List PyValue} {loaded : List RegistryRow}
    (h : rows.mapM (rowFromJson c) = .ok loaded) :
    (loaded.all (fun r => hashable r.modelId)) = true ↔
      ∀ row ∈ rows, hashable (rowId row) = true := by
  have hpairs := mapM_eq_ok.mp h
  clear h
  induction hpairs with
  | nil => simp
  | cons hrow _ ih =>
    rw [List.all_cons, Bool.and_eq_true, List.forall_mem_cons, modelId_of_rowFromJson hrow]
    exact and_congr_right fun _ => ih

/-- What loading does after the version is checked. -/
def loadRows (c : Conversions) (models : PyValue) : Except PyError LoadedRegistry := do
  let rows ← (← iterate models).mapM (rowFromJson c)
  if rows.all (fun r => hashable r.modelId) then .ok ⟨rows⟩ else .error .typeError

theorem fromJson_obj (d : PyDict) :
    fromJson c (.obj d) =
      if equalsOne ((PyDict.get? d "version").getD (.int 1)) then
        loadRows c ((PyDict.get? d "models").getD (.arr []))
      else .error .valueError := rfl

theorem loadRows_arr_tolerated (rows : List PyValue) :
    Tolerated (loadRows c (.arr rows)) ↔ RowsTaken c rows := by
  have hrows : loadRows c (.arr rows) =
      rows.mapM (rowFromJson c) >>= fun loaded =>
        if loaded.all (fun r => hashable r.modelId) then .ok ⟨loaded⟩ else .error .typeError := rfl
  rw [hrows, Tolerated, tolerates_bind (P := ∀ row ∈ rows, hashable (rowId row) = true),
    tolerates_mapM, succeeds_mapM, RowsTaken]
  · refine and_congr (upTo_congr rowFromJson_succeeds rowFromJson_tolerated rows) ?_
    exact imp_congr (forall₂_congr fun row _ => rowFromJson_succeeds row) Iff.rfl
  · intro loaded hloaded
    rw [← ids_hashable hloaded]
    split <;> simp_all [PyError.isKeyOrValue]

theorem loadRows_arr_succeeds (rows : List PyValue) :
    Succeeds (loadRows c (.arr rows)) ↔
      ∀ row ∈ rows, RowRead c row ∧ hashable (rowId row) = true := by
  have hrows : loadRows c (.arr rows) =
      rows.mapM (rowFromJson c) >>= fun loaded =>
        if loaded.all (fun r => hashable r.modelId) then .ok ⟨loaded⟩ else .error .typeError := rfl
  rw [hrows, succeeds_bind (P := ∀ row ∈ rows, hashable (rowId row) = true), succeeds_mapM]
  · constructor
    · rintro ⟨hread, hids⟩ row hrow
      exact ⟨(rowFromJson_succeeds row).1 (hread row hrow), hids row hrow⟩
    · intro h
      exact ⟨fun row hrow => (rowFromJson_succeeds row).2 (h row hrow).1, fun row hrow => (h row hrow).2⟩
  · intro loaded hloaded
    rw [← ids_hashable hloaded]
    split <;> simp_all

/-- A text is no row. -/
theorem loadRows_texts {models : PyValue} {texts : List String}
    (h : iterate models = .ok (texts.map .str)) (hne : texts ≠ []) :
    loadRows c models = .error .typeError := by
  unfold loadRows
  rw [h]
  cases texts with
  | nil => exact absurd rfl hne
  | cons text texts => rfl

theorem loadRows_empty {models : PyValue} (h : iterate models = .ok []) :
    loadRows c models = .ok ⟨[]⟩ := by
  unfold loadRows
  rw [h]
  rfl

theorem iterate_obj (fields : List (String × PyValue)) :
    iterate (.obj fields) = .ok ((fields.map Prod.fst).map .str) := by
  rw [List.map_map]
  rfl

theorem iterate_str (s : String) :
    iterate (.str s) = .ok ((s.toList.map String.singleton).map .str) := by
  rw [List.map_map]
  rfl

/-- **The errors of a payload are caught exactly when its fields have values their conversions
take, up to the first that is not read.** -/
theorem fromJson_tolerated (payload : PyValue) :
    Tolerated (fromJson c payload) ↔ PayloadTaken c payload := by
  cases payload with
  | obj d =>
    rw [fromJson_obj, PayloadTaken]
    split
    · next hversion =>
      rw [forall_prop_of_true hversion]
      cases (PyDict.get? d "models").getD (.arr []) with
      | arr rows => exact loadRows_arr_tolerated rows
      | obj fields =>
        by_cases hfields : fields = []
        · rw [hfields, loadRows_empty rfl]
          simp
        · rw [loadRows_texts (iterate_obj fields) (by simpa using hfields)]
          simp [hfields, PyError.isKeyOrValue]
      | str s =>
        by_cases hs : s = ""
        · rw [hs, loadRows_empty rfl]
          simp
        · rw [loadRows_texts (iterate_str s) (by simpa using hs)]
          simp [hs, PyError.isKeyOrValue]
      | _ => simp [loadRows, iterate, PyError.isKeyOrValue, bind, Except.bind]
    · next hversion => simp [hversion, PyError.isKeyOrValue]
  | _ => simp [fromJson, getOr, PayloadTaken, PyError.isKeyOrValue, bind, Except.bind]

/-- **A payload loads exactly when every field of every row is read.** -/
theorem fromJson_succeeds (payload : PyValue) :
    Succeeds (fromJson c payload) ↔ PayloadRead c payload := by
  cases payload with
  | obj d =>
    rw [fromJson_obj, PayloadRead]
    split
    · next hversion =>
      rw [and_iff_right hversion]
      cases (PyDict.get? d "models").getD (.arr []) with
      | arr rows => exact loadRows_arr_succeeds rows
      | obj fields =>
        by_cases hfields : fields = []
        · rw [hfields, loadRows_empty rfl]
          simp
        · rw [loadRows_texts (iterate_obj fields) (by simpa using hfields)]
          simp [hfields]
      | str s =>
        by_cases hs : s = ""
        · rw [hs, loadRows_empty rfl]
          simp
        · rw [loadRows_texts (iterate_str s) (by simpa using hs)]
          simp [hs]
      | _ => simp [loadRows, iterate, bind, Except.bind]
    · next hversion => simp [hversion]
  | _ => simp [fromJson, getOr, PayloadRead, bind, Except.bind]

end ModelMeld
