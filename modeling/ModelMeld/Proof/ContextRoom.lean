import ModelMeld.Spec.OutputLimits
import ModelMeld.Proof.Router
import ModelMeld.Proof.Selection
import Mathlib.Tactic.Linarith
import Mathlib.Tactic.FieldSimp

/-!
# Room in the chosen model

The scout asks for a window from the request it routes; what is dispatched is
that request with memory injected and scrubbed, under the limit of the adapter.

* `headroom_iff`: when a window that suffices for one count suffices for
  another, rounding included;
* `chosenRow_window`: the row of an unpinned decision has the window asked for;
* `room_iff`: when the chosen row has room for what is dispatched.
-/

namespace ModelMeld

/-! ## Rounding -/

/-- A count the scout rounds to a window outweighs another: it is larger, or they are equal and
nothing was rounded off. -/
def Outweighs (counted sent : ℤ) : Prop :=
  sent < counted ∨ sent = counted ∧ (5 ∣ counted ∨ counted < 0)

instance (counted sent : ℤ) : Decidable (Outweighs counted sent) :=
  inferInstanceAs (Decidable (_ ∨ _ ∧ (_ ∨ _)))

theorem truncate_headroom (a : ℤ) :
    truncate ((a : ℚ) * contextWindowHeadroomMult) =
      if 0 ≤ a then a * 6 / 5 else -(-(a * 6) / 5) := by
  have hmul : (a : ℚ) * contextWindowHeadroomMult = ((a * 6 : ℤ) : ℚ) / ((5 : ℤ) : ℚ) := by
    unfold contextWindowHeadroomMult
    push_cast
    ring
  unfold truncate
  rw [hmul]
  by_cases ha : 0 ≤ a
  · have hq : (0 : ℚ) ≤ ((a * 6 : ℤ) : ℚ) / ((5 : ℤ) : ℚ) := by
      have : (0 : ℚ) ≤ ((a * 6 : ℤ) : ℚ) := by exact_mod_cast (by omega : (0 : ℤ) ≤ a * 6)
      positivity
    rw [if_pos hq, if_pos ha]
    exact Rat.floor_intCast_div_natCast (a * 6) 5
  · have hq : ¬ (0 : ℚ) ≤ ((a * 6 : ℤ) : ℚ) / ((5 : ℤ) : ℚ) := by
      rw [not_le]
      have : ((a * 6 : ℤ) : ℚ) < 0 := by exact_mod_cast (by omega : a * 6 < (0 : ℤ))
      have h5 : (0 : ℚ) < ((5 : ℤ) : ℚ) := by norm_num
      exact div_neg_of_neg_of_pos this h5
    rw [if_neg hq, if_neg ha]
    exact Rat.ceil_intCast_div_natCast (a * 6) 5

theorem headroom_iff (a b : ℤ) :
    ((b : ℚ) * contextWindowHeadroomMult ≤ truncate ((a : ℚ) * contextWindowHeadroomMult)) ↔
      Outweighs a b := by
  have hint : ∀ w : ℤ, (b : ℚ) * contextWindowHeadroomMult ≤ w ↔ b * 6 ≤ w * 5 := by
    intro w
    unfold contextWindowHeadroomMult
    constructor
    · intro h
      have : ((b * 6 : ℤ) : ℚ) ≤ ((w * 5 : ℤ) : ℚ) := by push_cast; linarith
      exact_mod_cast this
    · intro h
      have : ((b * 6 : ℤ) : ℚ) ≤ ((w * 5 : ℤ) : ℚ) := by exact_mod_cast h
      push_cast at this
      linarith
  rw [hint, truncate_headroom]
  unfold Outweighs
  rcases lt_trichotomy b a with h | h | h
  · split <;> omega
  · subst h
    split <;> omega
  · split <;> omega

/-! ## The row of a decision -/

/-- `request.max_tokens or 1024`. -/
def responseBudget (request : ChatCompletionRequest) : ℤ :=
  match request.maxTokens with
  | some m => if m = 0 then 1024 else m
  | none => 1024

theorem requiredContextWindow_eq (parts : ScoutParts) (request : ChatCompletionRequest) :
    requiredContextWindow parts request =
      truncate (((estimatedInputTokens parts request + responseBudget request : ℤ) : ℚ) *
        contextWindowHeadroomMult) := by
  unfold requiredContextWindow responseBudget
  push_cast
  rfl

/-- A row has room for a request under each of the limits. -/
def HasRoom (parts : ScoutParts) (row : ModelEntry) (request : ChatCompletionRequest)
    (limits : List ℤ) : Prop :=
  ∀ limit ∈ limits, ((estimatedInputTokens parts request + limit : ℤ) : ℚ) *
    contextWindowHeadroomMult ≤ row.contextWindow

namespace ModelRegistry

variable {r : ModelRegistry}

/-- One row has a given model id and provider. -/
theorem rows_unique {a b : ModelEntry} (ha : a ∈ r.rows) (hb : b ∈ r.rows)
    (hid : a.modelId = b.modelId) (hprov : a.provider = b.provider) : a = b := by
  obtain ⟨before, after, hsplit, hlater⟩ := (rows_spec.1 a).1 ha
  obtain ⟨before', after', hsplit', hlater'⟩ := (rows_spec.1 b).1 hb
  have hab : r.SameKey a b := ⟨hid, fun _ => hprov⟩
  have hba : r.SameKey b a := ⟨hid.symm, fun _ => hprov.symm⟩
  rw [hsplit] at hsplit'
  -- were they two rows, the later one would have the key of the earlier
  rcases List.append_eq_append_iff.1 hsplit' with ⟨mid, -, hmid⟩ | ⟨mid, -, hmid⟩
  · cases mid with
    | nil => exact (List.cons.inj hmid).1
    | cons x xs =>
      obtain ⟨-, hafter⟩ := List.cons.inj hmid
      exact absurd hba (hlater b (by rw [hafter]; simp))
  · cases mid with
    | nil => exact (List.cons.inj hmid).1.symm
    | cons x xs =>
      obtain ⟨-, hafter⟩ := List.cons.inj hmid
      exact absurd hab (hlater' a (by rw [hafter]; simp))

end ModelRegistry

namespace CapabilityScout

variable {s : CapabilityScout} {request : ChatCompletionRequest} {hints : Option RoutingHints}
  {availableFrontier : Option (Finset String)} {d : CapabilityDecision} {row : ModelEntry}

/-- The registry's row that a decision names. -/
def ChosenRow (s : CapabilityScout) (d : CapabilityDecision) (row : ModelEntry) : Prop :=
  row ∈ s.registry.rows ∧ row.modelId = d.chosenModelId ∧ row.provider = d.chosenProvider

/-- **The row of an unpinned decision passes the window filter.** -/
theorem chosenRow_window (hpin : pin hints = none)
    (h : s.choose request hints availableFrontier = .ok d) (hrow : s.ChosenRow d row) :
    requiredContextWindow s.parts request ≤ row.contextWindow := by
  obtain ⟨eligible, e, -, hmin, hid, hprov⟩ := choose_argmin hpin h
  have hmem := mem_pool_of_mem_finalPool (List.argmin_mem (Option.mem_def.2 hmin))
  obtain ⟨hrows, hpasses⟩ := ModelRegistry.mem_candidates.1 hmem
  have heq : row = e :=
    ModelRegistry.rows_unique hrow.1 hrows (hrow.2.1.trans hid) (hrow.2.2.trans hprov)
  unfold ModelEntry.passes at hpasses
  simp only [Bool.and_eq_true, decide_eq_true_eq] at hpasses
  rw [heq]
  exact hpasses.1.1.2

/-! ## A registry of one row -/

/-- A free row of a provider that knows no task. -/
def loneRow (modelId provider : String) (window : ℤ) : ModelEntry where
  modelId := modelId
  provider := provider
  contextWindow := window
  costPerMInput := 0
  costPerMOutput := 0

/-- A scout that has only that row. -/
def loneScout (parts : ScoutParts) (modelId provider : String) (window : ℤ) : CapabilityScout :=
  { plainScout [loneRow modelId provider window] with parts := parts }

/-- Hints that let every row pass that is large enough. -/
def openHints (pinModel : Option String) : Option RoutingHints :=
  some { qualityThreshold := some 0, pinModel := pinModel }

section Lone

variable (parts : ScoutParts) (modelId provider : String) (window : ℤ)

theorem loneScout_rows :
    (loneScout parts modelId provider window).registry.rows =
      [loneRow modelId provider window] :=
  ModelRegistry.rows_of_nodup (List.nodup_singleton _)

variable (request availableFrontier) in
theorem loneRow_passes (h : requiredContextWindow parts request ≤ window) :
    (loneScout parts modelId provider window).finalPool request (openHints none)
      ((loneScout parts modelId provider window).finalEligible request (openHints none)
        availableFrontier none) ≠ [] := by
  have hpool : (loneScout parts modelId provider window).pool request (openHints none)
      ((loneScout parts modelId provider window).finalEligible request (openHints none)
        availableFrontier none) ≠ [] := by
    apply List.ne_nil_of_mem (a := loneRow modelId provider window)
    apply ModelRegistry.mem_candidates.2
    refine ⟨by rw [loneScout_rows]; exact List.mem_singleton_self _, ?_⟩
    have hscore : (loneRow modelId provider window).meetsThreshold
        ((loneScout parts modelId provider window).resolveCategory request (openHints none)).1 0 =
          true := by
      unfold ModelEntry.meetsThreshold
      exact decide_eq_true (le_refl (0 : ℚ))
    unfold ModelEntry.passes ModelEntry.admitted
    simp only [Bool.and_eq_true, Bool.or_eq_true, decide_eq_true_eq]
    exact ⟨⟨⟨⟨rfl, rfl⟩, h⟩, Or.inr rfl⟩, Or.inl hscore⟩
  unfold finalPool
  simp only
  split
  · rename_i hkept
    exact hkept.2
  · exact hpool

variable (request availableFrontier) in
/-- The scout chooses its row when that is large enough. -/
theorem loneScout_choose (h : requiredContextWindow parts request ≤ window) :
    ∃ d, (loneScout parts modelId provider window).choose request (openHints none)
        availableFrontier = .ok d ∧ d.chosenProvider = provider ∧
      (loneScout parts modelId provider window).ChosenRow d (loneRow modelId provider window) := by
  have hpin : pin (openHints none) = none := rfl
  have helig : (loneScout parts modelId provider window).hintedEligible (openHints none) =
    some none := rfl
  obtain ⟨d, hd⟩ := (choose_isOk_iff request availableFrontier hpin helig).2
    (loneRow_passes request availableFrontier parts modelId provider window h)
  obtain ⟨eligible, e, -, hmin, hid, hprov⟩ := choose_argmin hpin hd
  have hmem := mem_pool_of_mem_finalPool (List.argmin_mem (Option.mem_def.2 hmin))
  have hrow := (ModelRegistry.mem_candidates.1 hmem).1
  rw [loneScout_rows, List.mem_singleton] at hrow
  subst hrow
  have hmem' : loneRow modelId provider window ∈
      (loneScout parts modelId provider window).registry.rows := by
    rw [loneScout_rows]
    exact List.mem_singleton_self _
  exact ⟨d, hd, hprov, hmem', hid.symm, hprov.symm⟩

variable (request availableFrontier) in
/-- A pin takes the row whatever its window. -/
theorem loneScout_pinned (hne : modelId ≠ "") :
    ∃ d, (loneScout parts modelId provider window).choose request (openHints (some modelId))
        availableFrontier = .ok d ∧ d.chosenProvider = provider ∧
      (loneScout parts modelId provider window).ChosenRow d (loneRow modelId provider window) := by
  have hpin : pin (openHints (some modelId)) = some modelId := by
    simp [pin, openHints, hne]
  have hmem : loneRow modelId provider window ∈
      (loneScout parts modelId provider window).registry.entries := List.mem_singleton_self _
  obtain ⟨e, he⟩ := ModelRegistry.get_isSome hmem
  have hrow := (ModelRegistry.modelId_of_get he).2
  have he' : e = loneRow modelId provider window := List.mem_singleton.1 hrow
  subst he'
  unfold choose
  rw [hpin]
  simp only
  unfold pinnedDecision
  rw [show (loneScout parts modelId provider window).registry.get modelId =
    some (loneRow modelId provider window) from he]
  refine ⟨_, rfl, rfl, ?_, rfl, rfl⟩
  rw [loneScout_rows]
  exact List.mem_singleton_self _

end Lone

end CapabilityScout

/-! ## Room for what is dispatched -/

/-- Whatever the registry and the hints, as long as they pin what `hints₀` pins: the row of a
decision for the adapter's provider has room for the dispatch. -/
def AlwaysRoom (parts : ScoutParts) (request : ChatCompletionRequest)
    (hints₀ : Option RoutingHints) (d : Dispatch) (limits : List ℤ) : Prop :=
  ∀ (s : CapabilityScout) (hints : Option RoutingHints)
    (availableFrontier : Option (Finset String)) (c : CapabilityDecision) (row : ModelEntry),
    s.parts = parts → CapabilityScout.pin hints = CapabilityScout.pin hints₀ →
    s.choose request hints availableFrontier = .ok c → c.chosenProvider = d.adapter.name →
    s.ChosenRow c row → HasRoom parts row d.request limits

theorem pin_ne_empty {hints : Option RoutingHints} {m : String}
    (h : CapabilityScout.pin hints = some m) : m ≠ "" := by
  unfold CapabilityScout.pin at h
  split at h
  · cases h
  · obtain ⟨m', -, hm'⟩ := Option.bind_eq_some_iff.1 h
    split at hm'
    · cases hm'
    · rename_i hne
      cases hm'
      exact hne

theorem outputLimits_ne_nil (custom : String → ChatCompletionRequest → List ℤ) (d : Dispatch) :
    d.outputLimits custom ≠ [] := by
  unfold Dispatch.outputLimits
  simp only
  split
  · exact List.cons_ne_nil _ _
  · assumption

/-- **The chosen row has room exactly when no model is pinned and the input and budget that were
counted outweigh the input and the limits that are sent.** -/
theorem room_iff (parts : ScoutParts) (request : ChatCompletionRequest)
    (hints₀ : Option RoutingHints) (memory : MemoryContext) (scrubber : Option RegexScrubber)
    (decision : RoutingDecision) (custom : String → ChatCompletionRequest → List ℤ) :
    AlwaysRoom parts request hints₀ (injectedDispatch request memory scrubber decision)
        ((injectedDispatch request memory scrubber decision).outputLimits custom) ↔
      CapabilityScout.pin hints₀ = none ∧
      ∀ limit ∈ (injectedDispatch request memory scrubber decision).outputLimits custom,
        Outweighs (estimatedInputTokens parts request + responseBudget request)
          (estimatedInputTokens parts
            (injectedDispatch request memory scrubber decision).request + limit) := by
  set d := injectedDispatch request memory scrubber decision
  constructor
  · intro hroom
    have hpin : CapabilityScout.pin hints₀ = none := by
      by_contra hne
      obtain ⟨m, hm⟩ := Option.ne_none_iff_exists'.1 hne
      have hm' := pin_ne_empty hm
      obtain ⟨limit, hlimit⟩ := List.exists_mem_of_ne_nil _ (outputLimits_ne_nil custom d)
      -- a row that is one token short
      set sent : ℤ := estimatedInputTokens parts d.request + limit
      set window : ℤ := ⌊(sent : ℚ) * contextWindowHeadroomMult⌋ - 1
      obtain ⟨c, hc, hprov, hrow⟩ := CapabilityScout.loneScout_pinned request none parts m
        d.adapter.name window hm'
      have hpinned : CapabilityScout.pin (CapabilityScout.openHints (some m)) =
          CapabilityScout.pin hints₀ := by
        rw [hm]
        simp [CapabilityScout.pin, CapabilityScout.openHints, hm']
      have hle := hroom _ _ none c _ rfl hpinned hc hprov hrow limit hlimit
      have hfloor := Int.floor_le ((sent : ℚ) * contextWindowHeadroomMult)
      have hwindow : ((CapabilityScout.loneRow m d.adapter.name window).contextWindow : ℚ) =
          ⌊(sent : ℚ) * contextWindowHeadroomMult⌋ - 1 := by
        change ((⌊(sent : ℚ) * contextWindowHeadroomMult⌋ - 1 : ℤ) : ℚ) = _
        push_cast
        ring
      linarith
    refine ⟨hpin, ?_⟩
    intro limit hlimit
    -- a row of exactly the window asked for
    obtain ⟨c, hc, hprov, hrow⟩ := CapabilityScout.loneScout_choose request none parts "m"
      d.adapter.name (requiredContextWindow parts request) le_rfl
    have hle := hroom _ (CapabilityScout.openHints none) none c _ rfl hpin.symm hc hprov hrow limit hlimit
    rw [← headroom_iff, ← requiredContextWindow_eq]
    exact hle
  · rintro ⟨hpin, houtweighs⟩ s hints availableFrontier c row rfl hpinned hc - hrow limit hlimit
    rw [hpin] at hpinned
    have hwindow := CapabilityScout.chosenRow_window hpinned hc hrow
    have hle := (headroom_iff _ _).2 (houtweighs limit hlimit)
    rw [← requiredContextWindow_eq] at hle
    have hwindow' : ((requiredContextWindow s.parts request : ℤ) : ℚ) ≤ row.contextWindow := by
      exact_mod_cast hwindow
    linarith

/-- A request whose output bound is in the newer field. -/
def longAnswerRequest : ChatCompletionRequest :=
  { CapabilityScout.plainRequest "gpt-5" with maxCompletionTokens := some 200000 }

/-- A row with a window of 128000 is chosen for it, and the adapter asks for 200000 tokens. -/
theorem longAnswer_no_room : ∃ c,
    (CapabilityScout.plainScout
        [CapabilityScout.qaRow "claude-haiku" "anthropic" "" 1 (9 / 10)]).choose
      longAnswerRequest none none = .ok c ∧ c.chosenProvider = "anthropic" ∧
    (CapabilityScout.plainScout
        [CapabilityScout.qaRow "claude-haiku" "anthropic" "" 1 (9 / 10)]).ChosenRow c
      (CapabilityScout.qaRow "claude-haiku" "anthropic" "" 1 (9 / 10)) ∧
    ∀ custom, ¬ HasRoom CapabilityScout.plainParts
      (CapabilityScout.qaRow "claude-haiku" "anthropic" "" 1 (9 / 10))
      (injectedDispatch longAnswerRequest {} none
        { tier := .cloud, adapter := { cls := .anthropic }, policyApplied := .capability
          rationale := "" }).request
      ((injectedDispatch longAnswerRequest {} none
        { tier := .cloud, adapter := { cls := .anthropic }, policyApplied := .capability
          rationale := "" }).outputLimits custom) := by
  obtain ⟨c, hc, hprov⟩ := CapabilityScout.ok_of_provider (x := (CapabilityScout.plainScout
      [CapabilityScout.qaRow "claude-haiku" "anthropic" "" 1 (9 / 10)]).choose
    longAnswerRequest none none) (p := "anthropic") (by decide +kernel)
  have hrows : (CapabilityScout.plainScout
      [CapabilityScout.qaRow "claude-haiku" "anthropic" "" 1 (9 / 10)]).registry.rows =
        [CapabilityScout.qaRow "claude-haiku" "anthropic" "" 1 (9 / 10)] :=
    ModelRegistry.rows_of_nodup (List.nodup_singleton _)
  refine ⟨c, hc, hprov, ⟨?_, ?_, hprov.symm⟩, ?_⟩
  · rw [hrows]
    exact List.mem_singleton_self _
  · obtain ⟨eligible, e, -, hmin, hid, -⟩ := CapabilityScout.choose_argmin rfl hc
    have hmem := CapabilityScout.mem_pool_of_mem_finalPool
      (List.argmin_mem (Option.mem_def.2 hmin))
    have hrow := (ModelRegistry.mem_candidates.1 hmem).1
    rw [hrows, List.mem_singleton] at hrow
    rw [hid, hrow]
  · intro custom hroom
    have hle := hroom 200000 (List.mem_singleton_self _)
    have hest : estimatedInputTokens CapabilityScout.plainParts
        (injectedDispatch longAnswerRequest {} none
          { tier := .cloud, adapter := { cls := .anthropic }, policyApplied := .capability
            rationale := "" }).request = 0 := by decide
    rw [hest] at hle
    unfold contextWindowHeadroomMult CapabilityScout.qaRow at hle
    norm_num at hle

end ModelMeld
