import ModelMeld.Proof.ResponseSteps
import ModelMeld.Proof.NoLoss

/-!
# The items of a Responses stream

`follows_chunks`: between two deltas the events emitted, the state kept and the
chunks read agree. `Slots` says which items have been added; `Kept` says what
text, arguments, names and ids the state and the events hold.
-/

namespace ModelMeld

/-! ## Items and their events -/

section Measures

variable (i : ℕ) (es fs : List ResponseEvent)

@[simp] theorem eventsAt_append : eventsAt i (es ++ fs) = eventsAt i es ++ eventsAt i fs :=
  List.filter_append es fs

@[simp] theorem itemsAdded_append : itemsAdded (es ++ fs) = itemsAdded es ++ itemsAdded fs :=
  List.filterMap_append

@[simp] theorem callsAdded_append : callsAdded (es ++ fs) = callsAdded es ++ callsAdded fs :=
  List.filterMap_append

@[simp] theorem outputTextDeltas_append :
    outputTextDeltas (es ++ fs) = outputTextDeltas es ++ outputTextDeltas fs :=
  List.filterMap_append

@[simp] theorem doneTexts_append : doneTexts (es ++ fs) = doneTexts es ++ doneTexts fs :=
  List.flatMap_append

@[simp] theorem argumentDeltas_append :
    argumentDeltas i (es ++ fs) = argumentDeltas i es ++ argumentDeltas i fs :=
  List.filterMap_append

@[simp] theorem doneArguments_append :
    doneArguments i (es ++ fs) = doneArguments i es ++ doneArguments i fs :=
  List.filterMap_append

end Measures

/-- Every item below `next` has been added, and has had inner events only since. -/
structure Slots (es : List ResponseEvent) (next : ℕ) : Prop where
  added : itemsAdded es = List.range next
  opened : ∀ i < next, ∃ start inner,
    eventsAt i es = .itemAdded i start :: inner ∧ ∀ e ∈ inner, e.Inner
  unused : ∀ i, next ≤ i → eventsAt i es = []

namespace Slots

variable {es : List ResponseEvent} {next i : ℕ}

/-- The next item is added. -/
theorem add (h : Slots es next) (start : ResponseItem) :
    Slots (es ++ [.itemAdded next start]) (next + 1) where
  added := by
    rw [itemsAdded_append, h.added, List.range_succ]
    rfl
  opened := by
    intro i hi
    rcases Nat.lt_succ_iff_lt_or_eq.1 hi with hlt | rfl
    · obtain ⟨start', inner, heq, hinner⟩ := h.opened i hlt
      have hne : next ≠ i := by omega
      refine ⟨start', inner, ?_, hinner⟩
      rw [eventsAt_append, heq]
      simp [eventsAt, ResponseEvent.outputIndex, hne]
    · refine ⟨start, [], ?_, by simp⟩
      rw [eventsAt_append, h.unused i (le_refl i)]
      simp [eventsAt, ResponseEvent.outputIndex]
  unused := by
    intro i hi
    have hne : next ≠ i := by omega
    rw [eventsAt_append, h.unused i (by omega)]
    simp [eventsAt, ResponseEvent.outputIndex, hne]

/-- An inner event on an item that has been added. -/
theorem inner (h : Slots es next) {e : ResponseEvent} (he : e.outputIndex = some i)
    (hi : i < next) (hinner : e.Inner) : Slots (es ++ [e]) next where
  added := by
    rw [itemsAdded_append, h.added]
    cases e <;> simp_all [itemsAdded, ResponseEvent.Inner]
  opened := by
    intro j hj
    obtain ⟨start, inner, heq, hall⟩ := h.opened j hj
    rw [eventsAt_append, heq]
    by_cases hij : i = j
    · refine ⟨start, inner ++ [e], ?_, ?_⟩
      · simp [eventsAt, he, hij]
      · intro e' he'
        rcases List.mem_append.1 he' with he' | he'
        · exact hall e' he'
        · rw [List.mem_singleton.1 he']
          exact hinner
    · refine ⟨start, inner, ?_, hall⟩
      simp [eventsAt, he, hij]
  unused := by
    intro j hj
    have hij : i ≠ j := by omega
    rw [eventsAt_append, h.unused j hj]
    simp [eventsAt, he, hij]

end Slots

namespace Chunks

theorem firstGiven_snoc (s : String) : ∀ l : List String,
    firstGiven (l ++ [s]) = if firstGiven l = "" then s else firstGiven l := by
  intro l
  induction l with
  | nil =>
    by_cases hs : s = "" <;> simp [firstGiven, hs]
  | cons t l ih =>
    by_cases ht : t = ""
    · simp [firstGiven, ht, ih]
    · simp [firstGiven, ht]

section Snoc

variable (k : ℤ) (deltas : List ToolCallDelta) (delta : ToolCallDelta)

theorem suppliedName_snoc_self : suppliedName delta.index (deltas ++ [delta]) =
    if suppliedName delta.index deltas = "" then delta.nameText
    else suppliedName delta.index deltas := by
  unfold suppliedName deltasAt
  rw [Grouping.group_snoc_self, List.map_append]
  exact firstGiven_snoc _ _

theorem suppliedName_snoc_other (h : k ≠ delta.index) :
    suppliedName k (deltas ++ [delta]) = suppliedName k deltas := by
  unfold suppliedName deltasAt
  rw [Grouping.group_snoc_other h]

theorem suppliedName_unseen (h : k ∉ indices deltas) : suppliedName k deltas = "" := by
  unfold suppliedName deltasAt
  rw [Grouping.group_eq_nil_iff.2 h]
  rfl

/-- More deltas of an index that has come leave its first delta as it is. -/
theorem headD_append_of_seen {X : Type} {f : ToolCallDelta → X} {k : ℤ}
    {deltas : List ToolCallDelta} (h : k ∈ indices deltas) (l : List X) {x : X} :
    ((Grouping.group ToolCallDelta.index k deltas).map f ++ l).headD x =
      ((Grouping.group ToolCallDelta.index k deltas).map f).headD x := by
  have hne : Grouping.group ToolCallDelta.index k deltas ≠ [] :=
    fun hnil => Grouping.group_eq_nil_iff.1 hnil h
  obtain ⟨first, rest, heq⟩ := List.exists_cons_of_ne_nil hne
  rw [heq]
  rfl

theorem firstId_snoc_seen (h : k ∈ indices deltas) :
    firstId k (deltas ++ [delta]) = firstId k deltas := by
  unfold firstId deltasAt
  rw [Grouping.group_append, List.map_append]
  exact headD_append_of_seen h _

theorem firstId_snoc_other (h : k ≠ delta.index) :
    firstId k (deltas ++ [delta]) = firstId k deltas := by
  unfold firstId deltasAt
  rw [Grouping.group_snoc_other h]

theorem firstId_snoc_unseen (h : delta.index ∉ indices deltas) :
    firstId delta.index (deltas ++ [delta]) = delta.idText := by
  unfold firstId deltasAt
  rw [Grouping.group_snoc_self, Grouping.group_eq_nil_iff.2 h]
  rfl

end Snoc

end Chunks

/-! ## The invariant -/

namespace ResponsesStreamTranslator

/-- `response.created` comes first, and is the only event that is about no item. -/
def Begun (es : List ResponseEvent) : Prop :=
  ∃ first middle, es = .created first :: middle ∧ ∀ e ∈ middle, e.outputIndex.isSome

theorem Begun.append {es fs : List ResponseEvent} (h : Begun es)
    (hfs : ∀ e ∈ fs, e.outputIndex.isSome) : Begun (es ++ fs) := by
  obtain ⟨first, middle, rfl, hmiddle⟩ := h
  refine ⟨first, middle ++ fs, rfl, ?_⟩
  intro e he
  rcases List.mem_append.1 he with he | he
  · exact hmiddle e he
  · exact hfs e he

/-- The output index of the text item, if it is open. -/
def textSlot (st : ResponsesStreamTranslator) : List ℕ :=
  if st.textOpen then [st.textIndex] else []

/-- The output indices of the tool items. -/
def toolSlots (st : ResponsesStreamTranslator) : List ℕ := st.tools.map (fun p => p.2.index)

/-- What the translator has read, emitted and kept agree. -/
structure Kept (ids : ResponseIds) (items : List DeltaItem) (es : List ResponseEvent)
    (st : ResponsesStreamTranslator) : Prop where
  slots : Slots es st.nextOutputIndex
  begun : Begun es
  undoneTexts : doneTexts es = []
  undoneArguments : ∀ i, doneArguments i es = []
  /-- Every output index is that of the text or of one tool. -/
  taken : (st.textSlot ++ st.toolSlots).Perm (List.range st.nextOutputIndex)
  calls : st.toolSlots = callsAdded es
  sorted : st.toolSlots.Pairwise (· < ·)
  text : String.join st.textParts = Chunks.textOf items
  shut : st.textOpen = false → Chunks.textOf items = ""
  textSent : String.join (outputTextDeltas es) = Chunks.textOf items
  keys : st.tools.map Prod.fst = Chunks.indices (Chunks.toolsOf items)
  args : ∀ p ∈ st.tools, String.join p.2.args = Chunks.arguments p.1 (Chunks.toolsOf items)
  argsSent : ∀ p ∈ st.tools, String.join (argumentDeltas p.2.index es) =
    Chunks.arguments p.1 (Chunks.toolsOf items)
  argsUnsent : ∀ i, i ∉ st.toolSlots → argumentDeltas i es = []
  names : ∀ p ∈ st.tools, p.2.name = Chunks.suppliedName p.1 (Chunks.toolsOf items)
  callIds : ∀ p ∈ st.tools, p.2.callId =
    if Chunks.firstId p.1 (Chunks.toolsOf items) = "" then ids.call p.2.index
    else Chunks.firstId p.1 (Chunks.toolsOf items)

section Invariant

variable {ids : ResponseIds} {items : List DeltaItem} {es : List ResponseEvent}
  {st : ResponsesStreamTranslator}

theorem Kept.lt_of_slot (h : Kept ids items es st) {i : ℕ}
    (hi : i ∈ st.textSlot ++ st.toolSlots) : i < st.nextOutputIndex := by
  have := h.taken.mem_iff.1 hi
  simpa using this

/-- What is read besides items changes nothing. -/
theorem Kept.of_state (h : Kept ids items es st) {st' : ResponsesStreamTranslator}
    (hnext : st'.nextOutputIndex = st.nextOutputIndex) (hopen : st'.textOpen = st.textOpen)
    (hindex : st'.textIndex = st.textIndex) (hparts : st'.textParts = st.textParts)
    (htools : st'.tools = st.tools) : Kept ids items es st' := by
  have htext : st'.textSlot = st.textSlot := by
    unfold textSlot
    rw [hopen, hindex]
  have hslots : st'.toolSlots = st.toolSlots := by
    unfold toolSlots
    rw [htools]
  constructor
  · rw [hnext]; exact h.slots
  · exact h.begun
  · exact h.undoneTexts
  · exact h.undoneArguments
  · rw [htext, hslots, hnext]; exact h.taken
  · rw [hslots]; exact h.calls
  · rw [hslots]; exact h.sorted
  · rw [hparts]; exact h.text
  · rw [hopen]; exact h.shut
  · exact h.textSent
  · rw [htools]; exact h.keys
  · rw [htools]; exact h.args
  · rw [htools]; exact h.argsSent
  · rw [hslots]; exact h.argsUnsent
  · rw [htools]; exact h.names
  · rw [htools]; exact h.callIds

/-- More text on the open item. -/
theorem kept_text_open (h : Kept ids items es st) (hopen : st.textOpen = true) (s : String) :
    Kept ids (items ++ [.text s]) (es ++ [.textDelta st.textItemId st.textIndex s])
      { st with textParts := st.textParts ++ [s] } where
  slots := h.slots.inner rfl (h.lt_of_slot (by simp [textSlot, hopen])) trivial
  begun := h.begun.append (by simp [ResponseEvent.outputIndex])
  undoneTexts := by rw [doneTexts_append, h.undoneTexts]; rfl
  undoneArguments := by intro i; rw [doneArguments_append, h.undoneArguments]; rfl
  taken := h.taken
  calls := by
    rw [callsAdded_append, ← h.calls]
    simp [callsAdded, toolSlots]
  sorted := h.sorted
  text := by simp [Chunks.textOf_snoc_text, h.text]
  shut := by simp [hopen]
  textSent := by
    rw [outputTextDeltas_append, String.join_append, h.textSent, Chunks.textOf_snoc_text]
    simp [outputTextDeltas]
  keys := by rw [Chunks.toolsOf_snoc_text, h.keys]
  args := by rw [Chunks.toolsOf_snoc_text]; exact h.args
  argsSent := by
    rw [Chunks.toolsOf_snoc_text]
    intro p hp
    rw [argumentDeltas_append, ← h.argsSent p hp]
    simp [argumentDeltas]
  argsUnsent := by
    intro i hi
    rw [argumentDeltas_append, h.argsUnsent i hi]
    rfl
  names := by rw [Chunks.toolsOf_snoc_text]; exact h.names
  callIds := by rw [Chunks.toolsOf_snoc_text]; exact h.callIds

/-- The text item is opened. -/
theorem kept_text_added (h : Kept ids items es st) (hopen : st.textOpen = false) :
    Kept ids items
      (es ++ [.itemAdded st.nextOutputIndex (.message .inProgress ids.message []),
        .partAdded ids.message st.nextOutputIndex ""])
      { st with
        textOpen := true
        textIndex := st.nextOutputIndex
        nextOutputIndex := st.nextOutputIndex + 1
        textItemId := ids.message } := by
  have hslots : Slots (es ++ [.itemAdded st.nextOutputIndex (.message .inProgress ids.message []),
      .partAdded ids.message st.nextOutputIndex ""]) (st.nextOutputIndex + 1) := by
    have hinner := (h.slots.add (.message .inProgress ids.message [])).inner
      (e := .partAdded ids.message st.nextOutputIndex "") rfl (Nat.lt_succ_self _) trivial
    rwa [List.append_assoc] at hinner
  have hslot : st.textSlot = [] := by simp [textSlot, hopen]
  -- the new output index becomes that of the text
  have htaken := h.taken
  rw [hslot, List.nil_append] at htaken
  exact {
    slots := hslots
    begun := h.begun.append (by simp [ResponseEvent.outputIndex])
    undoneTexts := by rw [doneTexts_append, h.undoneTexts]; rfl
    undoneArguments := by intro i; rw [doneArguments_append, h.undoneArguments]; rfl
    taken := by
      rw [List.range_succ]
      exact (htaken.cons _).trans (List.perm_append_singleton _ _).symm
    calls := by
      rw [callsAdded_append, ← h.calls]
      simp [callsAdded, toolSlots]
    sorted := h.sorted
    text := h.text
    shut := by simp
    textSent := by
      rw [outputTextDeltas_append, String.join_append, h.textSent]
      simp [outputTextDeltas]
    keys := h.keys
    args := h.args
    argsSent := by
      intro p hp
      rw [argumentDeltas_append, ← h.argsSent p hp]
      simp [argumentDeltas]
    argsUnsent := by
      intro i hi
      rw [argumentDeltas_append, h.argsUnsent i hi]
      rfl
    names := h.names
    callIds := h.callIds }

theorem argumentEvents_spec (tool : ToolEntry) (delta : ToolCallDelta) :
    itemsAdded (argumentEvents tool delta) = [] ∧ callsAdded (argumentEvents tool delta) = [] ∧
    outputTextDeltas (argumentEvents tool delta) = [] ∧
    doneTexts (argumentEvents tool delta) = [] ∧
    (∀ i, doneArguments i (argumentEvents tool delta) = []) ∧
    (∀ e ∈ argumentEvents tool delta, e.outputIndex.isSome) ∧
    String.join (argumentDeltas tool.index (argumentEvents tool delta)) = delta.argumentText ∧
    ∀ i, tool.index ≠ i → argumentDeltas i (argumentEvents tool delta) = [] := by
  unfold argumentEvents
  by_cases hempty : delta.argumentText = ""
  · simp [hempty, itemsAdded, callsAdded, outputTextDeltas, doneTexts, doneArguments,
      argumentDeltas]
  · rw [if_neg hempty]
    refine ⟨rfl, rfl, rfl, rfl, fun _ => rfl, ?_, ?_, ?_⟩
    · simp [ResponseEvent.outputIndex]
    · simp [argumentDeltas]
    · intro i hi
      simp [argumentDeltas, hi]

theorem slots_argumentEvents {next : ℕ} (h : Slots es next) (tool : ToolEntry)
    (hlt : tool.index < next) (delta : ToolCallDelta) :
    Slots (es ++ argumentEvents tool delta) next := by
  unfold argumentEvents
  split
  · rwa [List.append_nil]
  · exact h.inner rfl hlt trivial

@[simp] theorem toolSlots_updateTool (k : ℤ) (delta : ToolCallDelta) :
    (st.updateTool k (touch delta)).toolSlots = st.toolSlots := by
  unfold toolSlots updateTool
  rw [List.map_map]
  refine List.map_congr_left ?_
  intro p _
  by_cases hk : p.1 = k <;> simp [hk]

@[simp] theorem keys_updateTool (k : ℤ) (f : ToolEntry → ToolEntry) :
    (st.updateTool k f).tools.map Prod.fst = st.tools.map Prod.fst := by
  unfold updateTool
  rw [List.map_map]
  refine List.map_congr_left ?_
  intro p _
  by_cases hk : p.1 = k <;> simp [hk]

/-- The entry of an index is the one looked up; the others are of other indices and items. -/
theorem Kept.entry_cases (h : Kept ids items es st) {k : ℤ} {tool : ToolEntry}
    (hlookup : st.tools.lookup k = some tool) {p : ℤ × ToolEntry} (hp : p ∈ st.tools) :
    p = (k, tool) ∨ p.1 ≠ k ∧ tool.index ≠ p.2.index := by
  have hmem := OrderedDict.mem_of_lookup hlookup
  have hkeys : (st.tools.map Prod.fst).Nodup := by
    rw [h.keys]
    exact Grouping.nodup_keys _
  have hindices : (st.tools.map (fun p => p.2.index)).Nodup :=
    h.sorted.imp (fun hlt => Nat.ne_of_lt hlt)
  by_cases hk : p.1 = k
  · exact .inl (List.inj_on_of_nodup_map hkeys hp hmem hk)
  · refine .inr ⟨hk, ?_⟩
    intro heq
    exact hk (congrArg Prod.fst (List.inj_on_of_nodup_map hindices hmem hp heq)).symm

/-- The entry of an item is not that of the next item, nor of an index that has none. -/
theorem Kept.entry_apart (h : Kept ids items es st) {p : ℤ × ToolEntry} (hp : p ∈ st.tools)
    {k : ℤ} (hkey : k ∉ Chunks.indices (Chunks.toolsOf items)) :
    p.1 ≠ k ∧ st.nextOutputIndex ≠ p.2.index := by
  constructor
  · rintro rfl
    apply hkey
    rw [← h.keys]
    exact List.mem_map_of_mem hp
  · intro heq
    have hslot : p.2.index ∈ st.toolSlots := List.mem_map_of_mem hp
    have hbelow := h.lt_of_slot (List.mem_append_right _ hslot)
    omega

theorem toolSlots_snoc {st' : ResponsesStreamTranslator} {entry : ℤ × ToolEntry}
    (h : st'.tools = st.tools ++ [entry]) : st'.toolSlots = st.toolSlots ++ [entry.2.index] := by
  unfold toolSlots
  rw [h, List.map_append]
  rfl

/-- A delta of an index that has an entry. -/
theorem kept_tool_old (h : Kept ids items es st) {delta : ToolCallDelta} {tool : ToolEntry}
    (hlookup : st.tools.lookup delta.index = some tool) :
    Kept ids (items ++ [.tool delta]) (es ++ argumentEvents tool delta)
      (st.updateTool delta.index (touch delta)) := by
  obtain ⟨-, hcalls, htexts, hdone, hdoneArgs, habout, hself, hother⟩ :=
    argumentEvents_spec tool delta
  have hmem := OrderedDict.mem_of_lookup hlookup
  have hseen : delta.index ∈ Chunks.indices (Chunks.toolsOf items) := by
    rw [← h.keys]
    exact List.mem_map_of_mem hmem
  have hslot : tool.index ∈ st.toolSlots := List.mem_map_of_mem hmem
  -- an entry is either the one touched, or untouched
  have hentry : ∀ p ∈ (st.updateTool delta.index (touch delta)).tools,
      p = (delta.index, touch delta tool) ∨
      p ∈ st.tools ∧ p.1 ≠ delta.index ∧ tool.index ≠ p.2.index := by
    intro p hp
    obtain ⟨q, hq, rfl⟩ := List.mem_map.1 hp
    rcases h.entry_cases hlookup hq with rfl | ⟨hk, hi⟩
    · simp
    · simp [hk, hq, hi]
  exact {
    slots := slots_argumentEvents h.slots tool (h.lt_of_slot (List.mem_append_right _ hslot)) delta
    begun := h.begun.append habout
    undoneTexts := by rw [doneTexts_append, h.undoneTexts, hdone]; rfl
    undoneArguments := by intro i; rw [doneArguments_append, h.undoneArguments, hdoneArgs]; rfl
    taken := by rw [toolSlots_updateTool]; exact h.taken
    calls := by rw [toolSlots_updateTool, callsAdded_append, hcalls, List.append_nil, h.calls]
    sorted := by rw [toolSlots_updateTool]; exact h.sorted
    text := by rw [Chunks.textOf_snoc_tool]; exact h.text
    shut := by rw [Chunks.textOf_snoc_tool]; exact h.shut
    textSent := by
      rw [Chunks.textOf_snoc_tool, outputTextDeltas_append, htexts, List.append_nil, h.textSent]
    keys := by
      rw [keys_updateTool, h.keys, Chunks.toolsOf_snoc_tool]
      exact (Grouping.keys_snoc_old hseen).symm
    args := by
      intro p hp
      rw [Chunks.toolsOf_snoc_tool]
      rcases hentry p hp with rfl | ⟨hp, hk, -⟩
      · rw [touch_args, Chunks.arguments_snoc_self, ← h.args _ hmem]
      · rw [Chunks.arguments_snoc_other _ _ hk, h.args p hp]
    argsSent := by
      intro p hp
      rw [Chunks.toolsOf_snoc_tool, argumentDeltas_append, String.join_append]
      rcases hentry p hp with rfl | ⟨hp, hk, hi⟩
      · rw [touch_index, hself, Chunks.arguments_snoc_self, ← h.argsSent _ hmem]
      · rw [hother _ hi, Chunks.arguments_snoc_other _ _ hk, h.argsSent p hp]
        simp
    argsUnsent := by
      intro i hi
      rw [toolSlots_updateTool] at hi
      have hne : tool.index ≠ i := by
        rintro rfl
        exact hi hslot
      rw [argumentDeltas_append, h.argsUnsent i hi, hother i hne]
      rfl
    names := by
      intro p hp
      rw [Chunks.toolsOf_snoc_tool]
      rcases hentry p hp with rfl | ⟨hp, hk, -⟩
      · rw [touch_name, Chunks.suppliedName_snoc_self, h.names _ hmem]
      · rw [Chunks.suppliedName_snoc_other _ _ _ hk, h.names p hp]
    callIds := by
      intro p hp
      rw [Chunks.toolsOf_snoc_tool]
      rcases hentry p hp with rfl | ⟨hp, hk, -⟩
      · rw [touch_callId, touch_index, Chunks.firstId_snoc_seen _ _ _ hseen, h.callIds _ hmem]
      · rw [Chunks.firstId_snoc_other _ _ _ hk, h.callIds p hp] }

/-- A delta of a new index. -/
theorem kept_tool_new (h : Kept ids items es st) {delta : ToolCallDelta}
    (hlookup : st.tools.lookup delta.index = none) :
    Kept ids (items ++ [.tool delta])
      (es ++ (.itemAdded st.nextOutputIndex
          (functionCallItem (freshEntry ids st.nextOutputIndex delta) "") ::
        argumentEvents (freshEntry ids st.nextOutputIndex delta) delta))
      { st with
        nextOutputIndex := st.nextOutputIndex + 1
        tools := st.tools ++
          [(delta.index, touch delta (freshEntry ids st.nextOutputIndex delta))] } := by
  have hfresh : st.nextOutputIndex ∉ st.textSlot ++ st.toolSlots := by
    intro hmem
    exact Nat.lt_irrefl _ (h.lt_of_slot hmem)
  have hfreshTool : st.nextOutputIndex ∉ st.toolSlots := fun hmem =>
    hfresh (List.mem_append_right _ hmem)
  have hkey : delta.index ∉ Chunks.indices (Chunks.toolsOf items) := by
    rw [← h.keys]
    exact OrderedDict.not_mem_keys_of_lookup hlookup
  generalize htool : freshEntry ids st.nextOutputIndex delta = tool
  have hindex : tool.index = st.nextOutputIndex := by rw [← htool]; rfl
  have hname : tool.name = delta.nameText := by rw [← htool]; rfl
  have hargs : String.join tool.args = "" := by rw [← htool]; rfl
  have hcallId : tool.callId =
      if delta.idText = "" then ids.call st.nextOutputIndex else delta.idText := by
    rw [← htool]
    rfl
  obtain ⟨-, hcalls, htexts, hdone, hdoneArgs, habout, hself, hother⟩ :=
    argumentEvents_spec tool delta
  rw [hindex] at hself hother
  -- the new entry is either this one, or an old one of another index and item
  have hentry : ∀ p ∈ st.tools ++ [(delta.index, touch delta tool)],
      p = (delta.index, touch delta tool) ∨
      p ∈ st.tools ∧ p.1 ≠ delta.index ∧ st.nextOutputIndex ≠ p.2.index := by
    intro p hp
    rcases List.mem_append.1 hp with hp | hp
    · exact .inr ⟨hp, h.entry_apart hp hkey⟩
    · exact .inl (List.mem_singleton.1 hp)
  have hslots : ∀ st' : ResponsesStreamTranslator,
      st'.tools = st.tools ++ [(delta.index, touch delta tool)] →
      st'.toolSlots = st.toolSlots ++ [st.nextOutputIndex] := by
    intro st' htools
    rw [toolSlots_snoc htools, touch_index, hindex]
  exact {
    slots := by
      have hadd := h.slots.add (functionCallItem tool "")
      have hboth := slots_argumentEvents hadd tool (by omega) delta
      rwa [List.append_assoc] at hboth
    begun := by
      refine h.begun.append ?_
      intro e he
      rcases List.mem_cons.1 he with rfl | he
      · rfl
      · exact habout e he
    undoneTexts := by rw [doneTexts_append, h.undoneTexts, List.nil_append]; exact hdone
    undoneArguments := by
      intro i
      rw [doneArguments_append, h.undoneArguments, List.nil_append]
      exact hdoneArgs i
    taken := by
      rw [hslots _ rfl, List.range_succ, ← List.append_assoc]
      exact h.taken.append_right _
    calls := by
      rw [hslots _ rfl, callsAdded_append, h.calls]
      congr 1
      exact (congrArg (st.nextOutputIndex :: ·) hcalls).symm
    sorted := by
      rw [hslots _ rfl, List.pairwise_append]
      refine ⟨h.sorted, List.pairwise_singleton _ _, ?_⟩
      intro i hi j hj
      rw [List.mem_singleton.1 hj]
      exact h.lt_of_slot (List.mem_append_right _ hi)
    text := by rw [Chunks.textOf_snoc_tool]; exact h.text
    shut := by rw [Chunks.textOf_snoc_tool]; exact h.shut
    textSent := by
      rw [Chunks.textOf_snoc_tool, outputTextDeltas_append, ← h.textSent]
      exact (congrArg (fun l => String.join (outputTextDeltas es ++ l)) htexts).trans (by simp)
    keys := by
      rw [List.map_append, h.keys, Chunks.toolsOf_snoc_tool]
      exact (Grouping.keys_snoc_new hkey).symm
    args := by
      intro p hp
      rw [Chunks.toolsOf_snoc_tool]
      rcases hentry p hp with rfl | ⟨hp, hk, -⟩
      · rw [touch_args, Chunks.arguments_snoc_self, Chunks.arguments_unseen hkey, hargs]
      · rw [Chunks.arguments_snoc_other _ _ hk, h.args p hp]
    argsSent := by
      intro p hp
      -- the item added carries no argument delta
      have hlater : ∀ i, argumentDeltas i (.itemAdded st.nextOutputIndex (functionCallItem tool "") ::
          argumentEvents tool delta) = argumentDeltas i (argumentEvents tool delta) := fun _ => rfl
      rw [Chunks.toolsOf_snoc_tool, argumentDeltas_append, String.join_append, hlater]
      rcases hentry p hp with rfl | ⟨hp, hk, hi⟩
      · rw [touch_index, hindex, hself, h.argsUnsent _ hfreshTool, Chunks.arguments_snoc_self,
          Chunks.arguments_unseen hkey]
        rfl
      · rw [hother _ hi, Chunks.arguments_snoc_other _ _ hk, h.argsSent p hp]
        simp
    argsUnsent := by
      intro i hi
      rw [hslots _ rfl, List.mem_append, List.mem_singleton, not_or] at hi
      rw [argumentDeltas_append, h.argsUnsent i hi.1, List.nil_append]
      exact hother i (Ne.symm hi.2)
    names := by
      intro p hp
      rw [Chunks.toolsOf_snoc_tool]
      rcases hentry p hp with rfl | ⟨hp, hk, -⟩
      · rw [touch_name, Chunks.suppliedName_snoc_self, Chunks.suppliedName_unseen _ _ hkey, hname]
        simp
      · rw [Chunks.suppliedName_snoc_other _ _ _ hk, h.names p hp]
    callIds := by
      intro p hp
      rw [Chunks.toolsOf_snoc_tool]
      rcases hentry p hp with rfl | ⟨hp, hk, -⟩
      · rw [touch_callId, touch_index, Chunks.firstId_snoc_unseen _ _ hkey, hindex, hcallId]
      · rw [Chunks.firstId_snoc_other _ _ _ hk, h.callIds p hp] }

/-- The events numbered and kept so far, once the response has been created. -/
structure Follows (ids : ResponseIds) (seen : List ChunkStep) (out : List NumberedEvent)
    (st : ResponsesStreamTranslator) : Prop where
  numbered : out.map NumberedEvent.sequenceNumber = List.range st.seq
  created : st.createdEmitted = true
  unfinished : st.finished = false
  kept : Kept ids (ChunkStep.items seen) (out.map NumberedEvent.event) st

section Run

variable {seen : List ChunkStep} {out : List NumberedEvent}

/-- Events numbered on a state that keeps what has been read. -/
theorem follows_number {seen' : List ChunkStep} (h : Follows ids seen out st)
    {st' : ResponsesStreamTranslator} {fs : List ResponseEvent} (hseq : st'.seq = st.seq)
    (hcreated : st'.createdEmitted = st.createdEmitted) (hfinished : st'.finished = st.finished)
    (hkept : Kept ids (ChunkStep.items seen') (out.map NumberedEvent.event ++ fs) st') :
    Follows ids seen' (out ++ (st'.number fs).1) (st'.number fs).2 where
  numbered := by
    refine numbers_number st' fs ?_
    rw [hseq]
    exact h.numbered
  created := hcreated.trans h.created
  unfinished := hfinished.trans h.unfinished
  kept := by
    rw [List.map_append, number_events]
    exact hkept.of_state rfl rfl rfl rfl rfl

/-- A step that emits nothing. -/
theorem follows_quiet {x : ChunkStep} (hitem : x.item? = none) (h : Follows ids seen out st)
    {st' : ResponsesStreamTranslator} (hseq : st'.seq = st.seq)
    (hcreated : st'.createdEmitted = st.createdEmitted) (hfinished : st'.finished = st.finished)
    (hkept : Kept ids (ChunkStep.items seen) (out.map NumberedEvent.event) st') :
    Follows ids (seen ++ [x]) (out ++ []) st' where
  numbered := by rw [List.append_nil, hseq]; exact h.numbered
  created := hcreated.trans h.created
  unfinished := hfinished.trans h.unfinished
  kept := by rwa [List.append_nil, ChunkStep.items_snoc, hitem, Option.toList_none, List.append_nil]

theorem follows_step (h : Follows ids seen out st) (x : ChunkStep) :
    Follows ids (seen ++ [x]) (out ++ (step ids st x).1) (step ids st x).2 := by
  cases x with
  | usage u => exact follows_quiet rfl h rfl rfl rfl (h.kept.of_state rfl rfl rfl rfl rfl)
  | finish f => exact follows_quiet rfl h rfl rfl rfl h.kept
  | start chunkId =>
    -- the response is created only once
    simp only [step, emitCreated_done h.created]
    exact follows_quiet rfl h rfl rfl rfl h.kept
  | item item =>
    cases item with
    | text s =>
      simp only [step]
      by_cases hopen : st.textOpen = true
      · rw [handleText_open hopen]
        refine follows_number h rfl rfl rfl ?_
        rw [ChunkStep.items_snoc]
        exact (kept_text_open h.kept hopen s).of_state rfl rfl rfl rfl rfl
      · have hopen : st.textOpen = false := by simpa using hopen
        rw [handleText_new hopen]
        refine follows_number h rfl rfl rfl ?_
        -- the item is opened, then the text goes on in it
        have hkept := kept_text_open (kept_text_added h.kept hopen) rfl s
        rw [List.append_assoc] at hkept
        rw [ChunkStep.items_snoc]
        exact hkept.of_state rfl rfl rfl rfl rfl
    | tool delta =>
      simp only [step]
      cases hlookup : st.tools.lookup delta.index with
      | some tool =>
        rw [handleToolDelta_old hlookup]
        refine follows_number h rfl rfl rfl ?_
        rw [ChunkStep.items_snoc]
        exact (kept_tool_old h.kept hlookup).of_state rfl rfl rfl rfl rfl
      | none =>
        rw [handleToolDelta_new hlookup]
        refine follows_number h rfl rfl rfl ?_
        rw [ChunkStep.items_snoc]
        exact (kept_tool_new h.kept hlookup).of_state rfl rfl rfl rfl rfl

end Run

variable (ids) in
/-- A new translator that has created its response. -/
theorem follows_created (model : String) (now : ℤ) (chunkId : String) :
    Follows ids [.start chunkId] ((create ids model now).emitCreated).1
      ((create ids model now).emitCreated).2 where
  numbered := rfl
  created := rfl
  unfinished := rfl
  kept := {
    slots := {
      added := rfl
      opened := by
        intro i hi
        exact absurd hi (Nat.not_lt_zero i)
      unused := fun _ _ => rfl }
    begun := ⟨_, [], rfl, by simp⟩
    undoneTexts := rfl
    undoneArguments := fun _ => rfl
    taken := List.Perm.refl _
    calls := rfl
    sorted := List.Pairwise.nil
    text := rfl
    shut := fun _ => rfl
    textSent := rfl
    keys := rfl
    args := by
      intro p hp
      exact absurd hp List.not_mem_nil
    argsSent := by
      intro p hp
      exact absurd hp List.not_mem_nil
    argsUnsent := fun _ _ => rfl
    names := by
      intro p hp
      exact absurd hp List.not_mem_nil
    callIds := by
      intro p hp
      exact absurd hp List.not_mem_nil }

variable (ids) in
theorem follows_chunks (model : String) (now : ℤ) (chunk : ChatCompletionChunk)
    (chunks : List ChatCompletionChunk) :
    Follows ids ((chunk :: chunks).flatMap ChatCompletionChunk.responseSteps)
      (translateChunks ids (create ids model now) (chunk :: chunks)).1
      (translateChunks ids (create ids model now) (chunk :: chunks)).2 := by
  have hrun := Transducer.run_inv (step ids) (Follows ids) (fun _ _ _ x h => follows_step h x)
    ((chunk.items.map .item ++ chunk.usage.toList.map .usage) ++
      chunks.flatMap ChatCompletionChunk.responseSteps) _ _ _
    (follows_created ids model now chunk.id)
  rw [translateChunks_eq_run]
  exact hrun

end Invariant

end ResponsesStreamTranslator

end ModelMeld
