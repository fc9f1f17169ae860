import ModelMeld.Proof.ResponseItems

/-!
# The life of a Responses stream

`response_lifecycle`: the events are numbered without a gap, begin with
`response.created` and end with `response.completed`; every output item is added
once and done once, in the order of opening; and text, arguments and final
output agree with the chunks.
-/

namespace ModelMeld

namespace ResponsesStreamTranslator

variable {ids : ResponseIds} {items : List DeltaItem} {es : List ResponseEvent}
  {st : ResponsesStreamTranslator}

/-! ## The closing events -/

/-- The closing events of the items are about their own items. -/
theorem eventsAt_textClosing_self (hopen : st.textOpen = true) :
    eventsAt st.textIndex st.textClosing = st.textClosing := by
  unfold textClosing
  rw [if_pos hopen]
  simp [eventsAt, ResponseEvent.outputIndex]

theorem eventsAt_textClosing_other {i : ℕ} (hi : i ∉ st.textSlot) :
    eventsAt i st.textClosing = [] := by
  unfold textSlot at hi
  unfold textClosing
  by_cases hopen : st.textOpen = true
  · rw [if_pos hopen] at hi ⊢
    have hne : st.textIndex ≠ i := by
      rintro rfl
      simp at hi
    simp [eventsAt, ResponseEvent.outputIndex, hne]
  · rw [if_neg hopen]
    rfl

/-- What a measure of the events of one item reads of the tool closings: nothing but the closing
of the tool of that item. -/
theorem toolClosings_at {X : Type} (measure : List ResponseEvent → List X)
    (happend : ∀ es fs, measure (es ++ fs) = measure es ++ measure fs) (hnil : measure [] = [])
    {i : ℕ} (hother : ∀ tool : ToolEntry, tool.index ≠ i → measure (toolClosing tool) = []) :
    ∀ tools : List ToolEntry, (tools.map ToolEntry.index).Nodup →
      (i ∉ tools.map ToolEntry.index → measure (tools.flatMap toolClosing) = []) ∧
      ∀ tool ∈ tools, tool.index = i →
        measure (tools.flatMap toolClosing) = measure (toolClosing tool) := by
  intro tools
  induction tools with
  | nil =>
    intro _
    exact ⟨fun _ => hnil, fun tool h => absurd h List.not_mem_nil⟩
  | cons t tools ih =>
    intro hnodup
    obtain ⟨hnot, hnodup⟩ := List.nodup_cons.1 hnodup
    obtain ⟨hnone, hsome⟩ := ih hnodup
    rw [List.flatMap_cons, happend]
    refine ⟨?_, ?_⟩
    · intro hi
      rw [List.map_cons, List.mem_cons, not_or] at hi
      rw [hother t (Ne.symm hi.1), hnone hi.2]
      rfl
    · intro tool htool hindex
      rcases List.mem_cons.1 htool with rfl | htool
      · rw [hnone (hindex ▸ hnot), List.append_nil]
      · have hne : t.index ≠ i := by
          intro heq
          apply hnot
          rw [heq, ← hindex]
          exact List.mem_map_of_mem htool
        rw [hother t hne, List.nil_append]
        exact hsome tool htool hindex

theorem Kept.sortedTools_eq (h : Kept ids items es st) :
    st.sortedTools = st.tools.map Prod.snd := by
  refine Ranking.sortedBy_of_pairwise ?_
  have hsorted := h.sorted
  unfold toolSlots at hsorted
  rw [List.pairwise_map] at hsorted ⊢
  exact hsorted.imp (fun hlt => Nat.le_of_lt hlt)

theorem toolIndices (st : ResponsesStreamTranslator) :
    (st.tools.map Prod.snd).map ToolEntry.index = st.toolSlots := by
  rw [List.map_map]
  rfl

theorem Kept.toolSlots_nodup (h : Kept ids items es st) : st.toolSlots.Nodup :=
  h.sorted.imp (fun hlt => Nat.ne_of_lt hlt)

/-- The items closed are those opened. -/
theorem Kept.completed_perm (h : Kept ids items es st) :
    (st.completedItems.map Prod.fst).Perm (List.range st.nextOutputIndex) := by
  have heq : st.completedItems.map Prod.fst = st.textSlot ++ st.toolSlots := by
    unfold completedItems textSlot
    rw [h.sortedTools_eq, List.map_append, List.map_map, List.map_map]
    congr 1
    split <;> rfl
  rw [heq]
  exact h.taken

theorem Kept.output_length (h : Kept ids items es st) : st.output.length = st.nextOutputIndex := by
  have hmap := congrArg List.length (Ranking.map_sortedBy_range h.completed_perm)
  rw [List.length_map, List.length_range] at hmap
  unfold output
  rw [List.length_map, hmap]

/-- The item at place `i` of the output is the one closed with output index `i`. -/
theorem Kept.getElem?_output (h : Kept ids items es st) {i : ℕ} {item : ResponseItem}
    (hi : st.output[i]? = some item) : (i, item) ∈ st.completedItems := by
  unfold output at hi
  rw [List.getElem?_map] at hi
  obtain ⟨⟨j, item'⟩, hpair, rfl⟩ := Option.map_eq_some_iff.1 hi
  obtain ⟨hmem, rfl⟩ := (Ranking.getElem?_sortedBy_range h.completed_perm i _).1 hpair
  exact hmem

/-- The closing events of the items. -/
def itemClosings (st : ResponsesStreamTranslator) : List ResponseEvent :=
  st.textClosing ++ st.sortedTools.flatMap toolClosing

/-- The last events about an item: inner ones, and its completion. -/
theorem Kept.eventsAt_closings (h : Kept ids items es st) {i : ℕ} {item : ResponseItem}
    (hi : (i, item) ∈ st.completedItems) :
    ∃ inner, eventsAt i st.itemClosings = inner ++ [.itemDone i item] ∧ ∀ e ∈ inner, e.Inner := by
  have hdisjoint := (h.taken.nodup_iff.2 List.nodup_range)
  rw [List.nodup_append] at hdisjoint
  have htools := toolClosings_at (i := i) (eventsAt i) (eventsAt_append i) rfl
    (fun tool hne => by simp [toolClosing, eventsAt, ResponseEvent.outputIndex, hne])
    (st.tools.map Prod.snd) (by rw [st.toolIndices]; exact h.toolSlots_nodup)
  unfold itemClosings
  rw [eventsAt_append, h.sortedTools_eq]
  unfold completedItems at hi
  rw [h.sortedTools_eq] at hi
  rcases List.mem_append.1 hi with hi | hi
  · -- the text item
    by_cases hopen : st.textOpen = true
    · rw [if_pos hopen] at hi
      obtain ⟨rfl, rfl⟩ := Prod.mk.inj (List.mem_singleton.1 hi)
      have hnot : st.textIndex ∉ st.toolSlots := by
        intro hmem
        exact hdisjoint.2.2 _ (by simp [textSlot, hopen]) _ hmem rfl
      rw [htools.1 (by rw [st.toolIndices]; exact hnot), eventsAt_textClosing_self hopen]
      refine ⟨[.textDone st.textItemId st.textIndex (String.join st.textParts),
        .partDone st.textItemId st.textIndex (String.join st.textParts)], ?_, ?_⟩
      · simp [textClosing, hopen]
      · simp [ResponseEvent.Inner]
    · rw [if_neg hopen] at hi
      exact absurd hi List.not_mem_nil
  · -- the item of a tool
    obtain ⟨tool, htool, hpair⟩ := List.mem_map.1 hi
    obtain ⟨rfl, rfl⟩ := Prod.mk.inj hpair
    have hslot : tool.index ∈ st.toolSlots := by
      rw [← st.toolIndices]
      exact List.mem_map_of_mem htool
    have hnot : tool.index ∉ st.textSlot := by
      intro hmem
      exact hdisjoint.2.2 _ hmem _ hslot rfl
    rw [eventsAt_textClosing_other hnot, htools.2 tool htool rfl, List.nil_append]
    refine ⟨[.argumentsDone tool.itemId tool.index tool.name (String.join tool.args)], ?_, ?_⟩
    · simp [toolClosing, eventsAt, ResponseEvent.outputIndex]
    · simp [ResponseEvent.Inner]

/-- The closings of tools add nothing, and say nothing of a text. -/
theorem toolClosings_measures (tools : List ToolEntry) :
    itemsAdded (tools.flatMap toolClosing) = [] ∧ callsAdded (tools.flatMap toolClosing) = [] ∧
      outputTextDeltas (tools.flatMap toolClosing) = [] ∧
      (∀ i, argumentDeltas i (tools.flatMap toolClosing) = []) ∧
      doneTexts (tools.flatMap toolClosing) = [] := by
  induction tools with
  | nil => exact ⟨rfl, rfl, rfl, fun _ => rfl, rfl⟩
  | cons tool tools ih =>
    obtain ⟨hadded, hcalls, htexts, hargs, hdone⟩ := ih
    rw [List.flatMap_cons]
    refine ⟨?_, ?_, ?_, ?_, ?_⟩
    · rw [itemsAdded_append, hadded]; rfl
    · rw [callsAdded_append, hcalls]; rfl
    · rw [outputTextDeltas_append, htexts]; rfl
    · intro i
      rw [argumentDeltas_append, hargs]; rfl
    · rw [doneTexts_append, hdone]; rfl

/-- The closing events of the text item are about it. -/
theorem about_textClosing {e : ResponseEvent} (he : e ∈ st.textClosing) :
    st.textIndex ∈ st.textSlot ∧ e.outputIndex = some st.textIndex := by
  unfold textClosing at he
  by_cases hopen : st.textOpen = true
  · rw [if_pos hopen] at he
    refine ⟨by simp [textSlot, hopen], ?_⟩
    rcases List.mem_cons.1 he with rfl | he
    · rfl
    · rcases List.mem_cons.1 he with rfl | he
      · rfl
      · rw [List.mem_singleton.1 he]
        rfl
  · rw [if_neg hopen] at he
    exact absurd he List.not_mem_nil

theorem about_toolClosing {tool : ToolEntry} {e : ResponseEvent} (he : e ∈ toolClosing tool) :
    e.outputIndex = some tool.index := by
  unfold toolClosing at he
  rcases List.mem_cons.1 he with rfl | he
  · rfl
  · rw [List.mem_singleton.1 he]
    rfl

/-- The text said to be done is that of the items. -/
theorem Kept.doneTexts_textClosing (h : Kept ids items es st) :
    ∀ t ∈ doneTexts st.textClosing, t = Chunks.textOf items := by
  intro t ht
  unfold textClosing at ht
  rw [← h.text]
  by_cases hopen : st.textOpen = true
  · rw [if_pos hopen] at ht
    simpa [doneTexts, doneMessage] using ht
  · rw [if_neg hopen] at ht
    exact absurd ht List.not_mem_nil

/-- The measures of what the closing events say. -/
theorem itemClosings_spec (h : Kept ids items es st) :
    itemsAdded st.itemClosings = [] ∧ callsAdded st.itemClosings = [] ∧
    outputTextDeltas st.itemClosings = [] ∧ (∀ i, argumentDeltas i st.itemClosings = []) ∧
    (∀ e ∈ st.itemClosings, ∃ i ∈ st.textSlot ++ st.toolSlots, e.outputIndex = some i) ∧
    (∀ t ∈ doneTexts st.itemClosings, t = Chunks.textOf items) := by
  obtain ⟨hadded, hcalls, htexts, hargs, hdone⟩ := toolClosings_measures (st.tools.map Prod.snd)
  unfold itemClosings
  rw [h.sortedTools_eq]
  refine ⟨?_, ?_, ?_, ?_, ?_, ?_⟩
  · rw [itemsAdded_append, hadded]
    unfold textClosing
    split <;> rfl
  · rw [callsAdded_append, hcalls]
    unfold textClosing
    split <;> rfl
  · rw [outputTextDeltas_append, htexts]
    unfold textClosing
    split <;> rfl
  · intro i
    rw [argumentDeltas_append, hargs]
    unfold textClosing
    split <;> rfl
  · intro e he
    rcases List.mem_append.1 he with he | he
    · obtain ⟨hslot, hindex⟩ := about_textClosing he
      exact ⟨st.textIndex, List.mem_append_left _ hslot, hindex⟩
    · obtain ⟨tool, htool, he⟩ := List.mem_flatMap.1 he
      refine ⟨tool.index, ?_, about_toolClosing he⟩
      rw [← st.toolIndices]
      exact List.mem_append_right _ (List.mem_map_of_mem htool)
  · intro t ht
    rw [doneTexts_append, hdone, List.append_nil] at ht
    exact h.doneTexts_textClosing t ht

/-- The arguments said to be done for a tool item are its own. -/
theorem Kept.doneArguments_closings (h : Kept ids items es st) {p : ℤ × ToolEntry}
    (hp : p ∈ st.tools) :
    doneArguments p.2.index st.itemClosings = [String.join p.2.args, String.join p.2.args] := by
  have htools := toolClosings_at (i := p.2.index) (doneArguments p.2.index)
    (doneArguments_append p.2.index) rfl
    (fun tool hne => by simp [toolClosing, doneArguments, functionCallItem, hne])
    (st.tools.map Prod.snd) (by rw [st.toolIndices]; exact h.toolSlots_nodup)
  have htext : doneArguments p.2.index st.textClosing = [] := by
    unfold textClosing
    split <;> rfl
  unfold itemClosings
  rw [doneArguments_append, htext, h.sortedTools_eq,
    htools.2 p.2 (List.mem_map_of_mem hp) rfl]
  simp [toolClosing, doneArguments, functionCallItem]

/-- Events whose items have all been added are about items below the next. -/
theorem Slots.lt_of_mem {next : ℕ} (h : Slots es next) {e : ResponseEvent} (he : e ∈ es) {i : ℕ}
    (hi : e.outputIndex = some i) : i < next := by
  by_contra hle
  have hnone := h.unused i (Nat.le_of_not_lt hle)
  have hmem : e ∈ eventsAt i es := List.mem_filter.2 ⟨he, by simp [hi]⟩
  rw [hnone] at hmem
  exact List.not_mem_nil hmem

/-- Events that end what a state has kept. -/
structure Ends (ids : ResponseIds) (items : List DeltaItem) (es : List ResponseEvent)
    (st : ResponsesStreamTranslator) (events : List NumberedEvent) (last : ResponseObject) :
    Prop where
  kept : Kept ids items es st
  item : st.textOpen = true ∨ st.tools ≠ []
  numbered : events.map NumberedEvent.sequenceNumber = List.range events.length
  events_eq : events.map NumberedEvent.event = es ++ st.itemClosings ++ [.completed last]
  output : last.output = st.output

/-- The events about an item of the output: the one that adds it, inner ones, and its completion. -/
theorem Ends.events_of_item {events : List NumberedEvent} {last : ResponseObject}
    (hends : Ends ids items es st events last) {i : ℕ} {item : ResponseItem}
    (hi : st.output[i]? = some item) :
    ∃ start inner, eventsAt i (events.map NumberedEvent.event) =
        .itemAdded i start :: inner ++ [.itemDone i item] ∧ ∀ e ∈ inner, e.Inner := by
  have hmem := hends.kept.getElem?_output hi
  have hlt : i < st.nextOutputIndex := by
    have hindex := hends.kept.completed_perm.mem_iff.1 (List.mem_map_of_mem hmem)
    simpa using hindex
  -- the item was opened before the closing events, which end it
  obtain ⟨start, inner, heq, hinner⟩ := hends.kept.slots.opened i hlt
  obtain ⟨inner', heq', hinner'⟩ := hends.kept.eventsAt_closings hmem
  refine ⟨start, inner ++ inner', ?_, ?_⟩
  · rw [hends.events_eq, eventsAt_append, eventsAt_append, heq, heq']
    simp [eventsAt, ResponseEvent.outputIndex]
  · intro e he
    rcases List.mem_append.1 he with he | he
    · exact hinner e he
    · exact hinner' e he

/-- There is an item: an open text, or a tool. -/
theorem Ends.exists_slot {events : List NumberedEvent} {last : ResponseObject}
    (hends : Ends ids items es st events last) : ∃ i, i ∈ st.textSlot ++ st.toolSlots := by
  rcases hends.item with hopen | htools
  · exact ⟨st.textIndex, by simp [textSlot, hopen]⟩
  · obtain ⟨p, hp⟩ := List.exists_mem_of_ne_nil _ htools
    exact ⟨p.2.index, List.mem_append_right _ (List.mem_map_of_mem hp)⟩

/-- The whole life of a stream, from what is kept before the closing events. -/
theorem lifecycle_of_ends {chunks : List ChatCompletionChunk} {events : List NumberedEvent}
    {last : ResponseObject}
    (hends : Ends ids (chunks.flatMap ChatCompletionChunk.items) es st events last) :
    ResponseLifecycle chunks events st.output := by
  have hslot := hends.exists_slot
  have hitems : ∀ (i : ℕ) (item : ResponseItem), st.output[i]? = some item →
      ∃ start inner, eventsAt i (events.map NumberedEvent.event) =
        .itemAdded i start :: inner ++ [.itemDone i item] ∧ ∀ e ∈ inner, e.Inner :=
    fun i item hi => hends.events_of_item hi
  obtain ⟨h, -, hnumbered, hevents, hlast⟩ := hends
  obtain ⟨hadded, hcalls, htexts, hargs, habout, hdone⟩ := itemClosings_spec h
  have hlength := h.output_length
  exact {
    numbered := hnumbered
    framed := by
      obtain ⟨first, middle, heq, hmiddle⟩ := h.begun
      refine ⟨first, middle ++ st.itemClosings, last, ?_, ?_, hlast⟩
      · rw [hevents, heq]
        simp
      · intro e he
        rcases List.mem_append.1 he with he | he
        · exact hmiddle e he
        · obtain ⟨i, -, hi⟩ := habout e he
          rw [hi]
          rfl
    nonempty := by
      intro hnil
      obtain ⟨i, hi⟩ := hslot
      have := h.lt_of_slot hi
      rw [← hlength, hnil] at this
      exact Nat.not_lt_zero _ this
    added := by
      rw [hevents, itemsAdded_append, itemsAdded_append, hadded, h.slots.added, hlength]
      simp [itemsAdded]
    within := by
      intro e he i hi
      rw [hlength]
      rw [hevents, List.mem_append, List.mem_append, List.mem_singleton] at he
      rcases he with (he | he) | rfl
      · exact Slots.lt_of_mem h.slots he hi
      · obtain ⟨j, hj, hej⟩ := habout e he
        obtain rfl : j = i := Option.some.inj (hej.symm.trans hi)
        exact h.lt_of_slot hj
      · simp [ResponseEvent.outputIndex] at hi
    items := fun i item hi => hitems i item hi
    text := by
      rw [hevents, outputTextDeltas_append, outputTextDeltas_append, htexts, List.append_nil,
        String.join_append, h.textSent, Chunks.text_eq]
      simp [outputTextDeltas]
    textDone := by
      intro t ht
      rw [hevents, doneTexts_append, doneTexts_append, h.undoneTexts, List.nil_append] at ht
      rw [Chunks.text_eq]
      exact hdone t (by simpa [doneTexts] using ht)
    arguments := by
      have hcallsAll : callsAdded (events.map NumberedEvent.event) =
          st.tools.map (fun p => p.2.index) := by
        rw [hevents, callsAdded_append, callsAdded_append, hcalls, ← h.calls]
        simp [callsAdded, toolSlots]
      change List.Forall₂ _ (Chunks.indices (Chunks.toolsOf _)) _
      rw [hcallsAll, ← h.keys, List.forall₂_map_left_iff, List.forall₂_map_right_iff,
        List.forall₂_same]
      intro p hp
      refine ⟨?_, ?_⟩
      · rw [hevents, argumentDeltas_append, argumentDeltas_append, hargs, List.append_nil,
          String.join_append, h.argsSent p hp]
        simp [argumentDeltas, Chunks.toolDeltas]
      · rw [hevents, doneArguments_append, doneArguments_append, h.undoneArguments,
          List.nil_append, h.doneArguments_closings hp, h.args p hp]
        rfl }

/-! ## `finalize` -/

section Finalize

variable {seen : List ChunkStep} {out : List NumberedEvent}

/-- There is an item to close once `ensureItem` has run. -/
theorem kept_ensureItem (ids : ResponseIds)
    (hnumbered : out.map NumberedEvent.sequenceNumber = List.range st.seq)
    (h : Kept ids items (out.map NumberedEvent.event) st) :
    (out ++ (st.ensureItem ids).1).map NumberedEvent.sequenceNumber =
      List.range (st.ensureItem ids).2.seq ∧
    Kept ids items ((out ++ (st.ensureItem ids).1).map NumberedEvent.event)
      (st.ensureItem ids).2 ∧
    ((st.ensureItem ids).2.textOpen = true ∨ (st.ensureItem ids).2.tools ≠ []) := by
  unfold ensureItem
  by_cases hnone : (!st.textOpen && st.tools.isEmpty) = true
  · have hopen : st.textOpen = false := by
      have := (Bool.and_eq_true_iff.1 hnone).1
      simpa using this
    rw [if_pos hnone]
    unfold openText
    refine ⟨numbers_number _ _ hnumbered, ?_, .inl rfl⟩
    rw [List.map_append, number_events]
    exact (kept_text_added h hopen).of_state rfl rfl rfl rfl rfl
  · have hsome : st.textOpen = true ∨ st.tools ≠ [] := by
      by_contra hno
      rw [not_or, not_not] at hno
      apply hnone
      simp [hno.1, hno.2]
    rw [if_neg hnone, List.append_nil]
    exact ⟨hnumbered, h, hsome⟩

theorem numbers_length {n : ℕ} (h : out.map NumberedEvent.sequenceNumber = List.range n) :
    out.map NumberedEvent.sequenceNumber = List.range out.length := by
  have hlength := congrArg List.length h
  rw [List.length_map, List.length_range] at hlength
  rw [hlength]
  exact h

/-- Once a response has been created, `finalize` ends it. -/
theorem finalize_ends (h : Follows ids seen out st) (inputTokens : ℤ) :
    ∃ es st' last, Ends ids (ChunkStep.items seen) es st'
      (out ++ (st.finalize ids inputTokens).1) last := by
  generalize hst : { st with finished := true }.estimateUsage inputTokens = st'
  have hkeeps : st'.seq = st.seq ∧ st'.createdEmitted = true ∧
      Kept ids (ChunkStep.items seen) (out.map NumberedEvent.event) st' := by
    rw [← hst]
    unfold estimateUsage
    split
    · exact ⟨rfl, h.created, h.kept.of_state rfl rfl rfl rfl rfl⟩
    · exact ⟨rfl, h.created, h.kept.of_state rfl rfl rfl rfl rfl⟩
  obtain ⟨hseq, hcreated, hkept⟩ := hkeeps
  obtain ⟨hnumbered, hkept, hitem⟩ :=
    kept_ensureItem ids (by rw [hseq]; exact h.numbered) hkept
  generalize hopened : st'.ensureItem ids = opened at hnumbered hkept hitem
  let last := opened.2.responseObj .completed opened.2.output (some opened.2.usage)
  have hevents : (st.finalize ids inputTokens).1 =
      opened.1 ++ (opened.2.number (opened.2.itemClosings ++ [.completed last])).1 := by
    unfold finalize
    simp only [h.unfinished, hst, emitCreated_done hcreated, hopened]
    rfl
  have hall := numbers_number opened.2 (opened.2.itemClosings ++ [.completed last]) hnumbered
  refine ⟨_, opened.2, last, hkept, hitem, ?_, ?_, rfl⟩
  · rw [hevents, ← List.append_assoc]
    exact numbers_length hall
  · rw [hevents, ← List.append_assoc, List.map_append, number_events, List.append_assoc]

theorem emitCreated_finished (st : ResponsesStreamTranslator) :
    st.emitCreated.2.finished = st.finished := by
  unfold emitCreated
  split <;> rfl

theorem ensureItem_finished (ids : ResponseIds) (st : ResponsesStreamTranslator) :
    (st.ensureItem ids).2.finished = st.finished := by
  unfold ensureItem
  split <;> rfl

theorem finalize_finished (ids : ResponseIds) (st : ResponsesStreamTranslator) (inputTokens : ℤ) :
    (st.finalize ids inputTokens).2.finished = true := by
  have hestimate : ({ st with finished := true }.estimateUsage inputTokens).finished = true := by
    unfold estimateUsage
    split <;> rfl
  unfold finalize
  by_cases h : st.finished = true
  · rw [if_pos h]
    exact h
  · rw [if_neg h]
    simp only [number_state, ensureItem_finished, emitCreated_finished, hestimate]

theorem finalizeAll_finished (h : st.finished = true) :
    ∀ estimates : List ℤ, (st.finalizeAll ids estimates).1 = [] := by
  intro estimates
  induction estimates with
  | nil => rfl
  | cons n rest ih =>
    have hnow : st.finalize ids n = ([], st) := by
      unfold finalize
      rw [if_pos h]
    unfold finalizeAll
    simp only [hnow, ih, List.nil_append]

/-- Every stream ends what it has kept of its chunks. -/
theorem responseEvents_ends (ids : ResponseIds) (model : String) (now : ℤ)
    (chunks : List ChatCompletionChunk) {estimates : List ℤ} (hestimates : estimates ≠ []) :
    ∃ es st last, Ends ids (chunks.flatMap ChatCompletionChunk.items) es st
      (responseEvents ids model now chunks estimates) last := by
  obtain ⟨n, rest, rfl⟩ := List.exists_cons_of_ne_nil hestimates
  have honce : ∀ st : ResponsesStreamTranslator,
      (st.finalizeAll ids (n :: rest)).1 = (st.finalize ids n).1 := by
    intro st
    unfold finalizeAll
    simp only [finalizeAll_finished (finalize_finished ids st n), List.append_nil]
  unfold responseEvents
  simp only [honce]
  cases chunks with
  | nil =>
    -- no chunk came: `finalize` creates the response as the first chunk would have
    have hcreated := follows_created ids model now ""
    exact finalize_ends hcreated n
  | cons chunk chunks =>
    have hends := finalize_ends (follows_chunks ids model now chunk chunks) n
    rwa [items_of_responseSteps] at hends

end Finalize

end ResponsesStreamTranslator

/-- **The life of a Responses stream.** Whatever the chunks, and however often the stream is
finalized, its events are numbered without a gap between `response.created` and
`response.completed`; the output items are opened in the order of their indices, and each is added
once and done once around its other events; and what the events say is done is what the chunks
said, and what the completed response holds. -/
theorem response_lifecycle (ids : ResponseIds) (model : String) (now : ℤ)
    (chunks : List ChatCompletionChunk) (estimates : List ℤ) (hestimates : estimates ≠ []) :
    ∃ output, ResponseLifecycle chunks (responseEvents ids model now chunks estimates) output := by
  obtain ⟨es, st, last, hends⟩ :=
    ResponsesStreamTranslator.responseEvents_ends ids model now chunks hestimates
  exact ⟨st.output, ResponsesStreamTranslator.lifecycle_of_ends hends⟩

/-- Identifiers for the examples. -/
def sampleIds : ResponseIds where
  response := "resp_1"
  message := "msg_1"
  item _ := "fc_1"
  call _ := "call_1"

theorem response_lifecycle_sample :
    ∃ output, ResponseLifecycle sampleChunks (responseEvents sampleIds "m" 0 sampleChunks [3, 5])
      output :=
  response_lifecycle sampleIds "m" 0 sampleChunks [3, 5] (by simp)

end ModelMeld
