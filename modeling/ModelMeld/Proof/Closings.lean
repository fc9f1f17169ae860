import ModelMeld.Proof.ResponseLifecycle
import ModelMeld.Proof.StreamEnds

/-!
# How the translators close their streams

* `finalize_idempotent_iff`: finalizing a Messages stream again closes it again, so a stream is
  closed once iff it is finalized once.
* `items_done_in_order_iff`: the items of a Responses stream are done in the order of their
  indices iff no function call comes before the text.
-/

namespace ModelMeld

/-! ## The Messages stream -/

namespace StreamTranslator

/-- The pair of events that ends a message. -/
def closingPair (st : StreamTranslator) : List AnthropicStreamEvent :=
  [.messageDelta (some (stopReasonOf st.finishReason)) none st.finalOutputTokens, .messageStop]

/-- A state in which `finalize` has nothing to open or to close but the message. -/
structure Finalized (st : StreamTranslator) : Prop where
  started : st.messageStarted = true
  shut : st.currentBlock = none
  opened : st.anyBlockOpened = true

theorem finalized_finalize (ids : FreshIds) (st : StreamTranslator) :
    (st.finalize ids).2.Finalized ∧ (st.finalize ids).2.closingPair = st.closingPair := by
  unfold finalize
  by_cases h : st.messageStarted = true
  · rw [if_pos h]
    exact ⟨⟨h, rfl, rfl⟩, rfl⟩
  · rw [if_neg h]
    exact ⟨⟨rfl, rfl, rfl⟩, rfl⟩

/-- A finalized state closes the message once more. -/
theorem Finalized.finalize_eq {st : StreamTranslator} (h : st.Finalized) (ids : FreshIds) :
    (st.finalize ids).1 = st.closingPair := by
  rw [StreamTranslator.finalize_eq, if_pos h.started, if_pos h.opened]
  unfold closeCurrent
  rw [h.shut]
  rfl

theorem Finalized.finalizeTimes_eq (ids : FreshIds) : ∀ (k : ℕ) {st : StreamTranslator},
    st.Finalized → (st.finalizeTimes ids k).1 = (List.replicate k st.closingPair).flatten := by
  intro k
  induction k with
  | zero => intro st _; rfl
  | succ k ih =>
    intro st h
    obtain ⟨hnext, hpair⟩ := finalized_finalize ids st
    change (st.finalize ids).1 ++ ((st.finalize ids).2.finalizeTimes ids k).1 = _
    rw [h.finalize_eq ids, ih hnext, hpair, List.replicate_succ, List.flatten_cons]

/-- Everything `finalize` emits before it ends the message. -/
theorem finalize_closes (ids : FreshIds) (st : StreamTranslator) :
    ∃ opening, (st.finalize ids).1 = opening ++ st.closingPair ∧ ∀ e ∈ opening, ¬e.Closing := by
  refine ⟨_, finalize_eq ids st, ?_⟩
  rw [List.forall_mem_append, List.forall_mem_append]
  refine ⟨⟨?_, not_closing_closeCurrent st⟩, ?_⟩
  · split <;> simp [makeMessageStart, AnthropicStreamEvent.Closing]
  · split <;> simp [AnthropicStreamEvent.Closing]

end StreamTranslator

/-- Events that end with one `message_delta` and one `message_stop`, and have no other. -/
def ClosedOnce (es : List AnthropicStreamEvent) : Prop :=
  ∃ body stopReason stopSequence outputTokens,
    es = body ++ [.messageDelta stopReason stopSequence outputTokens, .messageStop] ∧
    ∀ e ∈ body, ¬e.Closing

section Messages

variable (ids : FreshIds) (requestModel : String) (inputTokens : ℤ)
  (chunks : List ChatCompletionChunk)

/-- Every further call adds the closing pair. -/
theorem messageEventsTimes_succ (k : ℕ) :
    ∃ body stopReason outputTokens, (∀ e ∈ body, ¬e.Closing) ∧
      messageEvents ids requestModel inputTokens chunks =
        body ++ [.messageDelta stopReason none outputTokens, .messageStop] ∧
      messageEventsTimes ids requestModel inputTokens chunks (k + 1) =
        messageEvents ids requestModel inputTokens chunks ++
          (List.replicate k [.messageDelta stopReason none outputTokens, .messageStop]).flatten := by
  have hchunks := StreamTranslator.not_closing_chunks ids
    { requestModel := requestModel, inputTokens := inputTokens } chunks
  unfold messageEvents messageEventsTimes
  generalize StreamTranslator.translateChunks ids
    { requestModel := requestModel, inputTokens := inputTokens } chunks = out at hchunks
  obtain ⟨opening, hopening, hquiet⟩ := StreamTranslator.finalize_closes ids out.2
  obtain ⟨hfinalized, hpair⟩ := StreamTranslator.finalized_finalize ids out.2
  refine ⟨out.1 ++ opening, some (stopReasonOf out.2.finishReason), out.2.finalOutputTokens,
    List.forall_mem_append.2 ⟨hchunks, hquiet⟩, ?_, ?_⟩
  · change out.1 ++ (out.2.finalize ids).1 = _
    rw [hopening, ← List.append_assoc]
    rfl
  · have hlater := hfinalized.finalizeTimes_eq ids k
    rw [hpair] at hlater
    change out.1 ++ ((out.2.finalize ids).1 ++
      ((out.2.finalize ids).2.finalizeTimes ids k).1) = _
    rw [hlater, ← List.append_assoc]
    rfl

/-- **A Messages stream is closed once iff it is finalized once.** -/
theorem finalize_idempotent_iff {k : ℕ} (hk : 1 ≤ k) :
    (messageEventsTimes ids requestModel inputTokens chunks k =
        messageEvents ids requestModel inputTokens chunks ∧
      ClosedOnce (messageEventsTimes ids requestModel inputTokens chunks k)) ↔ k = 1 := by
  obtain ⟨later, rfl⟩ : ∃ later, k = later + 1 := ⟨k - 1, by omega⟩
  obtain ⟨body, stopReason, outputTokens, hbody, hevents, htimes⟩ :=
    messageEventsTimes_succ ids requestModel inputTokens chunks later
  constructor
  · rintro ⟨hsame, -⟩
    have hnone := List.append_right_eq_self.1 (htimes.symm.trans hsame)
    -- a further call adds two events
    rcases Nat.eq_zero_or_pos later with hzero | hpos
    · omega
    · obtain ⟨more, rfl⟩ : ∃ more, later = more + 1 := ⟨later - 1, by omega⟩
      rw [List.replicate_succ, List.flatten_cons] at hnone
      exact absurd (List.append_eq_nil_iff.1 hnone).1 (List.cons_ne_nil _ _)
  · intro h
    obtain rfl : later = 0 := by omega
    have hsame : messageEventsTimes ids requestModel inputTokens chunks (0 + 1) =
        messageEvents ids requestModel inputTokens chunks := by
      rw [htimes, List.replicate_zero, List.flatten_nil, List.append_nil]
    refine ⟨hsame, body, stopReason, none, outputTokens, ?_, hbody⟩
    rw [hsame, hevents]

end Messages

/-- Fresh identifiers for the examples. -/
def sampleFreshIds : FreshIds where
  message := "msg_1"
  tool _ := "toolu_1"

theorem finalize_idempotent_iff_twice :
    (messageEventsTimes sampleFreshIds "m" 3 sampleChunks 2 =
        messageEvents sampleFreshIds "m" 3 sampleChunks ∧
      ClosedOnce (messageEventsTimes sampleFreshIds "m" 3 sampleChunks 2)) ↔ 2 = 1 :=
  finalize_idempotent_iff sampleFreshIds "m" 3 sampleChunks (by decide)

/-- A stream without chunks that is finalized twice is closed twice. -/
theorem finalized_twice :
    ¬ ∀ (ids : FreshIds) (requestModel : String) (inputTokens : ℤ)
      (chunks : List ChatCompletionChunk) (k : ℕ), 1 ≤ k →
      messageEventsTimes ids requestModel inputTokens chunks k =
          messageEvents ids requestModel inputTokens chunks ∧
        ClosedOnce (messageEventsTimes ids requestModel inputTokens chunks k) := by
  intro h
  have hlength := congrArg List.length (h sampleFreshIds "m" 0 [] 2 (by decide)).1
  revert hlength
  decide

/-! ## The Responses stream -/

/-- The output indices of the items done, in order. -/
def itemsDone (es : List ResponseEvent) : List ℕ :=
  es.filterMap (fun e => match e with
    | .itemDone i _ => some i
    | _ => none)

theorem itemsDone_append (es fs : List ResponseEvent) :
    itemsDone (es ++ fs) = itemsDone es ++ itemsDone fs :=
  List.filterMap_append

/-- If there is text among the items, the first of them is text. -/
def Chunks.TextFirst (items : List DeltaItem) : Prop :=
  (∃ s, .text s ∈ items) → ∃ s, items.head? = some (.text s)

namespace ResponsesStreamTranslator

/-- The output indices of the items that `finalize` closes, in the order in which it does. -/
def doneSlots (st : ResponsesStreamTranslator) : List ℕ :=
  st.textSlot ++ st.sortedTools.map ToolEntry.index

/-- Where the text item is, next to what has been read. -/
structure Placed (items : List DeltaItem) (st : ResponsesStreamTranslator) : Prop where
  unused : st.nextOutputIndex = 0 ↔ items = []
  tools : st.tools ≠ [] → items ≠ []
  shut : st.textOpen = false → ∀ s, .text s ∉ items
  read : st.textOpen = true → ∃ s, .text s ∈ items
  first : st.textOpen = true → (st.textIndex = 0 ↔ ∃ s, items.head? = some (.text s))

section Place

variable {ids : ResponseIds} {items : List DeltaItem} {st st' : ResponsesStreamTranslator}

/-- What leaves the items alone leaves the text item in its place. -/
theorem Placed.of_state (h : Placed items st) (hnext : st'.nextOutputIndex = st.nextOutputIndex)
    (hopen : st'.textOpen = st.textOpen) (hindex : st'.textIndex = st.textIndex)
    (htools : st'.tools = [] ↔ st.tools = []) : Placed items st' where
  unused := by rw [hnext]; exact h.unused
  tools := fun hne => h.tools (fun hnil => hne (htools.2 hnil))
  shut := by rw [hopen]; exact h.shut
  read := by rw [hopen]; exact h.read
  first := by rw [hopen, hindex]; exact h.first

/-- An item that opens no text, when another has come before it. -/
theorem Placed.snoc (h : Placed items st) (hne : items ≠ []) {item : DeltaItem}
    (hitem : st.textOpen = true ∨ ∀ s, item ≠ .text s) : Placed (items ++ [item]) st := by
  have hhead : (items ++ [item]).head? = items.head? := List.head?_append_of_ne_nil items hne
  have hnext : st.nextOutputIndex ≠ 0 := fun hzero => hne (h.unused.1 hzero)
  constructor
  · have hsome : items ++ [item] ≠ [] := by simp
    exact iff_of_false hnext hsome
  · intro _
    simp
  · intro hshut s hs
    rcases hitem with hopen | hother
    · rw [hshut] at hopen
      cases hopen
    · rcases List.mem_append.1 hs with hs | hs
      · exact h.shut hshut s hs
      · exact hother s (List.mem_singleton.1 hs).symm
  · intro hopen
    obtain ⟨s, hs⟩ := h.read hopen
    exact ⟨s, List.mem_append_left _ hs⟩
  · intro hopen
    rw [hhead]
    exact h.first hopen

/-- The first text gets the next output index. -/
theorem Placed.text_added (h : Placed items st) (hshut : st.textOpen = false) (s : String)
    (hopen' : st'.textOpen = true) (hindex' : st'.textIndex = st.nextOutputIndex)
    (hnext' : st'.nextOutputIndex = st.nextOutputIndex + 1) :
    Placed (items ++ [.text s]) st' := by
  have hsome : items ++ [.text s] ≠ [] := by simp
  constructor
  · refine iff_of_false ?_ hsome
    omega
  · exact fun _ => hsome
  · intro hshut'
    rw [hopen'] at hshut'
    cases hshut'
  · intro _
    exact ⟨s, by simp⟩
  · intro _
    rw [hindex', h.unused]
    constructor
    · rintro rfl
      exact ⟨s, rfl⟩
    · rintro ⟨t, ht⟩
      by_contra hne
      -- text at the head of the items read would have opened the item
      rw [List.head?_append_of_ne_nil items hne] at ht
      exact h.shut hshut t (List.mem_of_mem_head? ht)

/-- A new tool takes an output index and leaves the text item in its place. -/
theorem Placed.tool_added (h : Placed items st) (delta : ToolCallDelta)
    (hopen' : st'.textOpen = st.textOpen) (hindex' : st'.textIndex = st.textIndex)
    (hnext' : st'.nextOutputIndex = st.nextOutputIndex + 1) :
    Placed (items ++ [.tool delta]) st' := by
  have hsome : items ++ [.tool delta] ≠ [] := by simp
  constructor
  · refine iff_of_false ?_ hsome
    omega
  · exact fun _ => hsome
  · rw [hopen']
    intro hshut s hs
    simp [h.shut hshut s] at hs
  · rw [hopen']
    intro hopen
    obtain ⟨s, hs⟩ := h.read hopen
    exact ⟨s, List.mem_append_left _ hs⟩
  · rw [hopen', hindex']
    intro hopen
    obtain ⟨s, hs⟩ := h.read hopen
    rw [List.head?_append_of_ne_nil items (List.ne_nil_of_mem hs)]
    exact h.first hopen

theorem placed_step {seen : List ChunkStep} (h : Placed (ChunkStep.items seen) st)
    (x : ChunkStep) : Placed (ChunkStep.items (seen ++ [x])) (step ids st x).2 := by
  rw [ChunkStep.items_snoc]
  cases x with
  | usage u =>
    have hcaptured : Placed (ChunkStep.items seen) (st.captureUsage (some u)) :=
      h.of_state rfl rfl rfl Iff.rfl
    simpa [step] using hcaptured
  | finish f => simpa [step] using h
  | start chunkId =>
    have hcreated : Placed (ChunkStep.items seen) st.emitCreated.2 := by
      unfold emitCreated
      split
      · exact h
      · exact h.of_state rfl rfl rfl Iff.rfl
    simpa [step] using hcreated
  | item item =>
    cases item with
    | text s =>
      change Placed (ChunkStep.items seen ++ [.text s]) (st.handleText ids s).2
      cases hopen : st.textOpen with
      | true =>
        obtain ⟨t, ht⟩ := h.read hopen
        rw [handleText_open hopen]
        exact (h.snoc (List.ne_nil_of_mem ht) (.inl hopen)).of_state rfl rfl rfl Iff.rfl
      | false =>
        rw [handleText_new hopen]
        exact h.text_added hopen s rfl rfl rfl
    | tool delta =>
      change Placed (ChunkStep.items seen ++ [.tool delta]) (handleToolDelta ids st delta).2
      cases hlookup : st.tools.lookup delta.index with
      | some tool =>
        have htools : st.tools ≠ [] :=
          List.ne_nil_of_mem (OrderedDict.mem_of_lookup hlookup)
        rw [handleToolDelta_old hlookup]
        refine (h.snoc (h.tools htools) (.inr (by simp))).of_state rfl rfl rfl ?_
        exact List.map_eq_nil_iff
      | none =>
        rw [handleToolDelta_new hlookup]
        exact h.tool_added delta rfl rfl rfl

variable (ids) in
theorem placed_chunks (model : String) (now : ℤ) (chunks : List ChatCompletionChunk) :
    Placed (chunks.flatMap ChatCompletionChunk.items)
      (translateChunks ids (.create ids model now) chunks).2 := by
  have hcreate : Placed [] (create ids model now) := by
    constructor
    · exact iff_of_true rfl rfl
    · exact fun hne => absurd rfl hne
    · exact fun _ _ => List.not_mem_nil
    · exact fun hopen => by cases hopen
    · exact fun hopen => by cases hopen
  have hrun := Transducer.run_inv (step ids) (fun seen _ st => Placed (ChunkStep.items seen) st)
    (fun _ _ _ x h => placed_step h x) (chunks.flatMap ChatCompletionChunk.responseSteps) [] []
    (create ids model now) hcreate
  rwa [List.nil_append, ← translateChunks_eq_run, items_of_responseSteps] at hrun

end Place

/-! ### What `finalize` closes -/

section Done

variable {ids : ResponseIds} {items : List DeltaItem} {es : List ResponseEvent}
  {st : ResponsesStreamTranslator}

theorem itemsDone_itemClosings (st : ResponsesStreamTranslator) :
    itemsDone st.itemClosings = st.doneSlots := by
  have htext : itemsDone st.textClosing = st.textSlot := by
    unfold textClosing textSlot
    split <;> rfl
  unfold itemClosings doneSlots
  rw [itemsDone_append, htext]
  congr 1
  induction st.sortedTools with
  | nil => rfl
  | cons tool tools ih =>
    rw [List.flatMap_cons, itemsDone_append, ih]
    rfl

/-- A state that has the items of another. -/
structure SameItems (st st' : ResponsesStreamTranslator) : Prop where
  textOpen : st'.textOpen = st.textOpen
  textIndex : st'.textIndex = st.textIndex
  tools : st'.tools = st.tools
  next : st'.nextOutputIndex = st.nextOutputIndex

theorem SameItems.doneSlots {st' : ResponsesStreamTranslator} (h : SameItems st st') :
    st'.doneSlots = st.doneSlots := by
  unfold ResponsesStreamTranslator.doneSlots textSlot sortedTools
  rw [h.textOpen, h.textIndex, h.tools]

theorem sameItems_estimateUsage (st : ResponsesStreamTranslator) (inputTokens : ℤ) :
    SameItems st ({ st with finished := true }.estimateUsage inputTokens) := by
  unfold estimateUsage
  split <;> exact ⟨rfl, rfl, rfl, rfl⟩

theorem sameItems_emitCreated (st : ResponsesStreamTranslator) :
    SameItems st st.emitCreated.2 ∧ itemsDone (st.emitCreated.1.map NumberedEvent.event) = [] := by
  unfold emitCreated
  split
  · exact ⟨⟨rfl, rfl, rfl, rfl⟩, rfl⟩
  · exact ⟨⟨rfl, rfl, rfl, rfl⟩, rfl⟩

/-- With no item, the empty text item made up is the one to close. -/
theorem itemsDone_ensureItem (ids : ResponseIds) (st : ResponsesStreamTranslator) :
    itemsDone ((st.ensureItem ids).1.map NumberedEvent.event) = [] ∧
      (st.ensureItem ids).2.doneSlots =
        if st.textOpen = false ∧ st.tools = [] then [st.nextOutputIndex] else st.doneSlots := by
  unfold ensureItem
  by_cases hnone : st.textOpen = false ∧ st.tools = []
  · rw [if_pos hnone, if_pos (by simp [hnone.1, hnone.2])]
    refine ⟨rfl, ?_⟩
    unfold doneSlots openText sortedTools
    simp [textSlot, hnone.2, Ranking.sortedBy]
  · have hsome : ¬(!st.textOpen && st.tools.isEmpty) = true := by
      simpa using hnone
    rw [if_neg hnone, if_neg hsome]
    exact ⟨rfl, rfl⟩

/-- The items done are those of the state, or the empty text item. -/
theorem itemsDone_finalize (hunfinished : st.finished = false) (inputTokens : ℤ) :
    itemsDone ((st.finalize ids inputTokens).1.map NumberedEvent.event) =
      if st.textOpen = false ∧ st.tools = [] then [st.nextOutputIndex] else st.doneSlots := by
  have hsame := sameItems_estimateUsage st inputTokens
  generalize hestimated : { st with finished := true }.estimateUsage inputTokens = estimated
    at hsame
  obtain ⟨hsame', hcreated⟩ := sameItems_emitCreated estimated
  obtain ⟨hopened, hslots⟩ := itemsDone_ensureItem ids estimated.emitCreated.2
  generalize hfinal : (estimated.emitCreated.2.ensureItem ids).2 = final at hslots
  have hevents : (st.finalize ids inputTokens).1.map NumberedEvent.event =
      estimated.emitCreated.1.map NumberedEvent.event ++
        (estimated.emitCreated.2.ensureItem ids).1.map NumberedEvent.event ++
          (final.itemClosings ++
            [.completed (final.responseObj .completed final.output (some final.usage))]) := by
    unfold finalize
    rw [if_neg (by simp [hunfinished])]
    simp only [hestimated, hfinal, List.map_append, number_events]
    rfl
  have hlast : ∀ response, itemsDone [.completed response] = [] := fun _ => rfl
  rw [hevents, itemsDone_append, itemsDone_append, itemsDone_append, hcreated, hopened, hlast,
    itemsDone_itemClosings, hslots, hsame'.doneSlots, hsame.doneSlots, hsame'.textOpen,
    hsame.textOpen, hsame'.tools, hsame.tools, hsame'.next, hsame.next]
  simp

/-- The items of a state come in order iff the text item, if there is one, is the first. -/
theorem Kept.pairwise_doneSlots_iff (h : Kept ids items es st) :
    st.doneSlots.Pairwise (· < ·) ↔ (st.textOpen = true → st.textIndex = 0) := by
  have hslots : st.doneSlots = st.textSlot ++ st.toolSlots := by
    unfold doneSlots
    rw [h.sortedTools_eq, st.toolIndices]
  have htaken := h.taken
  rw [hslots]
  cases hopen : st.textOpen with
  | false =>
    have hnone : st.textSlot = [] := by simp [textSlot, hopen]
    rw [hnone, List.nil_append]
    exact iff_of_true h.sorted (by simp)
  | true =>
    have hone : st.textSlot = [st.textIndex] := by simp [textSlot, hopen]
    rw [hone, List.singleton_append] at htaken ⊢
    rw [List.pairwise_cons]
    constructor
    · rintro ⟨hless, -⟩ -
      -- every index below the next is taken, the first one by the text
      have hpos : 0 < st.nextOutputIndex := by
        have := List.mem_range.1 (htaken.mem_iff.1 List.mem_cons_self)
        omega
      have hzero := htaken.mem_iff.2 (List.mem_range.2 hpos)
      rcases List.mem_cons.1 hzero with hzero | hzero
      · exact hzero.symm
      · have := hless 0 hzero
        omega
    · intro hzero
      refine ⟨?_, h.sorted⟩
      intro i hi
      have hnodup := htaken.nodup_iff.2 (List.nodup_range)
      have hne : i ≠ st.textIndex := by
        rintro rfl
        exact (List.nodup_cons.1 hnodup).1 hi
      have := hzero rfl
      omega

/-- The text item is the first iff the text comes first. -/
theorem Placed.textFirst_iff (h : Placed items st) :
    (st.textOpen = true → st.textIndex = 0) ↔ Chunks.TextFirst items := by
  unfold Chunks.TextFirst
  cases hopen : st.textOpen with
  | false =>
    have hnone := h.shut hopen
    simp [hnone]
  | true =>
    have hsome := h.read hopen
    have hfirst := h.first hopen
    simp [hsome, hfirst]

end Done

end ResponsesStreamTranslator

/-- **The items of a Responses stream are done in the order of their indices iff no function call
comes before the text.** -/
theorem items_done_in_order_iff (ids : ResponseIds) (model : String) (now inputTokens : ℤ)
    (chunks : List ChatCompletionChunk) :
    (itemsDone (((ResponsesStreamTranslator.translateChunks ids (.create ids model now)
        chunks).2.finalize ids inputTokens).1.map NumberedEvent.event)).Pairwise (· < ·) ↔
      Chunks.TextFirst (chunks.flatMap ChatCompletionChunk.items) := by
  cases chunks with
  | nil =>
    have hdone : itemsDone (((ResponsesStreamTranslator.create ids model now).finalize ids
        inputTokens).1.map NumberedEvent.event) = [0] :=
      ResponsesStreamTranslator.itemsDone_finalize rfl inputTokens
    refine iff_of_true ?_ (by simp [Chunks.TextFirst])
    change (itemsDone (((ResponsesStreamTranslator.create ids model now).finalize ids
      inputTokens).1.map NumberedEvent.event)).Pairwise (· < ·)
    rw [hdone]
    exact List.pairwise_singleton _ _
  | cons chunk chunks =>
    have hplaced := ResponsesStreamTranslator.placed_chunks ids model now (chunk :: chunks)
    have hfollows := ResponsesStreamTranslator.follows_chunks ids model now chunk chunks
    rw [ResponsesStreamTranslator.itemsDone_finalize hfollows.unfinished, ← hplaced.textFirst_iff,
      ← hfollows.kept.pairwise_doneSlots_iff]
    split
    next hnone =>
      have hslots := hfollows.kept.pairwise_doneSlots_iff.2 (by simp [hnone.1])
      exact iff_of_true (List.pairwise_singleton _ _) hslots
    · exact Iff.rfl

/-- A chunk with a function call, then one with text. -/
def lateText : List ChatCompletionChunk :=
  [sampleChunk { toolCalls := some [sampleDelta ""] }, sampleChunk { content := some "Hi" }]

/-- The text comes second and is done first. -/
theorem late_text_done_first :
    ¬ ∀ (ids : ResponseIds) (model : String) (now inputTokens : ℤ)
      (chunks : List ChatCompletionChunk),
      (itemsDone (((ResponsesStreamTranslator.translateChunks ids (.create ids model now)
        chunks).2.finalize ids inputTokens).1.map NumberedEvent.event)).Pairwise (· < ·) := by
  intro h
  have hpairwise := h sampleIds "m" 0 0 lateText
  revert hpairwise
  decide

end ModelMeld
