import ModelMeld.Proof.SameTurn
import ModelMeld.Proof.Closings
import ModelMeld.Spec.ToResponses

/-!
# Streamed and whole responses

`responses_parity_iff`: of a completion that says what a stream of chunks says, the Responses
stream completes the response that `to_responses_response` makes, iff no call comes before the
text, every call has its id on its first delta, and the total of the usage is the sum of its parts.
The response completed is that of the state `finalize` closes, whose items `Kept` describes.
-/

namespace ModelMeld

/-- Two output items say the same; their own ids do not count, nor does the id of a call that has
none in the first. -/
def SameItem : ResponseItem → ResponseItem → Prop
  | .message status _ content, .message status' _ content' =>
    status' = status ∧ content' = content
  | .functionCall _ callId name arguments, .functionCall _ callId' name' arguments' =>
    (callId ≠ "" → callId' = callId) ∧ name' = name ∧ arguments' = arguments
  | _, _ => False

/-- A client of the stream is told what one that asks for the whole response is told. -/
structure SameResponse (whole streamed : ResponseObject) : Prop where
  model : streamed.model = whole.model
  status : streamed.status = whole.status
  usage : streamed.usage = whole.usage
  output : List.Forall₂ SameItem whole.output streamed.output

/-- The first delta of each tool index carries the id that any delta of it carries. -/
def Chunks.IdsFirst (deltas : List ToolCallDelta) : Prop :=
  ∀ k ∈ indices deltas, suppliedId k deltas ≠ "" → firstId k deltas ≠ ""

/-! ## What the whole output is -/

theorem mem_functionCallItems {ids : ResponseIds} {calls : List ToolCall} {item : ResponseItem} :
    ∀ {i : ℕ}, item ∈ functionCallItems ids i calls →
      ∃ id, ∃ tc ∈ calls, item = .functionCall id tc.id tc.function.name tc.function.arguments := by
  induction calls with
  | nil =>
    intro i h
    exact absurd h List.not_mem_nil
  | cons tc calls ih =>
    intro i h
    rcases List.mem_cons.1 h with rfl | h
    · exact ⟨_, tc, List.mem_cons_self, rfl⟩
    · obtain ⟨id, tc', htc, heq⟩ := ih h
      exact ⟨id, tc', List.mem_cons_of_mem _ htc, heq⟩

/-- The message of a text, when there is one. -/
theorem messageItems_eq (ids : ResponseIds) (content : Option String) :
    messageItems ids content =
      if content.getD "" = "" then [] else [.message .completed ids.message [content.getD ""]] := by
  unfold messageItems
  cases content with
  | none => rfl
  | some s => rfl

section WholeOutput

variable {ids : ResponseIds} {chunks : List ChatCompletionChunk} {completion : ChatCompletion}
  {choice : Choice}

/-- The text and the calls of the first choice, or an empty message. -/
theorem responseOutput_eq (hwhole : Whole chunks completion choice) :
    responseOutput ids completion.choices =
      if Chunks.text chunks = "" ∧ Chunks.toolCalls chunks = [] then
        [.message .completed ids.message [""]]
      else
        messageItems ids choice.message.content ++
          functionCallItems ids (messageItems ids choice.message.content).length
            (Chunks.toolCalls chunks) := by
  obtain ⟨rest, hchoices⟩ : ∃ rest, completion.choices = choice :: rest := by
    have hfirst := hwhole.first
    cases hlist : completion.choices with
    | nil =>
      rw [hlist] at hfirst
      cases hfirst
    | cons c rest =>
      rw [hlist] at hfirst
      obtain rfl := Option.some.inj hfirst
      exact ⟨rest, rfl⟩
  have hnil : ∀ i, functionCallItems ids i (Chunks.toolCalls chunks) = [] ↔
      Chunks.toolCalls chunks = [] := by
    intro i
    cases Chunks.toolCalls chunks <;> simp [functionCallItems]
  have hmessage : messageItems ids choice.message.content = [] ↔ Chunks.text chunks = "" := by
    rw [messageItems_eq, hwhole.text]
    by_cases htext : Chunks.text chunks = "" <;> simp [htext]
  unfold responseOutput
  simp only [hchoices, hwhole.calls, List.append_eq_nil_iff, hnil, hmessage]

end WholeOutput

/-! ## What the stream completes -/

namespace ResponsesStreamTranslator

variable {ids : ResponseIds} {items : List DeltaItem} {st : ResponsesStreamTranslator}

theorem emitCreated_model (st : ResponsesStreamTranslator) :
    st.emitCreated.2.model = st.model := by
  unfold emitCreated
  split <;> rfl

theorem step_model (ids : ResponseIds) (st : ResponsesStreamTranslator) (x : ChunkStep) :
    (step ids st x).2.model = st.model := by
  cases x with
  | usage u => rfl
  | finish f => rfl
  | start chunkId => exact emitCreated_model st
  | item item =>
    cases item with
    | text s =>
      change (st.handleText ids s).2.model = st.model
      cases hopen : st.textOpen with
      | true => rw [handleText_open hopen]; rfl
      | false => rw [handleText_new hopen]; rfl
    | tool delta =>
      change (handleToolDelta ids st delta).2.model = st.model
      cases hlookup : st.tools.lookup delta.index with
      | some tool => rw [handleToolDelta_old hlookup]; rfl
      | none => rw [handleToolDelta_new hlookup]; rfl

/-- The model a stream is set up with stays. -/
theorem chunks_model (ids : ResponseIds) (model : String) (now : ℤ)
    (chunks : List ChatCompletionChunk) :
    (translateChunks ids (.create ids model now) chunks).2.model = model := by
  have hrun := Transducer.run_inv (step ids) (fun _ _ st => st.model = model)
    (fun _ _ st x h => (step_model ids st x).trans h)
    (chunks.flatMap ChatCompletionChunk.responseSteps) [] [] (create ids model now) rfl
  rwa [← translateChunks_eq_run] at hrun

/-- The state whose items `finalize` closes, next to the state it is called on. -/
structure Closed (ids : ResponseIds) (items : List DeltaItem)
    (st closed : ResponsesStreamTranslator) : Prop where
  kept : ∃ es, Kept ids items es closed
  item : closed.textOpen = true ∨ closed.tools ≠ []
  /-- The text item is the first of the one iff it is of the other. -/
  place : (closed.textOpen = true → closed.textIndex = 0) ↔
    (st.textOpen = true → st.textIndex = 0)
  tools : closed.tools = st.tools
  opened : closed.textOpen = true → st.textOpen = true ∨ st.tools = []
  model : closed.model = st.model
  usage : ∀ i o, st.reported = some (i, o) → closed.usage = ⟨i, o, i + o⟩

/-- Without an item the next output index is the first. -/
theorem Kept.next_of_none {es : List ResponseEvent} (h : Kept ids items es st)
    (hopen : st.textOpen = false) (htools : st.tools = []) : st.nextOutputIndex = 0 := by
  have htaken := h.taken.length_eq
  have hnone : st.textSlot ++ st.toolSlots = [] := by
    unfold textSlot toolSlots
    rw [hopen, htools]
    rfl
  rw [hnone, List.length_range] at htaken
  exact htaken.symm

theorem closed_ensureItem {out : List NumberedEvent}
    (hnumbered : out.map NumberedEvent.sequenceNumber = List.range st.seq)
    (h : Kept ids items (out.map NumberedEvent.event) st) :
    Closed ids items st (st.ensureItem ids).2 := by
  obtain ⟨-, hkept, hitem⟩ := kept_ensureItem ids hnumbered h
  have hsame := (ensureItem_quiet ids st).2
  have husage : ∀ i o, st.reported = some (i, o) →
      (st.ensureItem ids).2.usage = ⟨i, o, i + o⟩ := by
    intro i o hreported
    unfold reported at hreported
    split at hreported
    next hsaw =>
      obtain ⟨rfl, rfl⟩ := Prod.mk.inj (Option.some.inj hreported)
      unfold ResponsesStreamTranslator.usage
      rw [hsame.input, hsame.output]
    · cases hreported
  by_cases hnone : st.textOpen = false ∧ st.tools = []
  · have hopened : (st.ensureItem ids).2 = (st.openText ids).2 := by
      unfold ensureItem
      rw [if_pos (by simp [hnone.1, hnone.2])]
    have hzero := h.next_of_none hnone.1 hnone.2
    refine ⟨⟨_, hkept⟩, hitem, ?_, ?_, fun _ => .inr hnone.2, ?_, husage⟩
    · rw [hopened]
      exact iff_of_true (fun _ => hzero) (by simp [hnone.1])
    · rw [hopened]
      rfl
    · rw [hopened]
      rfl
  · have hkeeps : (st.ensureItem ids).2 = st := by
      unfold ensureItem
      rw [if_neg (by simpa using hnone)]
    refine ⟨⟨_, hkept⟩, hitem, ?_, ?_, ?_, ?_, husage⟩
    · rw [hkeeps]
    · rw [hkeeps]
    · rw [hkeeps]
      exact .inl
    · rw [hkeeps]

/-- **`finalize` completes the response of the state it closes.** -/
theorem finalize_completes {seen : List ChunkStep} {out : List NumberedEvent}
    (h : Follows ids seen out st) (inputTokens : ℤ) :
    ∃ closed, Closed ids (ChunkStep.items seen) st closed ∧
      completions ((st.finalize ids inputTokens).1.map NumberedEvent.event) =
        [closed.responseObj .completed closed.output (some closed.usage)] := by
  generalize hestimated : { st with finished := true }.estimateUsage inputTokens = estimated
  have hkeeps : estimated.seq = st.seq ∧ estimated.createdEmitted = true ∧
      estimated.model = st.model ∧
      (∀ i o, st.reported = some (i, o) → estimated.reported = some (i, o)) ∧
      SameItems st estimated ∧
      Kept ids (ChunkStep.items seen) (out.map NumberedEvent.event) estimated := by
    have hsame := sameItems_estimateUsage st inputTokens
    rw [hestimated] at hsame
    rw [← hestimated] at hsame ⊢
    unfold estimateUsage at hsame ⊢
    split at hsame
    next hsaw =>
      rw [if_pos hsaw]
      exact ⟨rfl, h.created, rfl, fun _ _ hr => hr, hsame,
        h.kept.of_state rfl rfl rfl rfl rfl⟩
    next hsaw =>
      rw [if_neg hsaw]
      refine ⟨rfl, h.created, rfl, ?_, hsame, h.kept.of_state rfl rfl rfl rfl rfl⟩
      intro i o hreported
      -- nothing has been reported
      unfold reported at hreported
      rw [if_neg hsaw] at hreported
      cases hreported
  obtain ⟨hseq, hcreated, hmodel, hreported, hitems, hkept⟩ := hkeeps
  have hclosed := closed_ensureItem (by rw [hseq]; exact h.numbered) hkept
  have hquiet := (ensureItem_quiet ids estimated).1
  refine ⟨(estimated.ensureItem ids).2, ?_, ?_⟩
  · refine ⟨hclosed.kept, hclosed.item, ?_, ?_, ?_, ?_, ?_⟩
    · rw [hclosed.place, hitems.textOpen, hitems.textIndex]
    · rw [hclosed.tools, hitems.tools]
    · intro hopen
      have := hclosed.opened hopen
      rwa [hitems.textOpen, hitems.tools] at this
    · rw [hclosed.model, hmodel]
    · exact fun i o hr => hclosed.usage i o (hreported i o hr)
  · generalize hfinal : (estimated.ensureItem ids).2 = final
    have hevents : (st.finalize ids inputTokens).1.map NumberedEvent.event =
        (estimated.ensureItem ids).1.map NumberedEvent.event ++
          (final.textClosing ++ final.sortedTools.flatMap toolClosing ++
            [.completed (final.responseObj .completed final.output (some final.usage))]) := by
      unfold finalize
      rw [if_neg (by simp [h.unfinished])]
      simp only [hestimated, emitCreated_done hcreated, hfinal, List.nil_append, List.map_append,
        number_events]
    rw [hevents, completions_append, completions_append, hquiet, completions_closings]
    rfl

/-- **A stream that does not break off completes one response**, that of a state which has kept
the chunks. -/
theorem stream_completes (ids : ResponseIds) (model : String) (now inputTokens : ℤ)
    (chunks : List ChatCompletionChunk) :
    ∃ closed, Closed ids (chunks.flatMap ChatCompletionChunk.items)
        (translateChunks ids (.create ids model now) chunks).2 closed ∧
      completions ((sseResponses ids { chunks := chunks } model now inputTokens).map
        NumberedEvent.event) =
          [closed.responseObj .completed closed.output (some closed.usage)] := by
  have hquiet := (counted_chunks ids model now chunks).uncompleted
  have hstream : completions ((sseResponses ids { chunks := chunks } model now inputTokens).map
      NumberedEvent.event) = completions (((translateChunks ids (.create ids model now)
        chunks).2.finalize ids inputTokens).1.map NumberedEvent.event) := by
    change completions (((translateChunks ids (.create ids model now) chunks).1 ++
      ((translateChunks ids (.create ids model now) chunks).2.finalize ids
        inputTokens).1).map NumberedEvent.event) = _
    rw [List.map_append, completions_append, hquiet, List.nil_append]
  rw [hstream]
  cases chunks with
  | nil =>
    -- no chunk came: `finalize` creates the response as the first chunk would have
    obtain ⟨closed, hclosed, hcompleted⟩ :=
      finalize_completes (follows_created ids model now "") inputTokens
    refine ⟨closed, ?_, hcompleted⟩
    exact ⟨hclosed.kept, hclosed.item, hclosed.place, hclosed.tools, hclosed.opened,
      hclosed.model, hclosed.usage⟩
  | cons chunk chunks =>
    have hcompletes := finalize_completes (follows_chunks ids model now chunk chunks) inputTokens
    rwa [items_of_responseSteps] at hcompletes

/-- What a tool entry is in the output. -/
def toolItem (p : ℤ × ToolEntry) : ResponseItem := functionCallItem p.2 (String.join p.2.args)

section Output

variable {es : List ResponseEvent}

/-- With the text in the first place, the output is the text and then the calls. -/
theorem Kept.output_of_place (h : Kept ids items es st)
    (hplace : st.textOpen = true → st.textIndex = 0) :
    st.output = (if st.textOpen then [st.doneMessage] else []) ++ st.tools.map toolItem := by
  have hsorted : st.completedItems.Pairwise (fun a b => a.1 ≤ b.1) := by
    have hslots := h.sorted
    unfold toolSlots at hslots
    rw [List.pairwise_map] at hslots
    rw [h.completedItems_eq, List.pairwise_append]
    refine ⟨?_, ?_, ?_⟩
    · split
      · exact List.pairwise_singleton _ _
      · exact List.Pairwise.nil
    · rw [List.pairwise_map]
      exact hslots.imp (fun hlt => Nat.le_of_lt hlt)
    · intro a ha b hb
      split at ha
      next hopen =>
        rw [List.mem_singleton.1 ha, hplace hopen]
        exact Nat.zero_le _
      · exact absurd ha List.not_mem_nil
  unfold output
  rw [Ranking.sortedBy_of_pairwise hsorted, h.completedItems_eq, List.map_append, List.map_map]
  congr 1
  split <;> rfl

/-- Text in another place comes after an item of the output. -/
theorem Kept.message_mem_tail (h : Kept ids items es st) (hopen : st.textOpen = true)
    (hplace : st.textIndex ≠ 0) : st.doneMessage ∈ st.output.tail := by
  have hmem : (st.textIndex, st.doneMessage) ∈ st.completedItems := by
    rw [h.completedItems_eq, if_pos hopen]
    simp
  have hat : st.output[st.textIndex]? = some st.doneMessage := by
    unfold output
    rw [List.getElem?_map, (Ranking.getElem?_sortedBy_range h.completed_perm _ _).2 ⟨hmem, rfl⟩]
    rfl
  obtain ⟨n, hn⟩ : ∃ n, st.textIndex = n + 1 := ⟨st.textIndex - 1, by omega⟩
  rw [hn] at hat
  refine List.mem_iff_getElem?.2 ⟨n, ?_⟩
  rw [List.getElem?_tail]
  exact hat

end Output

end ResponsesStreamTranslator

/-! ## Both -/

theorem Chunks.firstGiven_mem {l : List String} (h : firstGiven l ≠ "") : firstGiven l ∈ l := by
  induction l with
  | nil => exact absurd rfl h
  | cons s rest ih =>
    unfold firstGiven at h ⊢
    split
    next hs =>
      rw [if_pos hs] at h
      exact List.mem_cons_of_mem _ (ih h)
    · exact List.mem_cons_self

/-- A supplied id is that of a delta. -/
theorem Chunks.exists_suppliedId {k : ℤ} {deltas : List ToolCallDelta}
    (h : suppliedId k deltas ≠ "") : ∃ delta ∈ deltas, delta.idText = suppliedId k deltas := by
  obtain ⟨delta, hdelta, hid⟩ := List.mem_map.1 (firstGiven_mem h)
  exact ⟨delta, List.mem_of_mem_filter hdelta, hid⟩

/-- The id a call is given is the one supplied for it iff its first delta has it. -/
theorem Chunks.given_id_iff {deltas : List ToolCallDelta} {made : String}
    (hfresh : ∀ delta ∈ deltas, delta.idText ≠ made) (k : ℤ) :
    (suppliedId k deltas ≠ "" →
      (if firstId k deltas = "" then made else firstId k deltas) = suppliedId k deltas) ↔
      (suppliedId k deltas ≠ "" → firstId k deltas ≠ "") := by
  refine imp_congr_right ?_
  intro hsupplied
  split
  next hfirst =>
    -- the id made up is that of no delta
    obtain ⟨delta, hdelta, hid⟩ := exists_suppliedId hsupplied
    refine iff_of_false ?_ (not_not_intro hfirst)
    intro heq
    exact hfresh delta hdelta (hid.trans heq.symm)
  next hfirst =>
    exact iff_of_true (firstGiven_of_head hfirst).symm hfirst

theorem join_eq_empty {l : List String} (h : String.join l = "") : ∀ s ∈ l, s = "" := by
  induction l with
  | nil =>
    intro s hs
    exact absurd hs List.not_mem_nil
  | cons t l ih =>
    rw [String.join_cons, String.append_eq_empty_iff] at h
    intro s hs
    rcases List.mem_cons.1 hs with rfl | hs
    · exact h.1
    · exact ih h.2 s hs

/-- Text that is an item is not empty. -/
theorem ChatCompletionChunk.text_item_ne_empty {chunk : ChatCompletionChunk} {s : String}
    (h : .text s ∈ chunk.items) : s ≠ "" := by
  unfold ChatCompletionChunk.items at h
  split at h
  · exact absurd h List.not_mem_nil
  · unfold ChoiceDelta.items ChoiceDelta.textItems at h
    rcases List.mem_append.1 h with h | h
    · split at h
      · exact absurd h List.not_mem_nil
      · split at h
        · exact absurd h List.not_mem_nil
        next hs =>
          obtain rfl := DeltaItem.text.inj (List.mem_singleton.1 h)
          exact hs
    · obtain ⟨delta, -, heq⟩ := List.mem_map.1 h
      cases heq

/-- The text of a stream with a text item is not empty. -/
theorem Chunks.text_ne_empty {chunks : List ChatCompletionChunk} {s : String}
    (h : DeltaItem.text s ∈ chunks.flatMap ChatCompletionChunk.items) : text chunks ≠ "" := by
  intro hempty
  rw [text_eq] at hempty
  obtain ⟨chunk, -, hitem⟩ := List.mem_flatMap.1 h
  refine ChatCompletionChunk.text_item_ne_empty hitem (join_eq_empty hempty s ?_)
  exact List.mem_filterMap.2 ⟨_, h, rfl⟩

theorem forall₂_functionCallItems (ids : ResponseIds) {X : Type} (f : X → ToolCall)
    (g : X → ResponseItem) (l : List X) : ∀ i : ℕ,
    List.Forall₂ SameItem (functionCallItems ids i (l.map f)) (l.map g) ↔
      ∀ x ∈ l, SameItem (.functionCall "" (f x).id (f x).function.name (f x).function.arguments)
        (g x) := by
  induction l with
  | nil =>
    intro i
    simp [functionCallItems]
  | cons x l ih =>
    intro i
    have hitem : ∀ item, SameItem (.functionCall (ids.item i) (f x).id (f x).function.name
        (f x).function.arguments) item ↔
        SameItem (.functionCall "" (f x).id (f x).function.name (f x).function.arguments) item := by
      intro item
      cases item <;> rfl
    unfold functionCallItems
    rw [List.map_cons, List.map_cons]
    simp only [List.forall₂_cons, ih, List.forall_mem_cons, hitem]

section Parity

open ResponsesStreamTranslator

variable {ids ids' : ResponseIds} {chunks : List ChatCompletionChunk}
  {completion : ChatCompletion} {choice : Choice} {st closed : ResponsesStreamTranslator}

/-- The text item closed is the text of the chunks. -/
theorem ResponsesStreamTranslator.Closed.textOpen_iff
    (hclosed : Closed ids (chunks.flatMap ChatCompletionChunk.items) st closed)
    (hplaced : Placed (chunks.flatMap ChatCompletionChunk.items) st) :
    closed.textOpen = true ↔ Chunks.text chunks ≠ "" ∨ Chunks.toolCalls chunks = [] := by
  obtain ⟨es, hkept⟩ := hclosed.kept
  have htools : closed.tools = [] ↔ Chunks.toolCalls chunks = [] := by
    have hkeys := hkept.keys
    unfold Chunks.toolCalls
    rw [List.map_eq_nil_iff, ← List.map_eq_nil_iff (f := Prod.fst) (l := closed.tools), hkeys]
    rfl
  constructor
  · intro hopen
    rcases hclosed.opened hopen with hread | hnone
    · obtain ⟨s, hs⟩ := hplaced.read hread
      exact .inl (Chunks.text_ne_empty hs)
    · exact .inr (htools.1 (hclosed.tools.trans hnone))
  · rintro (htext | hnone)
    · by_contra hshut
      apply htext
      rw [Chunks.text_eq]
      exact hkept.shut (by simpa using hshut)
    · rcases hclosed.item with hopen | hsome
      · exact hopen
      · exact absurd (htools.2 hnone) hsome

/-- The whole output next to the tool entries of the state closed. -/
theorem wholeOutput_eq (ids' : ResponseIds) (hwhole : Whole chunks completion choice)
    (hclosed : Closed ids (chunks.flatMap ChatCompletionChunk.items) st closed)
    (hplaced : Placed (chunks.flatMap ChatCompletionChunk.items) st) :
    ∃ i, responseOutput ids' completion.choices =
      (if closed.textOpen then [.message .completed ids'.message [Chunks.text chunks]] else []) ++
        functionCallItems ids' i (Chunks.toolCalls chunks) := by
  have hopen := hclosed.textOpen_iff hplaced
  rw [responseOutput_eq hwhole]
  by_cases hnone : Chunks.text chunks = "" ∧ Chunks.toolCalls chunks = []
  · rw [if_pos hnone, if_pos (hopen.2 (.inr hnone.2)), hnone.1, hnone.2]
    exact ⟨0, rfl⟩
  · rw [if_neg hnone, messageItems_eq, hwhole.text]
    by_cases htext : Chunks.text chunks = ""
    · have hcalls : Chunks.toolCalls chunks ≠ [] := fun hnil => hnone ⟨htext, hnil⟩
      have hshut : ¬ closed.textOpen = true := by
        rw [hopen, not_or, not_not]
        exact ⟨htext, hcalls⟩
      rw [if_pos htext, if_neg hshut]
      exact ⟨_, rfl⟩
    · rw [if_neg htext, if_pos (hopen.2 (.inl htext))]
      exact ⟨_, rfl⟩

/-- The calls of a whole response after its text. -/
theorem tail_calls {head : List ResponseItem} (hlen : head.length ≤ 1) {i : ℕ}
    {calls : List ToolCall} {item : ResponseItem}
    (h : item ∈ (head ++ functionCallItems ids i calls).tail) :
    ∃ id callId name arguments, item = .functionCall id callId name arguments := by
  have hmem : item ∈ functionCallItems ids i calls := by
    match head, hlen with
    | [], _ => exact List.mem_of_mem_tail h
    | [_], _ => exact h
  obtain ⟨id, tc, -, heq⟩ := mem_functionCallItems hmem
  exact ⟨id, tc.id, tc.function.name, tc.function.arguments, heq⟩

theorem exists_of_forall₂ {X Y : Type} {R : X → Y → Prop} {l : List X} {l' : List Y}
    (h : List.Forall₂ R l l') {y : Y} (hy : y ∈ l') : ∃ x ∈ l, R x y := by
  induction h with
  | nil => exact absurd hy List.not_mem_nil
  | cons hfirst hrest ih =>
    rcases List.mem_cons.1 hy with rfl | hy
    · exact ⟨_, List.mem_cons_self, hfirst⟩
    · obtain ⟨x, hx, hsame⟩ := ih hy
      exact ⟨x, List.mem_cons_of_mem _ hx, hsame⟩

/-- What matches calls are calls. -/
theorem forall₂_sameItem_tail {items items' : List ResponseItem}
    (h : List.Forall₂ SameItem items items')
    (hcalls : ∀ item ∈ items.tail, ∃ id callId name arguments,
      item = .functionCall id callId name arguments) :
    ∀ status id content, .message status id content ∉ items'.tail := by
  intro status id content hmem
  cases h with
  | nil => exact List.not_mem_nil hmem
  | cons hfirst hrest =>
    rw [List.tail_cons] at hmem hcalls
    obtain ⟨item, hitem, hsame⟩ := exists_of_forall₂ hrest hmem
    obtain ⟨id', callId, name, arguments, rfl⟩ := hcalls item hitem
    exact hsame

/-- **The outputs agree iff the text comes first and so do the ids of the calls.** -/
theorem sameOutput_iff (ids' : ResponseIds) (hwhole : Whole chunks completion choice)
    (hfresh : ∀ i, ∀ delta ∈ Chunks.toolDeltas chunks, delta.idText ≠ ids.call i)
    (hclosed : Closed ids (chunks.flatMap ChatCompletionChunk.items) st closed)
    (hplaced : Placed (chunks.flatMap ChatCompletionChunk.items) st) :
    List.Forall₂ SameItem (responseOutput ids' completion.choices) closed.output ↔
      Chunks.TextFirst (chunks.flatMap ChatCompletionChunk.items) ∧
        Chunks.IdsFirst (Chunks.toolDeltas chunks) := by
  obtain ⟨es, hkept⟩ := hclosed.kept
  obtain ⟨i, houtput⟩ := wholeOutput_eq ids' hwhole hclosed hplaced
  rw [← hplaced.textFirst_iff, ← hclosed.place, houtput]
  by_cases hplace : closed.textOpen = true → closed.textIndex = 0
  · have hcalls : Chunks.toolCalls chunks = closed.tools.map (fun p =>
        { id := Chunks.suppliedId p.1 (Chunks.toolDeltas chunks)
          function :=
            { name := Chunks.suppliedName p.1 (Chunks.toolDeltas chunks)
              arguments := Chunks.arguments p.1 (Chunks.toolDeltas chunks) } }) := by
      have hkeys := hkept.keys
      unfold Chunks.toolCalls Chunks.toolDeltas
      rw [← hkeys, List.map_map]
      rfl
    have hids : (∀ p ∈ closed.tools, Chunks.suppliedId p.1 (Chunks.toolDeltas chunks) ≠ "" →
        p.2.callId = Chunks.suppliedId p.1 (Chunks.toolDeltas chunks)) ↔
        Chunks.IdsFirst (Chunks.toolDeltas chunks) := by
      have hkeys := hkept.keys
      unfold Chunks.IdsFirst Chunks.toolDeltas
      rw [← hkeys, List.forall_mem_map]
      refine forall₂_congr ?_
      intro p hp
      rw [hkept.callIds p hp]
      exact Chunks.given_id_iff (hfresh p.2.index) p.1
    have hitems : (∀ p ∈ closed.tools, SameItem
        (.functionCall "" (Chunks.suppliedId p.1 (Chunks.toolDeltas chunks))
          (Chunks.suppliedName p.1 (Chunks.toolDeltas chunks))
          (Chunks.arguments p.1 (Chunks.toolDeltas chunks))) (toolItem p)) ↔
        Chunks.IdsFirst (Chunks.toolDeltas chunks) := by
      rw [← hids]
      refine forall₂_congr ?_
      intro p hp
      exact and_iff_left ⟨hkept.names p hp, hkept.args p hp⟩
    have hhead : closed.doneMessage =
        .message .completed closed.textItemId [Chunks.text chunks] := by
      unfold doneMessage
      rw [hkept.text, Chunks.text_eq]
    rw [hkept.output_of_place hplace, hcalls, and_iff_right hplace, ← hitems]
    split
    · rw [List.singleton_append, List.singleton_append, List.forall₂_cons,
        forall₂_functionCallItems, hhead]
      exact and_iff_right ⟨rfl, rfl⟩
    · rw [List.nil_append, List.nil_append, forall₂_functionCallItems]
  · refine iff_of_false ?_ (fun h => hplace h.1)
    intro hsame
    rw [Classical.not_imp] at hplace
    have hlate := hkept.message_mem_tail hplace.1 hplace.2
    refine forall₂_sameItem_tail hsame ?_ _ _ _ hlate
    intro item hitem
    refine tail_calls ?_ hitem
    split
    · exact le_refl 1
    · exact Nat.zero_le 1

end Parity

/-- **Streaming a response or not tells the client the same** iff, in the chunks, no call comes
before the text, the first delta of each tool index carries the id of the call, and the total of
the usage is the sum of its parts. The completion, with `completion.usage`, says what the chunks
say; ids made up for calls are no ids of deltas. -/
theorem responses_parity_iff (ids ids' : ResponseIds) (model : String)
    (now now' inputTokens : ℤ) (chunks : List ChatCompletionChunk) (completion : ChatCompletion)
    (choice : Choice) (u : Usage) (hwhole : Whole chunks completion choice)
    (husage : Chunks.usage chunks = some u)
    (hfresh : ∀ i, ∀ delta ∈ Chunks.toolDeltas chunks, delta.idText ≠ ids.call i) :
    (∃ response, completions ((sseResponses ids { chunks := chunks } model now
        inputTokens).map NumberedEvent.event) = [response] ∧
      SameResponse (toResponsesResponse ids' now' completion model) response) ↔
    Chunks.TextFirst (chunks.flatMap ChatCompletionChunk.items) ∧
      Chunks.IdsFirst (Chunks.toolDeltas chunks) ∧
      u.totalTokens = u.promptTokens + u.completionTokens := by
  obtain ⟨closed, hclosed, hcompleted⟩ :=
    ResponsesStreamTranslator.stream_completes ids model now inputTokens chunks
  have hplaced := ResponsesStreamTranslator.placed_chunks ids model now chunks
  have hmodel : closed.model = model :=
    hclosed.model.trans (ResponsesStreamTranslator.chunks_model ids model now chunks)
  have hclosedUsage : closed.usage =
      ⟨u.promptTokens, u.completionTokens, u.promptTokens + u.completionTokens⟩ := by
    have hreported :=
      (ResponsesStreamTranslator.counted_chunks ids model now chunks).reported
    rw [usages_of_responseSteps] at hreported
    unfold Chunks.usage at husage
    rw [husage] at hreported
    exact hclosed.usage _ _ hreported
  have houtput := sameOutput_iff ids' hwhole hfresh hclosed hplaced
  rw [hcompleted, ← and_assoc, ← houtput]
  have htotal : (some closed.usage : Option ResponseUsage) =
      (toResponsesResponse ids' now' completion model).usage ↔
        u.totalTokens = u.promptTokens + u.completionTokens := by
    rw [hclosedUsage]
    unfold toResponsesResponse
    rw [hwhole.usage, husage]
    simp only [Option.map_some, Option.getD_some, Option.some.injEq, ResponseUsage.mk.injEq,
      true_and]
    exact eq_comm
  constructor
  · rintro ⟨response, hresponse, hsame⟩
    obtain rfl := (List.cons.inj hresponse).1
    exact ⟨hsame.output, htotal.1 hsame.usage⟩
  · rintro ⟨hsame, hsum⟩
    exact ⟨_, rfl, hmodel, rfl, htotal.2 hsum, hsame⟩

/-- Text and a call, then the usage of both. -/
def countedChunks : List ChatCompletionChunk :=
  sampleChunks ++ [{ sampleChunk {} with usage := some ⟨3, 2, 5, none, none⟩ }]

/-- The choice that says what those chunks say. -/
def countedChoice : Choice where
  index := 0
  message :=
    { content := some "Hi"
      toolCalls := some [{ id := "call_1", function := ⟨"ls", "\x7b\x7d"⟩ }] }

def countedCompletion : ChatCompletion where
  id := "chatcmpl-1"
  created := 0
  model := "m"
  choices := [countedChoice]
  usage := some ⟨3, 2, 5, none, none⟩

theorem responses_parity_counted :
    ∃ response, completions ((sseResponses (.drawn "1" "1" (fun _ => "1") (fun _ => "2"))
        { chunks := countedChunks } "m" 0 7).map NumberedEvent.event) = [response] ∧
      SameResponse (toResponsesResponse sampleIds 1 countedCompletion "m") response := by
  refine (responses_parity_iff (.drawn "1" "1" (fun _ => "1") (fun _ => "2")) sampleIds "m" 0 1 7
    countedChunks countedCompletion countedChoice ⟨3, 2, 5, none, none⟩
    ⟨rfl, by decide, by decide, by decide, by decide⟩
    (by decide) ?_).2 ⟨?_, ?_, rfl⟩
  · intro i delta hdelta
    have hids : ∀ delta ∈ Chunks.toolDeltas countedChunks, delta.idText ≠ "call_" ++ "2" := by
      decide
    exact hids delta hdelta
  · exact fun _ => ⟨"Hi", by decide⟩
  · unfold Chunks.IdsFirst
    decide

end ModelMeld
