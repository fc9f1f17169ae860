import ModelMeld.Proof.NoLoss
import Mathlib.Data.List.TakeWhile

/-!
# The grammar of the Anthropic stream

`message_grammar`: when the deltas of each tool index follow one another, the
events are those of a well-formed stream with at least one block, and every
event on a block is on the block open then. What is emitted so far is always
closed blocks followed by the block still open.
-/

namespace ModelMeld

/-! ## Well-formed streams -/

theorem blockEvents_snoc (b : StreamBlock) : ∀ (bs : List StreamBlock) (i : ℕ),
    blockEvents (bs ++ [b]) i = blockEvents bs i ++ b.events (i + bs.length) := by
  intro bs
  induction bs with
  | nil => intro i; simp [blockEvents]
  | cons b' bs ih =>
    intro i
    have hlen : i + 1 + bs.length = i + (b' :: bs).length := by
      rw [List.length_cons]
      omega
    rw [List.cons_append, blockEvents, ih, blockEvents, List.append_assoc, hlen]

theorem opening_push (b : StreamBlock) (d : ContentBlockDelta) (h : d.kind = b.shell.kind)
    (i : ℕ) : (b.push d h).opening i = b.opening i ++ [.contentBlockDelta i d] := by
  simp [StreamBlock.opening, StreamBlock.push]

theorem onOpenBlock_deltas (i : ℕ) (es : List AnthropicStreamEvent) :
    ∀ ds : List ContentBlockDelta,
      OnOpenBlock (some i) (ds.map (.contentBlockDelta i) ++ es) ↔ OnOpenBlock (some i) es := by
  intro ds
  induction ds with
  | nil => simp
  | cons d ds ih =>
    rw [List.map_cons, List.cons_append, OnOpenBlock, ih]
    simp

theorem onOpenBlock_blocks (es : List AnthropicStreamEvent) : ∀ (bs : List StreamBlock) (i : ℕ),
    OnOpenBlock none (blockEvents bs i ++ es) ↔ OnOpenBlock none es := by
  intro bs
  induction bs with
  | nil => intro i; simp [blockEvents]
  | cons b bs ih =>
    intro i
    rw [blockEvents, StreamBlock.events, StreamBlock.opening, List.append_assoc, List.append_assoc,
      List.cons_append, OnOpenBlock, onOpenBlock_deltas, List.singleton_append, OnOpenBlock, ih]
    simp

/-- In a well-formed stream every event on a block is on the open block. -/
theorem onOpenBlock_events (s : MessageStream) : OnOpenBlock none s.events := by
  have hblocks := onOpenBlock_blocks
    [.messageDelta s.stopReason s.stopSequence s.outputTokens, .messageStop] s.blocks 0
  unfold MessageStream.events
  rw [OnOpenBlock, hblocks]
  · simp [OnOpenBlock]
  · simp
  · simp
  · simp

/-! ## Contiguous tool calls -/

theorem ContiguousTools.of_snoc {items : List DeltaItem} {x : DeltaItem}
    (h : ContiguousTools (items ++ [x])) : ContiguousTools items := by
  intro before between after first second heq hindex
  refine h before between (after ++ [x]) first second ?_ hindex
  rw [heq]
  simp

/-- When a tool index comes again, the last item was of that index. -/
theorem ContiguousTools.last_of_seen {items : List DeltaItem} {delta : ToolCallDelta}
    (h : ContiguousTools (items ++ [.tool delta]))
    (hseen : delta.index ∈ Chunks.indices (Chunks.toolsOf items)) :
    ∃ last, items.getLast? = some (.tool last) ∧ last.index = delta.index := by
  obtain ⟨first, hfirst, hindex⟩ := Grouping.mem_keys.1 hseen
  unfold Chunks.toolsOf at hfirst
  obtain ⟨item, hitem, hsome⟩ := List.mem_filterMap.1 hfirst
  obtain rfl : item = .tool first := by
    cases item with
    | text s => simp at hsome
    | tool d => simpa using hsome
  obtain ⟨before, rest, rfl⟩ := List.append_of_mem hitem
  -- the last item since the first delta of the index is of the index too
  rcases List.eq_nil_or_concat rest with rfl | ⟨between, last, rfl⟩
  · exact ⟨first, by simp, hindex⟩
  · have hall := h before (between ++ [last]) [] first delta (by simp) hindex
    obtain ⟨d, rfl, hd⟩ := hall last (by simp)
    exact ⟨d, by simp [List.getLast?_cons], hd.trans hindex⟩

/-- Whether an item is a delta of a tool index. -/
def DeltaItem.isOf (k : ℤ) : DeltaItem → Bool
  | .tool delta => decide (delta.index = k)
  | .text _ => false

theorem DeltaItem.isOf_iff {k : ℤ} {item : DeltaItem} :
    item.isOf k = true ↔ ∃ delta, item = .tool delta ∧ delta.index = k := by
  cases item with
  | text s => simp [isOf]
  | tool delta => simp [isOf]

/-- Once another item has come, no delta of the index comes again. -/
theorem contiguousTools_cons (x : DeltaItem) (items : List DeltaItem) :
    ContiguousTools (x :: items) ↔ ContiguousTools items ∧
      ∀ delta, x = .tool delta →
        ∀ y ∈ items.dropWhile (DeltaItem.isOf delta.index), ¬ y.isOf delta.index := by
  constructor
  · intro h
    refine ⟨?_, ?_⟩
    · intro before between after first second heq hindex
      exact h (x :: before) between after first second (by rw [heq]; rfl) hindex
    · rintro delta rfl y hy hof
      -- the first item of another kind stands between the deltas
      obtain ⟨z, rest, hdrop⟩ := List.exists_cons_of_ne_nil (List.ne_nil_of_mem hy)
      have hz : ¬ z.isOf delta.index := by
        have := List.head_dropWhile_not (DeltaItem.isOf delta.index) (List.ne_nil_of_mem hy)
        simpa [hdrop] using this
      rw [hdrop] at hy
      have hy : y ∈ rest := by
        rcases List.mem_cons.1 hy with rfl | hy
        · exact absurd hof hz
        · exact hy
      obtain ⟨second, rfl, hsecond⟩ := DeltaItem.isOf_iff.1 hof
      obtain ⟨p, q, rfl⟩ := List.append_of_mem hy
      have heq : items =
          items.takeWhile (DeltaItem.isOf delta.index) ++ z :: (p ++ .tool second :: q) := by
        rw [← hdrop, List.takeWhile_append_dropWhile]
      have hbetween := h [] (items.takeWhile (DeltaItem.isOf delta.index) ++ z :: p) q delta second
        (by rw [List.nil_append, List.append_assoc, List.cons_append, ← heq]) hsecond.symm z
        (by simp)
      exact hz (DeltaItem.isOf_iff.2 hbetween)
  · -- a pair of deltas lies in the rest, or starts with the new item
    rintro ⟨hrest, hx⟩ before between after first second heq hindex item hitem
    cases before with
    | cons y before =>
      obtain ⟨-, rfl⟩ := List.cons.inj heq
      exact hrest before between after first second rfl hindex item hitem
    | nil =>
      obtain ⟨rfl, rfl⟩ := List.cons.inj heq
      by_contra hno
      have hnot : ¬ item.isOf first.index := fun h => hno (DeltaItem.isOf_iff.1 h)
      have hkept : .tool second ∈
          (between ++ .tool second :: after).dropWhile (DeltaItem.isOf first.index) := by
        rw [List.dropWhile_append, if_neg]
        · simp
        · intro hempty
          have hall := List.dropWhile_eq_nil_iff.1 (List.isEmpty_iff.1 hempty)
          exact hnot (hall item hitem)
      exact hx first rfl _ hkept (DeltaItem.isOf_iff.2 ⟨second, rfl, hindex.symm⟩)

instance decidableContiguousTools : DecidablePred ContiguousTools
  | [] => .isTrue (by intro before between after first second heq; simp at heq)
  | .text s :: items =>
    have := decidableContiguousTools items
    decidable_of_iff (ContiguousTools items) (by simp [contiguousTools_cons])
  | .tool delta :: items =>
    have := decidableContiguousTools items
    decidable_of_iff (ContiguousTools items ∧
      ∀ y ∈ items.dropWhile (DeltaItem.isOf delta.index), ¬ y.isOf delta.index)
      (by simp [contiguousTools_cons])

/-! ## What a client holds -/

@[simp] theorem addText_text (bs : List ReadBlock) (t s : String) :
    addText (bs ++ [.text t]) s = bs ++ [.text (t ++ s)] := by
  simp [addText]

@[simp] theorem addText_toolUse (bs : List ReadBlock) (id name input s : String) :
    addText (bs ++ [.toolUse id name input]) s =
      bs ++ [.toolUse id name input, .text s] := by
  simp [addText]

@[simp] theorem addText_nil (s : String) : addText [] s = [.text s] := rfl

@[simp] theorem addInput_toolUse (bs : List ReadBlock) (id name input p : String) :
    addInput (bs ++ [.toolUse id name input]) p = bs ++ [.toolUse id name (input ++ p)] := by
  simp [addInput]

theorem content_push (b : StreamBlock) (d : ContentBlockDelta) (h : d.kind = b.shell.kind) :
    (b.push d h).content = b.content.add d := by
  simp [StreamBlock.content, StreamBlock.push]

/-- A text block stays one. -/
theorem foldl_add_text : ∀ (deltas : List ContentBlockDelta) (s : String),
    ∃ t, deltas.foldl ReadBlock.add (.text s) = .text t := by
  intro deltas
  induction deltas with
  | nil => intro s; exact ⟨s, rfl⟩
  | cons d deltas ih =>
    intro s
    cases d with
    | textDelta t => exact ih (s ++ t)
    | inputJsonDelta p => exact ih s

/-- A tool block keeps its id and name. -/
theorem foldl_add_toolUse (id name : String) : ∀ (deltas : List ContentBlockDelta) (input : String),
    ∃ input', deltas.foldl ReadBlock.add (.toolUse id name input) = .toolUse id name input' := by
  intro deltas
  induction deltas with
  | nil => intro input; exact ⟨input, rfl⟩
  | cons d deltas ih =>
    intro input
    cases d with
    | textDelta t => exact ih input
    | inputJsonDelta p => exact ih (input ++ p)

theorem content_of_text {b : StreamBlock} (h : b.shell.kind = .text) :
    ∃ t, b.content = .text t := by
  unfold StreamBlock.content
  cases hshell : b.shell with
  | text s => exact foldl_add_text b.deltas s
  | toolUse id name input =>
    rw [hshell] at h
    cases h

theorem content_of_toolUse {b : StreamBlock} (h : b.shell.kind = .toolUse) :
    ∃ id name input, b.content = .toolUse id name input := by
  unfold StreamBlock.content
  cases hshell : b.shell with
  | text s =>
    rw [hshell] at h
    cases h
  | toolUse id name input =>
    obtain ⟨input', hfold⟩ := foldl_add_toolUse id name b.deltas ""
    exact ⟨id, name, input', hfold⟩

/-- The blocks of some items, and the tool indices seen, after one more item. -/
def addItem (ids : FreshIds) (held : List ReadBlock × List ℤ) :
    DeltaItem → List ReadBlock × List ℤ
  | .text s => (addText held.1 s, held.2)
  | .tool delta =>
    if delta.index ∈ held.2 then (addInput held.1 delta.argumentText, held.2)
    else
      (held.1 ++ [.toolUse (StreamTranslator.toolId ids held.1.length delta) delta.nameText
          delta.argumentText],
        held.2 ++ [delta.index])

/-- The blocks of some items. -/
def contentOf (ids : FreshIds) (items : List DeltaItem) : List ReadBlock :=
  (items.foldl (addItem ids) ([], [])).1

section ContentOf

variable (ids : FreshIds) (items : List DeltaItem) (s : String) (delta : ToolCallDelta)

theorem addItem_old {held : List ReadBlock × List ℤ} (h : delta.index ∈ held.2) :
    addItem ids held (.tool delta) = (addInput held.1 delta.argumentText, held.2) :=
  if_pos h

theorem addItem_new {held : List ReadBlock × List ℤ} (h : delta.index ∉ held.2) :
    addItem ids held (.tool delta) =
      (held.1 ++ [.toolUse (StreamTranslator.toolId ids held.1.length delta) delta.nameText
          delta.argumentText],
        held.2 ++ [delta.index]) :=
  if_neg h

theorem keys_of_content :
    (items.foldl (addItem ids) ([], [])).2 = Chunks.indices (Chunks.toolsOf items) := by
  induction items using List.reverseRecOn with
  | nil => rfl
  | append_singleton items item ih =>
    rw [List.foldl_append, List.foldl_cons, List.foldl_nil]
    cases item with
    | text s => rw [Chunks.toolsOf_snoc_text, ← ih]; rfl
    | tool delta =>
      rw [Chunks.toolsOf_snoc_tool]
      by_cases h : delta.index ∈ Chunks.indices (Chunks.toolsOf items)
      · rw [addItem_old ids delta (ih ▸ h), ih]
        exact (Grouping.keys_snoc_old h).symm
      · rw [addItem_new ids delta (ih ▸ h), ih]
        exact (Grouping.keys_snoc_new h).symm

theorem contentOf_snoc_text :
    contentOf ids (items ++ [.text s]) = addText (contentOf ids items) s := by
  unfold contentOf
  rw [List.foldl_append]
  rfl

theorem contentOf_snoc_old (h : delta.index ∈ Chunks.indices (Chunks.toolsOf items)) :
    contentOf ids (items ++ [.tool delta]) = addInput (contentOf ids items) delta.argumentText := by
  unfold contentOf
  rw [List.foldl_append, List.foldl_cons, List.foldl_nil]
  rw [← keys_of_content ids] at h
  rw [addItem_old ids delta h]

theorem contentOf_snoc_new (h : delta.index ∉ Chunks.indices (Chunks.toolsOf items)) :
    contentOf ids (items ++ [.tool delta]) = contentOf ids items ++
      [.toolUse (StreamTranslator.toolId ids (contentOf ids items).length delta) delta.nameText
        delta.argumentText] := by
  unfold contentOf
  rw [List.foldl_append, List.foldl_cons, List.foldl_nil]
  rw [← keys_of_content ids] at h
  rw [addItem_new ids delta h]

end ContentOf

/-! ## The invariant -/

namespace StreamTranslator

/-- The events of the block that is open, if one is. -/
def openEvents (current : Option StreamBlock) (i : ℕ) : List AnthropicStreamEvent :=
  match current with
  | none => []
  | some b => b.opening i

/-- The blocks emitted so far: those closed, and the one open. -/
structure Layout where
  closed : List StreamBlock
  current : Option StreamBlock

/-- What a client holds of the blocks. -/
def Layout.contents (l : Layout) : List ReadBlock :=
  (l.closed ++ l.current.toList).map StreamBlock.content

/-- The events emitted so far lay out blocks as the translator's state says. -/
structure Lays (ids : FreshIds) (message : AnthropicMessagesResponse) (items : List DeltaItem)
    (out : List AnthropicStreamEvent) (st : StreamTranslator) (l : Layout) : Prop where
  events : out = .messageStart message ::
    (blockEvents l.closed 0 ++ openEvents l.current l.closed.length)
  next : st.nextBlockIndex = l.closed.length + l.current.toList.length
  open_ : st.currentBlock = l.current.map (fun b => (l.closed.length, b.shell.kind))
  any : st.anyBlockOpened = l.current.isSome
  contents : l.contents = contentOf ids items
  /-- No block is closed before one is opened. -/
  first : l.current = none → l.closed = []
  /-- After a tool-call delta, the block of its index is open. -/
  last : ∀ delta, items.getLast? = some (.tool delta) →
    st.toolBlocks.lookup delta.index = some l.closed.length ∧
      ∃ b, l.current = some b ∧ b.shell.kind = .toolUse

/-- The layout after the open block is closed and another opened. -/
def Layout.turn (l : Layout) (b : StreamBlock) : Layout where
  closed := l.closed ++ l.current.toList
  current := some b

section Invariant

variable {ids : FreshIds} {message : AnthropicMessagesResponse} {items : List DeltaItem}
  {out : List AnthropicStreamEvent} {st : StreamTranslator} {l : Layout}

/-- Closing the open block and opening another adds the events of both. -/
theorem events_turn (h : Lays ids message items out st l) (b : StreamBlock) :
    out ++ (st.closeCurrent ++ b.opening st.nextBlockIndex) = .messageStart message ::
      (blockEvents (l.turn b).closed 0 ++
        openEvents (l.turn b).current (l.turn b).closed.length) := by
  rw [h.events]
  unfold Layout.turn closeCurrent
  rw [h.open_, h.next]
  cases l.current with
  | none => simp [openEvents]
  | some b' =>
    simp [openEvents, blockEvents_snoc, StreamBlock.events]

/-- What a client holds ends with the open block. -/
theorem Lays.contents_of_current (h : Lays ids message items out st l) {b : StreamBlock}
    (hb : l.current = some b) :
    contentOf ids items = l.closed.map StreamBlock.content ++ [b.content] := by
  rw [← h.contents, Layout.contents, hb]
  simp

/-- What a client holds has a block for each block opened. -/
theorem Lays.contents_length (h : Lays ids message items out st l) :
    (contentOf ids items).length = st.nextBlockIndex := by
  rw [← h.contents, h.next, Layout.contents, List.length_map, List.length_append]

/-- A block turned to lies as the state does that has it open. -/
theorem Lays.turn (h : Lays ids message items out st l) (b : StreamBlock) {items' : List DeltaItem}
    {st' : StreamTranslator}
    (hnext : st'.nextBlockIndex = st.nextBlockIndex + 1)
    (hopen : st'.currentBlock = some (st.nextBlockIndex, b.shell.kind))
    (hany : st'.anyBlockOpened = true)
    (hcontents : contentOf ids items' = contentOf ids items ++ [b.content])
    (hlast : ∀ delta, items'.getLast? = some (.tool delta) →
      st'.toolBlocks.lookup delta.index = some st.nextBlockIndex ∧ b.shell.kind = .toolUse) :
    Lays ids message items' (out ++ (st.closeCurrent ++ b.opening st.nextBlockIndex)) st'
      (l.turn b) := by
  have hlength : (l.turn b).closed.length = st.nextBlockIndex := by
    rw [h.next, Layout.turn, List.length_append]
  exact {
    events := events_turn h b
    next := by
      rw [hnext, hlength]
      rfl
    open_ := by
      rw [hopen, hlength]
      rfl
    any := hany
    contents := by
      rw [hcontents, ← h.contents]
      simp [Layout.contents, Layout.turn]
    first := by simp [Layout.turn]
    last := by
      intro delta hdelta
      obtain ⟨hlookup, hkind⟩ := hlast delta hdelta
      rw [hlength]
      exact ⟨hlookup, b, rfl, hkind⟩ }

/-- One more delta on the open block. -/
theorem Lays.push (h : Lays ids message items out st l) {b : StreamBlock} (hb : l.current = some b)
    (d : ContentBlockDelta) (hd : d.kind = b.shell.kind) {items' : List DeltaItem}
    (hcontents : contentOf ids items' =
      l.closed.map StreamBlock.content ++ [b.content.add d])
    (hlast : ∀ delta, items'.getLast? = some (.tool delta) →
      st.toolBlocks.lookup delta.index = some l.closed.length ∧ b.shell.kind = .toolUse) :
    Lays ids message items' (out ++ [.contentBlockDelta l.closed.length d]) st
      { closed := l.closed, current := some (b.push d hd) } where
  events := by
    rw [h.events, hb]
    simp [openEvents, opening_push]
  next := by
    rw [h.next, hb]
    rfl
  open_ := by
    rw [h.open_, hb]
    rfl
  any := by
    rw [h.any, hb]
    rfl
  contents := by
    rw [hcontents]
    simp [Layout.contents, content_push]
  first := by simp
  last := by
    intro delta hdelta
    obtain ⟨hlookup, hkind⟩ := hlast delta hdelta
    exact ⟨hlookup, b.push d hd, rfl, hkind⟩

/-- A text block with one delta. -/
def textBlock (s : String) : StreamBlock where
  shell := .text ""
  deltas := [.textDelta s]
  kinds := by simp [ContentBlockShell.kind, ContentBlockDelta.kind]

/-- A tool block with the arguments of one delta. -/
def toolBlock (id name : String) (delta : ToolCallDelta) : StreamBlock where
  shell := .toolUse id name []
  deltas := if delta.argumentText = "" then [] else [.inputJsonDelta delta.argumentText]
  kinds := by
    intro d hd
    split at hd
    · simp at hd
    · obtain rfl := List.mem_singleton.1 hd
      rfl

theorem opening_toolBlock (id name : String) (delta : ToolCallDelta) (i : ℕ) :
    (toolBlock id name delta).opening i =
      [.contentBlockStart i (.toolUse id name [])] ++ argumentsDelta i delta := by
  rw [argumentsDelta_eq]
  unfold StreamBlock.opening toolBlock
  by_cases h : delta.argumentText = "" <;> simp [h]

theorem content_toolBlock (id name : String) (delta : ToolCallDelta) :
    (toolBlock id name delta).content = .toolUse id name delta.argumentText := by
  unfold StreamBlock.content toolBlock
  by_cases h : delta.argumentText = "" <;> simp [h, ReadBlock.ofShell, ReadBlock.add]

theorem lays_text (h : Lays ids message items out st l) (s : String) :
    ∃ l', Lays ids message (items ++ [.text s]) (out ++ (st.emitTextDelta s).1)
      (st.emitTextDelta s).2 l' := by
  have hnotool : ∀ delta, (items ++ [DeltaItem.text s]).getLast? ≠ some (.tool delta) := by simp
  by_cases htext : ∃ b, l.current = some b ∧ b.shell.kind = .text
  · -- the text goes on in the open block
    obtain ⟨b, hb, hkind⟩ := htext
    have hopen : st.currentBlock = some (l.closed.length, .text) := by
      rw [h.open_, hb, Option.map_some, hkind]
    have hemit : st.emitTextDelta s =
        ([.contentBlockDelta l.closed.length (.textDelta s)], st) := by
      unfold emitTextDelta
      rw [hopen]
    have hcontents : contentOf ids (items ++ [.text s]) =
        l.closed.map StreamBlock.content ++ [b.content.add (.textDelta s)] := by
      obtain ⟨t, ht⟩ := content_of_text hkind
      rw [contentOf_snoc_text, h.contents_of_current hb, ht, addText_text]
      rfl
    rw [hemit]
    exact ⟨_, h.push hb (.textDelta s) hkind.symm hcontents
      (fun delta hdelta => absurd hdelta (hnotool delta))⟩
  · -- a text block is opened
    have hemit : st.emitTextDelta s = (st.closeCurrent ++
        [.contentBlockStart st.nextBlockIndex (.text ""),
          .contentBlockDelta st.nextBlockIndex (.textDelta s)], st.openBlock .text) := by
      unfold emitTextDelta
      split
      next i hcurrent =>
        rw [h.open_] at hcurrent
        obtain ⟨b, hb, hpair⟩ := Option.map_eq_some_iff.1 hcurrent
        exact absurd ⟨b, hb, congrArg Prod.snd hpair⟩ htext
      · rfl
    have hcontents : contentOf ids (items ++ [.text s]) =
        contentOf ids items ++ [(textBlock s).content] := by
      have hblock : (textBlock s).content = .text s := by
        simp [StreamBlock.content, textBlock, ReadBlock.ofShell, ReadBlock.add]
      rw [contentOf_snoc_text, hblock]
      cases hcurrent : l.current with
      | none =>
        have hnone : contentOf ids items = [] := by
          rw [← h.contents, Layout.contents, h.first hcurrent, hcurrent]
          rfl
        rw [hnone, addText_nil]
        rfl
      | some b =>
        have hkind : b.shell.kind = .toolUse := by
          cases hkind : b.shell.kind with
          | text => exact absurd ⟨b, hcurrent, hkind⟩ htext
          | toolUse => rfl
        obtain ⟨id, name, input, hb⟩ := content_of_toolUse hkind
        rw [h.contents_of_current hcurrent, hb, addText_toolUse]
        simp
    rw [hemit]
    exact ⟨_, h.turn (textBlock s) rfl rfl rfl hcontents
      (fun delta hdelta => absurd hdelta (hnotool delta))⟩

theorem lays_tool {seen : List ChunkStep} {delta : ToolCallDelta} (htracks : Tracks seen out st)
    (hcontiguous : ContiguousTools (ChunkStep.items seen ++ [.tool delta]))
    (h : Lays ids message (ChunkStep.items seen) out st l) :
    ∃ l', Lays ids message (ChunkStep.items seen ++ [.tool delta])
      (out ++ (emitToolCallDelta ids st delta).1) (emitToolCallDelta ids st delta).2 l' := by
  have hlastdelta : ∀ d, (ChunkStep.items seen ++ [DeltaItem.tool delta]).getLast? = some (.tool d) →
      d = delta := by
    intro d hd
    simpa using hd.symm
  cases hlookup : st.toolBlocks.lookup delta.index with
  | some i =>
    -- the index has come before, so the last item was of it and its block is open
    have hseen : delta.index ∈ Chunks.indices (Chunks.toolsOf (ChunkStep.items seen)) := by
      rw [← htracks.keys]
      exact List.mem_map_of_mem (OrderedDict.mem_of_lookup hlookup)
    obtain ⟨last, hlast, hindex⟩ := hcontiguous.last_of_seen hseen
    obtain ⟨hlookup', b, hb, hkind⟩ := h.last last hlast
    rw [hindex] at hlookup'
    rw [emitToolCallDelta_old ids hlookup, argumentsDelta_eq]
    obtain rfl : i = l.closed.length := by
      rw [hlookup'] at hlookup
      exact (Option.some.inj hlookup).symm
    have hlast' : ∀ d, (ChunkStep.items seen ++ [DeltaItem.tool delta]).getLast? = some (.tool d) →
        st.toolBlocks.lookup d.index = some l.closed.length ∧ b.shell.kind = .toolUse := by
      intro d hd
      rw [hlastdelta d hd]
      exact ⟨hlookup', hkind⟩
    obtain ⟨id, name, input, hcontent⟩ := content_of_toolUse hkind
    have hcontents : contentOf ids (ChunkStep.items seen ++ [.tool delta]) =
        l.closed.map StreamBlock.content ++
          [b.content.add (.inputJsonDelta delta.argumentText)] := by
      rw [contentOf_snoc_old ids _ _ hseen, h.contents_of_current hb, hcontent, addInput_toolUse]
      rfl
    -- no event is emitted for empty arguments
    by_cases hargs : delta.argumentText = ""
    · have hsame : contentOf ids (ChunkStep.items seen ++ [.tool delta]) =
          contentOf ids (ChunkStep.items seen) := by
        rw [hcontents, h.contents_of_current hb, hcontent, hargs]
        simp [ReadBlock.add]
      refine ⟨l, ?_⟩
      rw [if_pos hargs, List.append_nil]
      exact { h with
        contents := h.contents.trans hsame.symm
        last := fun d hd => ⟨(hlast' d hd).1, b, hb, hkind⟩ }
    · rw [if_neg hargs]
      exact ⟨_, h.push hb (.inputJsonDelta delta.argumentText) hkind.symm hcontents hlast'⟩
  | none =>
    -- the index is new: a block is opened for it
    have hnew : delta.index ∉ Chunks.indices (Chunks.toolsOf (ChunkStep.items seen)) := by
      rw [← htracks.keys]
      exact OrderedDict.not_mem_keys_of_lookup hlookup
    have hcontents : contentOf ids (ChunkStep.items seen ++ [.tool delta]) =
        contentOf ids (ChunkStep.items seen) ++
          [(toolBlock (toolId ids st.nextBlockIndex delta) delta.nameText delta).content] := by
      rw [contentOf_snoc_new ids _ _ hnew, h.contents_length, content_toolBlock]
    rw [emitToolCallDelta_new ids hlookup, List.append_assoc, ← opening_toolBlock]
    refine ⟨_, h.turn (toolBlock (toolId ids st.nextBlockIndex delta) delta.nameText delta)
      rfl rfl rfl hcontents ?_⟩
    intro d hd
    rw [hlastdelta d hd]
    refine ⟨?_, rfl⟩
    unfold openTool
    rw [List.lookup_append, hlookup]
    simp

/-- What a step does not touch. -/
theorem Lays.keep (h : Lays ids message items out st l) {st' : StreamTranslator}
    (hnext : st'.nextBlockIndex = st.nextBlockIndex) (hopen : st'.currentBlock = st.currentBlock)
    (hany : st'.anyBlockOpened = st.anyBlockOpened) (htools : st'.toolBlocks = st.toolBlocks) :
    Lays ids message items out st' l where
  events := h.events
  next := by rw [hnext, h.next]
  open_ := by rw [hopen, h.open_]
  any := by rw [hany, h.any]
  contents := h.contents
  first := h.first
  last := by rw [htools]; exact h.last

/-- The pieces read, the events emitted and the state, once the message has started. -/
structure Laid (ids : FreshIds) (message : AnthropicMessagesResponse) (seen : List ChunkStep)
    (out : List AnthropicStreamEvent) (st : StreamTranslator) : Prop where
  tracks : Tracks seen out st
  started : st.messageStarted = true
  lays : ContiguousTools (ChunkStep.items seen) →
    ∃ l, Lays ids message (ChunkStep.items seen) out st l

theorem step_started (hstarted : st.messageStarted = true) (x : ChunkStep) :
    (step ids st x).2.messageStarted = true := by
  cases x with
  | usage u => exact hstarted
  | start chunkId =>
    simp only [step, startMessage, hstarted, if_true]
  | item item =>
    cases item with
    | text s =>
      simp only [step, emitTextDelta]
      split <;> exact hstarted
    | tool delta =>
      simp only [step]
      cases hlookup : st.toolBlocks.lookup delta.index with
      | some i =>
        rw [emitToolCallDelta_old ids hlookup]
        exact hstarted
      | none =>
        rw [emitToolCallDelta_new ids hlookup]
        exact hstarted
  | finish f => exact hstarted

theorem laid_step {seen : List ChunkStep} (h : Laid ids message seen out st) (x : ChunkStep) :
    Laid ids message (seen ++ [x]) (out ++ (step ids st x).1) (step ids st x).2 := by
  refine ⟨tracks_step h.tracks x, step_started h.started x, ?_⟩
  rw [ChunkStep.items_snoc]
  intro hcontiguous
  cases x with
  | usage u =>
    obtain ⟨l, hl⟩ := h.lays (by simpa using hcontiguous)
    refine ⟨l, ?_⟩
    have hnext : Lays ids message (ChunkStep.items seen) out (st.captureUsage (some u)) l :=
      hl.keep rfl rfl rfl rfl
    simpa [step] using hnext
  | start chunkId =>
    obtain ⟨l, hl⟩ := h.lays (by simpa using hcontiguous)
    refine ⟨l, ?_⟩
    -- the message is started only once
    simpa [step, startMessage, h.started] using hl
  | item item =>
    obtain ⟨l, hl⟩ := h.lays hcontiguous.of_snoc
    cases item with
    | text s => exact lays_text hl s
    | tool delta => exact lays_tool h.tracks hcontiguous hl
  | finish f =>
    obtain ⟨l, hl⟩ := h.lays (by simpa using hcontiguous)
    refine ⟨l, ?_⟩
    have hnext : Lays ids message (ChunkStep.items seen) out { st with finishReason := some f } l :=
      hl.keep rfl rfl rfl rfl
    simpa [step] using hnext

/-- The message a first chunk starts: its usage is read before. -/
def firstMessage (ids : FreshIds) (model : String) (inputTokens : ℤ)
    (chunk : ChatCompletionChunk) : AnthropicMessagesResponse where
  id := normalizeId ids.message chunk.id
  content := []
  model := model
  usage :=
    { inputTokens := inputTokens
      outputTokens := 0
      cacheCreationInputTokens := (chunk.usage.bind Usage.promptTokensDetails).bind
        PromptTokensDetails.cacheCreationInputTokens
      cacheReadInputTokens := (chunk.usage.bind Usage.promptTokensDetails).bind
        PromptTokensDetails.cacheReadInputTokens }

/-- The first chunk starts the message. -/
theorem laid_first (ids : FreshIds) (model : String) (inputTokens : ℤ)
    (chunk : ChatCompletionChunk) :
    let start := chunk.usage.toList.map ChunkStep.usage ++ [.start chunk.id]
    let fresh : StreamTranslator := { requestModel := model, inputTokens := inputTokens }
    Laid ids (firstMessage ids model inputTokens chunk) start
      (Transducer.run (step ids) fresh start).1 (Transducer.run (step ids) fresh start).2 := by
  intro start fresh
  have htracks := Transducer.run_inv (step ids) Tracks (fun _ _ _ x h => tracks_step h x)
    start [] [] fresh (tracks_init model inputTokens)
  rw [List.nil_append, List.nil_append] at htracks
  have hnoitems : ChunkStep.items start = [] := by
    rw [ChunkStep.items_snoc]
    unfold ChunkStep.items
    cases chunk.usage <;> rfl
  -- only the usage and the start are read: no block is opened
  have hempty : (Transducer.run (step ids) fresh start).1 =
        [.messageStart (firstMessage ids model inputTokens chunk)] ∧
      (Transducer.run (step ids) fresh start).2.messageStarted = true ∧
      (Transducer.run (step ids) fresh start).2.nextBlockIndex = 0 ∧
      (Transducer.run (step ids) fresh start).2.currentBlock = none ∧
      (Transducer.run (step ids) fresh start).2.anyBlockOpened = false := by
    unfold start firstMessage
    cases chunk.usage with
    | none => exact ⟨rfl, rfl, rfl, rfl, rfl⟩
    | some u =>
      refine ⟨?_, rfl, rfl, rfl, rfl⟩
      simp [Transducer.run_cons, step, captureUsage, startMessage, makeMessageStart, fresh]
  obtain ⟨hout, hstarted, hnext, hopen, hany⟩ := hempty
  refine ⟨htracks, hstarted, fun _ => ⟨{ closed := [], current := none }, ?_⟩⟩
  exact {
    events := by
      rw [hout]
      rfl
    next := hnext
    open_ := hopen
    any := hany
    contents := by
      rw [hnoitems]
      rfl
    first := fun _ => rfl
    last := by
      intro delta hdelta
      rw [hnoitems] at hdelta
      simp at hdelta }

theorem laid_chunks (ids : FreshIds) (model : String) (inputTokens : ℤ)
    (chunk : ChatCompletionChunk) (chunks : List ChatCompletionChunk) :
    let out := translateChunks ids { requestModel := model, inputTokens := inputTokens }
      (chunk :: chunks)
    Laid ids (firstMessage ids model inputTokens chunk)
      ((chunk :: chunks).flatMap ChatCompletionChunk.steps) out.1 out.2 := by
  intro out
  have hrun := Transducer.run_inv (step ids) (Laid ids (firstMessage ids model inputTokens chunk))
    (fun _ _ _ x h => laid_step h x)
    ((chunk.items.map .item ++ (Chunks.finishOf chunk).toList.map .finish) ++
      chunks.flatMap ChatCompletionChunk.steps) _ _ _ (laid_first ids model inputTokens chunk)
  -- the rest of the first chunk goes with the chunks after it
  have hsteps : (chunk :: chunks).flatMap ChatCompletionChunk.steps =
      (chunk.usage.toList.map .usage ++ [.start chunk.id]) ++
        ((chunk.items.map .item ++ (Chunks.finishOf chunk).toList.map .finish) ++
          chunks.flatMap ChatCompletionChunk.steps) := by
    simp [ChatCompletionChunk.steps]
  unfold out
  rw [translateChunks_eq_run, hsteps, Transducer.run_append]
  exact hrun

/-- The stream a translator ends with the blocks it has emitted. -/
def ended (st : StreamTranslator) (message : AnthropicMessagesResponse)
    (blocks : List StreamBlock) : MessageStream where
  message := message
  blocks := blocks
  stopReason := some (stopReasonOf st.finishReason)
  stopSequence := none
  outputTokens := st.finalOutputTokens

/-- The empty text block of a message without content. -/
def emptyBlock : StreamBlock := { shell := .text "" }

/-- Closing a message that has started ends a well-formed stream, with an empty text block when a
client would hold nothing. -/
theorem finalize_lays (h : Lays ids message items out st l) (hstarted : st.messageStarted = true) :
    ∃ blocks, blocks ≠ [] ∧ out ++ (st.finalize ids).1 = (st.ended message blocks).events ∧
      blocks.map StreamBlock.content =
        if contentOf ids items = [] then [.text ""] else contentOf ids items := by
  rw [finalize_eq, if_pos hstarted, h.events, h.any]
  unfold closeCurrent
  rw [h.open_]
  cases hcurrent : l.current with
  | none =>
    -- no block was opened: an empty text block is
    have hnothing : contentOf ids items = [] := by
      rw [← h.contents, Layout.contents, h.first hcurrent, hcurrent]
      rfl
    refine ⟨[emptyBlock], by simp, ?_, ?_⟩
    · rw [h.first hcurrent]
      rfl
    · rw [if_pos hnothing]
      rfl
  | some b =>
    -- the open block is closed
    have hsome := h.contents_of_current hcurrent
    refine ⟨l.closed ++ [b], by simp, ?_, ?_⟩
    · simp [ended, MessageStream.events, blockEvents_snoc, StreamBlock.events, openEvents]
    · rw [if_neg (by rw [hsome]; simp), hsome]
      simp

end Invariant

end StreamTranslator

/-- The well-formed stream that contiguous chunks are translated to, and what it holds. -/
theorem messageEvents_stream (ids : FreshIds) (requestModel : String) (inputTokens : ℤ)
    (chunk : ChatCompletionChunk) (chunks : List ChatCompletionChunk)
    (hcontiguous : ContiguousTools ((chunk :: chunks).flatMap ChatCompletionChunk.items)) :
    ∃ s : MessageStream, s.blocks ≠ [] ∧
      messageEvents ids requestModel inputTokens (chunk :: chunks) = s.events ∧
      s.message = StreamTranslator.firstMessage ids requestModel inputTokens chunk ∧
      s.blocks.map StreamBlock.content =
        (if contentOf ids ((chunk :: chunks).flatMap ChatCompletionChunk.items) = []
          then [.text ""]
          else contentOf ids ((chunk :: chunks).flatMap ChatCompletionChunk.items)) ∧
      s.stopReason = some (stopReasonOf (Chunks.finishReason (chunk :: chunks))) ∧
      s.outputTokens = ((Chunks.usage (chunk :: chunks)).map Usage.completionTokens).getD 0 := by
  have hlaid := StreamTranslator.laid_chunks ids requestModel inputTokens chunk chunks
  obtain ⟨l, hl⟩ := hlaid.lays (by rwa [items_of_steps])
  obtain ⟨blocks, hblocks, hevents, hcontents⟩ :=
    StreamTranslator.finalize_lays hl hlaid.started
  have hfinish := hlaid.tracks.finish
  have htokens := hlaid.tracks.tokens
  rw [finishes_of_steps] at hfinish
  rw [usages_of_steps] at htokens
  rw [items_of_steps] at hcontents
  refine ⟨_, hblocks, hevents, rfl, hcontents, ?_, ?_⟩
  · unfold StreamTranslator.ended
    rw [hfinish]
    rfl
  · unfold StreamTranslator.ended
    rw [htokens]
    rfl

/-- **The grammar of the Anthropic stream.** When the deltas of each tool index follow one another,
the events of the chunks are those of a well-formed stream that has a block, and no event is on a
block that is not the one open. -/
theorem message_grammar (ids : FreshIds) (requestModel : String) (inputTokens : ℤ)
    (chunks : List ChatCompletionChunk)
    (hcontiguous : ContiguousTools (chunks.flatMap ChatCompletionChunk.items)) :
    (∃ s : MessageStream, s.blocks ≠ [] ∧
      messageEvents ids requestModel inputTokens chunks = s.events) ∧
    OnOpenBlock none (messageEvents ids requestModel inputTokens chunks) := by
  have hstream : ∃ s : MessageStream, s.blocks ≠ [] ∧
      messageEvents ids requestModel inputTokens chunks = s.events := by
    cases chunks with
    | nil =>
      -- no chunk came: `finalize` makes up the whole message
      let st : StreamTranslator :=
        { requestModel := requestModel, inputTokens := inputTokens, messageId := ids.message }
      exact ⟨st.ended _ [StreamTranslator.emptyBlock], by simp [StreamTranslator.ended], rfl⟩
    | cons chunk chunks =>
      obtain ⟨s, hblocks, hevents, -⟩ :=
        messageEvents_stream ids requestModel inputTokens chunk chunks hcontiguous
      exact ⟨s, hblocks, hevents⟩
  refine ⟨hstream, ?_⟩
  obtain ⟨s, -, heq⟩ := hstream
  rw [heq]
  exact onOpenBlock_events s

theorem message_grammar_sample :
    ContiguousTools (sampleChunks.flatMap ChatCompletionChunk.items) ∧
    OnOpenBlock none (messageEvents { message := "msg_1", tool := fun _ => "toolu_1" } "m" 3
      sampleChunks) :=
  ⟨by decide, (message_grammar _ "m" 3 sampleChunks (by decide)).2⟩

end ModelMeld
