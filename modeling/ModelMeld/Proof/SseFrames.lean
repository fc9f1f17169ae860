import ModelMeld.Proof.JsonText
import Mathlib.Data.List.DropRight

/-!
# Frames are read back unless a line ends in them

A frame is written in three lines, but JSON leaves `U+0085`, `U+2028` and
`U+2029` unescaped in strings, and lines end there as well. What is read of a
broken payload is never the payload: its first line ends in a string, and a
later one that is a payload by itself starts in one, so that its own strings are
what stands between those of the whole and have no such character.

* `linesFrom_broken`: the lines of a payload;
* `within_of_later`: what a later line is read as;
* `receivedSse_eq_iff`: a body is read back exactly when no string in it has a
  character that ends a line.
-/

namespace ModelMeld

open JsonTokens

/-! ## Characters -/

theorem isWideBreak_eq {c : Char} (hc : 0x20 ≤ c.toNat) : isWideBreak c = isLineBreak c := by
  unfold isWideBreak isLineBreak
  have hlow : (decide (10 ≤ c.toNat) && decide (c.toNat ≤ 13)) = false := by
    simp only [Bool.and_eq_false_iff, decide_eq_false_iff_not]
    omega
  have hhigh : (decide (28 ≤ c.toNat) && decide (c.toNat ≤ 30)) = false := by
    simp only [Bool.and_eq_false_iff, decide_eq_false_iff_not]
    omega
  simp only [hlow, hhigh, Bool.false_or]

theorem isWideBreak_ascii {c : Char} (hc : c.toNat < 0x80) : isWideBreak c = false := by
  unfold isWideBreak
  simp only [Bool.or_eq_false_iff, beq_eq_false_iff_ne]
  omega

theorem wide_of_isWideBreak {c : Char} (h : isWideBreak c = true) : 0x80 ≤ c.toNat := by
  by_contra hc
  rw [isWideBreak_ascii (by omega)] at h
  cases h

/-- A text without a character that ends a line, by looking at each. -/
theorem plain_of_all {cs : List Char} (h : cs.all (fun c => !isLineBreak c) = true) :
    ∀ c ∈ cs, isLineBreak c = false := by
  intro c hc
  simpa using List.all_eq_true.1 h c hc

/-! ## Stripped texts -/

/-- What `strip` takes away is space on both sides. -/
theorem toList_strip (s : String) : ∃ a b : List Char, s.toList = a ++ ((strip s).toList ++ b) ∧
    (∀ c ∈ a, isSpace c = true) ∧ ∀ c ∈ b, isSpace c = true := by
  have hstrip : (strip s).toList = (s.toList.dropWhile isSpace).rdropWhile isSpace := by
    unfold strip
    rw [String.toList_ofList]
    rfl
  refine ⟨s.toList.takeWhile isSpace, (s.toList.dropWhile isSpace).rtakeWhile isSpace, ?_, ?_, ?_⟩
  · rw [hstrip, List.rdropWhile_append_rtakeWhile, List.takeWhile_append_dropWhile]
  · intro c hc
    exact List.mem_takeWhile_imp hc
  · intro c hc
    exact List.mem_rtakeWhile_imp hc

/-- What follows a prefix of a line stands between spaces. -/
theorem split_afterPrefix {field data : String} {line : List Char}
    (h : afterPrefix field (String.ofList line) = some data) :
    ∃ a b : List Char, line = field.toList ++ (a ++ (data.toList ++ b)) ∧
      (∀ c ∈ a, isSpace c = true) ∧ ∀ c ∈ b, isSpace c = true := by
  have hchars : (String.ofList line).toList = line := String.toList_ofList
  unfold afterPrefix at h
  rw [hchars] at h
  split_ifs at h with hfield
  obtain ⟨rest, hrest⟩ := List.isPrefixOf_iff_prefix.1 hfield
  have hdrop : line.drop field.length = rest := by
    rw [← hrest, ← String.length_toList]
    exact List.drop_left
  rw [hdrop] at h
  obtain rfl := Option.some.inj h
  obtain ⟨a, b, hsplit, ha, hb⟩ := toList_strip (String.ofList rest)
  rw [String.toList_ofList] at hsplit
  exact ⟨a, b, by rw [← hsplit, hrest], ha, hb⟩

theorem afterPrefix_self (field : String) (cs : List Char) :
    afterPrefix field (String.ofList (field.toList ++ cs)) = some (strip (String.ofList cs)) := by
  have hchars : (String.ofList (field.toList ++ cs)).toList = field.toList ++ cs :=
    String.toList_ofList
  have hprefix : field.toList.isPrefixOf (field.toList ++ cs) = true :=
    List.isPrefixOf_iff_prefix.2 (List.prefix_append _ _)
  have hdrop : (field.toList ++ cs).drop field.length = cs := by
    rw [← String.length_toList]
    exact List.drop_left
  unfold afterPrefix
  rw [hchars, if_pos hprefix, hdrop]

theorem afterPrefix_eq_none {field line : String} (hfield : field ≠ "")
    (hhead : field.toList.head? ≠ line.toList.head?) : afterPrefix field line = none := by
  unfold afterPrefix
  rw [if_neg]
  intro hprefix
  obtain ⟨rest, hrest⟩ := List.isPrefixOf_iff_prefix.1 hprefix
  have hne : field.toList ≠ [] := fun hnil => hfield (String.toList_inj.1 hnil)
  apply hhead
  rw [← hrest, List.head?_append_of_ne_nil _ hne]

/-- Behind a space, a text that does not begin with one is stripped at its end only. -/
theorem toList_strip_spaced {x : Char} (cs : List Char) (hx : isSpace x = false) :
    (strip (String.ofList (' ' :: x :: cs))).toList = (x :: cs).rdropWhile isSpace := by
  have hblank : isSpace ' ' = true := by decide
  unfold strip
  rw [String.toList_ofList, String.toList_ofList]
  simp only [List.dropWhile_cons, hblank, hx, if_true, Bool.false_eq_true, if_false]
  rfl

/-- And a text without spaces is not stripped. -/
theorem strip_spaced {cs : List Char} (hcs : ∀ c ∈ cs, isSpace c = false) :
    strip (String.ofList (' ' :: cs)) = String.ofList cs := by
  cases cs with
  | nil => decide
  | cons x cs =>
    have hlast : isSpace ((x :: cs).getLast (List.cons_ne_nil x cs)) = false :=
      hcs _ (List.getLast_mem _)
    apply String.toList_inj.1
    rw [toList_strip_spaced cs (hcs x List.mem_cons_self), String.toList_ofList,
      List.rdropWhile_eq_self_iff]
    intro _
    simp [hlast]

/-! ## Lines -/

theorem linesFrom_cons {c : Char} (hc : c ≠ '\r') (read cs : List Char) :
    linesFrom read (c :: cs) =
      if isLineBreak c then read :: linesFrom [] cs else linesFrom (read ++ [c]) cs := by
  rw [linesFrom]
  intro ds h
  exact absurd h hc

theorem linesFrom_newline (read rest : List Char) :
    linesFrom read ('\n' :: rest) = read :: linesFrom [] rest := by
  rw [linesFrom_cons (by decide), if_pos (by decide)]

theorem linesFrom_plain : ∀ (cs read rest : List Char), (∀ c ∈ cs, isLineBreak c = false) →
    linesFrom read (cs ++ rest) = linesFrom (read ++ cs) rest := by
  intro cs
  induction cs with
  | nil => intro read rest _; rw [List.nil_append, List.append_nil]
  | cons c cs ih =>
    intro read rest hcs
    have hc := hcs c List.mem_cons_self
    have hreturn : c ≠ '\r' := by
      rintro rfl
      exact absurd hc (by decide)
    have hrest := ih (read ++ [c]) rest (fun d hd => hcs d (List.mem_cons_of_mem _ hd))
    rw [List.cons_append, linesFrom_cons hreturn, hc, if_neg Bool.false_ne_true, hrest,
      List.append_assoc, List.singleton_append]

/-- How a payload falls into lines: a first one, and others behind characters that end a line. -/
structure Broken (payload first : List Char) (others : List (List Char)) : Prop where
  tail : ∃ tail, payload = first ++ tail ∧
    ((tail = [] ∧ others = []) ∨ ∃ b tail', tail = b :: tail' ∧ isLineBreak b = true)
  plain : ∀ c ∈ first, isLineBreak c = false
  later : ∀ line ∈ others, (∀ c ∈ line, isLineBreak c = false) ∧
    ∃ u b v, payload = u ++ b :: (line ++ v) ∧ isLineBreak b = true

/-- The lines of a payload without a carriage return, which ends with a line of its own. -/
theorem linesFrom_broken : ∀ (payload read rest : List Char), '\r' ∉ payload →
    ∃ first others, Broken payload first others ∧
      linesFrom read (payload ++ '\n' :: rest) =
        (read ++ first) :: (others ++ linesFrom [] rest) := by
  intro payload
  induction payload with
  | nil =>
    intro read rest _
    refine ⟨[], [], ⟨⟨[], rfl, Or.inl ⟨rfl, rfl⟩⟩, ?_, ?_⟩, ?_⟩
    · intro c hc
      cases hc
    · intro line hline
      cases hline
    · rw [List.nil_append, linesFrom_newline, List.append_nil, List.nil_append]
  | cons c payload ih =>
    intro read rest hno
    have hc : c ≠ '\r' := fun h => hno (h ▸ List.mem_cons_self)
    have hno' : '\r' ∉ payload := fun h => hno (List.mem_cons_of_mem _ h)
    have hstep := linesFrom_cons hc read (payload ++ '\n' :: rest)
    rw [List.cons_append, hstep]
    by_cases hbreak : isLineBreak c = true
    · obtain ⟨first, others, hbroken, hlines⟩ := ih [] rest hno'
      refine ⟨[], first :: others, ⟨⟨c :: payload, rfl, Or.inr ⟨c, payload, rfl, hbreak⟩⟩, ?_, ?_⟩,
        ?_⟩
      · intro d hd
        cases hd
      · intro line hline
        rcases List.mem_cons.1 hline with rfl | hline
        · obtain ⟨tail, htail, -⟩ := hbroken.tail
          exact ⟨hbroken.plain, [], c, tail, by rw [htail]; rfl, hbreak⟩
        · obtain ⟨hplain, u, b, v, hsplit, hb⟩ := hbroken.later line hline
          exact ⟨hplain, c :: u, b, v, by rw [hsplit]; rfl, hb⟩
      · rw [if_pos hbreak, hlines, List.nil_append, List.append_nil, List.cons_append]
    · obtain ⟨first, others, hbroken, hlines⟩ := ih (read ++ [c]) rest hno'
      refine ⟨c :: first, others, ⟨?_, ?_, ?_⟩, ?_⟩
      · obtain ⟨tail, htail, hcases⟩ := hbroken.tail
        exact ⟨tail, by rw [htail]; rfl, hcases⟩
      · intro d hd
        rcases List.mem_cons.1 hd with rfl | hd
        · exact Bool.eq_false_iff.2 hbreak
        · exact hbroken.plain d hd
      · intro line hline
        obtain ⟨hplain, u, b, v, hsplit, hb⟩ := hbroken.later line hline
        exact ⟨hplain, c :: u, b, v, by rw [hsplit]; rfl, hb⟩
      · rw [if_neg hbreak, hlines, List.append_assoc, List.singleton_append]

/-! ## Payloads -/

variable {F : FloatText}

/-- The kind of character that ends no line unescaped. -/
abbrev Unbroken (c : Char) : Prop := isWideBreak c = false

theorem unbroken_of_isLineBreak {c : Char} (h : isLineBreak c = false) : Unbroken c := by
  by_contra hc
  rw [Bool.not_eq_false] at hc
  have hwide := wide_of_isWideBreak hc
  rw [isWideBreak_eq (by omega), h] at hc
  cases hc

/-- A dump has no character that ends a line but those JSON leaves unescaped. -/
theorem isWideBreak_of_mem {v : Json} {c : Char} (hmem : c ∈ dumpsJson F v)
    (hc : isLineBreak c = true) : isWideBreak c = true := by
  rw [isWideBreak_eq (of_mem_dumpsJson hmem).1]
  exact hc

theorem dumpsJson_obj_head (F : FloatText) (fields : JsonObj) :
    ∃ cs, dumpsJson F (.obj fields) = '\x7b' :: cs := ⟨_, rfl⟩

theorem moreFields_last (F : FloatText) (fields : JsonObj) :
    ∃ toks, Json.moreFields F fields = toks ++ [.punct '\x7d'] := by
  induction fields with
  | nil => exact ⟨[], rfl⟩
  | cons p fields ih =>
    obtain ⟨toks, htoks⟩ := ih
    obtain ⟨key, value⟩ := p
    refine ⟨.punct ',' :: .text key.toList :: .punct ':' :: (value.tokens F ++ toks), ?_⟩
    rw [Json.moreFields, htoks]
    simp

theorem dumpsJson_obj_last (F : FloatText) (fields : JsonObj) :
    ∃ cs, dumpsJson F (.obj fields) = cs ++ ['\x7d'] := by
  have htoks : ∃ toks, Json.tokens F (.obj fields) = toks ++ [.punct '\x7d'] := by
    cases fields with
    | nil => exact ⟨[.punct '\x7b'], rfl⟩
    | cons p fields =>
      obtain ⟨key, value⟩ := p
      obtain ⟨toks, htoks⟩ := moreFields_last F fields
      refine ⟨.punct '\x7b' :: .text key.toList :: .punct ':' :: (value.tokens F ++ toks), ?_⟩
      rw [Json.tokens, Json.fieldTokens, htoks]
      simp
  obtain ⟨toks, htoks⟩ := htoks
  refine ⟨render toks, ?_⟩
  unfold dumpsJson
  rw [htoks]
  exact List.flatMap_append

/-- A whole payload is stripped to itself. -/
theorem strip_dumpsJson (F : FloatText) (fields : JsonObj) :
    (strip (String.ofList (' ' :: dumpsJson F (.obj fields)))).toList =
      dumpsJson F (.obj fields) := by
  obtain ⟨cs, hhead⟩ := dumpsJson_obj_head F fields
  obtain ⟨ds, hlast⟩ := dumpsJson_obj_last F fields
  rw [hhead, toList_strip_spaced cs (by decide), ← hhead, hlast]
  exact List.rdropWhile_concat_neg _ _ _ (by decide)

/-- **The first line of a broken payload ends in a string**, so it is no text by itself. -/
theorem lex_first {fields : JsonObj} {first tail : List Char} {b : Char}
    (hsplit : dumpsJson F (.obj fields) = first ++ b :: tail) (hb : 0x80 ≤ b.toNat) :
    lex (strip (String.ofList (' ' :: first))).toList = none := by
  obtain ⟨cs, hhead⟩ := dumpsJson_obj_head F fields
  obtain ⟨first', rfl⟩ : ∃ first', first = '\x7b' :: first' := by
    cases first with
    | nil =>
      have hbrace : b = '\x7b' := by
        rw [hhead] at hsplit
        exact (List.cons.inj hsplit).1.symm
      rw [hbrace] at hb
      exact absurd hb (by decide)
    | cons c first =>
      rw [hhead] at hsplit
      exact ⟨first, by rw [(List.cons.inj hsplit).1]⟩
  rw [toList_strip_spaced first' (by decide)]
  obtain ⟨toks, hlex⟩ : ∃ toks, lex (dumpsJson F (.obj fields)) = some toks :=
    ⟨_, lex_dumpsJson F _⟩
  obtain ⟨l, hrun, -, -⟩ := run_of_lex hlex
  rw [hsplit] at hrun
  obtain ⟨m, hfirst, hrest⟩ := run_append_some hrun
  obtain ⟨m', hstep, -⟩ := Option.bind_eq_some_iff.1 hrest
  have hinside := (inside_of_wide hb hstep).1
  cases hdata : lex (('\x7b' :: first').rdropWhile isSpace) with
  | none => rfl
  | some toks =>
    -- what was stripped off opens no string
    exfalso
    obtain ⟨k, hk, hout, -⟩ := run_of_lex hdata
    have hwhole : ('\x7b' :: first').rdropWhile isSpace ++ ('\x7b' :: first').rtakeWhile isSpace =
        '\x7b' :: first' := List.rdropWhile_append_rtakeWhile
    rw [← hwhole, run_append, hk] at hfirst
    have hquote : '"' ∉ ('\x7b' :: first').rtakeWhile isSpace := by
      intro hmem
      exact absurd (List.mem_rtakeWhile_imp hmem) (by decide)
    exact not_isOutside_of_isInside hinside (isOutside_run _ _ _ hout hquote hfirst)

/-- **What a later line of a broken payload is read as has no character that ends a line.** -/
theorem within_of_later {fields : JsonObj} {u line v : List Char} {b : Char} {data : String}
    {value : Json} (hsplit : dumpsJson F (.obj fields) = u ++ b :: (line ++ v))
    (hb : 0x80 ≤ b.toNat) (hline : ∀ c ∈ line, isLineBreak c = false)
    (hdata : afterPrefix "data:" (String.ofList line) = some data)
    (hvalue : loadsJson F data.toList = some value) : value.Within Unbroken := by
  obtain ⟨l, hrun, -, -⟩ := run_of_lex (lex_dumpsJson F (.obj fields))
  rw [hsplit] at hrun
  obtain ⟨m, -, hrest⟩ := run_append_some hrun
  obtain ⟨m', hstep, hafter⟩ := Option.bind_eq_some_iff.1 hrest
  have hinside := (inside_of_wide hb hstep).2
  obtain ⟨k, hk, -⟩ := run_append_some hafter
  obtain ⟨a, post, hpre, ha, -⟩ := split_afterPrefix hdata
  -- neither the prefix nor the spaces after it close the string
  have hfree : ∀ d, d ∉ "data:".toList → isSpace d = false → d ∉ "data:".toList ++ a := by
    intro d hprefix hspace hmem
    rcases List.mem_append.1 hmem with hmem | hmem
    · exact hprefix hmem
    · rw [ha d hmem] at hspace
      cases hspace
  rw [← List.append_assoc] at hpre
  rw [hpre] at hk
  obtain ⟨k₁, hk₁, hk₂⟩ := run_append_some hk
  obtain ⟨k₂, hrun₂, -⟩ := run_append_some hk₂
  have hinside₁ := isInside_run _ _ _ hinside (hfree _ (by decide) (by decide))
    (hfree _ (by decide) (by decide)) hk₁
  refine within_of_loadsJson ?_ hvalue
  intro toks htoks
  refine textsHold_of_isInside hinside₁ hrun₂ htoks ?_
  intro c hc
  have hmem : c ∈ line := by
    rw [hpre]
    exact List.mem_append_right _ (List.mem_append_left _ hc)
  exact unbroken_of_isLineBreak (hline c hmem)

/-! ## Frames -/

/-- The `event:` line of a frame. -/
theorem type_plain (event : AnthropicStreamEvent) :
    ∀ c ∈ event.type.toList, isSpace c = false ∧ isLineBreak c = false := by
  have hall : ∀ type ∈ ["message_start", "content_block_start", "content_block_delta",
      "content_block_stop", "message_delta", "message_stop", "ping"],
      type.toList.all (fun c => !isSpace c && !isLineBreak c) = true := by decide
  have htype : event.type ∈ ["message_start", "content_block_start", "content_block_delta",
      "content_block_stop", "message_delta", "message_stop", "ping"] := by
    cases event <;> simp [AnthropicStreamEvent.type]
  intro c hc
  have hplain := List.all_eq_true.1 (hall event.type htype) c hc
  rwa [Bool.and_eq_true, Bool.not_eq_true', Bool.not_eq_true'] at hplain

theorem typeLine (event : AnthropicStreamEvent) :
    (∀ c ∈ ("event: " ++ event.type).toList, isLineBreak c = false) ∧
      afterPrefix "data:" ("event: " ++ event.type) = none ∧
        afterPrefix "event:" ("event: " ++ event.type) = some event.type := by
  have hplain := type_plain event
  refine ⟨?_, ?_, ?_⟩
  · rw [String.toList_append, List.forall_mem_append]
    exact ⟨plain_of_all (by decide), fun c hc => (hplain c hc).2⟩
  · have hhead : ("event: " ++ event.type).toList.head? = some 'e' := by
      rw [String.toList_append]
      rfl
    apply afterPrefix_eq_none (by decide)
    rw [hhead]
    decide
  · have hfield : "event: ".toList = "event:".toList ++ [' '] := by decide
    have hchars : (String.ofList ("event:".toList ++ ' ' :: event.type.toList)).toList =
        "event:".toList ++ ' ' :: event.type.toList := String.toList_ofList
    have hline : "event: " ++ event.type =
        String.ofList ("event:".toList ++ ' ' :: event.type.toList) := by
      apply String.toList_inj.1
      rw [hchars, String.toList_append, hfield, List.append_assoc, List.singleton_append]
    rw [hline, afterPrefix_self, strip_spaced (fun c hc => (hplain c hc).1), String.ofList_toList]

/-- The first line of a frame, and where its payload begins. -/
theorem linesFrom_format (F : FloatText) (event : AnthropicStreamEvent) (rest : List Char) :
    linesFrom [] ((formatAnthropicSse F event).toList ++ rest) =
      ("event: " ++ event.type).toList ::
        linesFrom "data: ".toList (dumpsJson F (.obj event.dump) ++ '\n' :: '\n' :: rest) := by
  have htype := (typeLine event).1
  have hdata : ∀ c ∈ "data: ".toList, isLineBreak c = false := plain_of_all (by decide)
  have htext : (formatAnthropicSse F event).toList ++ rest =
      ("event: " ++ event.type).toList ++ '\n' :: ("data: ".toList ++
        (dumpsJson F (.obj event.dump) ++ '\n' :: '\n' :: rest)) := by
    have hmiddle : "\ndata: ".toList = '\n' :: "data: ".toList := by decide
    have hend : "\n\n".toList = ['\n', '\n'] := by decide
    unfold formatAnthropicSse
    simp only [String.toList_append, String.toList_ofList, hmiddle, hend, List.append_assoc,
      List.cons_append, List.nil_append]
  rw [htext, linesFrom_plain _ _ _ htype, List.nil_append, linesFrom_newline,
    linesFrom_plain _ _ _ hdata, List.nil_append]

/-- The lines of a frame. -/
theorem linesFrom_frame (F : FloatText) (event : AnthropicStreamEvent) (rest : List Char) :
    ∃ first others, Broken (dumpsJson F (.obj event.dump)) first others ∧
      linesFrom [] ((formatAnthropicSse F event).toList ++ rest) =
        ("event: " ++ event.type).toList :: ("data: ".toList ++ first) ::
          (others ++ [] :: linesFrom [] rest) := by
  have hno : '\r' ∉ dumpsJson F (.obj event.dump) := by
    intro h
    have hlow := (of_mem_dumpsJson h).1
    exact absurd hlow (by decide)
  obtain ⟨first, others, hbroken, hlines⟩ :=
    linesFrom_broken _ "data: ".toList ('\n' :: rest) hno
  refine ⟨first, others, hbroken, ?_⟩
  rw [linesFrom_format, hlines, linesFrom_newline]

/-- A line that holds no character that ends one, and what is read of it neither. -/
structure LineWithin (F : FloatText) (line : List Char) : Prop where
  plain : ∀ c ∈ line, isLineBreak c = false
  payload : ∀ data value, afterPrefix "data:" (String.ofList line) = some data →
    loadsJson F data.toList = some value → value.Within Unbroken

theorem lineWithin_of_none {line : List Char} (hplain : ∀ c ∈ line, isLineBreak c = false)
    (hline : afterPrefix "data:" (String.ofList line) = none) : LineWithin F line := by
  refine ⟨hplain, ?_⟩
  intro data value hdata
  rw [hline] at hdata
  cases hdata

theorem afterPrefix_data (cs : List Char) :
    afterPrefix "data:" (String.ofList ("data: ".toList ++ cs)) =
      some (strip (String.ofList (' ' :: cs))) := by
  have hdata : "data: ".toList = "data:".toList ++ [' '] := by decide
  rw [hdata, List.append_assoc]
  exact afterPrefix_self "data:" (' ' :: cs)

theorem lineWithin_first {fields : JsonObj} {first : List Char} {others : List (List Char)}
    (h : Broken (dumpsJson F (.obj fields)) first others) :
    LineWithin F ("data: ".toList ++ first) := by
  refine ⟨?_, ?_⟩
  · intro c hc
    rcases List.mem_append.1 hc with hc | hc
    · have hdata : ∀ c ∈ "data: ".toList, isLineBreak c = false := plain_of_all (by decide)
      exact hdata c hc
    · exact h.plain c hc
  · intro data value hdata hvalue
    rw [afterPrefix_data] at hdata
    obtain rfl := Option.some.inj hdata
    obtain ⟨tail, hsplit, ⟨rfl, -⟩ | ⟨b, tail', rfl, hb⟩⟩ := h.tail
    · rw [List.append_nil] at hsplit
      have hplain := h.plain
      rw [← hsplit] at hvalue hplain
      rw [strip_dumpsJson] at hvalue
      refine within_of_loadsJson ?_ hvalue
      intro toks htoks
      rw [lex_dumpsJson] at htoks
      obtain rfl := Option.some.inj htoks
      rw [Json.textsHold_tokens, within_iff_dumpsJson F (fun c => isWideBreak_ascii)]
      intro c hc
      exact unbroken_of_isLineBreak (hplain c hc)
    · have hmem : b ∈ dumpsJson F (.obj fields) := by
        rw [hsplit]
        exact List.mem_append_right _ List.mem_cons_self
      have hnone := lex_first hsplit (wide_of_isWideBreak (isWideBreak_of_mem hmem hb))
      unfold loadsJson at hvalue
      rw [hnone] at hvalue
      cases hvalue

theorem lineWithin_later {fields : JsonObj} {first : List Char} {others : List (List Char)}
    (h : Broken (dumpsJson F (.obj fields)) first others) {line : List Char}
    (hline : line ∈ others) : LineWithin F line := by
  obtain ⟨hplain, u, b, v, hsplit, hb⟩ := h.later line hline
  have hmem : b ∈ dumpsJson F (.obj fields) := by
    rw [hsplit]
    exact List.mem_append_right _ List.mem_cons_self
  have hwide := wide_of_isWideBreak (isWideBreak_of_mem hmem hb)
  exact ⟨hplain, fun data value hdata hvalue => within_of_later hsplit hwide hplain hdata hvalue⟩

/-- The text of some events. -/
abbrev sseBody (F : FloatText) (events : List WireEvent) : String :=
  String.join (events.map (fun e => formatAnthropicSse F e.event))

theorem sseBody_cons (F : FloatText) (e : WireEvent) (events : List WireEvent) :
    (sseBody F (e :: events)).toList =
      (formatAnthropicSse F e.event).toList ++ (sseBody F events).toList := by
  unfold sseBody
  rw [List.map_cons, String.join_cons, String.toList_append]

/-- Every line of a body. -/
theorem lineWithin_body (F : FloatText) : ∀ (events : List WireEvent),
    ∀ line ∈ linesFrom [] (sseBody F events).toList, LineWithin F line := by
  intro events
  induction events with
  | nil =>
    intro line hline
    cases hline
  | cons e events ih =>
    intro line hline
    obtain ⟨first, others, hbroken, hlines⟩ :=
      linesFrom_frame F e.event (sseBody F events).toList
    rw [sseBody_cons, hlines] at hline
    rcases List.mem_cons.1 hline with rfl | hline
    · obtain ⟨hplain, hnone, -⟩ := typeLine e.event
      refine lineWithin_of_none hplain ?_
      rw [String.ofList_toList]
      exact hnone
    rcases List.mem_cons.1 hline with rfl | hline
    · exact lineWithin_first hbroken
    rcases List.mem_append.1 hline with hline | hline
    · exact lineWithin_later hbroken hline
    rcases List.mem_cons.1 hline with rfl | hline
    · exact lineWithin_of_none (fun c hc => nomatch hc) (by decide)
    · exact ih line hline

/-! ## What is read -/

theorem mem_of_afterPrefix {field : String} {line : List Char} {name : String} {c : Char}
    (h : afterPrefix field (String.ofList line) = some name) (hc : c ∈ name.toList) :
    c ∈ line := by
  obtain ⟨a, b, hline, -, -⟩ := split_afterPrefix h
  rw [hline]
  exact List.mem_append_right _ (List.mem_append_right _ (List.mem_append_left _ hc))

theorem within_withEventType {currentEvent : Option String} {payload : JsonObj}
    (hcurrent : ∀ t ∈ currentEvent, ∀ c ∈ t.toList, Unbroken c)
    (h : Json.Within Unbroken (.obj payload)) :
    Json.Within Unbroken (.obj (withEventType currentEvent payload)) := by
  unfold withEventType
  split_ifs with hadded
  · rw [Json.Within, Json.withinFields_iff] at h ⊢
    intro p hp
    rcases List.mem_append.1 hp with hp | hp
    · exact h p hp
    · rw [List.mem_singleton.1 hp]
      have hkey : ∀ c ∈ "type".toList, isLineBreak c = false := plain_of_all (by decide)
      refine ⟨fun c hc => unbroken_of_isLineBreak (hkey c hc), ?_⟩
      cases currentEvent with
      | none => exact absurd rfl hadded.1
      | some t => exact hcurrent t rfl
  · exact h

theorem afterPrefix_empty {field : String} {line name : String} (hfield : field ≠ "")
    (h : afterPrefix field line = some name) : line ≠ "" := by
  rintro rfl
  have hnone : afterPrefix field "" = none := by
    unfold afterPrefix
    rw [if_neg]
    intro hprefix
    have hnil := List.prefix_nil.1 (List.isPrefixOf_iff_prefix.1 hprefix)
    exact hfield (String.toList_inj.1 hnil)
  rw [hnone] at h
  cases h

section

variable {loads : String → Option Json} {currentEvent : Option String} {line : String}

theorem parseAnthropicSse_event {name : String} (lines : List String)
    (h : afterPrefix "event:" line = some name) :
    parseAnthropicSse loads currentEvent (line :: lines) =
      parseAnthropicSse loads (some name) lines := by
  rw [parseAnthropicSse, if_neg (afterPrefix_empty (by decide) h), h]

theorem parseAnthropicSse_data {data : String} {payload : JsonObj} (lines : List String)
    (hevent : afterPrefix "event:" line = none) (hdata : afterPrefix "data:" line = some data)
    (hne : data ≠ "") (hload : loads data = some (.obj payload)) :
    parseAnthropicSse loads currentEvent (line :: lines) =
      withEventType currentEvent payload :: parseAnthropicSse loads currentEvent lines := by
  rw [parseAnthropicSse, if_neg (afterPrefix_empty (by decide) hdata), hevent]
  simp only [hdata, if_neg hne, hload]

/-- A payload that is empty or loads as no object is passed over. -/
theorem parseAnthropicSse_unread {data : String} (lines : List String)
    (hevent : afterPrefix "event:" line = none) (hdata : afterPrefix "data:" line = some data)
    (hload : ∀ payload, data ≠ "" → loads data ≠ some (.obj payload)) :
    parseAnthropicSse loads currentEvent (line :: lines) =
      parseAnthropicSse loads currentEvent lines := by
  rw [parseAnthropicSse, if_neg (afterPrefix_empty (by decide) hdata), hevent]
  simp only [hdata]
  by_cases hempty : data = ""
  · rw [if_pos hempty]
  · rw [if_neg hempty]
    cases hvalue : loads data with
    | none => rfl
    | some value =>
      cases value with
      | obj payload => exact absurd hvalue (hload payload hempty)
      | _ => rfl

/-- And so is a line that is no field. -/
theorem parseAnthropicSse_other (lines : List String) (hline : line ≠ "")
    (hevent : afterPrefix "event:" line = none) (hdata : afterPrefix "data:" line = none) :
    parseAnthropicSse loads currentEvent (line :: lines) =
      parseAnthropicSse loads currentEvent lines := by
  rw [parseAnthropicSse, if_neg hline, hevent]
  simp only [hdata]

end

/-- What is read of lines has the strings of these. -/
theorem within_parseAnthropicSse (F : FloatText) : ∀ (lines : List (List Char))
    (currentEvent : Option String), (∀ line ∈ lines, LineWithin F line) →
      (∀ t ∈ currentEvent, ∀ c ∈ t.toList, Unbroken c) →
        ∀ payload ∈ parseAnthropicSse (fun data => loadsJson F data.toList) currentEvent
          (lines.map String.ofList), Json.Within Unbroken (.obj payload) := by
  intro lines
  induction lines with
  | nil => intro _ _ _ payload h; cases h
  | cons line lines ih =>
    intro currentEvent hlines hcurrent payload h
    have hline := hlines line List.mem_cons_self
    have hrest : ∀ l ∈ lines, LineWithin F l := fun l hl => hlines l (List.mem_cons_of_mem _ hl)
    rw [List.map_cons] at h
    by_cases hblank : String.ofList line = ""
    · rw [hblank, parseAnthropicSse_blank] at h
      exact ih none hrest (fun t ht => nomatch ht) payload h
    · cases hevent : afterPrefix "event:" (String.ofList line) with
      | some name =>
        rw [parseAnthropicSse_event _ hevent] at h
        refine ih (some name) hrest ?_ payload h
        intro t ht c hc
        obtain rfl := Option.some.inj ht
        exact unbroken_of_isLineBreak (hline.plain c (mem_of_afterPrefix hevent hc))
      | none =>
        cases hdata : afterPrefix "data:" (String.ofList line) with
        | none =>
          rw [parseAnthropicSse_other _ hblank hevent hdata] at h
          exact ih currentEvent hrest hcurrent payload h
        | some data =>
          by_cases hread : data ≠ "" ∧ ∃ fields, loadsJson F data.toList = some (.obj fields)
          · obtain ⟨hempty, fields, hvalue⟩ := hread
            rw [parseAnthropicSse_data _ hevent hdata hempty hvalue] at h
            rcases List.mem_cons.1 h with rfl | h
            · exact within_withEventType hcurrent (hline.payload data _ hdata hvalue)
            · exact ih currentEvent hrest hcurrent payload h
          · have hpassed : ∀ fields, data ≠ "" → loadsJson F data.toList ≠ some (.obj fields) :=
              fun fields hempty hvalue => hread ⟨hempty, fields, hvalue⟩
            rw [parseAnthropicSse_unread _ hevent hdata hpassed] at h
            exact ih currentEvent hrest hcurrent payload h

theorem afterPrefix_event_data (cs : List Char) :
    afterPrefix "event:" (String.ofList ("data: ".toList ++ cs)) = none := by
  have hchars : (String.ofList ("data: ".toList ++ cs)).toList = "data: ".toList ++ cs :=
    String.toList_ofList
  have hhead : ("data: ".toList ++ cs).head? = some 'd' := rfl
  apply afterPrefix_eq_none (by decide)
  rw [hchars, hhead]
  decide

/-- Nothing is read of a frame whose data line does not load and is followed by no field. -/
theorem parseAnthropicSse_lost {loads : String → Option Json} {typeLine name second : String}
    {first : List Char} (hloads : loads (strip (String.ofList (' ' :: first))) = none)
    (htype : afterPrefix "event:" typeLine = some name) (hline : second ≠ "")
    (hevent : afterPrefix "event:" second = none) (hdata : afterPrefix "data:" second = none) :
    parseAnthropicSse loads none
      (typeLine :: String.ofList ("data: ".toList ++ first) :: second :: [""]) = [] := by
  have hpassed : ∀ fields, strip (String.ofList (' ' :: first)) ≠ "" →
      loads (strip (String.ofList (' ' :: first))) ≠ some (.obj fields) := by
    intro fields _ hvalue
    rw [hloads] at hvalue
    cases hvalue
  rw [parseAnthropicSse_event _ htype,
    parseAnthropicSse_unread _ (afterPrefix_event_data first) (afterPrefix_data first) hpassed,
    parseAnthropicSse_other _ hline hevent hdata, parseAnthropicSse_blank, parseAnthropicSse]

/-- The frame of an event whose payload has no line to end is read as the payload. -/
theorem parseAnthropicSse_frame (F : FloatText) (e : WireEvent) (hfree : e.event.BreakFree)
    (rest : List Char) :
    parseAnthropicSse (fun data => loadsJson F data.toList) none
        ((linesFrom [] ((formatAnthropicSse F e.event).toList ++ rest)).map String.ofList) =
      e.event.dump :: parseAnthropicSse (fun data => loadsJson F data.toList) none
        ((linesFrom [] rest).map String.ofList) := by
  obtain ⟨first, others, hbroken, hlines⟩ := linesFrom_frame F e.event rest
  have hchars := (within_iff_dumpsJson F (fun c => isWideBreak_ascii)).1 hfree
  obtain ⟨tail, hsplit, ⟨rfl, rfl⟩ | ⟨b, tail', rfl, hb⟩⟩ := hbroken.tail
  · rw [List.append_nil] at hsplit
    obtain ⟨-, hnone, htype⟩ := typeLine e.event
    have hdata := afterPrefix_data first
    have hstrip : strip (String.ofList (' ' :: first)) = String.ofList first := by
      apply String.toList_inj.1
      rw [← hsplit, strip_dumpsJson, String.toList_ofList]
    rw [hstrip] at hdata
    have hloads : loadsJson F (String.ofList first).toList = some (.obj e.event.dump) := by
      rw [String.toList_ofList, ← hsplit]
      exact loadsJson_dumpsJson F e.unique
    have hne : String.ofList first ≠ "" := by
      intro h
      rw [h] at hloads
      cases hloads
    have hown : withEventType (some e.event.type) e.event.dump = e.event.dump := by
      unfold withEventType
      rw [if_neg]
      rintro ⟨-, htypeless⟩
      cases htypeless
    rw [hlines, List.nil_append, List.map_cons, List.map_cons, List.map_cons, String.ofList_toList,
      parseAnthropicSse_event _ htype,
      parseAnthropicSse_data _ (afterPrefix_event_data first) hdata hne hloads, hown]
    exact congrArg _ (parseAnthropicSse_blank _ _ _)
  · exfalso
    have hmem : b ∈ dumpsJson F (.obj e.event.dump) := by
      rw [hsplit]
      exact List.mem_append_right _ List.mem_cons_self
    exact absurd (hchars b hmem) (by rw [isWideBreak_of_mem hmem hb]; decide)

/-- An event whose payload falls into two lines, and whose second line is no field, is dropped. -/
theorem receivedSse_broken (F : FloatText) (e : WireEvent) {first second : List Char} {b : Char}
    (hdump : dumpsJson F (.obj e.event.dump) = first ++ b :: second)
    (hfirst : ∀ c ∈ first, isLineBreak c = false) (hb : isLineBreak b = true)
    (hsecond : ∀ c ∈ second, isLineBreak c = false) (hline : String.ofList second ≠ "")
    (hevent : afterPrefix "event:" (String.ofList second) = none)
    (hdata : afterPrefix "data:" (String.ofList second) = none) :
    receivedSse F (sseBody F [e]) = [] := by
  have hmem : b ∈ dumpsJson F (.obj e.event.dump) := by
    rw [hdump]
    exact List.mem_append_right _ List.mem_cons_self
  have hwide := wide_of_isWideBreak (isWideBreak_of_mem hmem hb)
  have hreturn : b ≠ '\r' := by
    rintro rfl
    exact absurd hwide (by decide)
  have hlines : linesFrom [] (sseBody F [e]).toList =
      ("event: " ++ e.event.type).toList :: ("data: ".toList ++ first) :: second :: [[]] := by
    have hend : (sseBody F []).toList = [] := by simp [sseBody]
    rw [sseBody_cons, hend, linesFrom_format, hdump, List.append_assoc, linesFrom_plain _ _ _ hfirst,
      List.cons_append, linesFrom_cons hreturn, if_pos hb, linesFrom_plain _ _ _ hsecond,
      List.nil_append, linesFrom_newline, linesFrom_newline, linesFrom, if_pos rfl]
  have hloads : loadsJson F (strip (String.ofList (' ' :: first))).toList = none := by
    unfold loadsJson
    rw [lex_first hdump hwide]
  unfold receivedSse splitlines
  rw [hlines, List.map_cons, List.map_cons, List.map_cons, String.ofList_toList]
  exact parseAnthropicSse_lost hloads (typeLine e.event).2.2 hline hevent hdata

/-- **A body is read back exactly when no payload in it has a line to end.** -/
theorem receivedSse_eq_iff (F : FloatText) (events : List WireEvent) :
    receivedSse F (String.join (events.map (fun e => formatAnthropicSse F e.event))) =
        events.map (fun e => e.event.dump) ↔ ∀ e ∈ events, e.event.BreakFree := by
  constructor
  · intro h e he
    have hmem : e.event.dump ∈ receivedSse F (sseBody F events) := by
      rw [h]
      exact List.mem_map_of_mem he
    exact within_parseAnthropicSse F _ none (lineWithin_body F events) (fun t ht => nomatch ht)
      _ hmem
  · intro hfree
    have hread : ∀ events : List WireEvent, (∀ e ∈ events, e.event.BreakFree) →
        receivedSse F (sseBody F events) = events.map (fun e => e.event.dump) := by
      intro events
      induction events with
      | nil => intro _; rfl
      | cons e events ih =>
        intro hfree
        have hrest := ih (fun e he => hfree e (List.mem_cons_of_mem _ he))
        unfold receivedSse splitlines at hrest ⊢
        rw [sseBody_cons, parseAnthropicSse_frame F e (hfree e List.mem_cons_self), hrest,
          List.map_cons]
    exact hread events hfree

/-- Some text for each rational: the numerator, and the denominator as the exponent. -/
def fractionText : FloatText where
  print q := intText q.num ++ 'e' :: Nat.toDigits 10 q.den
  read w :=
    some (mkRat (signedDigits (w.takeWhile (fun c => decide (c ≠ 'e'))))
      (Nat.ofDigitChars 10 (w.dropWhile (fun c => decide (c ≠ 'e'))).tail 0))
  printed q := by
    refine ⟨by simp, ?_⟩
    intro c hc
    rcases List.mem_append.1 hc with hc | hc
    · rcases mem_intText hc with h | h
      · exact Or.inl h
      · exact Or.inr (Or.inr (Or.inl h))
    rcases List.mem_cons.1 hc with h | hc
    · exact Or.inr (Or.inr (Or.inr (Or.inr h)))
    · exact Or.inl (Nat.isDigit_of_mem_toDigits (by decide) (by decide) hc)
  read_print q := by
    have hno : ∀ c ∈ intText q.num, decide (c ≠ 'e') = true := by
      intro c hc
      rw [decide_eq_true_eq]
      rintro rfl
      rcases mem_intText hc with h | h
      · exact absurd h (by decide)
      · exact absurd h (by decide)
    rw [List.takeWhile_append_of_pos hno, List.dropWhile_append_of_pos hno]
    simp [signedDigits_intText, Nat.ofDigitChars_ten_toDigits, Rat.mkRat_self]
  marked q := Or.inr (by simp)

/-- A text with a line separator in it. -/
def separatedDelta : WireEvent where
  event := .contentBlockDelta 0 (.textDelta "a\u2028b")
  unique := by simp [AnthropicStreamEvent.dump, AnthropicStreamEvent.fields,
    AnthropicStreamEvent.type, ContentBlockDelta.wire, JsonObj.UniqueKeys, Json.UniqueKeys,
    Json.UniqueFields]

/-- The event is dropped without a word. -/
theorem separated_delta_dropped :
    receivedSse fractionText
        (String.join ([separatedDelta].map (fun e => formatAnthropicSse fractionText e.event))) =
        [] ∧
      receivedSse fractionText
        (String.join ([separatedDelta].map (fun e => formatAnthropicSse fractionText e.event))) ≠
        [separatedDelta].map (fun e => e.event.dump) := by
  have hdump : dumpsJson fractionText (.obj separatedDelta.event.dump) =
      (dumpsJson fractionText (.obj separatedDelta.event.dump)).take 78 ++
        '\u2028' :: ['b', '"', '\x7d', '\x7d'] := by decide
  have hdropped : receivedSse fractionText (sseBody fractionText [separatedDelta]) = [] :=
    receivedSse_broken fractionText separatedDelta hdump (plain_of_all (by decide))
      (by decide) (plain_of_all (by decide)) (by decide) (by decide) (by decide)
  refine ⟨hdropped, ?_⟩
  rw [hdropped]
  exact fun h => nomatch h

end ModelMeld
