import ModelMeld.Lib.Shell

/-!
# Values written into a shell script

* `inert_or_other`: a value written after `NAME=` is inert, or another word is read in its place;
* `quoted_or_other`: the same between double quotes;
* `readFrom_blank_line_iff`: what may stand before a blank line and run nothing.

A character that is dropped leaves the word too short, and a word that goes on past its line has a
letter too many, so the word that is read tells.
-/

namespace Shell

open Reader

variable {r r' : Reader} {out : List Command} {c : Char}

/-! ## Words that are not the text -/

/-- What tells a word from a text: it is shorter, or has more of a letter. -/
def Differs (text w : Word) : Prop :=
  w.length < text.length ∨ ∃ x, isNameStart x = true ∧ text.count x < w.count x

/-- The word that is being read differs from the text in the end. -/
def ReadsOther (r : Reader) (text : Word) (commands : List Command) : Prop :=
  ∃ command later w, commands = command :: later ∧ command[r.words.length]? = some w ∧
    Differs text w

/-- The end of the script, or a line that begins with a letter. -/
def BeginsLine (rest : List Char) : Prop :=
  rest = [] ∨ ∃ x more, rest = x :: more ∧ isNameStart x = true

theorem readsOther_of_extends {text w : Word} {cs : List Char} {commands : List Command}
    (h : r.readFrom cs = some commands) (hword : r.word = some w) {x : Char}
    (hx : isNameStart x = true) (hcount : text.count x < w.count x) :
    ReadsOther r text commands := by
  obtain ⟨command, later, rfl, hextends⟩ := readFrom_extends h (by simp [pending, hword])
  obtain ⟨w', hget, hbegins⟩ := hextends.word w hword
  have hle := hbegins.sublist.count_le x
  exact ⟨command, later, w', rfl, hget, .inr ⟨x, hx, by omega⟩⟩

theorem readsOther_ended {text w : Word} (hword : r.word = some w)
    (hshort : w.length < text.length) (later : List Command) :
    ReadsOther r text (r.ended ++ later) := by
  have hpending : r.pending = r.words ++ [w] := by simp [pending, hword]
  refine ⟨r.pending, later, w, ?_, by simp [hpending], .inl hshort⟩
  unfold ended
  rw [if_neg (by simp [hpending])]
  rfl

theorem readsOther_endWord {text w : Word} {cs : List Char} {later : List Command}
    (hword : r.word = some w) (hshort : w.length < text.length)
    (h : r.endWord.readFrom cs = some later) : ReadsOther r text later := by
  have hpending : r.pending = r.words ++ [w] := by simp [pending, hword]
  obtain ⟨command, later, rfl, hextends⟩ :=
    readFrom_extends h (by simp [endWord, pending, hword])
  obtain ⟨more, rfl⟩ := hextends.words
  refine ⟨_, later, w, rfl, ?_, .inl hshort⟩
  simp [endWord, hpending]

/-- A letter inside a word is added to it. -/
theorem step_letter {w : Word} (hword : r.word = some w) (hmode : r.mode ≠ .comment)
    (hc : isNameStart c = true) (h : r.step c = some (out, r')) :
    out = [] ∧ r'.words = r.words ∧ ∃ w', r'.word = some w' ∧ w'.count c = w.count c + 1 := by
  rcases step_cases h with ⟨rfl, _⟩ | ⟨hblank, _⟩ | ⟨rfl, hgoes⟩
  · exact absurd hc (by decide)
  · unfold isBlank at hblank
    rw [Bool.or_eq_true, beq_iff_eq, beq_iff_eq] at hblank
    rcases hblank with rfl | rfl
    · exact absurd hc (by decide)
    · exact absurd hc (by decide)
  · cases hgoes with
    | keeps _ _ hout =>
      rcases hout with hcomment | hnone
      · exact absurd hcomment hmode
      · exact absurd (hnone.symm.trans hword) (by simp)
    | grows _ hgrows =>
      obtain ⟨more, hmore, -, hcount⟩ := hgrows.word
      refine ⟨rfl, hgrows.words, _, hmore, ?_⟩
      rw [hword, Option.getD_some, List.count_append, hcount c hc, if_pos rfl]

/-- A word that goes on past the end of its line has a letter too many. -/
theorem readsOther_next_line {text w : Word} {rest : List Char} {commands : List Command}
    (hword : r.word = some w) (hmode : r.mode ≠ .comment)
    (hcount : ∀ x, isNameStart x = true → w.count x = text.count x)
    (hplain : r.mode = .plain → w.length < text.length)
    (hrest : BeginsLine rest) (h : r.readFrom rest = some commands) :
    ReadsOther r text commands := by
  rcases hrest with rfl | ⟨x, more, rfl, hx⟩
  · rw [readFrom_nil] at h
    cases hm : r.mode with
    | plain =>
      simp only [finish, hm, Option.some.injEq] at h
      have hother := readsOther_ended hword (hplain hm) []
      rw [List.append_nil, h] at hother
      exact hother
    | comment => exact absurd hm hmode
    | _ => simp [finish, hm] at h
  · obtain ⟨out, r', later, hstep, hlater, rfl⟩ := readFrom_cons_eq_some h
    obtain ⟨rfl, hwords, w', hw', hmore⟩ := step_letter hword hmode hx hstep
    have hother : ReadsOther r' text later :=
      readsOther_of_extends hlater hw' hx (by rw [hmore, hcount x hx]; omega)
    unfold ReadsOther at hother ⊢
    rw [hwords] at hother
    exact hother

theorem step_newline (hmode : r.mode ≠ .comment) (h : r.step '\n' = some (out, r')) :
    (r.mode = .plain ∧ out = r.ended ∧ r' = fresh) ∨
      (r.mode = .plainEscaped ∧ out = [] ∧ r' = r.inMode .plain) ∨
      (r.mode = .doubleEscaped ∧ out = [] ∧ r' = r.inMode .double) ∨
      ((r.mode = .single ∨ r.mode = .double) ∧ out = [] ∧ r' = r.push ['\n'] r.mode r.place) := by
  cases hm : r.mode with
  | comment => exact absurd hm hmode
  | plain =>
    simp [step, hm, stepPlain] at h
    exact .inl ⟨rfl, h.1.symm, h.2.symm⟩
  | plainEscaped =>
    simp [step, hm] at h
    exact .inr (.inl ⟨rfl, h.1, h.2.symm⟩)
  | single =>
    simp [step, hm] at h
    exact .inr (.inr (.inr ⟨.inl rfl, h.1, h.2.symm⟩))
  | double =>
    simp [step, hm, stepDouble, expansions] at h
    exact .inr (.inr (.inr ⟨.inr rfl, h.1, h.2.symm⟩))
  | doubleEscaped =>
    simp [step, hm] at h
    exact .inr (.inr (.inl ⟨rfl, h.1, h.2.symm⟩))

/-- At the end of its line a word that is too short stays so, or goes on. -/
theorem readsOther_newline {text w : Word} {rest : List Char} {commands : List Command}
    (hword : r.word = some w) (hmode : r.mode ≠ .comment)
    (hcount : ∀ x, isNameStart x = true → w.count x = text.count x)
    (hshort : w.length < text.length) (hrest : BeginsLine rest)
    (h : r.readFrom ('\n' :: rest) = some commands) : ReadsOther r text commands := by
  obtain ⟨out, r', later, hstep, hlater, rfl⟩ := readFrom_cons_eq_some h
  rcases step_newline hmode hstep with ⟨_, rfl, rfl⟩ | ⟨_, rfl, rfl⟩ | ⟨_, rfl, rfl⟩ |
    ⟨hquotes, rfl, rfl⟩
  · exact readsOther_ended hword hshort later
  · exact readsOther_next_line (r := r.inMode .plain) hword (by simp [inMode]) hcount
      (fun _ => hshort) hrest hlater
  · exact readsOther_next_line (r := r.inMode .double) hword (by simp [inMode]) hcount
      (fun _ => hshort) hrest hlater
  · refine readsOther_next_line (r := r.push ['\n'] r.mode r.place) (w := w ++ ['\n'])
      (by simp [push, hword]) hmode ?_ ?_ hrest hlater
    · intro x hx
      rw [List.count_append, hcount x hx, count_singleton_eq,
        if_neg (ne_of_isNameStart hx (by decide)), Nat.add_zero]
    · intro hplain
      rcases hquotes with hm | hm <;> exact absurd (hm.symm.trans hplain) (by simp)

/-- Some of the text has been dropped: what is read and what is left fall short of it. -/
structure Short (r : Reader) (rest : List Char) (text : Word) : Prop where
  mode : r.mode ≠ .comment
  word : ∃ w, r.word = some w ∧ w.length + slack r.mode + rest.length < text.length ∧
    ∀ x, isNameStart x = true → w.count x + rest.count x = text.count x

/-- A step keeps it short, unless the word ends. -/
theorem Short.step {rest : List Char} {text : Word} (h : Short r (c :: rest) text)
    (hstep : r.step c = some (out, r')) :
    (∀ {cs : List Char} {later : List Command}, r'.readFrom cs = some later →
        ReadsOther r text (out ++ later)) ∨
      (out = [] ∧ r'.words = r.words ∧ Short r' rest text) := by
  obtain ⟨hmode, w, hword, hlength, hcount⟩ := h
  rw [List.length_cons] at hlength
  have hshort : w.length < text.length := by omega
  rcases step_cases hstep with ⟨_, _, rfl, rfl⟩ | ⟨_, _, rfl, rfl⟩ | ⟨rfl, hgoes⟩
  · exact .inl fun _ => readsOther_ended hword hshort _
  · exact .inl fun hlater => readsOther_endWord hword hshort hlater
  · cases hgoes with
    | keeps _ _ hout =>
      rcases hout with hcomment | hnone
      · exact absurd hcomment hmode
      · exact absurd (hnone.symm.trans hword) (by simp)
    | grows _ hgrows =>
      obtain ⟨more, hmore, hlen, hmoreCount⟩ := hgrows.word
      rw [hword, Option.getD_some] at hmore
      refine .inr ⟨rfl, hgrows.words, hgrows.mode, _, hmore, ?_, ?_⟩
      · rw [List.length_append]
        omega
      · intro x hx
        have hsum := hcount x hx
        rw [List.count_cons] at hsum
        rw [List.count_append, hmoreCount x hx]
        by_cases hcx : c = x
        · simp only [hcx, beq_self_eq_true, if_true] at hsum ⊢
          omega
        · simp only [hcx, beq_iff_eq, if_false] at hsum ⊢
          omega

/-- A word that falls short of a text is not the text in the end, when the end of the text keeps
it so. -/
theorem Short.readsOther {text : Word} {tail : List Char}
    (htail : ∀ {r : Reader} {commands : List Command}, Short r [] text →
      r.readFrom tail = some commands → ReadsOther r text commands) :
    ∀ {rest : List Char} {r : Reader} {commands : List Command}, Short r rest text →
      r.readFrom (rest ++ tail) = some commands → ReadsOther r text commands := by
  intro rest
  induction rest with
  | nil =>
    intro r commands h hread
    exact htail h hread
  | cons c rest ih =>
    intro r commands h hread
    obtain ⟨out, r', later, hstep, hlater, rfl⟩ := readFrom_cons_eq_some hread
    rcases h.step hstep with hends | ⟨rfl, hwords, hshort⟩
    · exact hends hlater
    · have hother := ih hshort hlater
      unfold ReadsOther at hother ⊢
      rw [hwords] at hother
      exact hother

/-! ## A value outside quotes -/

/-- A character that stands for itself inside a word. -/
def isInert (c : Char) : Bool :=
  c != '\x00' && c != '\n' && !isBlank c && !operators.contains c && !expansions.contains c &&
    c != '\\' && c != '\'' && c != '"'

/-- No tilde where a tilde-prefix may begin: `here`, or after a colon. -/
def tildeFree : Bool → List Char → Bool
  | _, [] => true
  | here, c :: rest => !(here && c == '~') && tildeFree (c == ':') rest

/-- A value that stands for itself, written after the `=` of an assignment. -/
def Inert (value : List Char) : Prop :=
  (∀ c ∈ value, isInert c = true) ∧ tildeFree true value = true

instance (value : List Char) : Decidable (Inert value) :=
  haveI : Decidable (∀ c ∈ value, isInert c = true) := List.decidableBAll _ value
  inferInstanceAs (Decidable (_ ∧ _))

/-- The place in a value where a tilde-prefix may begin, or may not. -/
def valuePlace (here : Bool) : Place := if here then .assigned else .value

/-- What is not inert ends the word, is refused, or is dropped. -/
theorem isInert_iff (c : Char) : isInert c = true ↔
    c ≠ '\x00' ∧ c ≠ '\n' ∧ isBlank c = false ∧ (c ∉ operators ∧ c ∉ expansions) ∧
      c ≠ '\\' ∧ c ≠ '\'' ∧ c ≠ '"' := by
  simp [isInert, and_assoc]

theorem next_valuePlace (here : Bool) (c : Char) :
    (valuePlace here).next c = valuePlace (c == ':') := by
  cases here <;> by_cases hc : c = ':' <;> simp [valuePlace, Place.next, hc]

theorem step_inert {w : Word} (hmode : r.mode = .plain) (hword : r.word = some w) {here : Bool}
    (hplace : r.place = valuePlace here) (hc : isInert c = true)
    (htilde : ¬(here = true ∧ c = '~')) :
    r.step c = some ([], r.push [c] .plain (valuePlace (c == ':'))) := by
  obtain ⟨hnul, hline, hblank, ⟨hoperator, hexpansion⟩, hslash, hsingle, hdouble⟩ :=
    (isInert_iff c).1 hc
  have hbegins : ¬(c = '~' ∧ r.place.tilde = true) := by
    rintro ⟨rfl, hhere⟩
    rw [hplace] at hhere
    cases here with
    | true => exact htilde ⟨rfl, rfl⟩
    | false => simp [valuePlace, Place.tilde] at hhere
  unfold step
  rw [if_neg hnul, hmode]
  unfold stepPlain
  rw [if_neg hline, if_neg (by simp [hblank]), if_neg (not_or.2 ⟨hoperator, hexpansion⟩),
    if_neg hslash, if_neg hsingle, if_neg hdouble, if_neg (by simp [hword]), if_neg hbegins,
    hplace, next_valuePlace]

/-- What stands for itself is read as it stands. -/
theorem run_inert : ∀ {value : List Char} {r : Reader} {w : Word} {here : Bool},
    r.mode = .plain → r.word = some w → r.place = valuePlace here →
    (∀ c ∈ value, isInert c = true) → tildeFree here value = true →
      ∃ r', r.run value = some ([], r') ∧ r'.mode = .plain ∧ r'.words = r.words ∧
        r'.word = some (w ++ value) := by
  intro value
  induction value with
  | nil =>
    intro r w here hmode hword _ _ _
    exact ⟨r, rfl, hmode, rfl, by rw [List.append_nil]; exact hword⟩
  | cons c value ih =>
    intro r w here hmode hword hplace hinert htilde
    unfold tildeFree at htilde
    rw [Bool.and_eq_true] at htilde
    have hstep := step_inert hmode hword hplace (hinert c (by simp))
      (by rintro ⟨rfl, rfl⟩; simp at htilde)
    obtain ⟨r', hrun, hmode', hwords, hword'⟩ :=
      ih (r := r.push [c] .plain (valuePlace (c == ':'))) (w := w ++ [c]) rfl
        (by simp [push, hword]) rfl (fun x hx => hinert x (by simp [hx])) htilde.2
    refine ⟨r', ?_, hmode', hwords, ?_⟩
    · unfold run
      simp [hstep, hrun]
    · rw [hword']
      simp

/-- The end of a line that has one word under way. -/
theorem readFrom_newline {w : Word} (hmode : r.mode = .plain) (hword : r.word = some w)
    (rest : List Char) :
    r.readFrom ('\n' :: rest) = (fresh.readFrom rest).map ((r.words ++ [w]) :: ·) := by
  have hended : r.ended = [r.words ++ [w]] := by simp [ended, pending, hword]
  have hstep : r.step '\n' = some (r.ended, fresh) := by simp [step, hmode, stepPlain]
  rw [readFrom_cons, hstep, hended]
  rfl

theorem Short.readsOther_line {text : Word} {rest tail : List Char} {commands : List Command}
    (h : Short r rest text) (htail : BeginsLine tail)
    (hread : r.readFrom (rest ++ '\n' :: tail) = some commands) : ReadsOther r text commands := by
  refine h.readsOther ?_ hread
  rintro r commands ⟨hmode, w, hword, hlength, hcount⟩ hread
  rw [List.length_nil] at hlength
  exact readsOther_newline hword hmode (fun x hx => by simpa using hcount x hx) (by omega) htail
    hread

theorem count_append_cons {x : Char} (hx : isNameStart x = true) (hc : isNameStart c = false)
    (w rest : List Char) : (w ++ c :: rest).count x = w.count x + rest.count x := by
  rw [List.count_append, List.count_cons_of_ne (ne_of_isNameStart hx hc)]

/-- A backslash outside quotes is dropped. -/
theorem readsOther_escaped {w : Word} {rest tail : List Char} {commands : List Command}
    (hmode : r.mode = .plainEscaped) (hword : r.word = some w) (htail : BeginsLine tail)
    (h : r.readFrom (rest ++ '\n' :: tail) = some commands) :
    ReadsOther r (w ++ '\\' :: rest) commands := by
  have hslash : isNameStart '\\' = false := by decide
  cases rest with
  | nil =>
    refine readsOther_newline hword (by simp [hmode]) ?_ (by simp) htail h
    intro x hx
    rw [count_append_cons hx hslash, List.count_nil, Nat.add_zero]
  | cons c rest =>
    obtain ⟨out, r', later, hstep, hlater, rfl⟩ := readFrom_cons_eq_some h
    unfold step at hstep
    by_cases hnul : c = '\x00'
    · simp [hnul] at hstep
    rw [if_neg hnul, hmode, Option.some.injEq, Prod.mk.injEq] at hstep
    obtain ⟨rfl, rfl⟩ := hstep
    by_cases hline : c = '\n'
    · rw [if_pos hline] at hlater
      have hshort : Short (r.inMode .plain) rest (w ++ '\\' :: c :: rest) := by
        refine ⟨by simp [inMode], w, hword, ?_, ?_⟩
        · simp only [inMode, slack, List.length_append, List.length_cons]
          omega
        intro x hx
        rw [count_append_cons hx hslash,
          List.count_cons_of_ne (ne_of_isNameStart hx (by rw [hline]; decide))]
      exact hshort.readsOther_line htail hlater
    · rw [if_neg hline] at hlater
      have hshort : Short (r.push [c] .plain r.place.quoted) rest (w ++ '\\' :: c :: rest) := by
        refine ⟨by simp [push], w ++ [c], by simp [push, hword], ?_, ?_⟩
        · simp only [push, slack, List.length_append, List.length_cons, List.length_nil]
          omega
        · intro x hx
          have hcons : (c :: rest).count x = [c].count x + rest.count x := by
            rw [← List.count_append, List.singleton_append]
          rw [count_append_cons hx hslash, List.count_append, hcons, Nat.add_assoc]
      exact hshort.readsOther_line htail hlater

/-- A quote outside quotes is dropped. -/
theorem readsOther_quote {w : Word} {rest tail : List Char} {commands : List Command} {mode : Mode}
    (hquote : isNameStart c = false) (hcomment : mode ≠ .comment) (hslack : slack mode = 0)
    (hword : r.word = some w) (htail : BeginsLine tail)
    (h : (r.push [] mode r.place.quoted).readFrom (rest ++ '\n' :: tail) = some commands) :
    ReadsOther r (w ++ c :: rest) commands := by
  have hshort : Short (r.push [] mode r.place.quoted) rest (w ++ c :: rest) := by
    refine ⟨hcomment, w, by simp [push, hword], ?_, ?_⟩
    · simp only [push, hslack, List.length_append, List.length_cons]
      omega
    · intro x hx
      rw [count_append_cons hx hquote]
  exact hshort.readsOther_line htail h

/-- A character that is not inert ends the word, is dropped, or is not read. -/
theorem readsOther_of_not_inert {w : Word} {rest tail : List Char} {commands : List Command}
    (hmode : r.mode = .plain) (hword : r.word = some w) (hc : ¬isInert c = true)
    (htail : BeginsLine tail) (h : r.readFrom (c :: rest ++ '\n' :: tail) = some commands) :
    ReadsOther r (w ++ c :: rest) commands := by
  have hlength : w.length < (w ++ c :: rest).length := by simp
  obtain ⟨out, r', later, hstep, hlater, rfl⟩ := readFrom_cons_eq_some h
  unfold step at hstep
  by_cases hnul : c = '\x00'
  · simp [hnul] at hstep
  rw [if_neg hnul, hmode] at hstep
  unfold stepPlain at hstep
  by_cases hline : c = '\n'
  · simp only [if_pos hline, Option.some.injEq, Prod.mk.injEq] at hstep
    obtain ⟨rfl, rfl⟩ := hstep
    exact readsOther_ended hword hlength later
  rw [if_neg hline] at hstep
  by_cases hblank : isBlank c = true
  · simp only [if_pos hblank, Option.some.injEq, Prod.mk.injEq] at hstep
    obtain ⟨rfl, rfl⟩ := hstep
    exact readsOther_endWord hword hlength hlater
  rw [if_neg hblank] at hstep
  by_cases hactive : c ∈ operators ∨ c ∈ expansions
  · simp [hactive] at hstep
  rw [if_neg hactive] at hstep
  by_cases hslash : c = '\\'
  · simp only [if_pos hslash, Option.some.injEq, Prod.mk.injEq] at hstep
    obtain ⟨rfl, rfl⟩ := hstep
    rw [hslash]
    exact readsOther_escaped (r := r.inMode .plainEscaped) rfl hword htail hlater
  rw [if_neg hslash] at hstep
  by_cases hsingle : c = '\''
  · simp only [if_pos hsingle, Option.some.injEq, Prod.mk.injEq] at hstep
    obtain ⟨rfl, rfl⟩ := hstep
    exact readsOther_quote (by rw [hsingle]; decide) (by simp) rfl hword htail hlater
  rw [if_neg hsingle] at hstep
  by_cases hdouble : c = '"'
  · simp only [if_pos hdouble, Option.some.injEq, Prod.mk.injEq] at hstep
    obtain ⟨rfl, rfl⟩ := hstep
    exact readsOther_quote (by rw [hdouble]; decide) (by simp) rfl hword htail hlater
  · exact absurd ((isInert_iff c).2 ⟨hnul, hline, by simpa using hblank, not_or.1 hactive, hslash,
      hsingle, hdouble⟩) hc

theorem step_tilde (hmode : r.mode = .plain) (hplace : r.place = valuePlace true) :
    r.step '~' = none := by
  simp [step, hmode, stepPlain, hplace, valuePlace, Place.tilde, isBlank, operators, expansions]

/-- **A value written after `NAME=` is inert, or another word is read.** -/
theorem inert_or_other {tail : List Char} (htail : BeginsLine tail) :
    ∀ {value : List Char} {r : Reader} {w : Word} {here : Bool} {commands : List Command},
      r.mode = .plain → r.word = some w → r.place = valuePlace here →
      r.readFrom (value ++ '\n' :: tail) = some commands →
        ((∀ c ∈ value, isInert c = true) ∧ tildeFree here value = true) ∨
          ReadsOther r (w ++ value) commands := by
  intro value
  induction value with
  | nil =>
    intro r w here commands _ _ _ _
    exact .inl ⟨by simp, rfl⟩
  | cons c value ih =>
    intro r w here commands hmode hword hplace h
    by_cases hc : isInert c = true
    · by_cases htilde : here = true ∧ c = '~'
      · obtain ⟨rfl, rfl⟩ := htilde
        rw [List.cons_append, readFrom_cons, step_tilde hmode hplace] at h
        simp at h
      · have hstep := step_inert hmode hword hplace hc htilde
        rw [List.cons_append, readFrom_cons, hstep, Option.bind_some] at h
        obtain ⟨later, hlater, rfl⟩ := Option.map_eq_some_iff.1 h
        have hnext := ih (r := r.push [c] .plain (valuePlace (c == ':'))) (w := w ++ [c]) rfl
          (by simp [push, hword]) rfl hlater
        rw [List.append_assoc, List.singleton_append] at hnext
        rcases hnext with ⟨hinert, hfree⟩ | hother
        · refine .inl ⟨List.forall_mem_cons.2 ⟨hc, hinert⟩, ?_⟩
          unfold tildeFree
          rw [hfree, Bool.and_true]
          cases here with
          | true => simpa using htilde
          | false => rfl
        · exact .inr hother
    · exact .inr (readsOther_of_not_inert hmode hword hc htail h)

/-! ## A value between double quotes -/

/-- A text that stands for itself between double quotes; `escaped` after a backslash. -/
def quotedOk : Bool → List Char → Bool
  | escaped, [] => !escaped
  | false, c :: rest =>
    if c = '\\' then quotedOk true rest
    else c != '\x00' && c != '"' && !expansions.contains c && quotedOk false rest
  | true, c :: rest =>
    c != '\x00' && c != '"' && !expansions.contains c && c != '\\' && c != '\n' &&
      quotedOk false rest

/-- The backslash that is held back. -/
def held (escaped : Bool) : List Char := if escaped then ['\\'] else []

def doubleMode (escaped : Bool) : Mode := if escaped then .doubleEscaped else .double

/-- A script that ends with a quote and a line break ends in double quotes, or after a
backslash outside them. -/
theorem readFrom_closing {w : Word} {commands : List Command} (hmode : r.mode ≠ .comment)
    (hword : r.word = some w) (h : r.readFrom ['"', '\n'] = some commands) :
    (r.mode = .double ∧ commands = [r.words ++ [w]]) ∨
      (r.mode = .plainEscaped ∧ commands = [r.words ++ [w ++ ['"']]]) := by
  cases hm : r.mode with
  | comment => exact absurd hm hmode
  | plain =>
    simp [readFrom_cons, readFrom_nil, step, hm, stepPlain, stepDouble, isBlank, operators,
      expansions, push, finish] at h
  | plainEscaped =>
    simp [readFrom_cons, readFrom_nil, step, hm, stepPlain, push, finish, ended, pending, fresh,
      hword] at h
    exact .inr ⟨rfl, h.symm⟩
  | single => simp [readFrom_cons, readFrom_nil, step, hm, push, finish] at h
  | double =>
    simp [readFrom_cons, readFrom_nil, step, hm, stepPlain, stepDouble, inMode, finish, ended,
      pending, fresh, hword] at h
    exact .inl ⟨rfl, h.symm⟩
  | doubleEscaped =>
    simp [readFrom_cons, readFrom_nil, step, hm, stepDouble, push, finish, expansions,
      escapedDouble] at h

theorem readsOther_word {text w : Word} (h : w.length < text.length) :
    ReadsOther r text [r.words ++ [w]] :=
  ⟨_, [], w, rfl, by simp, .inl h⟩

theorem Short.readsOther_closing {text : Word} {rest : List Char} {commands : List Command}
    (h : Short r rest text) (hread : r.readFrom (rest ++ ['"', '\n']) = some commands) :
    ReadsOther r text commands := by
  refine h.readsOther ?_ hread
  rintro r commands ⟨hmode, w, hword, hlength, _⟩ hread
  rw [List.length_nil] at hlength
  rcases readFrom_closing hmode hword hread with ⟨_, rfl⟩ | ⟨hm, rfl⟩
  · exact readsOther_word (by omega)
  · refine readsOther_word ?_
    rw [hm] at hlength
    simp only [slack, List.length_append, List.length_cons, List.length_nil] at hlength ⊢
    omega

/-- The unescaped character between double quotes. -/
theorem step_double (hmode : r.mode = .double) (hnul : c ≠ '\x00') : r.step c = r.stepDouble c := by
  unfold step
  rw [if_neg hnul, hmode]

theorem step_doubleEscaped (hmode : r.mode = .doubleEscaped) (hnul : c ≠ '\x00') :
    r.step c = some ([], if c = '\n' then r.inMode .double
      else r.push (escapedDouble c) .double r.place) := by
  unfold step
  rw [if_neg hnul, hmode]

theorem step_nul : r.step '\x00' = none := by
  unfold step
  rw [if_pos rfl]

/-- **A value written between double quotes is read as it stands, or another word is read.** -/
theorem quoted_or_other : ∀ {value : List Char} {r : Reader} {w : Word} {escaped : Bool}
    {commands : List Command}, r.mode = doubleMode escaped → r.word = some w →
      r.readFrom (value ++ ['"', '\n']) = some commands →
        quotedOk escaped value = true ∨ ReadsOther r (w ++ held escaped ++ value) commands := by
  intro value
  induction value with
  | nil =>
    intro r w escaped commands hmode hword h
    cases escaped with
    | false => exact .inl rfl
    | true =>
      rcases readFrom_closing (by simp [hmode, doubleMode]) hword h with ⟨hm, _⟩ | ⟨hm, _⟩
      · simp [hmode, doubleMode] at hm
      · simp [hmode, doubleMode] at hm
  | cons c value ih =>
    intro r w escaped commands hmode hword h
    rw [List.cons_append, readFrom_cons] at h
    by_cases hnul : c = '\x00'
    · rw [hnul, step_nul] at h
      simp at h
    cases escaped with
    | false =>
      have hheld : w ++ held false ++ c :: value = w ++ c :: value := by simp [held]
      rw [hheld, step_double hmode hnul] at *
      unfold stepDouble at h
      by_cases hquote : c = '"'
      · rw [if_pos hquote, Option.bind_some] at h
        obtain ⟨later, hlater, rfl⟩ := Option.map_eq_some_iff.1 h
        have hshort : Short (r.inMode .plain) value (w ++ c :: value) := by
          refine ⟨by simp [inMode], w, hword, ?_, ?_⟩
          · simp only [inMode, slack, List.length_append, List.length_cons]
            omega
          · intro x hx
            rw [count_append_cons hx (by rw [hquote]; decide)]
        exact .inr (hshort.readsOther_closing hlater)
      rw [if_neg hquote] at h
      by_cases hactive : c ∈ expansions
      · simp [hactive] at h
      rw [if_neg hactive] at h
      by_cases hslash : c = '\\'
      · rw [if_pos hslash, Option.bind_some] at h
        obtain ⟨later, hlater, rfl⟩ := Option.map_eq_some_iff.1 h
        have hnext := ih (r := r.inMode .doubleEscaped) (w := w)
          (show _ = doubleMode true from rfl) hword hlater
        have hsame : w ++ held true ++ value = w ++ c :: value := by simp [held, hslash]
        rw [hsame] at hnext
        rcases hnext with hok | hother
        · left
          unfold quotedOk
          rw [if_pos hslash]
          exact hok
        · exact .inr hother
      · rw [if_neg hslash, Option.bind_some] at h
        obtain ⟨later, hlater, rfl⟩ := Option.map_eq_some_iff.1 h
        have hnext := ih (r := r.push [c] .double r.place) (w := w ++ [c])
          (show _ = doubleMode false from rfl) (by simp [push, hword]) hlater
        have hsame : w ++ [c] ++ held false ++ value = w ++ c :: value := by simp [held]
        rw [hsame] at hnext
        rcases hnext with hok | hother
        · left
          unfold quotedOk
          rw [if_neg hslash, hok]
          simp [hnul, hquote, hactive]
        · exact .inr hother
    | true =>
      rw [step_doubleEscaped hmode hnul, Option.bind_some] at h
      obtain ⟨later, hlater, rfl⟩ := Option.map_eq_some_iff.1 h
      have htext : w ++ held true ++ c :: value = w ++ '\\' :: c :: value := by simp [held]
      have hslash : isNameStart '\\' = false := by decide
      rw [htext]
      by_cases hline : c = '\n'
      · rw [if_pos hline] at hlater
        have hshort : Short (r.inMode .double) value (w ++ '\\' :: c :: value) := by
          refine ⟨by simp [inMode], w, hword, ?_, ?_⟩
          · simp only [inMode, slack, List.length_append, List.length_cons]
            omega
          · intro x hx
            rw [count_append_cons hx hslash,
              List.count_cons_of_ne (ne_of_isNameStart hx (by rw [hline]; decide))]
        exact .inr (hshort.readsOther_closing hlater)
      rw [if_neg hline] at hlater
      by_cases hspecial : c ∈ expansions ∨ c = '"' ∨ c = '\\'
      · have hshort : Short (r.push (escapedDouble c) .double r.place) value
            (w ++ '\\' :: c :: value) := by
          have hdropped : escapedDouble c = [c] := if_pos hspecial
          refine ⟨by simp [push], w ++ [c], by simp [push, hword, hdropped], ?_, ?_⟩
          · simp only [push, slack, List.length_append, List.length_cons, List.length_nil]
            omega
          · intro x hx
            have hcons : (c :: value).count x = [c].count x + value.count x := by
              rw [← List.count_append, List.singleton_append]
            rw [count_append_cons hx hslash, List.count_append, hcons, Nat.add_assoc]
        exact .inr (hshort.readsOther_closing hlater)
      · have hkept : escapedDouble c = ['\\', c] := if_neg hspecial
        rw [hkept] at hlater
        have hnext := ih (r := r.push ['\\', c] .double r.place) (w := w ++ ['\\', c])
          (show _ = doubleMode false from rfl) (by simp [push, hword]) hlater
        have hsame : w ++ ['\\', c] ++ held false ++ value = w ++ '\\' :: c :: value := by
          simp [held]
        rw [hsame] at hnext
        rcases hnext with hok | hother
        · left
          unfold quotedOk
          rw [hok]
          simp only [not_or] at hspecial
          simp [hnul, hline, hspecial]
        · exact .inr hother

/-- A backslash ends the part before it. -/
theorem quotedOk_append_slash (rest : List Char) : ∀ (value : List Char) (escaped : Bool),
    quotedOk escaped (value ++ '\\' :: rest) = (quotedOk escaped value && quotedOk true rest) := by
  intro value
  induction value with
  | nil =>
    intro escaped
    cases escaped with
    | false => simp [quotedOk]
    | true => simp [quotedOk]
  | cons c value ih =>
    intro escaped
    cases escaped with
    | false =>
      by_cases hslash : c = '\\'
      · simp [quotedOk, hslash, ih]
      · simp [quotedOk, hslash, ih, Bool.and_assoc]
    | true => simp [quotedOk, ih, Bool.and_assoc]

/-- Characters that are nothing between double quotes may stand before a text. -/
theorem quotedOk_append {value : List Char}
    (hvalue : ∀ c ∈ value, c ≠ '\\' ∧ c ≠ '\x00' ∧ c ≠ '"' ∧ c ∉ expansions)
    (rest : List Char) : quotedOk false (value ++ rest) = quotedOk false rest := by
  induction value with
  | nil => rfl
  | cons c value ih =>
    obtain ⟨hslash, hnul, hquote, hactive⟩ := hvalue c (by simp)
    rw [List.cons_append]
    conv_lhs => unfold quotedOk
    rw [if_neg hslash, ih (fun x hx => hvalue x (by simp [hx]))]
    simp [hnul, hquote, hactive]

theorem run_quoted : ∀ {value : List Char} {r : Reader} {w : Word} {escaped : Bool},
    r.mode = doubleMode escaped → r.word = some w → quotedOk escaped value = true →
      ∃ r', r.run value = some ([], r') ∧ r'.mode = .double ∧ r'.words = r.words ∧
        r'.word = some (w ++ held escaped ++ value) := by
  intro value
  induction value with
  | nil =>
    intro r w escaped hmode hword hok
    cases escaped with
    | true => simp [quotedOk] at hok
    | false => exact ⟨r, rfl, hmode, rfl, by simpa [held] using hword⟩
  | cons c value ih =>
    intro r w escaped hmode hword hok
    have hlater : ∀ {s : Reader} {v : Word} {next : Bool}, r.step c = some ([], s) →
        s.words = r.words → s.mode = doubleMode next → s.word = some v →
        quotedOk next value = true → v ++ held next ++ value = w ++ held escaped ++ c :: value →
          ∃ r', r.run (c :: value) = some ([], r') ∧ r'.mode = .double ∧ r'.words = r.words ∧
            r'.word = some (w ++ held escaped ++ c :: value) := by
      intro s v next hstep hwords hmodeNext hwordNext hokNext hsame
      obtain ⟨r', hrun, hmode', hwords', hword'⟩ := ih hmodeNext hwordNext hokNext
      refine ⟨r', ?_, hmode', hwords'.trans hwords, by rw [hword', hsame]⟩
      unfold run
      simp [hstep, hrun]
    cases escaped with
    | false =>
      unfold quotedOk at hok
      by_cases hslash : c = '\\'
      · rw [if_pos hslash] at hok
        refine hlater (s := r.inMode .doubleEscaped) (v := w) ?_ rfl
          (show _ = doubleMode true from rfl) hword hok (by simp [held, hslash])
        rw [step_double hmode (by rw [hslash]; decide)]
        simp [stepDouble, hslash, expansions]
      · rw [if_neg hslash] at hok
        simp only [Bool.and_eq_true, bne_iff_ne, Bool.not_eq_true', List.contains_eq_mem,
          decide_eq_false_iff_not] at hok
        obtain ⟨⟨⟨hnul, hquote⟩, hactive⟩, hok⟩ := hok
        refine hlater (s := r.push [c] .double r.place) (v := w ++ [c]) ?_ rfl
          (show _ = doubleMode false from rfl) (by simp [push, hword]) hok (by simp [held])
        rw [step_double hmode hnul]
        unfold stepDouble
        rw [if_neg hquote, if_neg hactive, if_neg hslash]
    | true =>
      unfold quotedOk at hok
      simp only [Bool.and_eq_true, bne_iff_ne, Bool.not_eq_true', List.contains_eq_mem,
        decide_eq_false_iff_not] at hok
      obtain ⟨⟨⟨⟨⟨hnul, hquote⟩, hactive⟩, hslash⟩, hline⟩, hok⟩ := hok
      have hkept : escapedDouble c = ['\\', c] :=
        if_neg (by simp [hactive, hquote, hslash])
      refine hlater (s := r.push ['\\', c] .double r.place) (v := w ++ ['\\', c]) ?_ rfl
        (show _ = doubleMode false from rfl) (by simp [push, hword]) hok (by simp [held])
      rw [step_doubleEscaped hmode hnul, if_neg hline, hkept]

/-! ## Lines -/

/-- A name, as assignments have. -/
def IsName (name : List Char) : Prop :=
  ∃ c rest, name = c :: rest ∧ isNameStart c = true ∧ ∀ x ∈ rest, isNameChar x = true

theorem isNameChar_of_isNameStart (h : isNameStart c = true) : isNameChar c = true := by
  unfold isNameStart at h
  unfold isNameChar
  rw [Bool.or_eq_true] at h ⊢
  rcases h with h | h
  · left
    unfold Char.isAlphanum
    rw [h, Bool.true_or]
  · exact .inr h

theorem ne_of_isNameChar {x y : Char} (hx : isNameChar x = true) (hy : isNameChar y = false) :
    x ≠ y := by
  rintro rfl
  simp [hx] at hy

theorem isInert_of_isNameChar (h : isNameChar c = true) : isInert c = true := by
  refine (isInert_iff c).2 ⟨ne_of_isNameChar h (by decide), ne_of_isNameChar h (by decide), ?_,
    ⟨?_, ?_⟩, ne_of_isNameChar h (by decide), ne_of_isNameChar h (by decide),
    ne_of_isNameChar h (by decide)⟩
  · have hblank : isBlank c = true → False := by
      intro hblank
      unfold isBlank at hblank
      rw [Bool.or_eq_true, beq_iff_eq, beq_iff_eq] at hblank
      rcases hblank with rfl | rfl
      · exact absurd h (by decide)
      · exact absurd h (by decide)
    simpa using hblank
  · intro hmem
    have hall : operators.all (fun x => !isNameChar x) = true := by decide
    have hc := List.all_eq_true.1 hall c hmem
    simp [h] at hc
  · intro hmem
    have hall : expansions.all (fun x => !isNameChar x) = true := by decide
    have hc := List.all_eq_true.1 hall c hmem
    simp [h] at hc

/-- A character that is nothing to the shell where it stands is added to the word. -/
theorem step_plain_inert (hmode : r.mode = .plain) (hc : isInert c = true) (hhash : c ≠ '#')
    (htilde : c ≠ '~') : r.step c = some ([], r.push [c] .plain (r.place.next c)) := by
  obtain ⟨hnul, hline, hblank, ⟨hoperator, hexpansion⟩, hslash, hsingle, hdouble⟩ :=
    (isInert_iff c).1 hc
  unfold step
  rw [if_neg hnul, hmode]
  unfold stepPlain
  rw [if_neg hline, if_neg (by simp [hblank]), if_neg (not_or.2 ⟨hoperator, hexpansion⟩),
    if_neg hslash, if_neg hsingle, if_neg hdouble, if_neg (by simp [hhash]),
    if_neg (by simp [htilde])]

theorem push_push (r : Reader) (cs cs' : List Char) (mode mode' : Mode) (place place' : Place) :
    (r.push cs mode place).push cs' mode' place' = r.push (cs ++ cs') mode' place' := by
  simp [push]

theorem run_nameChars : ∀ {cs : List Char} {r : Reader} {w : Word}, r.mode = .plain →
    r.place = .name → r.word = some w → (∀ c ∈ cs, isNameChar c = true) →
      r.run cs = some ([], r.push cs .plain .name) := by
  intro cs
  induction cs with
  | nil =>
    rintro ⟨mode, place, word, words⟩ w hmode hplace hword _
    simp only at hmode hplace hword
    subst hmode hplace hword
    simp [run, push]
  | cons c cs ih =>
    intro r w hmode hplace hword hcs
    have hc := hcs c (by simp)
    have hstep := step_plain_inert hmode (isInert_of_isNameChar hc)
      (ne_of_isNameChar hc (by decide)) (ne_of_isNameChar hc (by decide))
    have hequals : c ≠ '=' := ne_of_isNameChar hc (by decide)
    have hnext : Place.next .name c = .name := by simp [Place.next, hequals, hc]
    rw [hplace, hnext] at hstep
    have hrest := ih (r := r.push [c] .plain .name) (w := w ++ [c]) rfl rfl (by simp [push, hword])
      (fun x hx => hcs x (by simp [hx]))
    unfold run
    simp only [hstep, Option.bind_some, hrest, Option.map_some, push_push]
    rfl

/-- The beginning of an assignment. -/
theorem run_name {name : List Char} (hname : IsName name) (words : List Word) :
    ({ words := words } : Reader).run (name ++ ['=']) =
      some ([], { place := .assigned, word := some (name ++ ['=']), words := words }) := by
  obtain ⟨c, rest, rfl, hc, hrest⟩ := hname
  have hchar := isNameChar_of_isNameStart hc
  have hstart : Place.next .start c = .name := by simp [Place.next, hc]
  have hfirst := step_plain_inert (r := { words := words }) rfl (isInert_of_isNameChar hchar)
    (ne_of_isNameChar hchar (by decide)) (ne_of_isNameChar hchar (by decide))
  rw [show ({ words := words } : Reader).place = .start from rfl, hstart] at hfirst
  have hmiddle := run_nameChars (r := Reader.push { words := words } [c] .plain .name) (w := [c])
    rfl rfl rfl hrest
  have hequals := step_plain_inert (c := '=')
    (r := (Reader.push { words := words } [c] .plain .name).push rest .plain .name) rfl (by decide)
    (by decide) (by decide)
  rw [List.cons_append, ← List.singleton_append, run_append]
  simp only [run, hfirst, Option.bind_some, Option.map_some]
  rw [run_append, hmiddle]
  simp only [Option.bind_some, Option.map_some, run, hequals]
  rfl

/-- `export NAME=`. -/
def exportPrefix (name : List Char) : List Char := "export ".toList ++ (name ++ ['='])

/-- Where the value begins. -/
def assigning (name : List Char) : Reader where
  place := valuePlace true
  word := some (name ++ ['='])
  words := ["export".toList]

theorem run_exportPrefix {name : List Char} (hname : IsName name) :
    fresh.run (exportPrefix name) = some ([], assigning name) := by
  have hexport : fresh.run "export ".toList = some ([], { words := ["export".toList] }) := by
    decide
  unfold exportPrefix
  rw [run_append, hexport]
  simp only [Option.bind_some, run_name hname]
  rfl

/-- The command of an assignment. -/
def exportCommand (name value : List Char) : Command := ["export".toList, name ++ '=' :: value]

/-- An assignment with its value as it is. -/
def exportLine (name value : List Char) : List Char := exportPrefix name ++ (value ++ ['\n'])

/-- An assignment with its value between double quotes. -/
def exportQuoted (name value : List Char) : List Char :=
  exportPrefix name ++ '"' :: (value ++ ['"', '\n'])

theorem readFrom_exportPrefix {name : List Char} (hname : IsName name) (cs : List Char) :
    fresh.readFrom (exportPrefix name ++ cs) = (assigning name).readFrom cs := by
  rw [readFrom_append, run_exportPrefix hname]
  simp

theorem readFrom_exportLine {name value : List Char} (hname : IsName name) (hvalue : Inert value)
    (tail : List Char) : fresh.readFrom (exportLine name value ++ tail) =
      (fresh.readFrom tail).map (exportCommand name value :: ·) := by
  obtain ⟨r', hrun, hmode, hwords, hword⟩ :=
    run_inert (r := assigning name) rfl rfl rfl hvalue.1 hvalue.2
  have hline := readFrom_newline hmode hword tail
  rw [hwords, List.append_assoc, List.singleton_append] at hline
  unfold exportLine
  rw [List.append_assoc, readFrom_exportPrefix hname, List.append_assoc, readFrom_append, hrun]
  simp only [Option.bind_some, List.singleton_append, hline, List.nil_append, Option.map_id']
  rfl

/-- The value that a line should export has the length and the letters of what is written. -/
structure Written (value text : List Char) : Prop where
  length : value.length ≤ text.length
  count : ∀ x, isNameStart x = true → text.count x = value.count x

theorem Written.not_differs {name value text : List Char} (h : Written value text) :
    ¬Differs (name ++ '=' :: value) (name ++ '=' :: text) := by
  rintro (hshort | ⟨x, hx, hmore⟩)
  · have hlength := h.length
    simp only [List.length_append, List.length_cons] at hshort
    omega
  · have hequals : isNameStart '=' = false := by decide
    rw [count_append_cons hx hequals, count_append_cons hx hequals, h.count x hx] at hmore
    omega

/-- The word that should be read is not another one. -/
theorem not_readsOther {name value text : List Char} {later : List Command}
    (h : Written value text) :
    ¬ReadsOther (assigning name) (name ++ ['='] ++ value)
      (exportCommand name text :: later) := by
  rintro ⟨command, rest, w, hhead, hget, hother⟩
  rw [List.cons.injEq] at hhead
  rw [← hhead.1] at hget
  have hw : w = name ++ '=' :: text := by simpa [exportCommand, assigning] using hget.symm
  rw [hw, List.append_assoc, List.singleton_append] at hother
  exact h.not_differs hother

/-- **A line that exports a value as it stands was written with an inert one.** -/
theorem inert_of_exportLine {name value text tail : List Char} {later : List Command}
    (hname : IsName name) (htail : BeginsLine tail) (hwritten : Written value text)
    (h : fresh.readFrom (exportLine name value ++ tail) =
      some (exportCommand name text :: later)) :
    Inert value := by
  unfold exportLine at h
  rw [List.append_assoc, readFrom_exportPrefix hname, List.append_assoc] at h
  rcases inert_or_other htail (r := assigning name) rfl rfl
      (show _ = valuePlace true from rfl) h with hinert | hother
  · exact hinert
  · exact absurd hother (not_readsOther hwritten)

/-! ### Double quotes -/

theorem readFrom_open_quote {name : List Char} (cs : List Char) :
    (assigning name).readFrom ('"' :: cs) =
      ((assigning name).push [] .double .value).readFrom cs := by
  have hstep : (assigning name).step '"' = some ([], (assigning name).push [] .double .value) := by
    simp [step, stepPlain, assigning, isBlank, operators, expansions, valuePlace, Place.quoted]
  rw [readFrom_cons, hstep]
  simp

theorem readFrom_exportQuoted {name value : List Char} (hname : IsName name)
    (hvalue : quotedOk false value = true) :
    fresh.readFrom (exportQuoted name value) = some [exportCommand name value] := by
  obtain ⟨r', hrun, hmode, hwords, hword⟩ := run_quoted
    (r := (assigning name).push [] .double .value) (w := name ++ ['=']) rfl
    (by simp [assigning, push]) hvalue
  have hclosing : r'.readFrom ['"', '\n'] = some [r'.words ++ [name ++ ['='] ++ value]] := by
    rw [List.append_assoc] at hword
    simp only [held, List.nil_append, Bool.false_eq_true, if_false] at hword
    simp [readFrom_cons, readFrom_nil, step, hmode, stepPlain, stepDouble, inMode, finish, ended,
      pending, fresh, hword]
  unfold exportQuoted
  rw [readFrom_exportPrefix hname, readFrom_open_quote, readFrom_append, hrun]
  simp only [Option.bind_some, hclosing, hwords]
  simp [exportCommand, assigning, push]

theorem quotedOk_of_exportQuoted {name value text : List Char} {later : List Command}
    (hname : IsName name) (hwritten : Written value text)
    (h : fresh.readFrom (exportQuoted name value) = some (exportCommand name text :: later)) :
    quotedOk false value = true := by
  unfold exportQuoted at h
  rw [readFrom_exportPrefix hname, readFrom_open_quote] at h
  rcases quoted_or_other (r := (assigning name).push [] .double .value) (w := name ++ ['='])
    (show _ = doubleMode false from rfl) (by simp [assigning, push]) h with hok | hother
  · exact hok
  · simp only [held, Bool.false_eq_true, if_false, List.append_nil] at hother
    exact absurd hother (not_readsOther hwritten)

/-! ### Comments -/

/-- A comment is skipped. -/
theorem run_comment : ∀ {cs : List Char}, (∀ c ∈ cs, c ≠ '\n' ∧ c ≠ '\x00') → ∀ r : Reader,
    r.mode = .comment → r.run cs = some ([], r) := by
  intro cs
  induction cs with
  | nil => intro _ r _; rfl
  | cons c cs ih =>
    intro hcs r hmode
    obtain ⟨hline, hnul⟩ := hcs c (by simp)
    have hstep : r.step c = some ([], r) := by simp [step, hmode, hnul, hline]
    unfold run
    simp [hstep, ih (fun x hx => hcs x (by simp [hx])) r hmode]

/-- A line that is a comment. -/
theorem readFrom_comment {cs : List Char} (hcs : ∀ c ∈ cs, c ≠ '\n' ∧ c ≠ '\x00')
    (tail : List Char) : fresh.readFrom ('#' :: (cs ++ '\n' :: tail)) = fresh.readFrom tail := by
  have hhash : fresh.step '#' = some ([], fresh.inMode .comment) := by decide
  have hline : (fresh.inMode .comment).step '\n' = some ([], fresh) := by decide
  rw [readFrom_cons, hhash]
  simp only [Option.bind_some, List.nil_append, Option.map_id']
  rw [readFrom_append, run_comment hcs _ rfl]
  simp only [Option.bind_some, List.nil_append, Option.map_id']
  rw [readFrom_cons, hline]
  simp

theorem readFrom_blank (tail : List Char) :
    fresh.readFrom ('\n' :: tail) = fresh.readFrom tail := by
  have hline : fresh.step '\n' = some ([], fresh) := by decide
  rw [readFrom_cons, hline]
  simp

/-- Two line breaks end every command, unless a quote is open. -/
theorem after_blank_line {cs : List Char} (h : r.run (cs ++ ['\n', '\n']) = some (out, r')) :
    r' = fresh ∨ ∃ w, r'.word = some w ∧ '\n' ∈ w := by
  rw [run_append, Option.bind_eq_some_iff] at h
  obtain ⟨⟨first, s⟩, _, h⟩ := h
  simp only [run, Option.map_eq_some_iff, Option.bind_eq_some_iff, Prod.exists, Prod.mk.injEq] at h
  obtain ⟨_, s', ⟨_, t, hstep, _, _, ⟨_, t', hstep', _, _, ⟨rfl, rfl⟩, rfl, rfl⟩, rfl, rfl⟩, rfl,
    rfl⟩ := h
  have hfresh : ∀ {out : List Command} {u : Reader}, fresh.step '\n' = some (out, u) →
      u = fresh := by
    intro out u hu
    have hline : fresh.step '\n' = some ([], fresh) := by decide
    rw [hline, Option.some.injEq, Prod.mk.injEq] at hu
    exact hu.2.symm
  by_cases hcomment : s.mode = .comment
  · simp [step, hcomment] at hstep
    rw [← hstep.2] at hstep'
    exact .inl (hfresh hstep')
  rcases step_newline hcomment hstep with ⟨_, _, rfl⟩ | ⟨_, _, rfl⟩ | ⟨_, _, rfl⟩ |
    ⟨hquotes, _, rfl⟩
  · exact .inl (hfresh hstep')
  · rcases step_newline (by simp [inMode]) hstep' with ⟨_, _, rfl⟩ | ⟨hm, _⟩ | ⟨hm, _⟩ | ⟨hm, _⟩
    · exact .inl rfl
    · simp [inMode] at hm
    · simp [inMode] at hm
    · simp [inMode] at hm
  · rcases step_newline (by simp [inMode]) hstep' with ⟨hm, _⟩ | ⟨hm, _⟩ | ⟨hm, _⟩ | ⟨_, _, rfl⟩
    · simp [inMode] at hm
    · simp [inMode] at hm
    · simp [inMode] at hm
    · exact .inr ⟨_, rfl, by simp⟩
  · -- a line break is in the word already
    rcases step_newline (by simpa [push] using hcomment) hstep' with ⟨hm, _⟩ | ⟨_, _, rfl⟩ |
      ⟨_, _, rfl⟩ | ⟨_, _, rfl⟩
    · rcases hquotes with hq | hq <;> exact absurd (hq.symm.trans hm) (by simp)
    · exact .inr ⟨_, rfl, by simp⟩
    · exact .inr ⟨_, rfl, by simp⟩
    · exact .inr ⟨_, rfl, by simp⟩

/-- The beginning of a comment says nothing. -/
theorem readFrom_comment_prefix {cs : List Char} (hcs : ∀ c ∈ cs, c ≠ '\n' ∧ c ≠ '\x00')
    (tail : List Char) : fresh.readFrom ('#' :: (cs ++ tail)) = fresh.readFrom ('#' :: tail) := by
  have hhash : fresh.step '#' = some ([], fresh.inMode .comment) := by decide
  rw [readFrom_cons, readFrom_cons, hhash]
  simp only [Option.bind_some, List.nil_append, Option.map_id']
  rw [readFrom_append, run_comment hcs _ rfl]
  simp

/-- Before commands that come once and have no line breaks, a part that ends with a blank line
runs nothing. -/
theorem readFrom_blank_line_iff {cs tail : List Char} {first : Command} {rest : List Command}
    (htail : ∀ {commands : List Command}, fresh.readFrom tail = some commands →
      ∃ later, commands = first :: later)
    (honce : first ∉ rest) (hlines : ∀ command ∈ first :: rest, ∀ w ∈ command, '\n' ∉ w) :
    fresh.readFrom (cs ++ '\n' :: '\n' :: tail) = some (first :: rest) ↔
      read (cs ++ ['\n', '\n']) = some [] ∧ fresh.readFrom tail = some (first :: rest) := by
  have hsplit : cs ++ '\n' :: '\n' :: tail = (cs ++ ['\n', '\n']) ++ tail := by simp
  rw [hsplit, readFrom_append]
  unfold read
  cases hrun : fresh.run (cs ++ ['\n', '\n']) with
  | none => simp [readFrom, hrun]
  | some done =>
    obtain ⟨out, r'⟩ := done
    have hread : fresh.readFrom (cs ++ ['\n', '\n']) = r'.finish.map (out ++ ·) := by
      unfold readFrom
      rw [hrun]
      rfl
    rw [hread]
    simp only [Option.bind_some]
    rcases after_blank_line hrun with rfl | ⟨w, hword, hbreak⟩
    · -- nothing is under way
      have hfinish : fresh.finish.map (out ++ ·) = some out := by
        simp [finish, fresh, ended, pending]
      rw [hfinish, Option.some.injEq]
      constructor
      · intro h
        obtain ⟨commands, hcommands, happend⟩ := Option.map_eq_some_iff.1 h
        obtain ⟨later, rfl⟩ := htail hcommands
        cases out with
        | nil => exact ⟨rfl, by rw [hcommands]; exact congrArg some happend⟩
        | cons command out =>
          rw [List.cons_append, List.cons.injEq] at happend
          refine absurd ?_ honce
          rw [← happend.2]
          simp
      · rintro ⟨rfl, hrest⟩
        rw [hrest]
        rfl
    · -- a word with a line break is
      have hpending : r'.pending ≠ [] := by simp [pending, hword]
      refine iff_of_false ?_ ?_
      · intro h
        obtain ⟨commands, hcommands, happend⟩ := Option.map_eq_some_iff.1 h
        obtain ⟨command, later, rfl, hextends⟩ := readFrom_extends hcommands hpending
        obtain ⟨w', hget, hbegins⟩ := hextends.word w hword
        have hcommand : command ∈ first :: rest := by
          rw [← happend]
          simp
        exact hlines command hcommand w' (List.mem_of_getElem? hget) (hbegins.subset hbreak)
      · rintro ⟨hnothing, _⟩
        obtain ⟨commands, hcommands, happend⟩ := Option.map_eq_some_iff.1 hnothing
        rw [← readFrom_nil] at hcommands
        obtain ⟨command, later, rfl, _⟩ := readFrom_extends hcommands hpending
        simp at happend

end Shell
