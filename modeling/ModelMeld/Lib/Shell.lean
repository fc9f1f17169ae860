import Mathlib.Data.List.Infix
import Mathlib.Data.List.Basic

/-!
# Reading a shell script

The token recognition and quoting rules of a POSIX shell, one character at a
time, on scripts that need no expansion: `read` gives the commands a script
runs, each as its words, and `none` where the script has a control or redirection
operator, an expansion, or an open quote at its end. `export` is a declaration
utility, so its assignments are neither split nor matched against files, and a
tilde is expanded where the value of an assignment or a part after a colon begins.

* `step_cases`: what one character does;
* `readFrom_extends`: what is read of a command stays read.
-/

namespace Shell

abbrev Word := List Char
abbrev Command := List Word

inductive Mode where
  | plain | plainEscaped | single | double | doubleEscaped | comment
deriving DecidableEq

/-- Where in a word a character stands. -/
inductive Place where
  | start | name
  /-- Where a value, or its part after a colon, begins. -/
  | assigned
  | value
  /-- In a word that is no assignment. -/
  | other
deriving DecidableEq

def isNameStart (c : Char) : Bool := c.isAlpha || c == '_'

def isNameChar (c : Char) : Bool := c.isAlphanum || c == '_'

namespace Place

/-- The place after an unquoted character. -/
def next : Place → Char → Place
  | .start, c => if isNameStart c then .name else .other
  | .name, c => if c = '=' then .assigned else if isNameChar c then .name else .other
  | .assigned, c | .value, c => if c = ':' then .assigned else .value
  | .other, _ => .other

/-- The place after a quoted one. -/
def quoted : Place → Place
  | .start | .name | .other => .other
  | .assigned | .value => .value

/-- A tilde-prefix may begin here. -/
def tilde : Place → Bool
  | .start | .assigned => true
  | _ => false

end Place

/-- A word and the words before it in its command. -/
structure Reader where
  mode : Mode := .plain
  place : Place := .start
  word : Option Word := none
  words : List Word := []
deriving DecidableEq

def isBlank (c : Char) : Bool := c == ' ' || c == '\t'

/-- Control and redirection operators begin with one of these. -/
def operators : List Char := [';', '&', '|', '<', '>', '(', ')']

/-- Expansions begin with one of these. -/
def expansions : List Char := ['$', '`']

namespace Reader

/-- The beginning of a command. -/
def fresh : Reader := {}

def inMode (r : Reader) (mode : Mode) : Reader := { r with mode := mode }

def push (r : Reader) (cs : List Char) (mode : Mode) (place : Place) : Reader :=
  { r with mode := mode, place := place, word := some (r.word.getD [] ++ cs) }

/-- The words so far. -/
def pending (r : Reader) : Command := r.words ++ r.word.toList

def endWord (r : Reader) : Reader := { words := r.pending }

/-- The command that ends, if it has words. -/
def ended (r : Reader) : List Command := if r.pending = [] then [] else [r.pending]

/-- A character outside quotes. -/
def stepPlain (r : Reader) (c : Char) : Option (List Command × Reader) :=
  if c = '\n' then some (r.ended, fresh)
  else if isBlank c then some ([], r.endWord)
  else if c ∈ operators ∨ c ∈ expansions then none
  else if c = '\\' then some ([], r.inMode .plainEscaped)
  else if c = '\'' then some ([], r.push [] .single r.place.quoted)
  else if c = '"' then some ([], r.push [] .double r.place.quoted)
  else if c = '#' ∧ r.word = none then some ([], r.inMode .comment)
  else if c = '~' ∧ r.place.tilde then none
  else some ([], r.push [c] .plain (r.place.next c))

/-- A character between double quotes. -/
def stepDouble (r : Reader) (c : Char) : Option (List Command × Reader) :=
  if c = '"' then some ([], r.inMode .plain)
  else if c ∈ expansions then none
  else if c = '\\' then some ([], r.inMode .doubleEscaped)
  else some ([], r.push [c] .double r.place)

/-- The character after a backslash between double quotes. -/
def escapedDouble (c : Char) : List Char :=
  if c ∈ expansions ∨ c = '"' ∨ c = '\\' then [c] else ['\\', c]

/-- One character: the command that it ends, and the reader after it. -/
def step (r : Reader) (c : Char) : Option (List Command × Reader) :=
  -- a script is a text
  if c = '\x00' then none
  else match r.mode with
    | .plain => r.stepPlain c
    | .plainEscaped => some ([],
        if c = '\n' then r.inMode .plain else r.push [c] .plain r.place.quoted)
    | .single => some ([],
        if c = '\'' then r.inMode .plain else r.push [c] .single r.place)
    | .double => r.stepDouble c
    | .doubleEscaped => some ([],
        if c = '\n' then r.inMode .double else r.push (escapedDouble c) .double r.place)
    | .comment => if c = '\n' then some (r.ended, fresh) else some ([], r)

/-- The end of the script. -/
def finish (r : Reader) : Option (List Command) :=
  match r.mode with
  | .plain | .comment => some r.ended
  | _ => none

def run : Reader → List Char → Option (List Command × Reader)
  | r, [] => some ([], r)
  | r, c :: cs => (r.step c).bind fun now =>
    (run now.2 cs).map fun later => (now.1 ++ later.1, later.2)

/-- The commands of the rest of a script. -/
def readFrom (r : Reader) (cs : List Char) : Option (List Command) :=
  (r.run cs).bind fun done => done.2.finish.map (done.1 ++ ·)

end Reader

/-- The commands of a script. -/
def read (script : List Char) : Option (List Command) := Reader.fresh.readFrom script

/-! ## Running commands -/

/-- The environment that commands are given. -/
abbrev Env := String → Option String

namespace Env

/-- An argument of `export`: `NAME=value`, or a name whose value stays. -/
def assign (env : Env) (argument : Word) : Env :=
  if '=' ∈ argument then fun key =>
    if key = String.ofList (argument.takeWhile (· ≠ '=')) then
      some (String.ofList ((argument.dropWhile (· ≠ '=')).drop 1))
    else env key
  else env

/-- An argument of `unset`. -/
def remove (env : Env) (argument : Word) : Env :=
  fun key => if key = String.ofList argument then none else env key

/-- `export` and `unset`; other commands are left out. -/
def exec (env : Env) (command : Command) : Env :=
  match command with
  | [] => env
  | name :: arguments =>
    if name = "export".toList then arguments.foldl assign env
    else if name = "unset".toList then arguments.foldl remove env
    else env

end Env

/-- What sourcing a script leaves of the environment. -/
def source (script : List Char) (env : Env) : Option Env :=
  (read script).map (List.foldl Env.exec env)

namespace Reader

variable {r r' : Reader} {out : List Command} {c : Char}

/-! ## Runs -/

theorem run_append (xs ys : List Char) (r : Reader) :
    r.run (xs ++ ys) = (r.run xs).bind fun first =>
      (first.2.run ys).map fun later => (first.1 ++ later.1, later.2) := by
  induction xs generalizing r with
  | nil => simp [run]
  | cons c xs ih =>
    simp only [List.cons_append, run]
    cases r.step c with
    | none => rfl
    | some now =>
      simp only [Option.bind_some, ih]
      cases now.2.run xs with
      | none => rfl
      | some first => cases hlater : first.2.run ys <;> simp [hlater]

theorem readFrom_nil (r : Reader) : r.readFrom [] = r.finish := by
  unfold readFrom run
  cases hfinish : r.finish <;> simp [hfinish]

theorem readFrom_append (xs ys : List Char) (r : Reader) :
    r.readFrom (xs ++ ys) = (r.run xs).bind fun first =>
      (first.2.readFrom ys).map (first.1 ++ ·) := by
  unfold readFrom
  rw [run_append]
  cases r.run xs with
  | none => rfl
  | some first =>
    simp only [Option.bind_some]
    cases first.2.run ys with
    | none => rfl
    | some later => cases hfinish : later.2.finish <;> simp [hfinish]

theorem readFrom_cons (c : Char) (cs : List Char) (r : Reader) :
    r.readFrom (c :: cs) = (r.step c).bind fun now =>
      (now.2.readFrom cs).map (now.1 ++ ·) := by
  rw [← List.singleton_append, readFrom_append]
  simp only [run]
  cases r.step c with
  | none => rfl
  | some now => simp

/-- The first step of a script that can be read. -/
theorem readFrom_cons_eq_some {cs : List Char} {commands : List Command}
    (h : r.readFrom (c :: cs) = some commands) :
    ∃ out r' later, r.step c = some (out, r') ∧ r'.readFrom cs = some later ∧
      commands = out ++ later := by
  rw [readFrom_cons, Option.bind_eq_some_iff] at h
  obtain ⟨⟨out, r'⟩, hstep, h⟩ := h
  obtain ⟨later, hlater, rfl⟩ := Option.map_eq_some_iff.1 h
  exact ⟨out, r', later, hstep, hlater, rfl⟩

/-! ## One step -/

/-- What stays behind of a word that is being escaped. -/
def slack : Mode → ℕ
  | .plainEscaped | .doubleEscaped => 1
  | _ => 0

/-- A step inside a word adds the character or drops it. -/
structure Grows (r : Reader) (c : Char) (r' : Reader) : Prop where
  words : r'.words = r.words
  mode : r'.mode ≠ .comment
  word : ∃ more, r'.word = some (r.word.getD [] ++ more) ∧
    more.length + slack r'.mode ≤ slack r.mode + 1 ∧
    ∀ x, isNameStart x = true → more.count x = if c = x then 1 else 0

theorem ne_of_isNameStart {x y : Char} (hx : isNameStart x = true) (hy : isNameStart y = false) :
    y ≠ x := by
  rintro rfl
  simp [hx] at hy

/-- A step that ends neither the word nor the command. -/
inductive Continues (r : Reader) (c : Char) (r' : Reader) : Prop where
  | keeps (words : r'.words = r.words) (word : r'.word = r.word)
      (outside : r.mode = .comment ∨ r.word = none)
  | grows (mode : r.mode ≠ .comment) (grows : Grows r c r')

theorem continues_inMode {mode : Mode} (hr : r.mode ≠ .comment) (hmode : mode ≠ .comment)
    (hslack : slack mode ≤ slack r.mode + 1) (hc : isNameStart c = false) :
    Continues r c (r.inMode mode) := by
  cases hword : r.word with
  | none => exact .keeps rfl rfl (.inr hword)
  | some w =>
    refine .grows hr ⟨rfl, hmode, [], ?_, ?_, ?_⟩
    · simp [inMode, hword]
    · simpa [inMode] using hslack
    · intro x hx
      rw [if_neg (ne_of_isNameStart hx hc)]
      rfl

theorem continues_push {mode : Mode} {place : Place} {cs : List Char} (hr : r.mode ≠ .comment)
    (hmode : mode ≠ .comment) (hslack : cs.length + slack mode ≤ slack r.mode + 1)
    (hcs : ∀ x, isNameStart x = true → cs.count x = if c = x then 1 else 0) :
    Continues r c (r.push cs mode place) :=
  .grows hr ⟨rfl, hmode, cs, rfl, hslack, hcs⟩

theorem count_singleton_eq (c x : Char) : [c].count x = if c = x then 1 else 0 := by
  by_cases h : c = x <;> simp [h]

theorem count_nil_eq {x : Char} (hc : isNameStart c = false) (hx : isNameStart x = true) :
    ([] : List Char).count x = if c = x then 1 else 0 := by
  rw [if_neg (ne_of_isNameStart hx hc)]
  rfl

theorem count_escapedDouble {x : Char} (hx : isNameStart x = true) :
    (escapedDouble c).count x = if c = x then 1 else 0 := by
  unfold escapedDouble
  split
  · exact count_singleton_eq c x
  · have hslash : '\\' ≠ x := ne_of_isNameStart hx (by decide)
    rw [List.count_cons_of_ne hslash]
    exact count_singleton_eq c x

theorem length_escapedDouble (c : Char) : (escapedDouble c).length ≤ 2 := by
  unfold escapedDouble
  split <;> simp

theorem stepPlain_cases (hr : r.mode = .plain) (h : r.stepPlain c = some (out, r')) :
    (c = '\n' ∧ out = r.ended ∧ r' = fresh) ∨ (isBlank c = true ∧ out = [] ∧ r' = r.endWord) ∨
      (out = [] ∧ Continues r c r') := by
  have hnot : r.mode ≠ .comment := by simp [hr]
  unfold stepPlain at h
  by_cases hline : c = '\n'
  · simp only [if_pos hline, Option.some.injEq, Prod.mk.injEq] at h
    exact .inl ⟨hline, h.1.symm, h.2.symm⟩
  rw [if_neg hline] at h
  by_cases hblank : isBlank c = true
  · simp only [if_pos hblank, Option.some.injEq, Prod.mk.injEq] at h
    exact .inr (.inl ⟨hblank, h.1.symm, h.2.symm⟩)
  rw [if_neg hblank] at h
  by_cases hactive : c ∈ operators ∨ c ∈ expansions
  · simp [hactive] at h
  rw [if_neg hactive] at h
  right; right
  by_cases hslash : c = '\\'
  · simp only [if_pos hslash, Option.some.injEq, Prod.mk.injEq] at h
    obtain ⟨rfl, rfl⟩ := h
    exact ⟨rfl, continues_inMode hnot (by simp) (by simp [slack]) (by rw [hslash]; decide)⟩
  rw [if_neg hslash] at h
  by_cases hsingle : c = '\''
  · simp only [if_pos hsingle, Option.some.injEq, Prod.mk.injEq] at h
    obtain ⟨rfl, rfl⟩ := h
    exact ⟨rfl, continues_push hnot (by simp) (by simp [slack])
      (fun x hx => count_nil_eq (by rw [hsingle]; decide) hx)⟩
  rw [if_neg hsingle] at h
  by_cases hdouble : c = '"'
  · simp only [if_pos hdouble, Option.some.injEq, Prod.mk.injEq] at h
    obtain ⟨rfl, rfl⟩ := h
    exact ⟨rfl, continues_push hnot (by simp) (by simp [slack])
      (fun x hx => count_nil_eq (by rw [hdouble]; decide) hx)⟩
  rw [if_neg hdouble] at h
  by_cases hhash : c = '#' ∧ r.word = none
  · simp only [if_pos hhash, Option.some.injEq, Prod.mk.injEq] at h
    obtain ⟨rfl, rfl⟩ := h
    exact ⟨rfl, .keeps rfl rfl (.inr hhash.2)⟩
  rw [if_neg hhash] at h
  by_cases htilde : c = '~' ∧ r.place.tilde = true
  · simp [htilde] at h
  rw [if_neg htilde] at h
  simp only [Option.some.injEq, Prod.mk.injEq] at h
  obtain ⟨rfl, rfl⟩ := h
  exact ⟨rfl, continues_push hnot (by simp) (by simp [slack])
    (fun x _ => count_singleton_eq c x)⟩

theorem stepDouble_cases (hr : r.mode = .double) (h : r.stepDouble c = some (out, r')) :
    out = [] ∧ Continues r c r' := by
  have hnot : r.mode ≠ .comment := by simp [hr]
  unfold stepDouble at h
  by_cases hdouble : c = '"'
  · simp only [if_pos hdouble, Option.some.injEq, Prod.mk.injEq] at h
    obtain ⟨rfl, rfl⟩ := h
    exact ⟨rfl, continues_inMode hnot (by simp) (by simp [slack]) (by rw [hdouble]; decide)⟩
  rw [if_neg hdouble] at h
  by_cases hactive : c ∈ expansions
  · simp [hactive] at h
  rw [if_neg hactive] at h
  by_cases hslash : c = '\\'
  · simp only [if_pos hslash, Option.some.injEq, Prod.mk.injEq] at h
    obtain ⟨rfl, rfl⟩ := h
    exact ⟨rfl, continues_inMode hnot (by simp) (by simp [slack]) (by rw [hslash]; decide)⟩
  rw [if_neg hslash] at h
  simp only [Option.some.injEq, Prod.mk.injEq] at h
  obtain ⟨rfl, rfl⟩ := h
  exact ⟨rfl, continues_push hnot (by simp) (by simp [slack])
    (fun x _ => count_singleton_eq c x)⟩

/-- **What a step does**: it ends the command, ends the word, or goes on. -/
theorem step_cases (h : r.step c = some (out, r')) :
    (c = '\n' ∧ (r.mode = .plain ∨ r.mode = .comment) ∧ out = r.ended ∧ r' = fresh) ∨
      (isBlank c = true ∧ r.mode = .plain ∧ out = [] ∧ r' = r.endWord) ∨
      (out = [] ∧ Continues r c r') := by
  unfold step at h
  by_cases hnul : c = '\x00'
  · simp [hnul] at h
  rw [if_neg hnul] at h
  cases hmode : r.mode with
  | plain =>
    rw [hmode] at h
    rcases stepPlain_cases hmode h with ⟨hc, ho, hr⟩ | ⟨hc, ho, hr⟩ | hgoes
    · exact .inl ⟨hc, .inl rfl, ho, hr⟩
    · exact .inr (.inl ⟨hc, rfl, ho, hr⟩)
    · exact .inr (.inr hgoes)
  | double =>
    rw [hmode] at h
    exact .inr (.inr (stepDouble_cases hmode h))
  | plainEscaped =>
    rw [hmode, Option.some.injEq, Prod.mk.injEq] at h
    obtain ⟨rfl, rfl⟩ := h
    refine .inr (.inr ⟨rfl, ?_⟩)
    by_cases hline : c = '\n'
    · rw [if_pos hline]
      exact continues_inMode (by simp [hmode]) (by simp) (by simp [slack]) (by rw [hline]; decide)
    · rw [if_neg hline]
      exact continues_push (by simp [hmode]) (by simp) (by simp [slack, hmode])
        (fun x _ => count_singleton_eq c x)
  | single =>
    rw [hmode, Option.some.injEq, Prod.mk.injEq] at h
    obtain ⟨rfl, rfl⟩ := h
    refine .inr (.inr ⟨rfl, ?_⟩)
    by_cases hquote : c = '\''
    · rw [if_pos hquote]
      exact continues_inMode (by simp [hmode]) (by simp) (by simp [slack]) (by rw [hquote]; decide)
    · rw [if_neg hquote]
      exact continues_push (by simp [hmode]) (by simp) (by simp [slack])
        (fun x _ => count_singleton_eq c x)
  | doubleEscaped =>
    rw [hmode, Option.some.injEq, Prod.mk.injEq] at h
    obtain ⟨rfl, rfl⟩ := h
    refine .inr (.inr ⟨rfl, ?_⟩)
    by_cases hline : c = '\n'
    · rw [if_pos hline]
      exact continues_inMode (by simp [hmode]) (by simp) (by simp [slack]) (by rw [hline]; decide)
    · rw [if_neg hline]
      have hlength := length_escapedDouble c
      exact continues_push (by simp [hmode]) (by simp) (by simp [slack, hmode]; omega)
        (fun x hx => count_escapedDouble hx)
  | comment =>
    rw [hmode] at h
    by_cases hline : c = '\n'
    · simp only [if_pos hline, Option.some.injEq, Prod.mk.injEq] at h
      exact .inl ⟨hline, .inr rfl, h.1.symm, h.2.symm⟩
    · simp only [if_neg hline, Option.some.injEq, Prod.mk.injEq] at h
      obtain ⟨rfl, rfl⟩ := h
      exact .inr (.inr ⟨rfl, .keeps rfl rfl (.inl hmode)⟩)

/-! ## What is read stays read -/

/-- The command goes on from the words so far. -/
structure Extends (r : Reader) (command : Command) : Prop where
  words : r.words <+: command
  word : ∀ w, r.word = some w → ∃ w', command[r.words.length]? = some w' ∧ w <+: w'

theorem extends_of_prefix {command : Command} (h : r.pending <+: command) : r.Extends command := by
  obtain ⟨more, rfl⟩ := h
  unfold pending
  refine ⟨⟨r.word.toList ++ more, by rw [List.append_assoc]⟩, ?_⟩
  intro w hw
  refine ⟨w, ?_, List.prefix_refl w⟩
  simp [hw]

/-- **The first command of the rest goes on from the words so far.** -/
theorem readFrom_extends : ∀ {cs : List Char} {r : Reader} {commands : List Command},
    r.readFrom cs = some commands → r.pending ≠ [] →
      ∃ command later, commands = command :: later ∧ r.Extends command := by
  intro cs
  induction cs with
  | nil =>
    intro r commands h hpending
    have hended : some r.ended = some commands := by
      rw [readFrom_nil] at h
      unfold finish at h
      split at h
      · exact h
      · exact h
      · exact absurd h (by simp)
    rw [Option.some.injEq] at hended
    refine ⟨r.pending, [], ?_, extends_of_prefix (List.prefix_refl _)⟩
    rw [← hended]
    unfold ended
    rw [if_neg hpending]
  | cons c cs ih =>
    intro r commands h hpending
    obtain ⟨out, r', rest, hstep, hrest, rfl⟩ := readFrom_cons_eq_some h
    rcases step_cases hstep with ⟨_, _, rfl, rfl⟩ | ⟨_, _, rfl, rfl⟩ | ⟨rfl, hgoes⟩
    · refine ⟨r.pending, rest, ?_, extends_of_prefix (List.prefix_refl _)⟩
      unfold ended
      rw [if_neg hpending]
      rfl
    · have hwords : r.endWord.pending = r.pending := by simp [endWord, pending]
      obtain ⟨command, later, rfl, hextends⟩ := ih hrest (by rw [hwords]; exact hpending)
      exact ⟨command, later, rfl, extends_of_prefix hextends.words⟩
    · cases hgoes with
      | keeps hwords hword _ =>
        have hsame : r'.pending = r.pending := by unfold pending; rw [hwords, hword]
        obtain ⟨command, later, rfl, hextends⟩ := ih hrest (by rw [hsame]; exact hpending)
        refine ⟨command, later, rfl, ?_, ?_⟩
        · rw [← hwords]
          exact hextends.words
        · rw [← hwords, ← hword]
          exact hextends.word
      | grows _ hgrows =>
        obtain ⟨more, hmore, -, -⟩ := hgrows.word
        obtain ⟨command, later, rfl, hextends⟩ := ih hrest (by simp [pending, hmore])
        refine ⟨command, later, rfl, ?_, ?_⟩
        · rw [← hgrows.words]
          exact hextends.words
        · intro w hw
          obtain ⟨w', hget, hbegins⟩ := hextends.word _ hmore
          rw [hw, Option.getD_some] at hbegins
          rw [← hgrows.words]
          exact ⟨w', hget, (List.prefix_append w more).trans hbegins⟩

end Reader

end Shell
