import ModelMeld.Lib.ShellText
import ModelMeld.Spec.EnvScripts

/-!
# Sourcing the env scripts

`env_scripts_reproduce_iff`: sourcing a script sets every variable to its value and runs nothing
else iff the values written outside quotes are inert, the keys in the BYOK header stand for
themselves between double quotes, and what the gateway script says of the port, in a comment, is no
command. Nothing is quoted for the shell when the scripts are written.
-/

namespace ModelMeld

open Shell Shell.Reader

/-! ## What is written -/

/-- The characters of a text without its carriage returns. -/
def unixChars (s : String) : List Char := s.toList.filter (· ≠ '\r')

@[simp] theorem unixChars_append (s t : String) :
    unixChars (s ++ t) = unixChars s ++ unixChars t := by
  simp [unixChars]

theorem filter_crlfToLf (cs : List Char) :
    (crlfToLf cs).filter (· ≠ '\r') = cs.filter (· ≠ '\r') := by
  induction cs using crlfToLf.induct with
  | case1 => rfl
  | case2 c => rfl
  | case3 c c' rest hpair ih =>
    obtain ⟨rfl, rfl⟩ := hpair
    simpa [crlfToLf] using ih
  | case4 c c' rest hpair ih =>
    unfold crlfToLf
    rw [if_neg hpair, List.filter_cons, List.filter_cons, ih]

theorem join_newline : ∀ {lines : List String}, lines ≠ [] →
    unixChars (join "\n" lines ++ "\n") = lines.flatMap (fun l => unixChars l ++ ['\n']) := by
  intro lines
  induction lines with
  | nil => intro h; exact absurd rfl h
  | cons l ls ih =>
    intro _
    cases ls with
    | nil =>
      rw [unixChars_append]
      simp only [join, List.flatMap_cons, List.flatMap_nil, List.append_nil]
      rfl
    | cons l' ls =>
      have hrest := ih (by simp)
      rw [unixChars_append] at hrest ⊢
      change unixChars (l ++ "\n" ++ join "\n" (l' :: ls)) ++ unixChars "\n" = _
      rw [unixChars_append, unixChars_append, List.append_assoc, hrest, List.flatMap_cons]
      rfl

/-- A script is its lines, each with a line break. -/
theorem writtenText_join {lines : List String} (h : lines ≠ []) :
    writtenText (join "\n" lines ++ "\n") = lines.flatMap (fun l => unixChars l ++ ['\n']) := by
  unfold writtenText
  rw [filter_crlfToLf]
  exact join_newline h

theorem written_unixChars (s : String) : Written (unixChars s) s.toList := by
  refine ⟨List.length_filter_le _ _, ?_⟩
  intro x hx
  have hreturn : x ≠ '\r' := (ne_of_isNameStart hx (by decide)).symm
  unfold unixChars
  rw [List.count_filter (by simpa using hreturn)]

theorem unixChars_eq_iff (s : String) : unixChars s = s.toList ↔ '\r' ∉ s.toList := by
  unfold unixChars
  rw [List.filter_eq_self]
  constructor
  · intro h hmem
    simpa using h _ hmem
  · intro h c hc
    rw [decide_eq_true_eq]
    rintro rfl
    exact h hc

/-! ## Lines -/

/-- A value that can stand in a line as it is. -/
def Unquoted (value : String) : Prop := Inert value.toList ∧ '\r' ∉ value.toList

/-- A value that can stand between double quotes as it is. -/
def Quoted (value : String) : Prop := quotedOk false value.toList = true ∧ '\r' ∉ value.toList

instance (value : String) : Decidable (Unquoted value) := inferInstanceAs (Decidable (_ ∧ _))

instance (value : String) : Decidable (Quoted value) := inferInstanceAs (Decidable (_ ∧ _))

section Lines

variable {name : List Char} {tail : List Char} {later : List Command}

theorem exportCommand_inj {value value' : List Char}
    (h : exportCommand name value = exportCommand name value') : value = value' := by
  simpa [exportCommand] using h

theorem exportLine_iff (hname : IsName name) (htail : BeginsLine tail) (value : String) :
    fresh.readFrom (exportLine name (unixChars value) ++ tail) =
        some (exportCommand name value.toList :: later) ↔
      Unquoted value ∧ fresh.readFrom tail = some later := by
  constructor
  · intro h
    have hinert := inert_of_exportLine hname htail (written_unixChars value) h
    rw [readFrom_exportLine hname hinert, Option.map_eq_some_iff] at h
    obtain ⟨later', htail', hcommands⟩ := h
    rw [List.cons.injEq] at hcommands
    have hsame := exportCommand_inj hcommands.1
    refine ⟨⟨hsame ▸ hinert, (unixChars_eq_iff value).1 hsame⟩, ?_⟩
    rw [htail', hcommands.2]
  · rintro ⟨⟨hinert, hreturn⟩, htail'⟩
    rw [(unixChars_eq_iff value).2 hreturn, readFrom_exportLine hname hinert, htail']
    rfl

theorem exportQuoted_iff (hname : IsName name) (value : String) :
    fresh.readFrom (exportQuoted name (unixChars value)) =
        some [exportCommand name value.toList] ↔ Quoted value := by
  constructor
  · intro h
    have hok := quotedOk_of_exportQuoted hname (written_unixChars value) h
    rw [readFrom_exportQuoted hname hok, Option.some.injEq, List.cons.injEq] at h
    have hsame := exportCommand_inj h.1
    exact ⟨hsame ▸ hok, (unixChars_eq_iff value).1 hsame⟩
  · rintro ⟨hok, hreturn⟩
    rw [(unixChars_eq_iff value).2 hreturn, readFrom_exportQuoted hname hok]

end Lines

/-- A text that is a comment on one line. -/
def IsComment (text : String) : Prop :=
  (unixChars text).head? = some '#' ∧ ∀ c ∈ unixChars text, c ≠ '\n' ∧ c ≠ '\x00'

instance (text : String) : Decidable (IsComment text) :=
  haveI : Decidable (∀ c ∈ unixChars text, c ≠ '\n' ∧ c ≠ '\x00') := List.decidableBAll _ _
  inferInstanceAs (Decidable (_ ∧ _))

theorem unixChars_of_isComment {text : String} (h : IsComment text) :
    ∃ cs, unixChars text = '#' :: cs ∧ ∀ c ∈ cs, c ≠ '\n' ∧ c ≠ '\x00' := by
  obtain ⟨hhead, hchars⟩ := h
  obtain ⟨cs, hcs⟩ := List.head?_eq_some_iff.1 hhead
  rw [hcs] at hchars
  exact ⟨cs, hcs, fun c hc => hchars c (by simp [hc])⟩

/-- A path on one line. -/
def OneLine (path : String) : Prop := ∀ c ∈ path.toList, c ≠ '\n' ∧ c ≠ '\x00'

instance (path : String) : Decidable (OneLine path) := List.decidableBAll _ path.toList

theorem isComment_append {text path : String} (htext : IsComment text) (hpath : OneLine path) :
    IsComment (text ++ path) := by
  obtain ⟨cs, hcs, _⟩ := unixChars_of_isComment htext
  unfold IsComment
  rw [unixChars_append]
  refine ⟨by simp [hcs], ?_⟩
  rw [List.forall_mem_append]
  exact ⟨htext.2, fun c hc => hpath c (List.mem_filter.1 hc).1⟩

/-- A line, and the rest of the script. -/
def line (text : String) (tail : List Char) : List Char := unixChars text ++ '\n' :: tail

theorem readFrom_commentLine {text : String} (h : IsComment text) (tail : List Char) :
    fresh.readFrom (line text tail) = fresh.readFrom tail := by
  obtain ⟨cs, hcs, hchars⟩ := unixChars_of_isComment h
  unfold line
  rw [hcs, List.cons_append, readFrom_comment hchars]

/-! ## The environment -/

/-- The exports of some variables. -/
def exports (vars : List (String × String)) : List Command :=
  vars.map (fun kv => exportCommand kv.1.toList kv.2.toList)

/-- A script runs the commands and no others, and leaves every variable with its value. -/
structure Reproduces (script : List Char) (commands : List Command)
    (vars : List (String × String)) : Prop where
  runs : Shell.read script = some commands
  sets : ∀ env, ∃ env', source script env = some env' ∧ ∀ kv ∈ vars, env' kv.1 = some kv.2

/-- Setting a variable. -/
def Env.set (env : Shell.Env) (name value : String) : Shell.Env :=
  fun key => if key = name then some value else env key

theorem exec_export {name : String} (hname : '=' ∉ name.toList) (value : String)
    (env : Shell.Env) :
    env.exec (exportCommand name.toList value.toList) = Env.set env name value := by
  have hchars : ∀ c ∈ name.toList, decide (c ≠ '=') = true := by
    intro c hc
    rw [decide_eq_true_eq]
    rintro rfl
    exact hname hc
  have htake : (name.toList ++ '=' :: value.toList).takeWhile (· ≠ '=') = name.toList := by
    rw [List.takeWhile_append_of_pos hchars]
    simp
  have hdrop : ((name.toList ++ '=' :: value.toList).dropWhile (· ≠ '=')).drop 1 =
      value.toList := by
    rw [List.dropWhile_append_of_pos hchars]
    simp
  unfold Shell.Env.exec exportCommand
  simp only [if_true, List.foldl_cons, List.foldl_nil]
  unfold Shell.Env.assign
  rw [if_pos (by simp), htake, hdrop, String.ofList_toList, String.ofList_toList]
  rfl

theorem exec_unset (name : String) (env : Shell.Env) (key : String) :
    env.exec ["unset".toList, name.toList] key = if key = name then none else env key := by
  have hother : "unset".toList ≠ "export".toList := by decide
  unfold Shell.Env.exec
  simp only [if_neg hother, if_true, List.foldl_cons, List.foldl_nil]
  unfold Shell.Env.remove
  rw [String.ofList_toList]

/-- Exports leave the other variables. -/
theorem exec_exports_other : ∀ {vars : List (String × String)}, (∀ kv ∈ vars, '=' ∉ kv.1.toList) →
    ∀ (env : Shell.Env) (key : String), key ∉ vars.map Prod.fst →
      (exports vars).foldl Shell.Env.exec env key = env key := by
  intro vars
  induction vars with
  | nil => intro _ env key _; rfl
  | cons kv vars ih =>
    intro hnames env key hkey
    rw [List.map_cons, List.mem_cons, not_or] at hkey
    change (exports vars).foldl Shell.Env.exec (env.exec _) key = _
    rw [ih (fun kv' h => hnames kv' (by simp [h])) _ _ hkey.2, exec_export (hnames kv (by simp))]
    exact if_neg hkey.1

/-- Exports of different names set each of them. -/
theorem exec_exports : ∀ {vars : List (String × String)}, (∀ kv ∈ vars, '=' ∉ kv.1.toList) →
    (vars.map Prod.fst).Nodup → ∀ (env : Shell.Env), ∀ kv ∈ vars,
      (exports vars).foldl Shell.Env.exec env kv.1 = some kv.2 := by
  intro vars
  induction vars with
  | nil => intro _ _ env kv h; exact absurd h List.not_mem_nil
  | cons kv vars ih =>
    intro hnames hnodup env kv' hmem
    rw [List.map_cons, List.nodup_cons] at hnodup
    change (exports vars).foldl Shell.Env.exec (env.exec _) kv'.1 = _
    rcases List.mem_cons.1 hmem with rfl | hmem
    · rw [exec_exports_other (fun kv'' h => hnames kv'' (by simp [h])) _ _ hnodup.1,
        exec_export (hnames kv' (by simp))]
      exact if_pos rfl
    · exact ih (fun kv'' h => hnames kv'' (by simp [h])) hnodup.2 _ kv' hmem

/-- What the commands set is set when they are what is run. -/
theorem reproduces_iff {script : List Char} {commands : List Command}
    {vars : List (String × String)}
    (hsets : ∀ env : Shell.Env, ∀ kv ∈ vars,
      commands.foldl Shell.Env.exec env kv.1 = some kv.2) :
    Reproduces script commands vars ↔ Shell.read script = some commands := by
  constructor
  · intro h
    exact h.runs
  · intro h
    refine ⟨h, ?_⟩
    intro env
    refine ⟨commands.foldl Shell.Env.exec env, ?_, hsets env⟩
    unfold source
    rw [h]
    rfl

/-! ## Claude Code -/

/-- The variables that are always set. -/
def claudeCodeVars (baseUrl apiKey : String) : List (String × String) :=
  [("ANTHROPIC_BASE_URL", baseUrl), ("ANTHROPIC_API_KEY", apiKey),
    ("CLAUDE_CODE_ENABLE_GATEWAY_MODEL_DISCOVERY", "1")]

/-- The BYOK header, its lines separated as the client reads them. -/
def headerVars (byokAnthropic byokOpenai : Option String) : List (String × String) :=
  let parts := headerParts byokAnthropic byokOpenai
  if parts = [] then [] else [("ANTHROPIC_CUSTOM_HEADERS", join "\\n" parts)]

/-- What sourcing the script should run. -/
def claudeCodeCommands (baseUrl apiKey : String) (byokAnthropic byokOpenai : Option String) :
    List Command :=
  exports (claudeCodeVars baseUrl apiKey) ++ ["unset".toList, "ANTHROPIC_AUTH_TOKEN".toList] ::
    exports (headerVars byokAnthropic byokOpenai)

/-- The line of the header, when there is one. -/
def headerText (byokAnthropic byokOpenai : Option String) : List Char :=
  let parts := headerParts byokAnthropic byokOpenai
  if parts = [] then [] else
    exportQuoted "ANTHROPIC_CUSTOM_HEADERS".toList (unixChars (join "\\n" parts))

def unsetLine : List Char :=
  unixChars "unset ANTHROPIC_AUTH_TOKEN  # avoid 'auth conflict' warning" ++ ['\n']

theorem headerText_eq (byokAnthropic byokOpenai : Option String) :
    (if headerParts byokAnthropic byokOpenai = [] then [] else
      ["export ANTHROPIC_CUSTOM_HEADERS=\"" ++ join "\\n" (headerParts byokAnthropic byokOpenai) ++
        "\""]).flatMap (fun l => unixChars l ++ ['\n']) = headerText byokAnthropic byokOpenai := by
  have hopen : unixChars "export ANTHROPIC_CUSTOM_HEADERS=\"" =
      exportPrefix "ANTHROPIC_CUSTOM_HEADERS".toList ++ ['"'] := by decide
  have hclose : unixChars "\"" = ['"'] := by decide
  unfold headerText
  by_cases hparts : headerParts byokAnthropic byokOpenai = []
  · simp only [hparts, if_true, List.flatMap_nil]
  · simp only [hparts, if_false, List.flatMap_cons, List.flatMap_nil, unixChars_append, hopen,
      hclose]
    unfold exportQuoted
    simp

/-- The script, line by line. -/
theorem claudeCodeEnvScript_eq (target baseUrl apiKey : String)
    (byokAnthropic byokOpenai : Option String) :
    claudeCodeEnvScript target baseUrl apiKey byokAnthropic byokOpenai =
      line "#!/bin/bash" (line "# ModelMeld + Claude Code setup. Source this from your shell:"
        (line ("#   source " ++ target) ('\n' ::
          (exportLine "ANTHROPIC_BASE_URL".toList (unixChars baseUrl) ++
            (exportLine "ANTHROPIC_API_KEY".toList (unixChars apiKey) ++
              (exportLine "CLAUDE_CODE_ENABLE_GATEWAY_MODEL_DISCOVERY".toList "1".toList ++
                (unsetLine ++ headerText byokAnthropic byokOpenai))))))) := by
  have hempty : unixChars "" = [] := rfl
  have hbase : unixChars "export ANTHROPIC_BASE_URL=" =
      exportPrefix "ANTHROPIC_BASE_URL".toList := by decide
  have hkey : unixChars "export ANTHROPIC_API_KEY=" =
      exportPrefix "ANTHROPIC_API_KEY".toList := by decide
  have hdiscovery : unixChars "export CLAUDE_CODE_ENABLE_GATEWAY_MODEL_DISCOVERY=1" =
      exportPrefix "CLAUDE_CODE_ENABLE_GATEWAY_MODEL_DISCOVERY".toList ++ "1".toList := by decide
  unfold claudeCodeEnvScript
  rw [writtenText_join (by simp), List.flatMap_append, headerText_eq]
  simp only [List.flatMap_cons, List.flatMap_nil, hempty, hdiscovery]
  rw [unixChars_append _ baseUrl, unixChars_append _ apiKey, hbase, hkey]
  unfold exportLine line unsetLine
  simp only [List.append_assoc, List.cons_append, List.nil_append]

theorem isName_of_all {name : List Char} (h : name.head?.any isNameStart = true)
    (hrest : name.tail.all isNameChar = true) : IsName name := by
  cases name with
  | nil => simp at h
  | cons c rest => exact ⟨c, rest, rfl, by simpa using h, by simpa using hrest⟩

theorem beginsLine_exportLine (name value tail : List Char) :
    BeginsLine (exportLine name value ++ tail) :=
  .inr ⟨'e', _, rfl, by decide⟩

/-- The lines up to the first value run nothing. -/
theorem readFrom_preamble {target : String} (htarget : OneLine target) (tail : List Char) :
    fresh.readFrom (line "#!/bin/bash"
      (line "# ModelMeld + Claude Code setup. Source this from your shell:"
        (line ("#   source " ++ target) ('\n' :: tail)))) = fresh.readFrom tail := by
  rw [readFrom_commentLine (by decide), readFrom_commentLine (by decide),
    readFrom_commentLine (isComment_append (by decide) htarget), readFrom_blank]

theorem run_unsetLine : fresh.run unsetLine =
    some ([["unset".toList, "ANTHROPIC_AUTH_TOKEN".toList]], fresh) := by
  decide

/-- The two constant lines and the header. -/
theorem readFrom_constants (byokAnthropic byokOpenai : Option String) (later : List Command) :
    fresh.readFrom (exportLine "CLAUDE_CODE_ENABLE_GATEWAY_MODEL_DISCOVERY".toList "1".toList ++
        (unsetLine ++ headerText byokAnthropic byokOpenai)) =
      some (exportCommand "CLAUDE_CODE_ENABLE_GATEWAY_MODEL_DISCOVERY".toList "1".toList ::
        ["unset".toList, "ANTHROPIC_AUTH_TOKEN".toList] :: later) ↔
      fresh.readFrom (headerText byokAnthropic byokOpenai) = some later := by
  rw [readFrom_exportLine (isName_of_all (by decide) (by decide)) (by decide), readFrom_append,
    run_unsetLine]
  simp only [Option.bind_some, Option.map_map, Function.comp_def]
  cases fresh.readFrom (headerText byokAnthropic byokOpenai) with
  | none => simp
  | some commands => simp

/-! ### The BYOK header -/

/-- Nothing of the text means anything between double quotes. -/
def PlainQuoted (text : String) : Prop :=
  ∀ c ∈ text.toList, c ≠ '\\' ∧ c ≠ '\x00' ∧ c ≠ '"' ∧ c ∉ expansions ∧ c ≠ '\r'

instance (text : String) : Decidable (PlainQuoted text) := List.decidableBAll _ text.toList

/-- The name of a header may stand before its key. -/
theorem quoted_append {name : String} (hname : PlainQuoted name) (key : String) :
    Quoted (name ++ key) ↔ Quoted key := by
  have hquoted : quotedOk false (name ++ key).toList = quotedOk false key.toList := by
    rw [String.toList_append]
    refine quotedOk_append ?_ _
    intro c hc
    obtain ⟨hslash, hnul, hquote, hactive, -⟩ := hname c hc
    exact ⟨hslash, hnul, hquote, hactive⟩
  have hreturn : '\r' ∉ name.toList := fun hmem => (hname _ hmem).2.2.2.2 rfl
  unfold Quoted
  rw [hquoted, String.toList_append, List.mem_append, not_or]
  exact and_congr_right fun _ => and_iff_right hreturn

/-- The escape between two lines of the header ends the first. -/
theorem quoted_lines (first second : String) :
    Quoted (first ++ "\\n" ++ second) ↔ Quoted first ∧ Quoted second := by
  have htext : (first ++ "\\n" ++ second).toList =
      first.toList ++ '\\' :: 'n' :: second.toList := by simp
  have hletter : quotedOk true ('n' :: second.toList) = quotedOk false second.toList := by
    simp [quotedOk, expansions]
  unfold Quoted
  rw [htext, quotedOk_append_slash, hletter, Bool.and_eq_true]
  simp only [List.mem_append, List.mem_cons, not_or]
  constructor
  · rintro ⟨⟨hfirst, hsecond⟩, hreturnFirst, _, _, hreturnSecond⟩
    exact ⟨⟨hfirst, hreturnFirst⟩, hsecond, hreturnSecond⟩
  · rintro ⟨⟨hfirst, hreturnFirst⟩, hsecond, hreturnSecond⟩
    exact ⟨⟨hfirst, hsecond⟩, hreturnFirst, by decide, by decide, hreturnSecond⟩

/-- The keys of the header are read as they are. -/
def KeysQuoted (byokAnthropic byokOpenai : Option String) : Prop :=
  ∀ key, truthyText byokAnthropic = some key ∨ truthyText byokOpenai = some key → Quoted key

theorem quoted_join : ∀ {parts : List String}, parts ≠ [] →
    (Quoted (join "\\n" parts) ↔ ∀ part ∈ parts, Quoted part) := by
  intro parts
  induction parts with
  | nil => intro h; exact absurd rfl h
  | cons part parts ih =>
    intro _
    cases parts with
    | nil => simp [join]
    | cons part' parts =>
      change Quoted (part ++ "\\n" ++ join "\\n" (part' :: parts)) ↔ _
      rw [quoted_lines, ih (by simp), List.forall_mem_cons (a := part)]

theorem quoted_headerParts (byokAnthropic byokOpenai : Option String) :
    (∀ part ∈ headerParts byokAnthropic byokOpenai, Quoted part) ↔
      KeysQuoted byokAnthropic byokOpenai := by
  have hanthropic : PlainQuoted "x-modelmeld-byok-anthropic: " := by decide
  have hopenai : PlainQuoted "x-modelmeld-byok-openai: " := by decide
  unfold headerParts KeysQuoted
  rw [List.forall_mem_append]
  simp only [Option.mem_toList, Option.map_eq_some_iff, forall_exists_index, and_imp,
    forall_apply_eq_imp_iff₂, quoted_append hanthropic, quoted_append hopenai, or_imp, forall_and]

theorem headerText_iff (byokAnthropic byokOpenai : Option String) :
    fresh.readFrom (headerText byokAnthropic byokOpenai) =
        some (exports (headerVars byokAnthropic byokOpenai)) ↔
      KeysQuoted byokAnthropic byokOpenai := by
  have hname : IsName "ANTHROPIC_CUSTOM_HEADERS".toList := isName_of_all (by decide) (by decide)
  rw [← quoted_headerParts]
  unfold headerText headerVars
  by_cases hparts : headerParts byokAnthropic byokOpenai = []
  · rw [if_pos hparts, if_pos hparts, hparts]
    simp [readFrom_nil, exports, finish, fresh, ended, pending]
  · rw [if_neg hparts, if_neg hparts, ← quoted_join hparts]
    exact exportQuoted_iff hname _

/-! ### The whole script -/

theorem claudeCode_runs_iff {target : String} (htarget : OneLine target) (baseUrl apiKey : String)
    (byokAnthropic byokOpenai : Option String) :
    Shell.read (claudeCodeEnvScript target baseUrl apiKey byokAnthropic byokOpenai) =
        some (claudeCodeCommands baseUrl apiKey byokAnthropic byokOpenai) ↔
      Unquoted baseUrl ∧ Unquoted apiKey ∧ KeysQuoted byokAnthropic byokOpenai := by
  have hcommands : claudeCodeCommands baseUrl apiKey byokAnthropic byokOpenai =
      exportCommand "ANTHROPIC_BASE_URL".toList baseUrl.toList ::
        exportCommand "ANTHROPIC_API_KEY".toList apiKey.toList ::
        exportCommand "CLAUDE_CODE_ENABLE_GATEWAY_MODEL_DISCOVERY".toList "1".toList ::
        ["unset".toList, "ANTHROPIC_AUTH_TOKEN".toList] ::
        exports (headerVars byokAnthropic byokOpenai) := rfl
  have hbase : IsName "ANTHROPIC_BASE_URL".toList := isName_of_all (by decide) (by decide)
  have hkey : IsName "ANTHROPIC_API_KEY".toList := isName_of_all (by decide) (by decide)
  unfold Shell.read
  rw [claudeCodeEnvScript_eq, readFrom_preamble htarget, hcommands,
    exportLine_iff hbase (beginsLine_exportLine _ _ _),
    exportLine_iff hkey (beginsLine_exportLine _ _ _), readFrom_constants, headerText_iff]

theorem headerVars_name {byokAnthropic byokOpenai : Option String} {kv : String × String}
    (h : kv ∈ headerVars byokAnthropic byokOpenai) : kv.1 = "ANTHROPIC_CUSTOM_HEADERS" := by
  unfold headerVars at h
  by_cases hparts : headerParts byokAnthropic byokOpenai = []
  · simp [hparts] at h
  · rw [if_neg hparts, List.mem_singleton] at h
    rw [h]

theorem headerVars_nodup (byokAnthropic byokOpenai : Option String) :
    ((headerVars byokAnthropic byokOpenai).map Prod.fst).Nodup := by
  unfold headerVars
  by_cases hparts : headerParts byokAnthropic byokOpenai = []
  · simp [hparts]
  · simp [hparts]

/-- The commands set the variables: `unset` and the header are about others. -/
theorem claudeCode_sets (baseUrl apiKey : String) (byokAnthropic byokOpenai : Option String)
    (env : Shell.Env) : ∀ kv ∈ claudeCodeVars baseUrl apiKey ++ headerVars byokAnthropic byokOpenai,
      (claudeCodeCommands baseUrl apiKey byokAnthropic byokOpenai).foldl Shell.Env.exec env kv.1 =
        some kv.2 := by
  have hnames : ∀ kv ∈ claudeCodeVars baseUrl apiKey, '=' ∉ kv.1.toList ∧
      kv.1 ≠ "ANTHROPIC_CUSTOM_HEADERS" ∧ kv.1 ≠ "ANTHROPIC_AUTH_TOKEN" := by
    intro kv hkv
    simp only [claudeCodeVars, List.mem_cons, List.not_mem_nil, or_false] at hkv
    rcases hkv with rfl | rfl | rfl
    · exact ⟨by simp, by simp, by simp⟩
    · exact ⟨by simp, by simp, by simp⟩
    · exact ⟨by simp, by simp, by simp⟩
  have hnodup : ((claudeCodeVars baseUrl apiKey).map Prod.fst).Nodup := by
    simp [claudeCodeVars]
  have hheader : ∀ kv ∈ headerVars byokAnthropic byokOpenai, '=' ∉ kv.1.toList := by
    intro kv hkv
    rw [headerVars_name hkv]
    decide
  intro kv hkv
  unfold claudeCodeCommands
  rw [List.foldl_append, List.foldl_cons]
  rcases List.mem_append.1 hkv with hkv | hkv
  · obtain ⟨_, hother, htoken⟩ := hnames kv hkv
    have hlater : kv.1 ∉ (headerVars byokAnthropic byokOpenai).map Prod.fst := by
      intro hmem
      obtain ⟨kv', hkv', hsame⟩ := List.mem_map.1 hmem
      exact hother (hsame ▸ headerVars_name hkv')
    rw [exec_exports_other hheader _ _ hlater, exec_unset, if_neg htoken]
    exact exec_exports (fun kv' h => (hnames kv' h).1) hnodup env kv hkv
  · exact exec_exports hheader (headerVars_nodup _ _) _ kv hkv

/-! ## The self-hosted gateway -/

/-- The names after the routing policy. -/
def gatewayNames : List String :=
  ["MODELMELD_OPENROUTER_API_KEY", "MODELMELD_FIREWORKS_API_KEY", "MODELMELD_TOGETHER_API_KEY",
    "MODELMELD_VLLM_ENDPOINT", "MODELMELD_ANTHROPIC_API_KEY", "MODELMELD_OPENAI_API_KEY"]

/-- The values that the wizard takes have no line breaks. -/
theorem newline_not_mem_argValue {raw : Option String} {value : String}
    (h : argValue raw = some value) : '\n' ∉ value.toList := by
  unfold argValue truthyText at h
  obtain ⟨text, _, h⟩ := Option.bind_eq_some_iff.1 h
  obtain ⟨hvalue, _⟩ := Option.filter_eq_some_iff.1 h
  rw [← Option.some.inj hvalue]
  simp [normalize]

theorem mem_envEntry {key : String} {value : Option String} {kv : String × String}
    (h : kv ∈ envEntry key value) : kv.1 = key ∧ value = some kv.2 := by
  unfold envEntry truthyText at h
  rw [Option.mem_toList, Option.map_eq_some_iff] at h
  obtain ⟨text, htext, rfl⟩ := h
  exact ⟨rfl, (Option.filter_eq_some_iff.1 htext).1⟩

theorem envEntry_names (key : String) (value : Option String) :
    ((envEntry key value).map Prod.fst).Sublist [key] := by
  unfold envEntry
  cases truthyText value with
  | none => exact List.nil_sublist _
  | some value => exact List.Sublist.refl _

/-- Variables after the routing policy, with the wizard's values. -/
structure GatewayOthers (others : List (String × String)) : Prop where
  names : (others.map Prod.fst).Sublist gatewayNames
  lines : ∀ kv ∈ others, '\n' ∉ kv.2.toList

theorem selfHostGatewayEnvVars_eq (openrouter fireworks together vllm anthropic openai :
    Option String) :
    ∃ others, selfHostGatewayEnvVars (argValue openrouter) (argValue fireworks)
        (argValue together) (argValue vllm) (argValue anthropic) (argValue openai) =
      ("MODELMELD_ROUTING_POLICY", "capability") :: others ∧ GatewayOthers others := by
  refine ⟨envEntry "MODELMELD_OPENROUTER_API_KEY" (argValue openrouter) ++
    envEntry "MODELMELD_FIREWORKS_API_KEY" (argValue fireworks) ++
    envEntry "MODELMELD_TOGETHER_API_KEY" (argValue together) ++
    envEntry "MODELMELD_VLLM_ENDPOINT" (argValue vllm) ++
    envEntry "MODELMELD_ANTHROPIC_API_KEY" (argValue anthropic) ++
    envEntry "MODELMELD_OPENAI_API_KEY" (argValue openai), rfl, ?_, ?_⟩
  · simp only [List.map_append]
    exact (((((envEntry_names _ _).append (envEntry_names _ _)).append (envEntry_names _ _)).append
      (envEntry_names _ _)).append (envEntry_names _ _)).append (envEntry_names _ _)
  · intro kv hkv
    simp only [List.mem_append] at hkv
    rcases hkv with ((((h | h) | h) | h) | h) | h
    · exact newline_not_mem_argValue (mem_envEntry h).2
    · exact newline_not_mem_argValue (mem_envEntry h).2
    · exact newline_not_mem_argValue (mem_envEntry h).2
    · exact newline_not_mem_argValue (mem_envEntry h).2
    · exact newline_not_mem_argValue (mem_envEntry h).2
    · exact newline_not_mem_argValue (mem_envEntry h).2

/-- The lines of some variables. -/
def exportLines (vars : List (String × String)) : List Char :=
  vars.flatMap (fun kv => exportLine kv.1.toList (unixChars kv.2))

theorem beginsLine_exportLines (vars : List (String × String)) : BeginsLine (exportLines vars) := by
  cases vars with
  | nil => exact .inl rfl
  | cons kv vars => exact beginsLine_exportLine _ _ _

/-- Every line is read as its variable iff every value is inert. -/
theorem exportLines_iff : ∀ {vars : List (String × String)},
    (∀ kv ∈ vars, IsName kv.1.toList) →
      (fresh.readFrom (exportLines vars) = some (exports vars) ↔ ∀ kv ∈ vars, Unquoted kv.2) := by
  intro vars
  induction vars with
  | nil =>
    intro _
    simp [exportLines, exports, readFrom_nil, finish, fresh, ended, pending]
  | cons kv vars ih =>
    intro hnames
    change fresh.readFrom (exportLine kv.1.toList (unixChars kv.2) ++ exportLines vars) =
      some (exportCommand kv.1.toList kv.2.toList :: exports vars) ↔ _
    rw [exportLine_iff (hnames kv (by simp)) (beginsLine_exportLines vars),
      ih (fun kv' h => hnames kv' (by simp [h])), List.forall_mem_cons]

theorem not_mem_of_isName {name : List Char} (hname : IsName name) {c : Char}
    (hc : isNameChar c = false) : c ∉ name := by
  obtain ⟨x, rest, rfl, hx, hrest⟩ := hname
  rintro hmem
  rcases List.mem_cons.1 hmem with rfl | hmem
  · exact absurd (isNameChar_of_isNameStart hx) (by simp [hc])
  · exact absurd (hrest c hmem) (by simp [hc])

theorem unixChars_exportLine {kv : String × String} (hname : IsName kv.1.toList) :
    unixChars ("export " ++ kv.1 ++ "=" ++ kv.2) ++ ['\n'] =
      exportLine kv.1.toList (unixChars kv.2) := by
  have hexport : unixChars "export " = "export ".toList := by decide
  have hequals : unixChars "=" = ['='] := by decide
  have hkey : unixChars kv.1 = kv.1.toList :=
    (unixChars_eq_iff kv.1).2 (not_mem_of_isName hname (by decide))
  simp only [unixChars_append, hexport, hequals, hkey]
  unfold exportLine exportPrefix
  simp only [List.append_assoc]

/-- The comments up to the port's. -/
def gatewayOpening (target : String) (tail : List Char) : List Char :=
  line "#!/bin/bash" (line "# ModelMeld self-host GATEWAY config. Source this, then launch the"
    (line "# gateway in the same shell:" (line ("#   source " ++ target) tail)))

/-- The comment that says the port. -/
def portComment (baseUrl : String) : String :=
  "#   uvicorn modelmeld.api.server:app --host 0.0.0.0 --port " ++ gatewayPort baseUrl

/-- The comments after the port's. -/
def routingComments (tail : List Char) : List Char :=
  line "# Capability routing: the scout picks the cheapest model meeting the"
    (line "# quality bar per request. WITHOUT this line the gateway falls back"
      (line "# to a no-op stub and every request returns a canned reply." tail))

/-- The script, part by part. -/
theorem selfHostGatewayEnv_eq (target baseUrl : String) {others : List (String × String)}
    (hnames : ∀ kv ∈ others, IsName kv.1.toList ∧ kv.1 ≠ "MODELMELD_ROUTING_POLICY") :
    selfHostGatewayEnv target (("MODELMELD_ROUTING_POLICY", "capability") :: others) baseUrl =
      some (gatewayOpening target (line (portComment baseUrl) ('\n' :: routingComments
        (exportLines (("MODELMELD_ROUTING_POLICY", "capability") :: others))))) := by
  have hothers : (("MODELMELD_ROUTING_POLICY", "capability") :: others).filter
      (fun kv => kv.1 ≠ "MODELMELD_ROUTING_POLICY") = others := by
    rw [List.filter_cons_of_neg (by simp), List.filter_eq_self]
    intro kv hkv
    simpa using (hnames kv hkv).2
  have hlines : (others.map (fun kv => "export " ++ kv.1 ++ "=" ++ kv.2)).flatMap
      (fun l => unixChars l ++ ['\n']) = exportLines others := by
    unfold exportLines
    rw [List.flatMap_map]
    refine List.flatMap_congr ?_
    intro kv hkv
    exact unixChars_exportLine (hnames kv hkv).1
  have hpolicy : unixChars ("export MODELMELD_ROUTING_POLICY=" ++ "capability") ++ ['\n'] =
      exportLine "MODELMELD_ROUTING_POLICY".toList (unixChars "capability") := by decide
  have hempty : unixChars "" = [] := rfl
  unfold selfHostGatewayEnv
  simp only [List.lookup_cons_self, hothers, Option.bind_eq_bind, Option.bind_some, Option.pure_def]
  rw [writtenText_join (by simp), List.flatMap_append, hlines]
  simp only [List.flatMap_cons, List.flatMap_nil, hpolicy, hempty]
  unfold gatewayOpening portComment routingComments exportLines line
  simp only [List.append_assoc, List.cons_append, List.nil_append, List.flatMap_cons]

/-- What stands after the last colon of the base URL runs nothing as a comment. -/
def PortQuiet (baseUrl : String) : Prop :=
  Shell.read ('#' :: (unixChars (gatewayPort baseUrl) ++ ['\n', '\n'])) = some []

instance (baseUrl : String) : Decidable (PortQuiet baseUrl) := inferInstanceAs (Decidable (_ = _))

theorem readFrom_portComment (baseUrl : String) (tail : List Char) :
    fresh.readFrom (unixChars (portComment baseUrl) ++ tail) =
      fresh.readFrom ('#' :: (unixChars (gatewayPort baseUrl) ++ tail)) := by
  have hcomment : IsComment "#   uvicorn modelmeld.api.server:app --host 0.0.0.0 --port " := by
    decide
  obtain ⟨cs, hcs, hchars⟩ := unixChars_of_isComment hcomment
  unfold portComment
  rw [unixChars_append, hcs, List.cons_append, List.cons_append, List.append_assoc,
    readFrom_comment_prefix hchars]

theorem readFrom_gatewayOpening {target : String} (htarget : OneLine target) (tail : List Char) :
    fresh.readFrom (gatewayOpening target tail) = fresh.readFrom tail := by
  unfold gatewayOpening
  rw [readFrom_commentLine (by decide), readFrom_commentLine (by decide),
    readFrom_commentLine (by decide), readFrom_commentLine (isComment_append (by decide) htarget)]

theorem readFrom_routingComments (tail : List Char) :
    fresh.readFrom (routingComments tail) = fresh.readFrom tail := by
  unfold routingComments
  rw [readFrom_commentLine (by decide), readFrom_commentLine (by decide),
    readFrom_commentLine (by decide)]

/-- The command of the routing policy. -/
def policyCommand : Command :=
  exportCommand "MODELMELD_ROUTING_POLICY".toList "capability".toList

section Gateway

variable {others : List (String × String)}

theorem gatewayNames_spec : ∀ name ∈ gatewayNames,
    IsName name.toList ∧ name ≠ "MODELMELD_ROUTING_POLICY" := by
  have hall : ∀ name ∈ gatewayNames, name.toList.head?.any isNameStart = true ∧
      name.toList.tail.all isNameChar = true ∧ name ≠ "MODELMELD_ROUTING_POLICY" := by decide
  intro name hname
  obtain ⟨hhead, htail, hne⟩ := hall name hname
  exact ⟨isName_of_all hhead htail, hne⟩

theorem GatewayOthers.name_spec (h : GatewayOthers others) {kv : String × String}
    (hkv : kv ∈ others) : IsName kv.1.toList ∧ kv.1 ≠ "MODELMELD_ROUTING_POLICY" :=
  gatewayNames_spec _ (h.names.subset (List.mem_map_of_mem hkv))

theorem policy_isName : IsName "MODELMELD_ROUTING_POLICY".toList :=
  isName_of_all (by decide) (by decide)

/-- The routing policy is set once. -/
theorem policyCommand_not_mem (h : GatewayOthers others) : policyCommand ∉ exports others := by
  intro hmem
  obtain ⟨kv, hkv, hsame⟩ := List.mem_map.1 hmem
  obtain ⟨hname, hne⟩ := h.name_spec hkv
  have hword : "MODELMELD_ROUTING_POLICY".toList ++ '=' :: "capability".toList =
      kv.1.toList ++ '=' :: kv.2.toList := by
    unfold policyCommand exportCommand at hsame
    simp only [List.cons.injEq, and_true, true_and] at hsame
    exact hsame.symm
  rw [List.append_cons_inj_of_notMem (by decide) (by decide)] at hword
  exact hne (String.toList_injective hword.1.symm)

theorem newline_not_mem_exportCommand {name value : List Char} (hname : IsName name)
    (hvalue : '\n' ∉ value) : ∀ w ∈ exportCommand name value, '\n' ∉ w := by
  intro w hw
  unfold exportCommand at hw
  rw [List.mem_cons, List.mem_singleton] at hw
  rcases hw with rfl | rfl
  · decide
  · rw [List.mem_append, List.mem_cons]
    rintro (hmem | hmem | hmem)
    · exact not_mem_of_isName hname (by decide) hmem
    · exact absurd hmem (by decide)
    · exact hvalue hmem

theorem newline_not_mem_exports (h : GatewayOthers others) :
    ∀ command ∈ policyCommand :: exports others, ∀ w ∈ command, '\n' ∉ w := by
  intro command hcommand
  rcases List.mem_cons.1 hcommand with rfl | hmem
  · exact newline_not_mem_exportCommand policy_isName (by decide)
  · obtain ⟨kv, hkv, rfl⟩ := List.mem_map.1 hmem
    exact newline_not_mem_exportCommand (h.name_spec hkv).1 (h.lines kv hkv)

/-- Whatever the keys are, the routing policy comes first. -/
theorem readFrom_policy {commands : List Command}
    (hread : fresh.readFrom (exportLines (("MODELMELD_ROUTING_POLICY", "capability") :: others)) =
      some commands) : ∃ later, commands = policyCommand :: later := by
  have hline : fresh.readFrom (exportLine "MODELMELD_ROUTING_POLICY".toList
      "capability".toList ++ exportLines others) = some commands := hread
  rw [readFrom_exportLine policy_isName (by decide)] at hline
  obtain ⟨later, _, rfl⟩ := Option.map_eq_some_iff.1 hline
  exact ⟨later, rfl⟩

/-- What sourcing the gateway script runs. -/
theorem gateway_runs_iff {target : String} (htarget : OneLine target) (baseUrl : String)
    (h : GatewayOthers others) {script : List Char}
    (hscript : selfHostGatewayEnv target (("MODELMELD_ROUTING_POLICY", "capability") :: others)
      baseUrl = some script) :
    Shell.read script = some (exports (("MODELMELD_ROUTING_POLICY", "capability") :: others)) ↔
      PortQuiet baseUrl ∧
        ∀ kv ∈ ("MODELMELD_ROUTING_POLICY", "capability") :: others, Unquoted kv.2 := by
  have hnames : ∀ kv ∈ ("MODELMELD_ROUTING_POLICY", "capability") :: others,
      IsName kv.1.toList := by
    rw [List.forall_mem_cons]
    exact ⟨policy_isName, fun kv hkv => (h.name_spec hkv).1⟩
  rw [selfHostGatewayEnv_eq target baseUrl (fun kv hkv => h.name_spec hkv),
    Option.some.injEq] at hscript
  rw [← hscript]
  unfold Shell.read
  rw [readFrom_gatewayOpening htarget]
  unfold line
  rw [readFrom_portComment, ← List.cons_append]
  change fresh.readFrom _ = some (policyCommand :: exports others) ↔ _
  rw [readFrom_blank_line_iff _ (policyCommand_not_mem h) (newline_not_mem_exports h),
    readFrom_routingComments]
  · exact and_congr Iff.rfl (exportLines_iff hnames)
  · intro commands hcommands
    rw [readFrom_routingComments] at hcommands
    exact readFrom_policy hcommands

/-- The names are different, and no name has an equals sign. -/
theorem gateway_sets (h : GatewayOthers others) (env : Shell.Env) :
    ∀ kv ∈ ("MODELMELD_ROUTING_POLICY", "capability") :: others,
      (exports (("MODELMELD_ROUTING_POLICY", "capability") :: others)).foldl Shell.Env.exec env
        kv.1 = some kv.2 := by
  refine exec_exports ?_ ?_ env
  · rw [List.forall_mem_cons]
    exact ⟨not_mem_of_isName policy_isName (by decide),
      fun kv hkv => not_mem_of_isName (h.name_spec hkv).1 (by decide)⟩
  · rw [List.map_cons, List.nodup_cons]
    refine ⟨?_, h.names.nodup (by decide)⟩
    intro hmem
    exact (gatewayNames_spec _ (h.names.subset hmem)).2 rfl

end Gateway

/-! ## Both scripts -/

/-- **Sourcing a script reproduces its values iff they stand for themselves where they are
written.** -/
theorem env_scripts_reproduce_iff {target : String} (htarget : OneLine target) :
    (∀ (baseUrl apiKey : String) (byokAnthropic byokOpenai : Option String),
      Reproduces (claudeCodeEnvScript target baseUrl apiKey byokAnthropic byokOpenai)
          (claudeCodeCommands baseUrl apiKey byokAnthropic byokOpenai)
          (claudeCodeVars baseUrl apiKey ++ headerVars byokAnthropic byokOpenai) ↔
        Unquoted baseUrl ∧ Unquoted apiKey ∧ KeysQuoted byokAnthropic byokOpenai) ∧
    ∀ (baseUrl : String) (openrouter fireworks together vllm anthropic openai : Option String)
      (vars : List (String × String)),
      vars = selfHostGatewayEnvVars (argValue openrouter) (argValue fireworks)
        (argValue together) (argValue vllm) (argValue anthropic) (argValue openai) →
      ∃ script, selfHostGatewayEnv target vars baseUrl = some script ∧
        (Reproduces script (exports vars) vars ↔
          PortQuiet baseUrl ∧ ∀ kv ∈ vars, Unquoted kv.2) := by
  constructor
  · intro baseUrl apiKey byokAnthropic byokOpenai
    rw [reproduces_iff (claudeCode_sets baseUrl apiKey byokAnthropic byokOpenai)]
    exact claudeCode_runs_iff htarget baseUrl apiKey byokAnthropic byokOpenai
  · intro baseUrl openrouter fireworks together vllm anthropic openai vars hvars
    obtain ⟨others, heq, hothers⟩ :=
      selfHostGatewayEnvVars_eq openrouter fireworks together vllm anthropic openai
    rw [heq] at hvars
    rw [hvars]
    have hscript := selfHostGatewayEnv_eq target baseUrl (fun kv hkv => hothers.name_spec hkv)
    refine ⟨_, hscript, ?_⟩
    rw [reproduces_iff (gateway_sets hothers)]
    exact gateway_runs_iff htarget baseUrl hothers hscript

theorem env_scripts_reproduce_iff_hosted :
    Reproduces
      (claudeCodeEnvScript "/root/.modelmeld/setup-claude-code.sh" "https://api.modelmeld.ai"
        "gws_1" (some "sk-ant-1") none)
      (claudeCodeCommands "https://api.modelmeld.ai" "gws_1" (some "sk-ant-1") none)
      (claudeCodeVars "https://api.modelmeld.ai" "gws_1" ++ headerVars (some "sk-ant-1") none) := by
  have hpath : OneLine "/root/.modelmeld/setup-claude-code.sh" := by decide
  refine ((env_scripts_reproduce_iff hpath).1 _ _ _ _).2 ⟨by decide, by decide, ?_⟩
  rintro key (hkey | hkey)
  · have hsome : truthyText (some "sk-ant-1") = some "sk-ant-1" := by decide
    rw [hsome, Option.some.injEq] at hkey
    rw [← hkey]
    decide
  · simp [truthyText] at hkey

/-- A key with a blank: what stands after it is another word. -/
theorem blank_key_split :
    ¬Reproduces
      (claudeCodeEnvScript "/root/.modelmeld/setup-claude-code.sh" "https://api.modelmeld.ai"
        (normalize (some "gws_a b")) none none)
      (claudeCodeCommands "https://api.modelmeld.ai" (normalize (some "gws_a b")) none none)
      (claudeCodeVars "https://api.modelmeld.ai" (normalize (some "gws_a b")) ++
        headerVars none none) := by
  have hpath : OneLine "/root/.modelmeld/setup-claude-code.sh" := by decide
  have hkey : ¬Unquoted (normalize (some "gws_a b")) := by decide
  intro h
  exact hkey ((claudeCode_runs_iff hpath _ _ _ _).1 h.runs).2.1

end ModelMeld
