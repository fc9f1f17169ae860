import ModelMeld.Lib.Lines
import ModelMeld.Spec.SemanticText

/-!
# What the text of a request says about its answer

Two requests of one text and one served model can differ in what the answer
depends on: the text leaves parameters and non-text parts out, and its line
breaks may come from the messages. They agree exactly when the parts that are
left out do, and the messages have the same shape (`same_text_agrees_iff`): the
same kinds in the same order, with texts of the same lengths.
-/

namespace ModelMeld

/-! ## What an answer depends on -/

/-- A message that has a line in the text, by its kind. -/
inductive Speaker where
  | system | user | tool
deriving DecidableEq

/-- A piece of content: a text, or a part that is none. -/
inductive Piece where
  | text (s : String)
  | part (p : ContentPart)
deriving DecidableEq

def ContentPart.piece : ContentPart → Piece
  | .text p => .text p.text
  | .image url => .part (.image url)
  | .audio input => .part (.audio input)

/-- The pieces of a content. -/
def Content.pieces {P : Type} (piece : P → Piece) : Content P → List Piece
  | .str s => [.text s]
  | .parts ps => ps.map piece

def TextPart.piece (p : TextPart) : Piece := .text p.text

/-- What a message other than the assistant's says. -/
def Message.said : Message → Option (Speaker × List Piece)
  | .system m => some (.system, m.content.pieces TextPart.piece)
  | .user m => some (.user, m.content.pieces ContentPart.piece)
  | .tool m => some (.tool, m.content.pieces TextPart.piece)
  | .assistant _ => none

/-- The system, user and tool messages, each with its pieces. -/
def ChatCompletionRequest.said (r : ChatCompletionRequest) : List (Speaker × List Piece) :=
  r.messages.filterMap Message.said

/-- The parameters the text leaves out are the same. -/
structure SameOmitted (r r' : ChatCompletionRequest) : Prop where
  stop : r.stop = r'.stop
  frequencyPenalty : r.frequencyPenalty = r'.frequencyPenalty
  presencePenalty : r.presencePenalty = r'.presencePenalty
  logitBias : Option.Rel List.Perm r.logitBias r'.logitBias
  reasoningEffort : r.reasoningEffort = r'.reasoningEffort

/-- Two requests agree on everything that affects the answer. -/
structure AgreeOnAnswer (r r' : ChatCompletionRequest) : Prop where
  said : r.said = r'.said
  omitted : SameOmitted r r'
  temperature : r.temperature = r'.temperature
  topP : r.topP = r'.topP
  maxTokens : r.maxTokens = r'.maxTokens
  maxCompletionTokens : r.maxCompletionTokens = r'.maxCompletionTokens
  responseFormat : r.responseFormat = r'.responseFormat
  seed : r.seed = r'.seed

/-- A piece of which only the length of the text is known. -/
inductive PieceShape where
  | text (length : ℕ)
  | part (p : ContentPart)
deriving DecidableEq

def Piece.shape : Piece → PieceShape
  | .text s => .text s.length
  | .part p => .part p

/-- The shape of the messages: their kinds, the lengths of their texts and their other parts. -/
def ChatCompletionRequest.shape (r : ChatCompletionRequest) : List (Speaker × List PieceShape) :=
  r.said.map (fun m => (m.1, m.2.map Piece.shape))

/-- The `str` of the values of two requests is one line each and tells them apart. -/
structure TellsApart (t : ValueText) (r r' : ChatCompletionRequest) : Prop where
  temperature : r.temperature.map t.float = r'.temperature.map t.float → r.temperature = r'.temperature
  topP : r.topP.map t.float = r'.topP.map t.float → r.topP = r'.topP
  responseFormat : r.responseFormat.map t.responseFormat = r'.responseFormat.map t.responseFormat →
    r.responseFormat = r'.responseFormat
  float : ∀ q, '\n' ∉ (t.float q).toList
  format : ∀ f, '\n' ∉ (t.responseFormat f).toList

/-! ## Lines -/

theorem toList_join (lines : List String) (h : lines ≠ []) :
    (join "\n" lines).toList ++ ['\n'] = Lines.terminated '\n' (lines.map String.toList) := by
  induction lines with
  | nil => exact absurd rfl h
  | cons l lines ih =>
    cases lines with
    | nil => simp [join, Lines.terminated]
    | cons m lines =>
      rw [List.map_cons, Lines.terminated_cons, ← ih (List.cons_ne_nil _ _), join,
        String.toList_append, String.toList_append, List.append_assoc, List.append_assoc]
      · rfl
      · exact List.cons_ne_nil _ _

/-- Where one text has no line at all, the other has none but empty ones. -/
theorem lines_eq_nil_of_join_eq {lines : List String} (h : join "\n" lines = "")
    (hne : ∀ l ∈ lines, l ≠ "") : lines = [] := by
  cases lines with
  | nil => rfl
  | cons l lines =>
    have hl := hne l List.mem_cons_self
    exfalso
    apply hl
    cases lines with
    | nil => exact h
    | cons m lines =>
      have hlists := congrArg String.toList h
      simp [join] at hlists

/-! ## Numbers -/

theorem toString_int_cases (n : ℤ) :
    (∃ m : ℕ, n = m ∧ (toString n).toList = Nat.toDigits 10 m) ∨
      ∃ m : ℕ, n = -(m + 1) ∧ (toString n).toList = '-' :: Nat.toDigits 10 (m + 1) := by
  cases n with
  | ofNat m =>
    left
    refine ⟨m, rfl, ?_⟩
    change (Nat.repr m).toList = _
    rw [Nat.toList_repr]
  | negSucc m =>
    right
    refine ⟨m, by omega, ?_⟩
    change ("-" ++ Nat.repr (m + 1)).toList = _
    rw [String.toList_append, Nat.toList_repr]
    rfl

theorem digits_injective {m n : ℕ} (h : Nat.toDigits 10 m = Nat.toDigits 10 n) : m = n := by
  have hread := congrArg (fun ds => Nat.ofDigitChars 10 ds 0) h
  simpa only [Nat.ofDigitChars_ten_toDigits] using hread

theorem not_mem_digits {c : Char} (hc : c.isDigit = false) (n : ℕ) : c ∉ Nat.toDigits 10 n := by
  intro hmem
  have hdigit := Nat.isDigit_of_mem_toDigits (by decide) (by decide) hmem
  rw [hc] at hdigit
  cases hdigit

theorem toString_int_injective {m n : ℤ} (h : toString m = toString n) : m = n := by
  have hlists := congrArg String.toList h
  have hsign : ∀ j k : ℕ, Nat.toDigits 10 j ≠ '-' :: Nat.toDigits 10 k := fun j k heq =>
    not_mem_digits (c := '-') (by decide) j (heq ▸ List.mem_cons_self)
  rcases toString_int_cases m with ⟨j, rfl, hj⟩ | ⟨j, rfl, hj⟩
  · rcases toString_int_cases n with ⟨k, rfl, hk⟩ | ⟨k, rfl, hk⟩
    · rw [hj, hk] at hlists
      rw [digits_injective hlists]
    · rw [hj, hk] at hlists
      exact absurd hlists (hsign _ _)
  · rcases toString_int_cases n with ⟨k, rfl, hk⟩ | ⟨k, rfl, hk⟩
    · rw [hj, hk] at hlists
      exact absurd hlists.symm (hsign _ _)
    · rw [hj, hk] at hlists
      have hjk := digits_injective (List.cons.inj hlists).2
      omega

theorem toString_int_one_line (n : ℤ) : '\n' ∉ (toString n).toList := by
  rcases toString_int_cases n with ⟨m, -, hm⟩ | ⟨m, -, hm⟩
  · rw [hm]
    exact not_mem_digits (by decide) m
  · rw [hm, List.mem_cons, not_or]
    exact ⟨by decide, not_mem_digits (by decide) (m + 1)⟩

/-! ## Hyperparameters -/

variable {t : ValueText} {r r' : ChatCompletionRequest}

/-- A line tells the name it is of, and the value. -/
theorem hyperparameterLine_inj {name name' value value' : String} (h : '=' ∉ name.toList)
    (h' : '=' ∉ name'.toList) (heq : name ++ "=" ++ value = name' ++ "=" ++ value') :
    name = name' ∧ value = value' := by
  have hlists := congrArg String.toList heq
  simp only [String.toList_append, List.append_assoc] at hlists
  obtain ⟨hname, hvalue⟩ := Lines.before_sep_inj h h' hlists
  exact ⟨String.toList_inj.mp hname, String.toList_inj.mp hvalue⟩

theorem name_mem_of_line_mem {ps : List (String × Option String)} {name value : String}
    (hname : '=' ∉ name.toList) (hps : ∀ p ∈ ps.map Prod.fst, '=' ∉ p.toList)
    (h : name ++ "=" ++ value ∈ ps.filterMap hyperparameterLine) : name ∈ ps.map Prod.fst := by
  obtain ⟨p, hp, hline⟩ := List.mem_filterMap.mp h
  obtain ⟨value', -, heq⟩ := Option.map_eq_some_iff.mp hline
  have hmem : p.1 ∈ ps.map Prod.fst := List.mem_map_of_mem hp
  obtain ⟨rfl, -⟩ := hyperparameterLine_inj (hps p.1 hmem) hname heq
  exact hmem

/-- The lines of named values, where no name stands twice, tell the values. -/
theorem values_of_lines : ∀ {ps qs : List (String × Option String)},
    ps.map Prod.fst = qs.map Prod.fst → (ps.map Prod.fst).Nodup →
    (∀ name ∈ ps.map Prod.fst, '=' ∉ name.toList) →
    ps.filterMap hyperparameterLine = qs.filterMap hyperparameterLine → ps = qs := by
  intro ps
  induction ps with
  | nil =>
    intro qs hnames _ _ _
    cases qs with
    | nil => rfl
    | cons q qs => cases hnames
  | cons p ps ih =>
    intro qs hnames hnodup hnoeq hlines
    cases qs with
    | nil => cases hnames
    | cons q qs =>
      obtain ⟨name, value⟩ := p
      obtain ⟨name', value'⟩ := q
      obtain ⟨hname, hrest⟩ := List.cons.inj hnames
      have hname : name = name' := hname
      subst hname
      rw [List.map_cons, List.nodup_cons] at hnodup
      have hone : '=' ∉ name.toList := hnoeq name List.mem_cons_self
      have hmany : ∀ n ∈ ps.map Prod.fst, '=' ∉ n.toList := fun n hn =>
        hnoeq n (List.mem_cons_of_mem _ hn)
      have hih := ih hrest hnodup.2 hmany
      cases value with
      | none =>
        cases value' with
        | none => rw [hih hlines]
        | some v' =>
          -- the other request's line of the name would be of a later name here
          have hmem : name ++ "=" ++ v' ∈ ps.filterMap hyperparameterLine := by
            have hlines : ps.filterMap hyperparameterLine =
              (name ++ "=" ++ v') :: qs.filterMap hyperparameterLine := hlines
            rw [hlines]
            exact List.mem_cons_self
          exact absurd (name_mem_of_line_mem hone hmany hmem) hnodup.1
      | some v =>
        cases value' with
        | none =>
          have hmem : name ++ "=" ++ v ∈ qs.filterMap hyperparameterLine := by
            have hlines : (name ++ "=" ++ v) :: ps.filterMap hyperparameterLine =
              qs.filterMap hyperparameterLine := hlines
            rw [← hlines]
            exact List.mem_cons_self
          have hlater := name_mem_of_line_mem hone (hrest ▸ hmany) hmem
          exact absurd (hrest ▸ hlater) hnodup.1
        | some v' =>
          obtain ⟨hfirst, hlater⟩ := List.cons.inj hlines
          obtain ⟨-, hvalue⟩ := hyperparameterLine_inj hone hone hfirst
          rw [hvalue, hih hlater]

/-- Equal lines of hyperparameters come from equal values. -/
theorem hyperparameters_of_lines (htells : TellsApart t r r')
    (h : (hyperparameters t r).filterMap hyperparameterLine =
      (hyperparameters t r').filterMap hyperparameterLine) :
    r.temperature = r'.temperature ∧ r.topP = r'.topP ∧ r.maxTokens = r'.maxTokens ∧
      r.maxCompletionTokens = r'.maxCompletionTokens ∧ r.responseFormat = r'.responseFormat ∧
      r.seed = r'.seed := by
  have hnames : (hyperparameters t r).map Prod.fst = (hyperparameters t r').map Prod.fst := rfl
  have hall : hyperparameters t r = hyperparameters t r' :=
    values_of_lines hnames (by simp [hyperparameters]) (by simp [hyperparameters]) h
  simp only [hyperparameters, List.cons.injEq, Prod.mk.injEq, true_and, and_true] at hall
  obtain ⟨htemperature, htopP, hcompletion, hmax, hformat, hseed⟩ := hall
  have hint : ∀ {x y : Option ℤ}, x.map toString = y.map toString → x = y :=
    fun heq => Option.map_injective (fun _ _ => toString_int_injective) heq
  exact ⟨htells.temperature htemperature, htells.topP htopP, hint hmax, hint hcompletion,
    htells.responseFormat hformat, hint hseed⟩

/-! ## Messages -/

def Speaker.tag : Speaker → String
  | .system => "[system] "
  | .user => "[user] "
  | .tool => "[tool] "

def Piece.text? : Piece → Option String
  | .text s => some s
  | .part _ => none

/-- The line of a message, by what it says. -/
def saidLine (m : Speaker × List Piece) : String := m.1.tag ++ join " " (m.2.filterMap Piece.text?)

theorem plainText_eq (content : Content TextPart) :
    plainText content = join " " ((content.pieces TextPart.piece).filterMap Piece.text?) := by
  cases content with
  | str s => rfl
  | parts ps =>
    simp only [plainText, Content.pieces, List.filterMap_map]
    congr 1
    induction ps with
    | nil => rfl
    | cons p ps ih => rw [List.map_cons, ih]; rfl

theorem userText_eq (content : Content ContentPart) :
    userText content = join " " ((content.pieces ContentPart.piece).filterMap Piece.text?) := by
  cases content with
  | str s => rfl
  | parts ps =>
    simp only [userText, Content.pieces, List.filterMap_map]
    congr 1
    apply List.filterMap_congr
    intro p _
    cases p <;> rfl

theorem line_eq (m : Message) : m.line = m.said.map saidLine := by
  cases m with
  | system m => simp only [Message.line, plainText_eq]; rfl
  | user m => simp only [Message.line, userText_eq]; rfl
  | tool m => simp only [Message.line, plainText_eq]; rfl
  | assistant m => rfl

theorem lines_eq (r : ChatCompletionRequest) :
    r.messages.filterMap Message.line = r.said.map saidLine := by
  unfold ChatCompletionRequest.said
  rw [List.map_filterMap]
  exact List.filterMap_congr (fun m _ => line_eq m)

/-- Texts of known lengths, joined, are read back. -/
theorem join_inj_of_lengths {sep : String} : ∀ {xs ys : List String},
    xs.map String.length = ys.map String.length → join sep xs = join sep ys → xs = ys := by
  intro xs
  induction xs with
  | nil =>
    intro ys hlen _
    cases ys with
    | nil => rfl
    | cons y ys => cases hlen
  | cons x xs ih =>
    intro ys hlen h
    cases ys with
    | nil => cases hlen
    | cons y ys =>
      obtain ⟨hhead, htail⟩ := List.cons.inj hlen
      cases xs with
      | nil =>
        cases ys with
        | nil => rw [show x = y from h]
        | cons y' ys => cases htail
      | cons x' xs =>
        cases ys with
        | nil => cases htail
        | cons y' ys =>
          have hlists := congrArg String.toList h
          simp only [join, String.toList_append, List.append_assoc] at hlists
          obtain ⟨hxy, hrest⟩ := List.append_inj hlists
            (by rw [String.length_toList, String.length_toList]; exact hhead)
          have hrest := String.toList_inj.mp (List.append_cancel_left hrest)
          rw [String.toList_inj.mp hxy, ih htail hrest]

theorem length_join_of_lengths {sep : String} {xs ys : List String}
    (hlen : xs.map String.length = ys.map String.length) :
    (join sep xs).length = (join sep ys).length := by
  have hsize : xs.length = ys.length := by
    have hcount := congrArg List.length hlen
    rwa [List.length_map, List.length_map] at hcount
  rw [length_join, length_join, hlen, hsize]

/-- Pieces of one shape have texts of the same lengths. -/
theorem lengths_of_shapes : ∀ {ps qs : List Piece}, ps.map Piece.shape = qs.map Piece.shape →
    (ps.filterMap Piece.text?).map String.length = (qs.filterMap Piece.text?).map String.length := by
  intro ps
  induction ps with
  | nil =>
    intro qs h
    cases qs with
    | nil => rfl
    | cons q qs => cases h
  | cons p ps ih =>
    intro qs h
    cases qs with
    | nil => cases h
    | cons q qs =>
      obtain ⟨hhead, htail⟩ := List.cons.inj h
      have hrest := ih htail
      cases p with
      | text s =>
        cases q with
        | text s' =>
          have hlen : s.length = s'.length := PieceShape.text.inj hhead
          simp only [List.filterMap_cons, Piece.text?, List.map_cons, hlen, hrest]
        | part q => cases hhead
      | part p =>
        cases q with
        | text s' => cases hhead
        | part q => exact hrest

/-- Pieces of one shape with the same texts are the same. -/
theorem pieces_of_texts : ∀ {ps qs : List Piece}, ps.map Piece.shape = qs.map Piece.shape →
    ps.filterMap Piece.text? = qs.filterMap Piece.text? → ps = qs := by
  intro ps
  induction ps with
  | nil =>
    intro qs h _
    cases qs with
    | nil => rfl
    | cons q qs => cases h
  | cons p ps ih =>
    intro qs h htexts
    cases qs with
    | nil => cases h
    | cons q qs =>
      obtain ⟨hhead, htail⟩ := List.cons.inj h
      cases p with
      | text s =>
        cases q with
        | text s' =>
          obtain ⟨hs, hrest⟩ := List.cons.inj htexts
          rw [show s = s' from hs, ih htail hrest]
        | part q => cases hhead
      | part p =>
        cases q with
        | text s' => cases hhead
        | part q =>
          have hpq : p = q := PieceShape.part.inj hhead
          rw [hpq, ih htail htexts]

theorem length_saidLine {m n : Speaker × List Piece} (hspeaker : m.1 = n.1)
    (hshape : m.2.map Piece.shape = n.2.map Piece.shape) :
    (saidLine m).length = (saidLine n).length := by
  have hjoin : (join " " (m.2.filterMap Piece.text?)).length =
      (join " " (n.2.filterMap Piece.text?)).length :=
    length_join_of_lengths (lengths_of_shapes hshape)
  simp only [saidLine, String.length_append, hspeaker, hjoin]

/-- The messages of one shape have lines of the same lengths. -/
theorem length_lines_of_shape : ∀ {ms ns : List (Speaker × List Piece)},
    ms.map (fun m => (m.1, m.2.map Piece.shape)) = ns.map (fun m => (m.1, m.2.map Piece.shape)) →
    (ms.map saidLine).map String.length = (ns.map saidLine).map String.length := by
  intro ms
  induction ms with
  | nil =>
    intro ns h
    cases ns with
    | nil => rfl
    | cons n ns => cases h
  | cons m ms ih =>
    intro ns h
    cases ns with
    | nil => cases h
    | cons n ns =>
      obtain ⟨hhead, htail⟩ := List.cons.inj h
      obtain ⟨hspeaker, hshape⟩ := Prod.mk.inj hhead
      have hrest := ih htail
      simp only [List.map_cons, length_saidLine hspeaker hshape, hrest]

/-- Messages of one shape with the same lines say the same. -/
theorem said_of_lines : ∀ {ms ns : List (Speaker × List Piece)},
    ms.map (fun m => (m.1, m.2.map Piece.shape)) = ns.map (fun m => (m.1, m.2.map Piece.shape)) →
    ms.map saidLine = ns.map saidLine → ms = ns := by
  intro ms
  induction ms with
  | nil =>
    intro ns h _
    cases ns with
    | nil => rfl
    | cons n ns => cases h
  | cons m ms ih =>
    intro ns h hlines
    cases ns with
    | nil => cases h
    | cons n ns =>
      obtain ⟨speaker, pieces⟩ := m
      obtain ⟨speaker', pieces'⟩ := n
      obtain ⟨hhead, htail⟩ := List.cons.inj h
      obtain ⟨hspeaker, hshape⟩ := Prod.mk.inj hhead
      obtain ⟨hline, hrest⟩ := List.cons.inj hlines
      have hspeaker : speaker = speaker' := hspeaker
      subst hspeaker
      have hlists := congrArg String.toList hline
      simp only [saidLine, String.toList_append] at hlists
      have hjoin := String.toList_inj.mp (List.append_cancel_left hlists)
      have htexts := join_inj_of_lengths (lengths_of_shapes hshape) hjoin
      have hpieces : pieces = pieces' := pieces_of_texts hshape htexts
      rw [hpieces, ih htail hrest]

/-! ## The text -/

theorem hyperparameterLine_one_line (htells : TellsApart t r r') (s : ChatCompletionRequest)
    {line : String} (h : line ∈ (hyperparameters t s).filterMap hyperparameterLine) :
    '\n' ∉ line.toList := by
  obtain ⟨⟨name, value⟩, hp, hline⟩ := List.mem_filterMap.mp h
  obtain ⟨v, hv, rfl⟩ := Option.map_eq_some_iff.mp hline
  have hname : '\n' ∉ (name ++ "=").toList := by
    simp only [hyperparameters, List.mem_cons, Prod.mk.injEq, List.not_mem_nil, or_false] at hp
    rcases hp with ⟨rfl, -⟩ | ⟨rfl, -⟩ | ⟨rfl, -⟩ | ⟨rfl, -⟩ | ⟨rfl, -⟩ | ⟨rfl, -⟩ <;> decide
  have hvalue : '\n' ∉ v.toList := by
    have hsome : value = some v := hv
    subst hsome
    have hint : ∀ o : Option ℤ, some v = o.map toString → '\n' ∉ v.toList := by
      intro o ho
      obtain ⟨n, -, rfl⟩ := Option.map_eq_some_iff.mp ho.symm
      exact toString_int_one_line n
    have hfloat : ∀ o : Option ℚ, some v = o.map t.float → '\n' ∉ v.toList := by
      intro o ho
      obtain ⟨q, -, rfl⟩ := Option.map_eq_some_iff.mp ho.symm
      exact htells.float q
    simp only [hyperparameters, List.mem_cons, Prod.mk.injEq, List.not_mem_nil, or_false] at hp
    rcases hp with ⟨-, h⟩ | ⟨-, h⟩ | ⟨-, h⟩ | ⟨-, h⟩ | ⟨-, h⟩ | ⟨-, h⟩
    · exact hfloat _ h
    · exact hfloat _ h
    · exact hint _ h
    · exact hint _ h
    · obtain ⟨f, -, rfl⟩ := Option.map_eq_some_iff.mp h.symm
      exact htells.format f
    · exact hint _ h
  rw [String.toList_append, List.mem_append, not_or]
  exact ⟨hname, hvalue⟩

theorem mem_textLines_ne_empty {servedModel : Option String} {line : String}
    (h : line ∈ textLines t r servedModel) : line ≠ "" := by
  unfold textLines at h
  rw [lines_eq, List.mem_append, List.mem_append] at h
  rcases h with (hmodel | hmessage) | hvalue
  · split at hmodel
    · cases hmodel
    · rw [List.mem_singleton] at hmodel
      simp [hmodel]
  · obtain ⟨⟨speaker, pieces⟩, -, rfl⟩ := List.mem_map.mp hmessage
    cases speaker <;> simp [saidLine, Speaker.tag]
  · obtain ⟨p, -, hline⟩ := List.mem_filterMap.mp hvalue
    obtain ⟨v, -, rfl⟩ := Option.map_eq_some_iff.mp hline
    simp

/-- Lines of one text, ended each, are the same text. -/
theorem terminated_of_text {servedModel : Option String}
    (h : canonicalizeRequestText t r servedModel = canonicalizeRequestText t r' servedModel) :
    Lines.terminated '\n' ((textLines t r servedModel).map String.toList) =
      Lines.terminated '\n' ((textLines t r' servedModel).map String.toList) := by
  by_cases hnil : textLines t r servedModel = []
  · have hempty : canonicalizeRequestText t r' servedModel = "" := by
      rw [← h, canonicalizeRequestText, hnil]
      rfl
    have hnil' : textLines t r' servedModel = [] :=
      lines_eq_nil_of_join_eq hempty (fun _ hl => mem_textLines_ne_empty hl)
    rw [hnil, hnil']
  · have hnil' : textLines t r' servedModel ≠ [] := by
      intro heq
      apply hnil
      have hempty : canonicalizeRequestText t r servedModel = "" := by
        rw [h, canonicalizeRequestText, heq]
        rfl
      exact lines_eq_nil_of_join_eq hempty (fun _ hl => mem_textLines_ne_empty hl)
    rw [← toList_join _ hnil, ← toList_join _ hnil']
    exact congrArg (fun s : String => s.toList ++ ['\n']) h

theorem map_toList_injective {ls ms : List String}
    (h : ls.map String.toList = ms.map String.toList) : ls = ms :=
  List.map_injective_iff.mpr (fun _ _ heq => String.toList_inj.mp heq) h

/-- The lines of one text, where the messages have lines of the same lengths. -/
theorem lines_of_text {servedModel : Option String} (htells : TellsApart t r r')
    (htext : canonicalizeRequestText t r servedModel = canonicalizeRequestText t r' servedModel)
    (hlen : (r.said.map saidLine).map String.length = (r'.said.map saidLine).map String.length) :
    r.said.map saidLine = r'.said.map saidLine ∧
      (hyperparameters t r).filterMap hyperparameterLine =
        (hyperparameters t r').filterMap hyperparameterLine := by
  have hsplit : ∀ s : ChatCompletionRequest, (textLines t s servedModel).map String.toList =
      ((if servedModel.getD "" = "" then [] else ["model=" ++ servedModel.getD ""]) ++
        s.said.map saidLine).map String.toList ++
      ((hyperparameters t s).filterMap hyperparameterLine).map String.toList := by
    intro s
    rw [← List.map_append, ← lines_eq]
    rfl
  have hterminated := terminated_of_text htext
  rw [hsplit r, hsplit r'] at hterminated
  have hsame : (((if servedModel.getD "" = "" then [] else ["model=" ++ servedModel.getD ""]) ++
      r.said.map saidLine).map String.toList).map List.length =
      (((if servedModel.getD "" = "" then [] else ["model=" ++ servedModel.getD ""]) ++
        r'.said.map saidLine).map String.toList).map List.length := by
    have hlen' : (r.said.map saidLine).map (List.length ∘ String.toList) =
        (r'.said.map saidLine).map (List.length ∘ String.toList) := by
      simpa only [Function.comp_def, String.length_toList] using hlen
    rw [List.map_map, List.map_map, List.map_append, List.map_append, hlen']
  obtain ⟨hmessages, hvalues⟩ := Lines.terminated_append_inj hsame hterminated
  have hlines := List.append_cancel_left (map_toList_injective hmessages)
  have hone : ∀ s : ChatCompletionRequest,
      ∀ l ∈ ((hyperparameters t s).filterMap hyperparameterLine).map String.toList, '\n' ∉ l := by
    intro s l hl
    obtain ⟨line, hline, rfl⟩ := List.mem_map.mp hl
    exact hyperparameterLine_one_line htells s hline
  exact ⟨hlines, map_toList_injective (Lines.terminated_inj (hone r) (hone r') hvalues)⟩

/-- **Two requests of one text and one served model agree on what affects the answer exactly when
the parameters the text leaves out are the same and the messages have the same shape.** -/
theorem same_text_agrees_iff (t : ValueText) (servedModel : Option String)
    (r r' : ChatCompletionRequest) (htells : TellsApart t r r')
    (htext : canonicalizeRequestText t r servedModel = canonicalizeRequestText t r' servedModel) :
    AgreeOnAnswer r r' ↔ SameOmitted r r' ∧ r.shape = r'.shape := by
  constructor
  · intro hagree
    refine ⟨hagree.omitted, ?_⟩
    unfold ChatCompletionRequest.shape
    rw [hagree.said]
  · rintro ⟨homitted, hshape⟩
    have hlen := length_lines_of_shape hshape
    obtain ⟨hlines, hvalues⟩ := lines_of_text htells htext hlen
    obtain ⟨htemperature, htopP, hmax, hcompletion, hformat, hseed⟩ :=
      hyperparameters_of_lines htells hvalues
    exact
      { said := said_of_lines hshape hlines
        omitted := homitted
        temperature := htemperature
        topP := htopP
        maxTokens := hmax
        maxCompletionTokens := hcompletion
        responseFormat := hformat
        seed := hseed }

/-- `str` of an integral `float` and of a format without a schema. -/
def plainValueText : ValueText where
  float := fun q => toString q.num ++ ".0"
  responseFormat := fun f => "type='" ++ f.type.value ++ "' json_schema=None"

def haikuRequest (stop : Option Stop) : ChatCompletionRequest :=
  { model := "auto", messages := [.user { content := .str "a haiku" }], temperature := some 0,
    stop := stop }

theorem haiku_tellsApart (stop stop' : Option Stop) :
    TellsApart plainValueText (haikuRequest stop) (haikuRequest stop') where
  temperature := fun _ => rfl
  topP := fun _ => rfl
  responseFormat := fun _ => rfl
  float := by
    intro q
    have hdot : '\n' ∉ ".0".toList := by decide
    rw [plainValueText, String.toList_append, List.mem_append, not_or]
    exact ⟨toString_int_one_line _, hdot⟩
  format := by
    rintro ⟨type, schema⟩
    cases type <;> simp [plainValueText, ResponseFormatType.value]

theorem same_text_agrees_iff_haiku :
    AgreeOnAnswer (haikuRequest (some (.one "END"))) (haikuRequest none) ↔
      SameOmitted (haikuRequest (some (.one "END"))) (haikuRequest none) ∧
        (haikuRequest (some (.one "END"))).shape = (haikuRequest none).shape :=
  same_text_agrees_iff plainValueText (some "qwen3-coder") _ _ (haiku_tellsApart _ _) rfl

/-- One text of two requests: one is to stop at a word, the other is not. And one text of a message
with a line break and of two messages. -/
theorem one_text_two_answers :
    (isRequestSemanticallyCacheable (haikuRequest (some (.one "END"))) = true ∧
      isRequestSemanticallyCacheable (haikuRequest none) = true ∧
      canonicalizeRequestText plainValueText (haikuRequest (some (.one "END"))) (some "qwen3-coder") =
        canonicalizeRequestText plainValueText (haikuRequest none) (some "qwen3-coder") ∧
      ¬ AgreeOnAnswer (haikuRequest (some (.one "END"))) (haikuRequest none)) ∧
    ∃ r r' : ChatCompletionRequest, isRequestSemanticallyCacheable r = true ∧
      isRequestSemanticallyCacheable r' = true ∧
      canonicalizeRequestText plainValueText r none = canonicalizeRequestText plainValueText r' none ∧
      r.said ≠ r'.said := by
  refine ⟨⟨rfl, rfl, rfl, fun h => ?_⟩, ?_⟩
  · have hstop := h.omitted.stop
    cases hstop
  · refine ⟨{ model := "auto", messages := [.user { content := .str "yes\n[user] no" }] },
      { model := "auto", messages := [.user { content := .str "yes" },
        .user { content := .str "no" }] }, rfl, rfl, by decide, by decide⟩

end ModelMeld
