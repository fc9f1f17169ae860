import ModelMeld.Spec.SseFrames

/-!
# What is written as JSON is read back

A value is written as tokens that can be told apart, so its text is read as
those tokens; and they are read as the value, where no object in it has a key
twice. Whatever the text, the strings of the value that is read are among the
strings of the text.

* `loadsJson_dumpsJson`: `json.loads` of a dump is the value;
* `within_of_loadsJson`: the strings of a value that is read are those of its text;
* `within_iff_dumpsJson`: beyond ASCII a dump has the characters of its strings.
-/

namespace ModelMeld

open JsonTokens

variable {F : FloatText}

/-! ## Words -/

theorem mem_intText {n : ℤ} {c : Char} (h : c ∈ intText n) : c.isDigit = true ∨ c = '-' := by
  cases n with
  | ofNat n => exact Or.inl (Nat.isDigit_of_mem_toDigits (by decide) (by decide) h)
  | negSucc n =>
    rcases List.mem_cons.1 h with h | h
    · exact Or.inr h
    · exact Or.inl (Nat.isDigit_of_mem_toDigits (by decide) (by decide) h)

theorem intText_ne_nil (n : ℤ) : intText n ≠ [] := by
  cases n with
  | ofNat n => exact Nat.toDigits_ne_nil
  | negSucc n => exact List.cons_ne_nil _ _

theorem isWordChar_of_isDigit {c : Char} (h : c.isDigit = true) : isWordChar c = true := by
  unfold isWordChar Char.isAlphanum
  simp [h]

theorem intText_word (n : ℤ) : ∀ c ∈ intText n, isWordChar c = true := by
  intro c hc
  rcases mem_intText hc with h | rfl
  · exact isWordChar_of_isDigit h
  · decide

theorem print_word (F : FloatText) (q : ℚ) : ∀ c ∈ F.print q, isWordChar c = true := by
  intro c hc
  rcases (F.printed q).2 c hc with h | rfl | rfl | rfl | rfl
  · exact isWordChar_of_isDigit h
  · decide
  · decide
  · decide
  · decide

theorem signedDigits_intText (n : ℤ) : signedDigits (intText n) = n := by
  cases n with
  | ofNat n =>
    have hplain : ∀ ds : List Char, '-' ∉ ds →
        signedDigits ds = (Nat.ofDigitChars 10 ds 0 : ℕ) := by
      intro ds hds
      cases ds with
      | nil => rfl
      | cons d ds =>
        have hd : d ≠ '-' := fun h => hds (h ▸ List.mem_cons_self)
        unfold signedDigits
        split
        · rename_i heq
          exact absurd (List.cons.inj heq).1 hd
        · rfl
    have hminus : '-' ∉ Nat.toDigits 10 n := by
      intro h
      have hdigit := Nat.isDigit_of_mem_toDigits (by decide) (by decide) h
      exact absurd hdigit (by decide)
    have htext : intText (.ofNat n) = Nat.toDigits 10 n := rfl
    rw [htext, hplain _ hminus, Nat.ofDigitChars_ten_toDigits]
    rfl
  | negSucc n =>
    have htext : signedDigits (intText (.negSucc n)) =
        -((Nat.ofDigitChars 10 (Nat.toDigits 10 (n + 1)) 0 : ℕ) : ℤ) := rfl
    rw [htext, Nat.ofDigitChars_ten_toDigits]
    rfl

theorem readInt_intText (n : ℤ) : readInt (intText n) = some n := by
  unfold readInt
  rw [signedDigits_intText, if_pos (Or.inl rfl)]

/-- A float has a point or an exponent, which no integer has. -/
theorem readInt_print (F : FloatText) (q : ℚ) : readInt (F.print q) = none := by
  have hmark : ∃ c ∈ F.print q, c.isDigit = false ∧ c ≠ '-' := by
    rcases F.marked q with h | h
    · exact ⟨'.', h, by decide, by decide⟩
    · exact ⟨'e', h, by decide, by decide⟩
  obtain ⟨c, hc, hdigit, hminus⟩ := hmark
  unfold readInt
  rw [if_neg]
  rintro (h | h)
  · rw [h] at hc
    rcases mem_intText hc with hc | hc
    · rw [hc] at hdigit
      cases hdigit
    · exact hminus hc
  · rw [h] at hc
    simp only [List.mem_cons, List.not_mem_nil, or_false] at hc
    rcases hc with rfl | rfl
    · exact hminus rfl
    · exact absurd hdigit (by decide)

theorem wordValue_intText (F : FloatText) (n : ℤ) : wordValue F (intText n) = some (.int n) := by
  have hne : ∀ (c : Char) (w : List Char), c.isDigit = false → c ≠ '-' → intText n ≠ c :: w := by
    intro c w hdigit hminus h
    have hc : c ∈ intText n := h ▸ List.mem_cons_self
    rcases mem_intText hc with hc | hc
    · rw [hc] at hdigit
      cases hdigit
    · exact hminus hc
  unfold wordValue
  rw [if_neg (hne _ _ (by decide) (by decide)), if_neg (hne _ _ (by decide) (by decide)),
    if_neg (hne _ _ (by decide) (by decide)), readInt_intText]

theorem wordValue_print (F : FloatText) (q : ℚ) : wordValue F (F.print q) = some (.float q) := by
  have hne : ∀ (c : Char) (w : List Char),
      ¬ (c.isDigit = true ∨ c = '+' ∨ c = '-' ∨ c = '.' ∨ c = 'e') → F.print q ≠ c :: w := by
    intro c w hno h
    have hc : c ∈ F.print q := h ▸ List.mem_cons_self
    exact hno ((F.printed q).2 c hc)
  unfold wordValue
  rw [if_neg (hne _ _ (by decide)), if_neg (hne _ _ (by decide)), if_neg (hne _ _ (by decide)),
    readInt_print, F.read_print]
  rfl

/-! ## Tokens that can be told apart -/

namespace Json

mutual

theorem separated_tokens (F : FloatText) : ∀ (v : Json) (rest : List Token),
    Separated true rest → Separated false (v.tokens F ++ rest)
  | .null, rest, h => ⟨rfl, by decide, List.all_eq_true.1 (by decide), h⟩
  | .bool true, rest, h => ⟨rfl, by decide, List.all_eq_true.1 (by decide), h⟩
  | .bool false, rest, h => ⟨rfl, by decide, List.all_eq_true.1 (by decide), h⟩
  | .int n, rest, h => ⟨rfl, intText_ne_nil n, intText_word n, h⟩
  | .float q, rest, h => ⟨rfl, (F.printed q).1, print_word F q, h⟩
  | .str s, rest, h => (h.of_afterWord : Separated false rest)
  | .arr items, rest, h => ⟨by decide, separated_itemTokens F items rest (h.of_afterWord)⟩
  | .obj fields, rest, h => ⟨by decide, separated_fieldTokens F fields rest (h.of_afterWord)⟩

theorem separated_itemTokens (F : FloatText) : ∀ (items : List Json) (rest : List Token),
    Separated false rest → Separated false (itemTokens F items ++ rest)
  | [], rest, h => ⟨by decide, h⟩
  | item :: items, rest, h => by
    have hmore := separated_moreItems F items rest h
    rw [itemTokens, List.append_assoc]
    exact separated_tokens F item _ hmore

theorem separated_moreItems (F : FloatText) : ∀ (items : List Json) (rest : List Token),
    Separated false rest → Separated true (moreItems F items ++ rest)
  | [], rest, h => ⟨by decide, h⟩
  | item :: items, rest, h => by
    have hmore := separated_moreItems F items rest h
    rw [moreItems, List.cons_append, List.append_assoc]
    exact ⟨by decide, separated_tokens F item _ hmore⟩

theorem separated_fieldTokens (F : FloatText) : ∀ (fields : List (String × Json))
    (rest : List Token), Separated false rest → Separated false (fieldTokens F fields ++ rest)
  | [], rest, h => ⟨by decide, h⟩
  | (key, value) :: fields, rest, h => by
    have hmore := separated_moreFields F fields rest h
    rw [fieldTokens, List.cons_append, List.cons_append, List.append_assoc]
    exact ⟨by decide, separated_tokens F value _ hmore⟩

theorem separated_moreFields (F : FloatText) : ∀ (fields : List (String × Json))
    (rest : List Token), Separated false rest → Separated true (moreFields F fields ++ rest)
  | [], rest, h => ⟨by decide, h⟩
  | (key, value) :: fields, rest, h => by
    have hmore := separated_moreFields F fields rest h
    rw [moreFields, List.cons_append, List.cons_append, List.cons_append, List.append_assoc]
    exact ⟨by decide, by decide, separated_tokens F value _ hmore⟩

end

end Json

/-- A dump is read as the tokens of its value. -/
theorem lex_dumpsJson (F : FloatText) (v : Json) : lex (dumpsJson F v) = some (v.tokens F) := by
  have hsep := v.separated_tokens F [] trivial
  rw [List.append_nil] at hsep
  exact lex_render hsep

/-! ## Values -/

theorem readValue_word {w : List Char} {v : Json} (n : ℕ) (rest : List Token)
    (h : wordValue F w = some v) : readValue F (n + 1) (.word w :: rest) = some (v, rest) := by
  unfold readValue
  rw [h]
  rfl

theorem readValue_arr {n : ℕ} {toks : List Token} (h : toks.head? ≠ some (.punct ']')) :
    readValue F (n + 1) (.punct '[' :: toks) =
      (readList (readValue F n) ']' n toks).map (fun p => (.arr p.1, p.2)) := by
  cases toks with
  | nil => rfl
  | cons t toks =>
    have ht : t ≠ .punct ']' := fun heq => h (congrArg some heq)
    rw [readValue]
    intro rest heq
    exact ht (List.cons.inj heq).1

theorem readValue_obj {n : ℕ} {toks : List Token} (h : toks.head? ≠ some (.punct '\x7d')) :
    readValue F (n + 1) (.punct '\x7b' :: toks) =
      (readList (readField (readValue F n)) '\x7d' n toks).map
        (fun p => (.obj (OrderedDict.ofPairs p.1).entries, p.2)) := by
  cases toks with
  | nil => rfl
  | cons t toks =>
    have ht : t ≠ .punct '\x7d' := fun heq => h (congrArg some heq)
    rw [readValue]
    intro rest heq
    exact ht (List.cons.inj heq).1

namespace Json

/-- No value begins with a closing bracket. -/
theorem head_tokens (F : FloatText) (v : Json) :
    ∃ t toks, v.tokens F = t :: toks ∧ t ≠ .punct ']' := by
  cases v with
  | null => exact ⟨_, _, rfl, by decide⟩
  | bool b => cases b <;> exact ⟨_, _, rfl, by decide⟩
  | int n => exact ⟨_, _, rfl, fun h => nomatch h⟩
  | float q => exact ⟨_, _, rfl, fun h => nomatch h⟩
  | str s => exact ⟨_, _, rfl, fun h => nomatch h⟩
  | arr items => exact ⟨_, _, rfl, by decide⟩
  | obj fields => exact ⟨_, _, rfl, by decide⟩

/-- After its first item an array goes on as an array does, or ends. -/
theorem moreItems_cons (F : FloatText) (item : Json) (items : List Json) :
    moreItems F (item :: items) = .punct ',' :: itemTokens F (item :: items) := rfl

theorem moreFields_cons (F : FloatText) (p : String × Json) (fields : List (String × Json)) :
    moreFields F (p :: fields) = .punct ',' :: fieldTokens F (p :: fields) := rfl

theorem length_itemTokens_pos (F : FloatText) (item : Json) (items : List Json) :
    0 < (itemTokens F (item :: items)).length := by
  obtain ⟨t, toks, htoks, -⟩ := item.head_tokens F
  rw [itemTokens, htoks]
  exact Nat.succ_pos _

mutual

theorem readValue_tokens (F : FloatText) : ∀ (v : Json), v.UniqueKeys → ∀ (n : ℕ)
    (rest : List Token), (v.tokens F).length ≤ n →
      readValue F n (v.tokens F ++ rest) = some (v, rest)
  | .null, _, n + 1, rest, _ => readValue_word n rest rfl
  | .bool true, _, n + 1, rest, _ => readValue_word n rest rfl
  | .bool false, _, n + 1, rest, _ => readValue_word n rest rfl
  | .int i, _, n + 1, rest, _ => readValue_word n rest (wordValue_intText F i)
  | .float q, _, n + 1, rest, _ => readValue_word n rest (wordValue_print F q)
  | .str s, _, n + 1, rest, _ => by
    have htokens : tokens F (.str s) ++ rest = .text s.toList :: rest := rfl
    rw [htokens, readValue, String.ofList_toList]
  | .arr [], _, n + 1, rest, _ => rfl
  | .arr (item :: items), hu, n + 1, rest, hn => by
    obtain ⟨t, toks, htoks, ht⟩ := item.head_tokens F
    have hhead : (itemTokens F (item :: items) ++ rest).head? ≠ some (.punct ']') := by
      rw [itemTokens, htoks]
      intro h
      exact ht (Option.some.inj h)
    have hlen : (itemTokens F (item :: items)).length ≤ n := Nat.le_of_succ_le_succ hn
    have hitems := readList_itemTokens F (item :: items) hu (List.cons_ne_nil _ _) n n rest hlen hlen
    have htokens : tokens F (.arr (item :: items)) ++ rest =
        .punct '[' :: (itemTokens F (item :: items) ++ rest) := rfl
    rw [htokens, readValue_arr hhead, hitems]
    rfl
  | .obj [], _, n + 1, rest, _ => rfl
  | .obj (p :: fields), hu, n + 1, rest, hn => by
    obtain ⟨key, value⟩ := p
    have hhead : (fieldTokens F ((key, value) :: fields) ++ rest).head? ≠
        some (.punct '\x7d') := by
      rw [fieldTokens]
      intro h
      cases Option.some.inj h
    have hlen : (fieldTokens F ((key, value) :: fields)).length ≤ n := Nat.le_of_succ_le_succ hn
    have hfields := readList_fieldTokens F ((key, value) :: fields) hu.2 (List.cons_ne_nil _ _) n n
      rest hlen hlen
    have htokens : tokens F (.obj ((key, value) :: fields)) ++ rest =
        .punct '\x7b' :: (fieldTokens F ((key, value) :: fields) ++ rest) := rfl
    rw [htokens, readValue_obj hhead, hfields, Option.map_some, OrderedDict.entries_ofPairs hu.1]

theorem readList_itemTokens (F : FloatText) : ∀ (items : List Json), UniqueItems items →
    items ≠ [] → ∀ (n k : ℕ) (rest : List Token), (itemTokens F items).length ≤ n →
      (itemTokens F items).length ≤ k →
        readList (readValue F n) ']' k (itemTokens F items ++ rest) = some (items, rest)
  | [], _, hne, _, _, _, _, _ => absurd rfl hne
  | item :: items, _, _, _, 0, _, _, hk =>
    absurd (length_itemTokens_pos F item items) (Nat.not_lt.2 hk)
  | [item], hu, _, n, k + 1, rest, hn, _ => by
    have hitem : (item.tokens F).length ≤ n := by
      rw [itemTokens, List.length_append] at hn
      omega
    have hread := readValue_tokens F item hu.1 n (.punct ']' :: rest) hitem
    have htokens : itemTokens F [item] ++ rest = item.tokens F ++ .punct ']' :: rest := by
      rw [itemTokens, moreItems, List.append_assoc, List.singleton_append]
    rw [htokens, readList, hread]
    simp only [if_true]
  | item :: item' :: items, hu, _, n, k + 1, rest, hn, hk => by
    have hsplit : (itemTokens F (item :: item' :: items)).length =
        (item.tokens F).length + ((itemTokens F (item' :: items)).length + 1) := by
      rw [itemTokens, moreItems_cons, List.length_append, List.length_cons]
    have hfirst : (item.tokens F).length ≤ n := by omega
    have hread := readValue_tokens F item hu.1 n
      (.punct ',' :: (itemTokens F (item' :: items) ++ rest)) hfirst
    have hmore := readList_itemTokens F (item' :: items) hu.2 (List.cons_ne_nil _ _) n k rest
      (by omega) (by omega)
    have htokens : itemTokens F (item :: item' :: items) ++ rest =
        item.tokens F ++ .punct ',' :: (itemTokens F (item' :: items) ++ rest) := by
      rw [itemTokens, moreItems_cons, List.append_assoc, List.cons_append]
    rw [htokens, readList, hread]
    simp only [if_neg (show ',' ≠ ']' by decide), if_true, hmore, Option.map_some]

theorem readList_fieldTokens (F : FloatText) : ∀ (fields : List (String × Json)),
    UniqueFields fields → fields ≠ [] → ∀ (n k : ℕ) (rest : List Token),
      (fieldTokens F fields).length ≤ n → (fieldTokens F fields).length ≤ k →
        readList (readField (readValue F n)) '\x7d' k (fieldTokens F fields ++ rest) =
          some (fields, rest)
  | [], _, hne, _, _, _, _, _ => absurd rfl hne
  | [(key, value)], hu, _, n, k + 1, rest, hn, _ => by
    have hvalue : (value.tokens F).length ≤ n := by
      rw [fieldTokens, List.length_cons, List.length_cons, List.length_append] at hn
      omega
    have hread := readValue_tokens F value hu.1 n (.punct '\x7d' :: rest) hvalue
    have htokens : fieldTokens F [(key, value)] ++ rest =
        .text key.toList :: .punct ':' :: (value.tokens F ++ .punct '\x7d' :: rest) := by
      rw [fieldTokens, moreFields, List.cons_append, List.cons_append, List.append_assoc,
        List.singleton_append]
    rw [htokens, readList, readField, hread, Option.map_some, String.ofList_toList]
    simp only [if_true]
  | (key, value) :: p :: fields, hu, _, n, k + 1, rest, hn, hk => by
    have hsplit : (fieldTokens F ((key, value) :: p :: fields)).length =
        (value.tokens F).length + ((fieldTokens F (p :: fields)).length + 1) + 1 + 1 := by
      rw [fieldTokens, moreFields_cons, List.length_cons, List.length_cons, List.length_append,
        List.length_cons]
    have hread := readValue_tokens F value hu.1 n
      (.punct ',' :: (fieldTokens F (p :: fields) ++ rest)) (by omega)
    have hmore := readList_fieldTokens F (p :: fields) hu.2 (List.cons_ne_nil _ _) n k rest
      (by omega) (by omega)
    have htokens : fieldTokens F ((key, value) :: p :: fields) ++ rest =
        .text key.toList :: .punct ':' ::
          (value.tokens F ++ .punct ',' :: (fieldTokens F (p :: fields) ++ rest)) := by
      rw [fieldTokens, moreFields_cons, List.cons_append, List.cons_append, List.append_assoc,
        List.cons_append]
    rw [htokens, readList, readField, hread, Option.map_some, String.ofList_toList]
    simp only [if_neg (show ',' ≠ '\x7d' by decide), if_true, hmore, Option.map_some]

end

end Json

/-- **`json.loads` of what was dumped is what was dumped.** -/
theorem loadsJson_dumpsJson (F : FloatText) {v : Json} (hv : v.UniqueKeys) :
    loadsJson F (dumpsJson F v) = some v := by
  have hread := v.readValue_tokens F hv (v.tokens F).length [] le_rfl
  rw [List.append_nil] at hread
  unfold loadsJson
  rw [lex_dumpsJson]
  simp only [hread]

/-! ## Strings -/

namespace Json

variable {P : Char → Prop}

mutual

/-- The strings among the tokens of a value are its strings. -/
theorem textsHold_tokens (F : FloatText) : ∀ v : Json, TextsHold P (v.tokens F) ↔ v.Within P
  | .null => by simp [tokens, Within]
  | .bool true => by simp [tokens, Within]
  | .bool false => by simp [tokens, Within]
  | .int n => by simp [tokens, Within]
  | .float q => by simp [tokens, Within]
  | .str s => by simp [tokens, Within]
  | .arr items => by
    rw [tokens, Within, textsHold_punct]
    exact textsHold_itemTokens F items
  | .obj fields => by
    rw [tokens, Within, textsHold_punct]
    exact textsHold_fieldTokens F fields

theorem textsHold_itemTokens (F : FloatText) : ∀ items : List Json,
    TextsHold P (itemTokens F items) ↔ WithinItems P items
  | [] => by simp [itemTokens, WithinItems]
  | item :: items => by
    rw [itemTokens, WithinItems, textsHold_append, textsHold_tokens F item,
      textsHold_moreItems F items]

theorem textsHold_moreItems (F : FloatText) : ∀ items : List Json,
    TextsHold P (moreItems F items) ↔ WithinItems P items
  | [] => by simp [moreItems, WithinItems]
  | item :: items => by
    rw [moreItems, WithinItems, textsHold_punct, textsHold_append, textsHold_tokens F item,
      textsHold_moreItems F items]

theorem textsHold_fieldTokens (F : FloatText) : ∀ fields : List (String × Json),
    TextsHold P (fieldTokens F fields) ↔ WithinFields P fields
  | [] => by simp [fieldTokens, WithinFields]
  | (key, value) :: fields => by
    rw [fieldTokens, WithinFields, textsHold_text, textsHold_punct, textsHold_append,
      textsHold_tokens F value, textsHold_moreFields F fields]

theorem textsHold_moreFields (F : FloatText) : ∀ fields : List (String × Json),
    TextsHold P (moreFields F fields) ↔ WithinFields P fields
  | [] => by simp [moreFields, WithinFields]
  | (key, value) :: fields => by
    rw [moreFields, WithinFields, textsHold_punct, textsHold_text, textsHold_punct,
      textsHold_append, textsHold_tokens F value, textsHold_moreFields F fields]

end

theorem withinItems_iff {items : List Json} :
    WithinItems P items ↔ ∀ item ∈ items, item.Within P := by
  induction items with
  | nil => simp [WithinItems]
  | cons item items ih => simp [WithinItems, ih]

theorem withinFields_iff {fields : List (String × Json)} :
    WithinFields P fields ↔ ∀ p ∈ fields, (∀ c ∈ p.1.toList, P c) ∧ p.2.Within P := by
  induction fields with
  | nil => simp [WithinFields]
  | cons p fields ih =>
    obtain ⟨key, value⟩ := p
    simp only [WithinFields, ih, List.forall_mem_cons, and_assoc]

end Json

/-- What is read of a list: each of its parts, and what is left. -/
theorem readList_spec {α : Type} {read : List Token → Option (α × List Token)} {close : Char}
    {Q : α → Prop} {P : Char → Prop}
    (hread : ∀ toks a rest, TextsHold P toks → read toks = some (a, rest) →
      Q a ∧ TextsHold P rest) :
    ∀ (k : ℕ) (toks : List Token) (as : List α) (rest : List Token), TextsHold P toks →
      readList read close k toks = some (as, rest) → (∀ a ∈ as, Q a) ∧ TextsHold P rest := by
  intro k
  induction k with
  | zero => intro _ _ _ _ h; cases h
  | succ k ih =>
    intro toks as rest htoks h
    rw [readList] at h
    split at h
    · rename_i a c more hfirst
      obtain ⟨ha, hmore⟩ := hread _ _ _ htoks hfirst
      rw [textsHold_punct] at hmore
      split_ifs at h with hclose hcomma
      · obtain ⟨rfl, rfl⟩ := Prod.mk.inj (Option.some.inj h)
        refine ⟨?_, hmore⟩
        intro b hb
        rw [List.mem_singleton.1 hb]
        exact ha
      · obtain ⟨⟨bs, left⟩, hlist, hp⟩ := Option.map_eq_some_iff.1 h
        obtain ⟨rfl, rfl⟩ := Prod.mk.inj hp
        obtain ⟨hbs, hleft⟩ := ih _ _ _ hmore hlist
        exact ⟨List.forall_mem_cons.2 ⟨ha, hbs⟩, hleft⟩
    · cases h

theorem within_wordValue {P : Char → Prop} {w : List Char} {v : Json}
    (h : wordValue F w = some v) : v.Within P := by
  unfold wordValue at h
  split_ifs at h
  · rw [← Option.some.inj h]
    trivial
  · rw [← Option.some.inj h]
    trivial
  · rw [← Option.some.inj h]
    trivial
  · split at h
    · rw [← Option.some.inj h]
      trivial
    · obtain ⟨q, -, rfl⟩ := Option.map_eq_some_iff.1 h
      trivial

theorem within_readField {P : Char → Prop} {read : List Token → Option (Json × List Token)}
    (hread : ∀ toks v rest, TextsHold P toks → read toks = some (v, rest) →
      v.Within P ∧ TextsHold P rest) :
    ∀ toks (p : String × Json) rest, TextsHold P toks → readField read toks = some (p, rest) →
      ((∀ c ∈ p.1.toList, P c) ∧ p.2.Within P) ∧ TextsHold P rest := by
  intro toks p rest htoks h
  unfold readField at h
  split at h
  · obtain ⟨⟨v, left⟩, hvalue, hp⟩ := Option.map_eq_some_iff.1 h
    obtain ⟨rfl, rfl⟩ := Prod.mk.inj hp
    obtain ⟨hkey, hafter⟩ := textsHold_text.1 htoks
    obtain ⟨hv, hleft⟩ := hread _ _ _ (textsHold_punct.1 hafter) hvalue
    refine ⟨⟨?_, hv⟩, hleft⟩
    rw [String.toList_ofList]
    exact hkey
  · cases h

/-- **The strings of a value that is read are among those of the tokens.** -/
theorem within_readValue {P : Char → Prop} : ∀ (n : ℕ) (toks : List Token) (v : Json)
    (rest : List Token), TextsHold P toks → readValue F n toks = some (v, rest) →
      v.Within P ∧ TextsHold P rest := by
  intro n
  induction n with
  | zero => intro _ _ _ _ h; cases h
  | succ n ih =>
    intro toks v rest htoks h
    unfold readValue at h
    split at h
    · cases h
    · obtain ⟨w, hword, hp⟩ := Option.map_eq_some_iff.1 h
      obtain ⟨rfl, rfl⟩ := Prod.mk.inj hp
      exact ⟨within_wordValue hword, textsHold_word.1 htoks⟩
    · obtain ⟨rfl, rfl⟩ := Prod.mk.inj (Option.some.inj h)
      obtain ⟨hs, hrest⟩ := textsHold_text.1 htoks
      refine ⟨?_, hrest⟩
      rw [Json.Within, String.toList_ofList]
      exact hs
    · obtain ⟨rfl, rfl⟩ := Prod.mk.inj (Option.some.inj h)
      exact ⟨trivial, textsHold_punct.1 (textsHold_punct.1 htoks)⟩
    · rename_i heq
      obtain rfl := Nat.succ.inj heq
      obtain ⟨⟨items, left⟩, hlist, hp⟩ := Option.map_eq_some_iff.1 h
      obtain ⟨rfl, rfl⟩ := Prod.mk.inj hp
      obtain ⟨hitems, hleft⟩ := readList_spec ih n _ _ _ (textsHold_punct.1 htoks) hlist
      exact ⟨Json.withinItems_iff.2 hitems, hleft⟩
    · obtain ⟨rfl, rfl⟩ := Prod.mk.inj (Option.some.inj h)
      exact ⟨trivial, textsHold_punct.1 (textsHold_punct.1 htoks)⟩
    · rename_i heq
      obtain rfl := Nat.succ.inj heq
      obtain ⟨⟨fields, left⟩, hlist, hp⟩ := Option.map_eq_some_iff.1 h
      obtain ⟨rfl, rfl⟩ := Prod.mk.inj hp
      obtain ⟨hfields, hleft⟩ := readList_spec (within_readField ih) n _ _ _
        (textsHold_punct.1 htoks) hlist
      refine ⟨Json.withinFields_iff.2 ?_, hleft⟩
      intro p hp
      exact hfields p (OrderedDict.mem_of_mem_ofPairs hp)
    · cases h

theorem within_of_loadsJson {P : Char → Prop} {cs : List Char} {v : Json}
    (hlex : ∀ toks, lex cs = some toks → TextsHold P toks) (h : loadsJson F cs = some v) :
    v.Within P := by
  unfold loadsJson at h
  split at h
  · cases h
  · rename_i toks htoks
    split at h
    · rename_i v' hread
      obtain rfl := Option.some.inj h
      exact (within_readValue _ _ _ _ (hlex toks htoks) hread).1
    · cases h

/-! ## Characters -/

/-- A dump is ASCII without controls but for what stands in its strings. -/
theorem of_mem_dumpsJson {F : FloatText} {v : Json} {c : Char} (h : c ∈ dumpsJson F v) :
    0x20 ≤ c.toNat ∧ (c.toNat < 0x80 ∨ ∃ s, .text s ∈ v.tokens F ∧ c ∈ s) := by
  have hsep := v.separated_tokens F [] trivial
  rw [List.append_nil] at hsep
  exact of_mem_render hsep h

/-- **Beyond ASCII a dump has the characters of its strings.** -/
theorem within_iff_dumpsJson (F : FloatText) {v : Json} {P : Char → Prop}
    (hP : ∀ c : Char, c.toNat < 0x80 → P c) : v.Within P ↔ ∀ c ∈ dumpsJson F v, P c := by
  rw [← Json.textsHold_tokens F]
  constructor
  · intro htexts c hc
    rcases (of_mem_dumpsJson hc).2 with hascii | ⟨s, hs, hmem⟩
    · exact hP c hascii
    · exact htexts s hs c hmem
  · intro hchars s hs c hmem
    rcases Nat.lt_or_ge c.toNat 0x80 with hascii | hwide
    · exact hP c hascii
    · exact hchars c (mem_render hs hmem hwide)

end ModelMeld
