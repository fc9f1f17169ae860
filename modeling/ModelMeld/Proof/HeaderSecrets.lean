import ModelMeld.Lib.Runs
import ModelMeld.Proof.BlindHandlers
import ModelMeld.Proof.Passthrough
import ModelMeld.Spec.FrontDoor

/-!
# What the secrets in the headers can change

Two requests are alike when their headers differ in the values of provider keys
only, both blank or both not, and in the bearer token, of the same length and
the same first seven characters.

* `enter_alike`: the front door refuses, forwards and logs the same;
* `secrets_stay_out`: in any run of alike requests, over routers with alike adapters, every
  response, log line and state is the same, and every dispatch but for the key of its adapter.
-/

namespace ModelMeld

/-! ## Alike headers -/

/-- Two tokens that are redacted alike and of one kind by their length and first characters. -/
def SameMark (a b : String) : Prop := a.length = b.length ∧ a.toList.take 7 = b.toList.take 7

/-- Headers that differ at most in a secret. -/
inductive HeaderAlike (lower : String → String) : String × String → String × String → Prop
  | same (h : String × String) : HeaderAlike lower h h
  | key {name v v' : String} (named : startsWith byokHeaderPrefix (lower name) = true)
      (blank : strip v = "" ↔ strip v' = "") : HeaderAlike lower (name, v) (name, v')
  | bearer {v v' : String} (mark : SameMark (bearerToken lower v) (bearerToken lower v')) :
      HeaderAlike lower ("authorization", v) ("authorization", v')

abbrev HeadersAlike (lower : String → String) : Headers → Headers → Prop :=
  List.Forall₂ (HeaderAlike lower)

/-- A header that is no secret. -/
def isPublic (lower : String → String) (name : String) : Bool :=
  decide (name ≠ "authorization") && !startsWith byokHeaderPrefix (lower name)

variable {parts : HeaderParts} {hs hs' : Headers}

theorem HeaderAlike.name_eq {lower : String → String} {h h' : String × String}
    (hh : HeaderAlike lower h h') : h.1 = h'.1 := by
  cases hh <;> rfl

theorem HeaderAlike.value_eq {lower : String → String} {h h' : String × String}
    (hh : HeaderAlike lower h h') (hpublic : isPublic lower h.1 = true) : h.2 = h'.2 := by
  unfold isPublic at hpublic
  simp only [Bool.and_eq_true, decide_eq_true_eq, Bool.not_eq_true'] at hpublic
  cases hh with
  | same => rfl
  | key named => rw [named] at hpublic; cases hpublic.2
  | bearer => exact absurd rfl hpublic.1

/-- Lookups in two lists whose entries differ under other keys only. -/
theorem lookup_forall₂ {R : String × String → String × String → Prop} {k : String}
    (hkey : ∀ p q, R p q → p.1 = q.1) (hvalue : ∀ p q, R p q → p.1 = k → p.2 = q.2)
    {ps qs : List (String × String)} (h : List.Forall₂ R ps qs) : ps.lookup k = qs.lookup k := by
  induction h with
  | nil => rfl
  | @cons p q ps qs hpq _ ih =>
    obtain ⟨a, v⟩ := p
    obtain ⟨b, w⟩ := q
    obtain rfl : a = b := hkey _ _ hpq
    simp only [List.lookup_cons]
    by_cases hk : k = a
    · have hvw : v = w := hvalue _ _ hpq hk.symm
      rw [hvw, ih]
    · rw [beq_eq_false_iff_ne.mpr hk, ih]

/-- The first value of a public header. -/
theorem headerValue_alike {lower : String → String} (h : HeadersAlike lower hs hs') {name : String}
    (hpublic : isPublic lower name = true) : headerValue hs name = headerValue hs' name :=
  lookup_forall₂ (fun _ _ hh => hh.name_eq) (fun _ _ hh hname => hh.value_eq (hname ▸ hpublic)) h

/-- The last value of a public header, by its name in lower case. -/
theorem lowered_alike (h : HeadersAlike parts.lower hs hs') {name : String}
    (hname : name ≠ "authorization")
    (hstart : startsWith byokHeaderPrefix name = false) :
    (loweredHeaders parts.lower hs).get? name = (loweredHeaders parts.lower hs').get? name := by
  unfold loweredHeaders
  rw [OrderedDict.get?_ofPairs, OrderedDict.get?_ofPairs]
  have hbearer : parts.lower "authorization" = "authorization" := parts.lower_plain _ (by decide)
  refine lookup_forall₂ (R := fun p q => p.1 = q.1 ∧ (p.1 = name → p.2 = q.2)) (fun p q h => h.1)
    (fun p q h => h.2) (List.forall₂_reverse_iff.mpr ?_)
  rw [List.forall₂_map_left_iff, List.forall₂_map_right_iff]
  refine h.imp (fun p q hh => ⟨congrArg parts.lower hh.name_eq, fun hp => ?_⟩)
  refine hh.value_eq ?_
  have hp : parts.lower p.1 = name := hp
  unfold isPublic
  rw [hp, hstart, Bool.not_false, Bool.and_true, decide_eq_true_eq]
  intro hauth
  rw [hauth, hbearer] at hp
  exact hname hp.symm

/-! ## What is read off public headers -/

theorem extractMemoryIdentity_alike (h : HeadersAlike parts.lower hs hs')
    (authTenantId authUserId : Option String) :
    extractMemoryIdentity parts hs authTenantId authUserId =
      extractMemoryIdentity parts hs' authTenantId authUserId := by
  unfold extractMemoryIdentity OrderedDict.getD
  simp (disch := decide) only [lowered_alike h]

theorem extractHintsFromHeaders_alike (h : HeadersAlike parts.lower hs hs') :
    extractHintsFromHeaders parts hs = extractHintsFromHeaders parts hs' := by
  unfold extractHintsFromHeaders
  simp (disch := decide) only [lowered_alike h]

theorem forwarded_alike {lower : String → String} (h : HeadersAlike lower hs hs')
    (hpublic : ∀ name ∈ forwardedAnthropicHeaders ++ forwardedOauthCamouflageHeaders,
      isPublic lower name = true) {auth auth' : AuthClassification} (hkind : auth.kind = auth'.kind)
    (call : Call) : call.forwarded hs auth = call.forwarded hs' auth' := by
  have hcollect : ∀ names : List String, (∀ name ∈ names, isPublic lower name = true) →
      collectHeaders names hs = collectHeaders names hs' := by
    intro names hnames
    unfold collectHeaders
    refine List.filterMap_congr (fun name hname => ?_)
    rw [headerValue_alike h (hnames name hname)]
  have hanthropic := hcollect forwardedAnthropicHeaders
    (fun name hname => hpublic name (List.mem_append_left _ hname))
  have hsdk := hcollect forwardedOauthCamouflageHeaders
    (fun name hname => hpublic name (List.mem_append_right _ hname))
  unfold Call.forwarded collectAnthropicExtraHeaders collectOauthCamouflageHeaders
  rw [hanthropic, hsdk, hkind]

/-- The forwarded headers are no secrets. -/
theorem forwarded_public : ∀ name ∈ forwardedAnthropicHeaders ++ forwardedOauthCamouflageHeaders,
    isPublic parts.lower name = true := by
  intro name hname
  have hall : (forwardedAnthropicHeaders ++ forwardedOauthCamouflageHeaders).all (fun name =>
      name.toList.all isPlain && decide (name ≠ "authorization") &&
        !startsWith byokHeaderPrefix name) = true := by decide
  have hfixed := List.all_eq_true.mp hall name hname
  simp only [Bool.and_eq_true] at hfixed
  unfold isPublic
  rw [parts.lower_plain name hfixed.1.1, hfixed.1.2, hfixed.2]
  rfl

/-! ## What is read off secrets -/

/-- Keys of the same providers, in the same order. -/
def SameProviders (creds creds' : ByokCredentials) : Prop := creds.keys = creds'.keys

theorem sameProviders_insert {creds creds' : ByokCredentials} (h : SameProviders creds creds')
    (provider key key' : String) :
    SameProviders (creds.insert provider key) (creds'.insert provider key') := by
  unfold SameProviders OrderedDict.keys OrderedDict.insert at *
  rw [OrderedDict.setEntry_keys, OrderedDict.setEntry_keys, h]

theorem not_key_authorization :
    startsWith byokHeaderPrefix (parts.lower "authorization") = false := by
  rw [parts.lower_plain _ (by decide)]
  decide

/-- A provider key is blank in both, or in neither. -/
theorem HeaderAlike.blank_iff {h h' : String × String} (hh : HeaderAlike parts.lower h h')
    (hkey : startsWith byokHeaderPrefix (parts.lower h.1) = true) :
    strip h.2 = "" ↔ strip h'.2 = "" := by
  cases hh with
  | same => exact Iff.rfl
  | key named blank => exact blank
  | bearer => exact absurd hkey (by rw [not_key_authorization]; decide)

theorem read_alike {creds creds' : ByokCredentials} (hcreds : SameProviders creds creds')
    {h h' : String × String} (hh : HeaderAlike parts.lower h h') :
    SameProviders (creds.read parts.lower h) (creds'.read parts.lower h') := by
  have hname := hh.name_eq
  have hblank := hh.blank_iff
  obtain ⟨name, v⟩ := h
  obtain ⟨name', v'⟩ := h'
  obtain rfl : name = name' := hname
  unfold ByokCredentials.read
  dsimp only at hblank ⊢
  by_cases hkey : startsWith byokHeaderPrefix (parts.lower name) = true
  · have hblank := hblank hkey
    rw [if_pos hkey, if_pos hkey]
    by_cases hread : strip (textFrom byokHeaderPrefix.length (parts.lower name)) ∈
        byokEligibleProviders ∧ strip v ≠ ""
    · rw [if_pos hread, if_pos ⟨hread.1, fun hv => hread.2 (hblank.mpr hv)⟩]
      exact sameProviders_insert hcreds _ _ _
    · rw [if_neg hread, if_neg (fun hread' => hread ⟨hread'.1, fun hv => hread'.2 (hblank.mp hv)⟩)]
      exact hcreds
  · rw [if_neg hkey, if_neg hkey]
    exact hcreds

theorem extractByokCredentials_alike (h : HeadersAlike parts.lower hs hs') :
    SameProviders (extractByokCredentials parts.lower hs)
      (extractByokCredentials parts.lower hs') := by
  have hempty : SameProviders .empty .empty := rfl
  have hread : Relator.LiftFun SameProviders (Relator.LiftFun (HeaderAlike parts.lower)
      SameProviders) (ByokCredentials.read parts.lower) (ByokCredentials.read parts.lower) :=
    fun _ _ hcreds _ _ hh => read_alike hcreds hh
  unfold extractByokCredentials
  exact List.rel_foldl hread hempty h

theorem AdapterMap.get?_add (m : AdapterMap) (a : ProviderAdapter) (p : String) :
    (m.add a).get? p = if p = a.name then some a else m.get? p :=
  OrderedDict.get?_insert m.dict a.name a p

theorem AdapterMap.Alike.add {m m' : AdapterMap} (h : m.Alike m') {a a' : ProviderAdapter}
    (ha : a.masked = a'.masked) : (m.add a).Alike (m'.add a') := by
  intro p
  have hname := congrArg ProviderAdapter.name ha
  have hname : a.name = a'.name := hname
  rw [get?_add, get?_add, hname]
  by_cases hp : p = a'.name
  · rw [if_pos hp, if_pos hp]
    exact congrArg some ha
  · rw [if_neg hp, if_neg hp]
    exact h p

/-- The adapter of a key is of the provider's, whatever the key. -/
theorem byokAdapter_alike (provider key key' : String) :
    SameUnderMask (byokAdapter provider key) (byokAdapter provider key') := by
  unfold byokAdapter
  split
  · rfl
  · split <;> rfl

/-- Alike adapters, with the same lines logged. -/
def BuiltAlike (built built' : AdapterMap × List String) : Prop :=
  built.1.Alike built'.1 ∧ built.2 = built'.2

theorem buildByokAdapter_alike (installed : String → Bool) {built built' : AdapterMap × List String}
    (hbuilt : BuiltAlike built built') {e e' : String × String} (he : e.1 = e'.1) :
    BuiltAlike (buildByokAdapter installed built e) (buildByokAdapter installed built' e') := by
  obtain ⟨provider, key⟩ := e
  obtain ⟨provider', key'⟩ := e'
  obtain rfl : provider = provider' := he
  have hadapter := byokAdapter_alike provider key key'
  unfold buildByokAdapter
  dsimp only
  cases ha : byokAdapter provider key with
  | none =>
    rw [ha] at hadapter
    rw [sameUnderMask_none hadapter]
    exact hbuilt
  | some a =>
    rw [ha] at hadapter
    obtain ⟨a', ha', haa⟩ := sameUnderMask_some hadapter
    rw [ha']
    dsimp only
    by_cases hinstalled : installed provider = true
    · rw [if_pos hinstalled, if_pos hinstalled]
      exact ⟨hbuilt.1.add haa, hbuilt.2⟩
    · rw [if_neg hinstalled, if_neg hinstalled]
      exact ⟨hbuilt.1, by rw [hbuilt.2]⟩

theorem buildByokAdapters_alike (installed : String → Bool) {creds creds' : ByokCredentials}
    (h : SameProviders creds creds') :
    BuiltAlike (buildByokAdapters installed creds) (buildByokAdapters installed creds') := by
  have hentries : List.Forall₂ (fun e e' : String × String => e.1 = e'.1) creds.entries
      creds'.entries := by
    have hkeys : List.Forall₂ (· = ·) (creds.entries.map Prod.fst)
        (creds'.entries.map Prod.fst) := by
      rw [List.forall₂_eq_eq_eq]
      exact h
    exact List.forall₂_map_left_iff.mp (List.forall₂_map_right_iff.mp hkeys)
  have hbuild : Relator.LiftFun BuiltAlike (Relator.LiftFun (fun e e' => e.1 = e'.1) BuiltAlike)
      (buildByokAdapter installed) (buildByokAdapter installed) :=
    fun _ _ hbuilt _ _ he => buildByokAdapter_alike installed hbuilt he
  have hempty : BuiltAlike (.empty, []) (.empty, []) := ⟨fun _ => rfl, rfl⟩
  unfold buildByokAdapters
  exact List.rel_foldl hbuild hempty hentries

theorem ownAdapters_alike (door : FrontDoor) {creds creds' : ByokCredentials}
    (h : SameProviders creds creds') :
    OwnAlike (door.ownAdapters creds).1 (door.ownAdapters creds').1 ∧
      (door.ownAdapters creds).2 = (door.ownAdapters creds').2 := by
  have hempty : creds.isEmpty = creds'.isEmpty := by
    have hkeys := congrArg List.isEmpty h
    unfold OrderedDict.keys at hkeys
    rw [List.isEmpty_map, List.isEmpty_map] at hkeys
    exact hkeys
  have hbuilt : BuiltAlike
      (if creds.isEmpty then (.empty, []) else buildByokAdapters door.installed creds)
      (if creds'.isEmpty then (.empty, []) else buildByokAdapters door.installed creds') := by
    rw [hempty]
    split
    · exact ⟨fun _ => rfl, rfl⟩
    · exact buildByokAdapters_alike door.installed h
  unfold FrontDoor.ownAdapters
  generalize (if creds.isEmpty then (AdapterMap.empty, []) else
    buildByokAdapters door.installed creds) = built at hbuilt ⊢
  generalize (if creds'.isEmpty then (AdapterMap.empty, []) else
    buildByokAdapters door.installed creds') = built' at hbuilt ⊢
  refine ⟨?_, hbuilt.2⟩
  dsimp only
  rw [hbuilt.1.keys]
  split
  · exact .none
  · exact .some hbuilt.1

/-! ### The bearer token -/

theorem startsWith_take {start a : String} {n : ℕ} (hn : start.length ≤ n) :
    startsWith start a = start.toList.isPrefixOf (a.toList.take n) := by
  unfold startsWith
  rw [Bool.eq_iff_iff, List.isPrefixOf_iff_prefix, List.isPrefixOf_iff_prefix]
  constructor
  · intro h
    have hlen : start.toList.length ≤ n := by rw [String.length_toList]; exact hn
    have htake := h.take n
    rwa [List.take_of_length_le hlen] at htake
  · intro h
    exact h.trans (List.take_prefix n _)

/-- The kind of a token is read off its first seven characters. -/
theorem tokenKind_congr {a b : String} (h : SameMark a b) : tokenKind a = tokenKind b := by
  have hstart : ∀ start : String, start.length ≤ 7 → startsWith start a = startsWith start b := by
    intro start hlen
    rw [startsWith_take hlen, startsWith_take hlen, h.2]
  unfold tokenKind
  rw [hstart "sk-ant-" (by decide), hstart "sk-" (by decide), hstart "gws_" (by decide),
    hstart "eyJ" (by decide)]

theorem eq_empty_iff_of_sameMark {a b : String} (h : SameMark a b) : a = "" ↔ b = "" := by
  rw [← String.length_eq_zero_iff, ← String.length_eq_zero_iff, h.1]

/-- The redaction shows the length and the first seven characters. -/
theorem redactToken_congr {a b : String} (h : SameMark a b) : redactToken a = redactToken b := by
  unfold redactToken redactionMark
  simp only [eq_empty_iff_of_sameMark h, h.1, h.2]

/-- Tokens that are classified alike; what is displayed of a token that is none is never logged. -/
structure AuthClassification.Alike (c c' : AuthClassification) : Prop where
  kind : c.kind = c'.kind
  display : c.kind = .oauthBearer → c.display = c'.display

theorem bearerToken_empty : bearerToken parts.lower "" = "" := by
  have hplain : parts.lower "" = "" := parts.lower_plain _ (by decide)
  have hstrip : strip "" = "" := by decide
  unfold bearerToken
  simp only [hstrip, hplain]
  decide

theorem classifyAuthorization_some (v : String) :
    classifyAuthorization parts.lower (some v) =
      if bearerToken parts.lower v = "" then
        ⟨.missing, "", if v = "" then "***[missing]" else "***[empty]"⟩
      else ⟨tokenKind (bearerToken parts.lower v), bearerToken parts.lower v,
        redactToken (bearerToken parts.lower v)⟩ := by
  unfold classifyAuthorization
  dsimp only
  by_cases hv : v = ""
  · subst hv
    rw [if_pos rfl, if_pos bearerToken_empty, if_pos rfl]
  · rw [if_neg hv, if_neg hv]

theorem classify_sameMark {v v' : String}
    (h : SameMark (bearerToken parts.lower v) (bearerToken parts.lower v')) :
    (classifyAuthorization parts.lower (some v)).Alike
      (classifyAuthorization parts.lower (some v')) := by
  rw [classifyAuthorization_some, classifyAuthorization_some]
  by_cases hempty : bearerToken parts.lower v = ""
  · rw [if_pos hempty, if_pos ((eq_empty_iff_of_sameMark h).mp hempty)]
    exact ⟨rfl, fun hk => by cases hk⟩
  · rw [if_neg hempty, if_neg (fun hv => hempty ((eq_empty_iff_of_sameMark h).mpr hv))]
    exact ⟨tokenKind_congr h, fun _ => redactToken_congr h⟩

/-- The first `Authorization` header of both, if any. -/
theorem authorization_alike (h : HeadersAlike parts.lower hs hs') :
    headerValue hs "authorization" = headerValue hs' "authorization" ∨
      ∃ v v', headerValue hs "authorization" = some v ∧
        headerValue hs' "authorization" = some v' ∧
        SameMark (bearerToken parts.lower v) (bearerToken parts.lower v') := by
  induction h with
  | nil => exact Or.inl rfl
  | @cons p p' hs hs' hp _ ih =>
    unfold headerValue at ih ⊢
    obtain ⟨name, v⟩ := p
    obtain ⟨name', v'⟩ := p'
    obtain rfl : name = name' := hp.name_eq
    simp only [List.lookup_cons]
    by_cases hname : "authorization" = name
    · subst hname
      simp only [beq_self_eq_true]
      cases hp with
      | same => exact Or.inl rfl
      | key named blank => exact absurd named (by rw [not_key_authorization]; decide)
      | bearer mark => exact Or.inr ⟨v, v', rfl, rfl, mark⟩
    · rw [beq_eq_false_iff_ne.mpr hname]
      exact ih

theorem classifyAuthorization_alike (h : HeadersAlike parts.lower hs hs') :
    (classifyAuthorization parts.lower (headerValue hs "authorization")).Alike
      (classifyAuthorization parts.lower (headerValue hs' "authorization")) := by
  rcases authorization_alike h with heq | ⟨v, v', hv, hv', hmark⟩
  · rw [heq]
    exact ⟨rfl, fun _ => rfl⟩
  · rw [hv, hv']
    exact classify_sameMark hmark

theorem buildPassthroughAdapter_alike (installed : String → Bool) (auth auth' : AuthClassification)
    (vendor : PassthroughVendor) :
    SameUnderMask (buildPassthroughAdapter installed auth vendor)
      (buildPassthroughAdapter installed auth' vendor) := by
  cases vendor with
  | anthropic => rfl
  | codex =>
    unfold buildPassthroughAdapter
    dsimp only
    split <;> rfl

/-- The passthrough is refused with the same error, or engaged with alike adapters; and the same is
logged. -/
theorem resolvePassthroughRouter_alike (installed : String → Bool) {auth auth' : AuthClassification}
    (h : auth.Alike auth') (vendor : PassthroughVendor) (allow : Bool) :
    (∃ e log, resolvePassthroughRouter installed auth vendor allow = (.error e, log) ∧
      resolvePassthroughRouter installed auth' vendor allow = (.error e, log)) ∨
    ∃ own own' log, resolvePassthroughRouter installed auth vendor allow = (.ok own, log) ∧
      resolvePassthroughRouter installed auth' vendor allow = (.ok own', log) ∧
      SameUnderMask own own' := by
  unfold resolvePassthroughRouter
  rw [← h.kind]
  by_cases hkind : auth.kind = .oauthBearer
  · rw [if_neg (not_not.mpr hkind), if_neg (not_not.mpr hkind)]
    cases allow with
    | false => exact Or.inl ⟨_, _, rfl, rfl⟩
    | true =>
      have hbuilt := buildPassthroughAdapter_alike installed auth auth' vendor
      simp only [Bool.not_true, Bool.false_eq_true, if_false]
      cases ha : buildPassthroughAdapter installed auth vendor with
      | none =>
        rw [ha] at hbuilt
        rw [sameUnderMask_none hbuilt]
        exact Or.inl ⟨_, _, rfl, rfl⟩
      | some a =>
        rw [ha] at hbuilt
        obtain ⟨a', ha', haa⟩ := sameUnderMask_some hbuilt
        rw [ha', h.display hkind]
        exact Or.inr ⟨_, _, _, rfl, rfl, congrArg some haa⟩
  · rw [if_pos hkind, if_pos hkind]
    exact Or.inr ⟨none, none, [], rfl, rfl, rfl⟩

/-! ## The front door -/

/-- What two alike requests are admitted with. -/
structure Admitted.Alike (a a' : Admitted) : Prop where
  identity : a.identity = a'.identity
  request : a.request = a'.request
  providers : SameProviders a.creds a'.creds
  inbound : a.inbound.Alike a'.inbound
  extraHeaders : a.extraHeaders = a'.extraHeaders

/-- **The front door refuses alike requests with the same error or admits them alike, and logs the
same lines.** -/
theorem enter_alike (door : FrontDoor) (texts : PythonText)
    (h : HeadersAlike door.parts.lower hs hs') (auth : AuthState) (call : Call) :
    (∃ e log, door.enter texts hs auth call = (.error e, log) ∧
      door.enter texts hs' auth call = (.error e, log)) ∨
    ∃ a a' log, door.enter texts hs auth call = (.ok a, log) ∧
      door.enter texts hs' auth call = (.ok a', log) ∧ a.Alike a' := by
  have hidentify : door.identify hs' auth = door.identify hs auth := by
    unfold FrontDoor.identify
    simp only [extractMemoryIdentity_alike h]
  have hhint : door.hint hs' = door.hint hs := by
    unfold FrontDoor.hint
    rw [extractHintsFromHeaders_alike h]
  unfold FrontDoor.enter
  rw [hidentify, hhint]
  cases door.identify hs auth with
  | error e => exact Or.inl ⟨_, _, rfl, rfl⟩
  | ok identity =>
    dsimp only
    cases FrontDoor.accept texts auth.apiKeyModelAllowlist call with
    | error e => exact Or.inl ⟨_, _, rfl, rfl⟩
    | ok request =>
      dsimp only
      cases door.hint hs with
      | error e => exact Or.inl ⟨_, _, rfl, rfl⟩
      | ok hints =>
        have hcreds := extractByokCredentials_alike h
        have hown := ownAdapters_alike door hcreds
        have hbearer := classifyAuthorization_alike h
        dsimp only
        rcases resolvePassthroughRouter_alike door.installed hbearer call.vendor
            door.allowSubscriptionPassthrough with
          ⟨e, log, hx, hy⟩ | ⟨own, own', log, hx, hy, hpass⟩
        · rw [hx, hy, hown.2]
          exact Or.inl ⟨_, _, rfl, rfl⟩
        · rw [hx, hy, hown.2]
          exact Or.inr ⟨_, _, _, rfl, rfl, rfl, rfl, hcreds, ⟨hown.1, hpass, rfl⟩,
            forwarded_alike h forwarded_public hbearer.kind call⟩

/-! ## Runs -/

def Visit.masked {σ D : Type} (v : Visit σ D) : Visit σ D := { v with handled := v.handled.masked }

def DoorTrace.masked {σ D : Type} (t : DoorTrace σ D) : DoorTrace σ D :=
  { t with received := t.received.map Visit.masked }

/-- Requests with alike headers to upstreams that answer alike. -/
structure Arrival.Alike {ε : Type} (lower : String → String) (alike : ε → ε → Prop)
    (a a' : Arrival ε) : Prop where
  headers : HeadersAlike lower a.headers a'.headers
  outside : a.outside.Alike alike a'.outside
  rest : a' = { a with headers := a'.headers, outside := a'.outside }

section

variable {σ ε D : Type} [DecidableEq D] {alike : ε → ε → Prop} {g : Gateway σ ε D}
  {rt' : Router σ ε} {st : GatewayState σ D}

theorem handleAdmitted_alike (st : GatewayState σ D) (hrt : Router.Alike alike g.router rt')
    {x x' : Admitted} (hx : x.Alike x') {o o' : Outside ε} (ho : o.Alike alike o') (call : Call) :
    (g.handleAdmitted st x o call).masked =
      ((g.withRouter rt').handleAdmitted st x' o' call).masked := by
  have hhints : x'.inbound.hints = x.inbound.hints := by rw [hx.inbound.rest]
  have hroute := (Gateway.activeRouter_alike hrt hx.inbound).route st.router o.routing o'.routing
    x.request x.inbound.hints x.inbound.byok x'.inbound.byok ho.routing hx.inbound.byok
  have hhandle := Gateway.handle_alike st hrt hx.inbound ho call
  have hproviders : x'.creds.providers = x.creds.providers :=
    congrArg List.toFinset (Eq.symm hx.providers)
  unfold Gateway.handleAdmitted
  rw [← hx.request, hhints, hproviders]
  rcases walked_cases hroute with ⟨d, d', s, hy, hz, -⟩ | ⟨e, s, hy, hz⟩
  · rw [hy, hz]
    exact hhandle
  · rw [hy, hz]
    exact congrArg (fun h : Handled σ D => { h with
      reply := .error (routerHttpError g.safeErrorDetail e x.creds.providers) }) hhandle

theorem receive_alike (st : GatewayState σ D) (hrt : Router.Alike alike g.router rt')
    (door : FrontDoor) {a a' : Arrival ε} (ha : a.Alike door.parts.lower alike a') :
    (g.receive door st a).masked = ((g.withRouter rt').receive door st a').masked := by
  have hauth : a'.auth = a.auth := by rw [ha.rest]
  have hcall : a'.call = a.call := by rw [ha.rest]
  have hretrieve : a'.retrieve = a.retrieve := by rw [ha.rest]
  have htexts : (g.withRouter rt').texts = g.texts := rfl
  unfold Gateway.receive
  rw [hauth, hcall, hretrieve, htexts]
  rcases enter_alike door g.texts ha.headers a.auth a.call with
    ⟨e, log, hx, hy⟩ | ⟨x, x', log, hx, hy, hxx⟩
  · rw [hx, hy]
  · rw [hx, hy]
    have ho : Outside.Alike alike { a.outside with memory := a.retrieve x.identity }
        { a'.outside with memory := a.retrieve x'.identity } := by
      refine ⟨ha.outside.routing, ha.outside.failover, ha.outside.chat, ha.outside.stream, ?_⟩
      rw [hxx.identity]
      exact congrArg (fun o => { o with memory := a.retrieve x'.identity }) ha.outside.rest
    have hhandled := handleAdmitted_alike st hrt hxx ho a.call
    simp only [Visit.masked, hhandled, hxx.extraHeaders]

theorem welcome_alike (hrt : Router.Alike alike g.router rt') (door : FrontDoor)
    {t t' : DoorTrace σ D} (ht : t.masked = t'.masked) {a a' : Arrival ε}
    (ha : a.Alike door.parts.lower alike a') :
    (g.welcome door t a).masked = ((g.withRouter rt').welcome door t' a').masked := by
  obtain ⟨st, received⟩ := t
  obtain ⟨st', received'⟩ := t'
  obtain ⟨rfl, hreceived⟩ := DoorTrace.mk.inj ht
  have hvisit := receive_alike st hrt door ha
  have hstate : (g.receive door st a).handled.state =
      ((g.withRouter rt').receive door st a').handled.state :=
    congrArg (fun v => v.handled.state) hvisit
  unfold Gateway.welcome DoorTrace.masked
  simp only [hstate, List.map_append, List.map_cons, List.map_nil, hreceived, hvisit]

end

/-- **Secrets stay out.** In two runs of alike requests, over routers that differ in the keys of
their adapters, every request is answered, forwarded and logged the same and leaves the same state,
and its dispatches differ in the keys of their adapters only. -/
theorem secrets_stay_out {D : Type} [DecidableEq D] (g : Gateway RouterHealth RouterReadings D)
    (door : FrontDoor) {p p' : PersistentRouter} (hp : p.Alike p')
    (st : GatewayState RouterHealth D) {arrivals arrivals' : List (Arrival RouterReadings)}
    (h : List.Forall₂ (Arrival.Alike door.parts.lower RouterReadings.Alike) arrivals arrivals') :
    (Runs.run ((g.withRouter p.toRouter).welcome door) { state := st } arrivals).masked =
      (Runs.run ((g.withRouter p'.toRouter).welcome door) { state := st } arrivals').masked := by
  have hstep : Relator.LiftFun (fun t t' : DoorTrace RouterHealth D => t.masked = t'.masked)
      (Relator.LiftFun (Arrival.Alike door.parts.lower RouterReadings.Alike)
        (fun t t' => t.masked = t'.masked))
      ((g.withRouter p.toRouter).welcome door) ((g.withRouter p'.toRouter).welcome door) :=
    fun _ _ ht _ _ ha => welcome_alike (PersistentRouter.alike hp) door ht ha
  exact List.rel_foldl hstep rfl h

/-! ### Two subscriptions -/

/-- `str.lower` on ASCII. -/
def asciiLower (s : String) : String := String.ofList (s.toList.map Char.toLower)

theorem asciiLower_plain (s : String) (h : s.toList.all isPlain = true) : asciiLower s = s := by
  have hchar : ∀ c ∈ s.toList, c.toLower = c := by
    intro c hc
    have hplain := List.all_eq_true.mp h c hc
    unfold isPlain Char.isLower at hplain
    simp only [Bool.or_eq_true, Bool.and_eq_true, decide_eq_true_eq, beq_iff_eq] at hplain
    unfold Char.toLower
    rcases hplain with ⟨hlow, -⟩ | hhyphen
    · have hlow : (97 : ℕ) ≤ c.val.toNat := hlow
      rw [dif_neg]
      rintro ⟨-, hle⟩
      have hle : c.val.toNat ≤ 90 := hle
      omega
    · rw [hhyphen]
      decide
  unfold asciiLower
  rw [List.map_congr_left hchar, List.map_id', String.ofList_toList]

def openDoor : FrontDoor where
  parts :=
    { lower := asciiLower
      lower_plain := asciiLower_plain
      reprStr := fun s => "'" ++ s ++ "'"
      float := fun _ => none
      env := { get := fun _ => none, intOfText := fun _ => none } }
  installed _ := true
  allowSubscriptionPassthrough := true

/-- A request with a provider key and a subscription bearer, to an upstream that is down. -/
def subscribed (key token : String) : Arrival RouterReadings where
  headers := [("x-modelmeld-byok-openai", key), ("authorization", "Bearer " ++ token)]
  call := .messages (Gateway.plainBody "claude-haiku" "hi")
  outside :=
    { routing := quietReadings
      failover := quietReadings
      chat := fun _ _ => .failed ⟨.transient, "529"⟩
      stream := fun _ _ => .failed ⟨.transient, "529"⟩ }

/-- The visit of such a request. -/
def subscribedVisit (operatorKey key token : String) : DoorTrace RouterHealth JsonObj :=
  Runs.run ((subscriptionGateway.withRouter
      (PersistentRouter.single { cls := .anthropic, credential := operatorKey }).toRouter).welcome
    openDoor) { state := ⟨{}, none, none⟩ } [subscribed key token]

theorem secrets_stay_out_two_subscriptions :
    (subscribedVisit "sk-ant-1" "sk-1" "eyJhbGci.one").masked =
        (subscribedVisit "sk-ant-2" "sk-22" "eyJhbGci.two").masked ∧
      (subscribedVisit "sk-ant-1" "sk-1" "eyJhbGci.one").received.map (fun v =>
        (v.handled.dispatches.map (fun d => d.adapter.credential), v.log)) =
      [(["eyJhbGci.one"],
        ["subscription_passthrough engaged: vendor=anthropic auth=eyJhbGc***[len=12]"])] := by
  have hrouters : PersistentRouter.Alike
      (.single { cls := .anthropic, credential := "sk-ant-1" })
      (.single { cls := .anthropic, credential := "sk-ant-2" }) := .single rfl
  have hquiet : RouterReadings.Alike quietReadings quietReadings := ⟨rfl, rfl, rfl, fun _ _ _ _ => rfl⟩
  have harrival : Arrival.Alike asciiLower RouterReadings.Alike (subscribed "sk-1" "eyJhbGci.one")
      (subscribed "sk-22" "eyJhbGci.two") :=
    ⟨.cons (.key (by decide) (by decide)) (.cons (.bearer ⟨by decide, by decide⟩) .nil),
      ⟨hquiet, hquiet, fun _ _ _ _ => rfl, fun _ _ _ _ => rfl, rfl⟩, rfl⟩
  exact ⟨secrets_stay_out subscriptionGateway openDoor hrouters ⟨{}, none, none⟩
    (.cons harrival .nil), by decide⟩

end ModelMeld
