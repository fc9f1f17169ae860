import ModelMeld.Proof.Inbound
import ModelMeld.Spec.Postgres
import ModelMeld.Spec.SessionKey

/-!
# Session keys along a conversation

`session_key_iff`: the key of a conversation stays when messages are appended
iff a header names the session, or the messages bring no system text that was
not there. Keys of different tenants are never equal.
-/

namespace ModelMeld

/-! ## The first text -/

/-- The first text that is not empty. -/
def firstText (texts : List String) : String := (texts.find? (fun s => decide (s ≠ ""))).getD ""

theorem firstText_cons (s : String) (texts : List String) :
    firstText (s :: texts) = if s = "" then firstText texts else s := by
  unfold firstText
  rw [List.find?_cons]
  by_cases hs : s = "" <;> simp [hs]

theorem firstText_append (texts texts' : List String) :
    firstText (texts ++ texts') =
      if firstText texts = "" then firstText texts' else firstText texts := by
  induction texts with
  | nil => simp [firstText]
  | cons s texts ih =>
    rw [List.cons_append, firstText_cons, firstText_cons, ih]
    by_cases hs : s = ""
    · simp only [hs, if_true]
    · simp only [hs, if_false]

theorem firstText_eq_empty_iff {texts : List String} :
    firstText texts = "" ↔ ∀ s ∈ texts, s = "" := by
  induction texts with
  | nil => simp [firstText]
  | cons s texts ih =>
    rw [firstText_cons, List.forall_mem_cons, ← ih]
    by_cases hs : s = "" <;> simp [hs]

/-! ## The prefix -/

/-- The text found so far, or the first of those to come. -/
def orFirst (found : String) (texts : List String) : String :=
  if found = "" then firstText texts else found

theorem orFirst_cons (found s : String) (texts : List String) :
    orFirst found (s :: texts) = orFirst (if found = "" then s else found) texts := by
  unfold orFirst
  rw [firstText_cons]
  by_cases hfound : found = ""
  · simp only [hfound, if_true]
  · simp only [hfound, if_false]

theorem orFirst_found {found : String} (h : found ≠ "") (texts : List String) :
    orFirst found texts = found := by
  unfold orFirst
  rw [if_neg h]

/-- The loop finds the first texts, though it may stop early. -/
theorem scanPrefix_eq : ∀ (ms : List Message) (found : String × String),
    scanPrefix found ms =
      (orFirst found.1 (ms.filterMap Message.systemPart),
        orFirst found.2 (ms.filterMap Message.userPart)) := by
  intro ms
  induction ms with
  | nil =>
    rintro ⟨systemText, userText⟩
    simp [scanPrefix, orFirst, firstText]
  | cons m rest ih =>
    rintro ⟨systemText, userText⟩
    have hgo : ∀ texts : String × String,
        (if texts.1 ≠ "" ∧ texts.2 ≠ "" then texts else scanPrefix texts rest) =
          (orFirst texts.1 (rest.filterMap Message.systemPart),
            orFirst texts.2 (rest.filterMap Message.userPart)) := by
      intro texts
      split
      next hboth => rw [orFirst_found hboth.1, orFirst_found hboth.2]
      · exact ih texts
    unfold scanPrefix
    cases m with
    | system m =>
      have hsystem : (Message.system m :: rest).filterMap Message.systemPart =
          m.content.partText (fun p => some p.text) :: rest.filterMap Message.systemPart := rfl
      have huser : (Message.system m :: rest).filterMap Message.userPart =
          rest.filterMap Message.userPart := rfl
      rw [hsystem, huser, orFirst_cons]
      exact hgo _
    | user m =>
      obtain ⟨u, hu⟩ : ∃ u, (Message.user m).userPart = some u := ⟨_, rfl⟩
      have hsystem : (Message.user m :: rest).filterMap Message.systemPart =
          rest.filterMap Message.systemPart := rfl
      rw [hsystem, List.filterMap_cons_some hu, orFirst_cons]
      simp only [hu]
      exact hgo _
    | assistant m => exact hgo _
    | tool m => exact hgo _

/-- The first system text of some messages. -/
def firstSystem (ms : List Message) : String := firstText (ms.filterMap Message.systemPart)

/-- The first user text of some messages. -/
def firstUser (ms : List Message) : String := firstText (ms.filterMap Message.userPart)

theorem stablePrefix_eq (request : ChatCompletionRequest) :
    stablePrefix request = firstSystem request.messages ++ "\n" ++ firstUser request.messages := by
  unfold stablePrefix
  rw [scanPrefix_eq]
  rfl

theorem firstSystem_append (ms appended : List Message) :
    firstSystem (ms ++ appended) =
      if firstSystem ms = "" then firstSystem appended else firstSystem ms := by
  unfold firstSystem
  rw [List.filterMap_append, firstText_append]

theorem firstUser_append (ms appended : List Message) :
    firstUser (ms ++ appended) =
      if firstUser ms = "" then firstUser appended else firstUser ms := by
  unfold firstUser
  rw [List.filterMap_append, firstText_append]

/-- With one user text, the prefixes are equal when the system texts are. -/
theorem stablePrefix_inj {first later : ChatCompletionRequest}
    (huser : firstUser later.messages = firstUser first.messages) :
    stablePrefix first = stablePrefix later ↔
      firstSystem first.messages = firstSystem later.messages := by
  rw [stablePrefix_eq, stablePrefix_eq, huser]
  constructor
  · intro h
    have hlist := congrArg String.toList h
    simp only [String.toList_append, List.append_assoc] at hlist
    exact String.toList_inj.1 (List.append_cancel_right hlist)
  · intro h
    rw [h]

/-! ## Keys -/

section Keys

variable {parts : KeyParts} {headers headers' : List (String × String)}
  {first later : ChatCompletionRequest} {tenantId tenantId' : String}

/-- Two requests of one tenant with the same headers have one key iff the headers name the session
or their digests agree. -/
theorem deriveSessionKey_eq_iff :
    deriveSessionKey parts headers first tenantId = deriveSessionKey parts headers later tenantId ↔
      explicitSession parts headers ≠ "" ∨
        implicitDigest parts tenantId first = implicitDigest parts tenantId later := by
  unfold deriveSessionKey
  by_cases hexplicit : explicitSession parts headers ≠ ""
  · simp [hexplicit]
  · rw [if_neg hexplicit, if_neg hexplicit]
    constructor
    · intro h
      have hlist := congrArg String.toList h
      simp only [String.toList_append] at hlist
      exact .inr (String.toList_inj.1 (List.append_cancel_left hlist))
    · rintro (hsome | hdigest)
      · exact absurd hsome hexplicit
      · rw [hdigest]

/-- A valid tenant id has no colon. -/
theorem colon_not_mem (h : validTenantId tenantId = true) : ':' ∉ tenantId.toList := by
  unfold validTenantId at h
  rw [Bool.or_eq_true] at h
  rcases h with hanonymous | hvalid
  · rw [of_decide_eq_true hanonymous]
    decide
  · simp only [Bool.and_eq_true, List.all_eq_true] at hvalid
    intro hmem
    have := hvalid.2 ':' hmem
    revert this
    decide

/-- A key is the tenant id, a colon and the rest. -/
theorem deriveSessionKey_salted : ∃ rest : List Char,
    (deriveSessionKey parts headers first tenantId).toList = tenantId.toList ++ ':' :: rest := by
  unfold deriveSessionKey
  simp only
  split
  · exact ⟨"sid:".toList ++ (explicitSession parts headers).toList, by simp⟩
  · exact ⟨"impl:".toList ++ (implicitDigest parts tenantId first).toList, by simp⟩

/-- **Keys of different tenants are never equal.** -/
theorem deriveSessionKey_apart (h : validTenantId tenantId = true)
    (h' : validTenantId tenantId' = true) (hne : tenantId ≠ tenantId') :
    deriveSessionKey parts headers first tenantId ≠
      deriveSessionKey parts headers' later tenantId' := by
  intro heq
  obtain ⟨rest, hrest⟩ : ∃ rest, (deriveSessionKey parts headers first tenantId).toList =
    tenantId.toList ++ ':' :: rest := deriveSessionKey_salted
  obtain ⟨rest', hrest'⟩ : ∃ rest, (deriveSessionKey parts headers' later tenantId').toList =
    tenantId'.toList ++ ':' :: rest := deriveSessionKey_salted
  -- the tenant id is what stands before the first colon
  have htenant : ∀ (tenant : String) (tail : List Char), validTenantId tenant = true →
      (tenant.toList ++ ':' :: tail).takeWhile (fun c => decide (c ≠ ':')) = tenant.toList := by
    intro tenant tail hvalid
    rw [List.takeWhile_append_of_pos, List.takeWhile_cons_of_neg (by simp), List.append_nil]
    intro c hc
    have hcolon : c ≠ ':' := by
      rintro rfl
      exact colon_not_mem hvalid hc
    simpa using hcolon
  have hsame : tenantId.toList = tenantId'.toList := by
    rw [← htenant tenantId rest h, ← hrest, heq, hrest', htenant tenantId' rest' h']
  exact hne (String.toList_inj.1 hsame)

end Keys

/-! ## The system text of a translated body -/

/-- More texts make a longer text. -/
theorem join_append_ne (sep : String) (texts : List String) {new : List String} (hne : new ≠ [])
    (hsome : ∀ s ∈ new, s ≠ "") : join sep (texts ++ new) ≠ join sep texts := by
  intro heq
  have hlength := congrArg String.length heq
  rw [length_join, length_join, List.map_append, List.sum_append, List.length_append] at hlength
  obtain ⟨s, rest, rfl⟩ := List.exists_cons_of_ne_nil hne
  have hpos : 0 < s.length := by
    rw [Nat.pos_iff_ne_zero]
    intro hzero
    exact hsome s List.mem_cons_self (String.length_eq_zero_iff.1 hzero)
  have hsep : sep.length * (texts.length - 1) ≤
      sep.length * (texts.length + (s :: rest).length - 1) :=
    Nat.mul_le_mul_left _ (by omega)
  rw [List.map_cons, List.sum_cons] at hlength
  omega

/-- The text of the leading system message. -/
def leadText (parts : List TextPart) : String :=
  if parts.any (fun p => p.cacheControl.getD [] ≠ []) then
    join " " ((parts.map TextPart.text).filter (fun s => decide (s ≠ "")))
  else join "\n\n" (parts.map TextPart.text)

theorem firstSystem_leadingSystem (parts : List TextPart) :
    firstSystem (leadingSystem parts) = leadText parts := by
  have hone : ∀ s, firstText [s] = s := by
    intro s
    rw [firstText_cons]
    split
    next hs => rw [hs]; rfl
    · rfl
  unfold leadingSystem leadText
  by_cases hnil : parts = []
  · rw [if_pos hnil, hnil]
    rfl
  · rw [if_neg hnil]
    split
    · refine (hone _).trans ?_
      unfold Content.partText
      rw [List.filterMap_eq_map']
    · exact hone _

/-- A fragment in the array carries no breakpoint, and is not empty. -/
theorem fragmentOf_spec {msg : AnthropicMessage} {part : TextPart} (h : fragmentOf msg = some part) :
    part.cacheControl = none ∧ part.text ≠ "" := by
  unfold fragmentOf at h
  split at h
  · split at h
    · cases h
    next htext =>
      obtain rfl := Option.some.inj h
      exact ⟨rfl, htext⟩
  · cases h

/-- The leading system text stays iff no fragment is added. -/
theorem leadText_append_iff (parts : List TextPart) (appended : List AnthropicMessage) :
    leadText (parts ++ appended.filterMap fragmentOf) = leadText parts ↔
      ∀ msg ∈ appended, msg.role = .system → systemText msg.content = "" := by
  have hnone : appended.filterMap fragmentOf = [] ↔
      ∀ msg ∈ appended, msg.role = .system → systemText msg.content = "" := by
    rw [List.filterMap_eq_nil_iff]
    refine forall₂_congr ?_
    intro msg _
    unfold fragmentOf
    cases msg.role <;> simp
  rw [← hnone]
  have hspec : ∀ part ∈ appended.filterMap fragmentOf,
      part.cacheControl = none ∧ part.text ≠ "" := by
    intro part hpart
    obtain ⟨msg, -, hmsg⟩ := List.mem_filterMap.1 hpart
    exact fragmentOf_spec hmsg
  generalize appended.filterMap fragmentOf = new at hspec
  constructor
  · intro heq
    by_contra hne
    have hcache : new.any (fun p => p.cacheControl.getD [] ≠ []) = false := by
      rw [List.any_eq_false]
      intro part hpart
      simp [(hspec part hpart).1]
    have hsome : ∀ s ∈ new.map TextPart.text, s ≠ "" := by
      intro s hs
      obtain ⟨part, hpart, rfl⟩ := List.mem_map.1 hs
      exact (hspec part hpart).2
    have hmap : new.map TextPart.text ≠ [] := by simpa using hne
    have hfilter : (new.map TextPart.text).filter (fun s => decide (s ≠ "")) =
        new.map TextPart.text := by
      rw [List.filter_eq_self]
      intro s hs
      simpa using hsome s hs
    unfold leadText at heq
    rw [List.any_append, hcache, Bool.or_false, List.map_append, List.filter_append, hfilter] at heq
    split at heq
    · exact join_append_ne " " _ hmap hsome heq
    · exact join_append_ne "\n\n" _ hmap hsome heq
  · intro hnil
    rw [hnil, List.append_nil]

theorem firstSystem_inbound (t : PythonText) (body : AnthropicMessagesRequest) :
    firstSystem (inbound t body).messages = leadText (systemFragments body) := by
  have hbody : firstSystem (body.messages.flatMap (bodyOf t)) = "" := by
    unfold firstSystem
    rw [firstText_eq_empty_iff]
    intro s hs
    obtain ⟨m, hm, hpart⟩ := List.mem_filterMap.1 hs
    obtain ⟨msg, -, hm⟩ := List.mem_flatMap.1 hm
    cases m with
    | system m => exact absurd rfl (bodyOf_not_system hm m)
    | _ => cases hpart
  change firstSystem (leadingSystem _ ++ _) = _
  rw [firstSystem_append, firstSystem_leadingSystem, hbody]
  split
  next hempty => exact hempty.symm
  · rfl

/-! ## Conversations -/

/-- A user message with a text. -/
def AnthropicMessage.HasText (msg : AnthropicMessage) : Prop :=
  match msg.content with
  | .str s => s ≠ ""
  | .parts blocks => ∃ b ∈ blocks.filterMap textBlockOf, b.text ≠ ""

/-- A request of a conversation and the messages that a later one has appended, on one of the two
surfaces. -/
inductive Conversation where
  | chat (request : ChatCompletionRequest) (appended : List Message)
  | messages (body : AnthropicMessagesRequest) (appended : List AnthropicMessage)

namespace Conversation

/-- The first request, as the handler has it. -/
def first (t : PythonText) : Conversation → Except TranslationError ChatCompletionRequest
  | .chat request _ => .ok request
  | .messages body _ => fromAnthropicRequest t body

/-- The later request. -/
def later (t : PythonText) : Conversation → Except TranslationError ChatCompletionRequest
  | .chat request appended => .ok { request with messages := request.messages ++ appended }
  | .messages body appended =>
    fromAnthropicRequest t { body with messages := body.messages ++ appended }

/-- The first request has a user message with text. -/
def HasUserText : Conversation → Prop
  | .chat request _ => ∃ m ∈ request.messages, ∃ u, m.userPart = some u ∧ u ≠ ""
  | .messages body _ => ∃ msg ∈ body.messages, msg.role = .user ∧ msg.HasText

/-- The appended messages bring no system text, or there was one that comes first. -/
def KeepsSystemText : Conversation → Prop
  | .chat request appended =>
    (∃ m ∈ request.messages, ∃ s, m.systemPart = some s ∧ s ≠ "") ∨
      ∀ m ∈ appended, ∀ s, m.systemPart = some s → s = ""
  | .messages _ appended => ∀ msg ∈ appended, msg.role = .system → systemText msg.content = ""

end Conversation

/-! ## The user text of a translated body -/

theorem firstUser_ne_empty_iff {ms : List Message} :
    firstUser ms ≠ "" ↔ ∃ m ∈ ms, ∃ u, m.userPart = some u ∧ u ≠ "" := by
  unfold firstUser
  rw [ne_eq, firstText_eq_empty_iff]
  simp only [List.mem_filterMap, not_forall]
  constructor
  · rintro ⟨u, ⟨m, hm, hu⟩, hne⟩
    exact ⟨m, hm, u, hu, hne⟩
  · rintro ⟨m, hm, u, hu, hne⟩
    exact ⟨u, ⟨m, hm, hu⟩, hne⟩

theorem firstSystem_ne_empty_iff {ms : List Message} :
    firstSystem ms ≠ "" ↔ ∃ m ∈ ms, ∃ s, m.systemPart = some s ∧ s ≠ "" := by
  unfold firstSystem
  rw [ne_eq, firstText_eq_empty_iff]
  simp only [List.mem_filterMap, not_forall]
  constructor
  · rintro ⟨s, ⟨m, hm, hs⟩, hne⟩
    exact ⟨m, hm, s, hs, hne⟩
  · rintro ⟨m, hm, s, hs, hne⟩
    exact ⟨s, ⟨m, hm, hs⟩, hne⟩

/-- The text of some parts, one of which has text. -/
theorem partText_ne_empty {parts : List TextPart} {part : TextPart} (hpart : part ∈ parts)
    (htext : part.text ≠ "") :
    ∃ u, (Message.user { content := .parts (parts.map ContentPart.text) }).userPart = some u ∧
      u ≠ "" := by
  refine ⟨_, rfl, ?_⟩
  unfold Content.partText
  have htexts : (parts.map ContentPart.text).filterMap ContentPart.text? =
      parts.map TextPart.text := by
    rw [List.filterMap_map, ← List.filterMap_eq_map']
    rfl
  have hmem : part.text ∈ (parts.map TextPart.text).filter (fun s => decide (s ≠ "")) :=
    List.mem_filter.2 ⟨List.mem_map_of_mem hpart, by simpa using htext⟩
  simp only [htexts]
  exact ne_empty_of_isSubstring (isSubstring_join " " hmem) htext

theorem userMessageOf_hasText {parts : List TextPart} {part : TextPart} (hpart : part ∈ parts)
    (htext : part.text ≠ "") :
    ∃ m ∈ userMessageOf parts, ∃ u, m.userPart = some u ∧ u ≠ "" := by
  have hparts := partText_ne_empty hpart htext
  unfold userMessageOf
  split
  · exact absurd hpart List.not_mem_nil
  next only =>
    obtain rfl := List.mem_singleton.1 hpart
    split
    · exact ⟨_, List.mem_singleton_self _, _, rfl, htext⟩
    · exact ⟨_, List.mem_singleton_self _, hparts⟩
  · exact ⟨_, List.mem_singleton_self _, hparts⟩

theorem userBody_hasText {msg : AnthropicMessage} (h : msg.HasText) :
    ∃ m ∈ userBody msg.content, ∃ u, m.userPart = some u ∧ u ≠ "" := by
  unfold AnthropicMessage.HasText at h
  unfold userBody
  cases hcontent : msg.content with
  | str s =>
    rw [hcontent] at h
    exact ⟨_, List.mem_singleton_self _, s, rfl, h⟩
  | parts blocks =>
    rw [hcontent] at h
    obtain ⟨b, hb, htext⟩ := h
    have hpart : textPartOf b ∈ (blocks.filterMap textBlockOf).map textPartOf :=
      List.mem_map_of_mem hb
    obtain ⟨m, hm, hu⟩ := userMessageOf_hasText hpart htext
    exact ⟨m, List.mem_append_right _ hm, hu⟩

theorem firstUser_inbound (t : PythonText) (body : AnthropicMessagesRequest) :
    firstUser (inbound t body).messages = firstUser (body.messages.flatMap (bodyOf t)) := by
  have hlead : firstUser (leadingSystem (systemFragments body)) = "" := by
    unfold leadingSystem
    split
    · rfl
    · split <;> rfl
  change firstUser (leadingSystem _ ++ _) = _
  rw [firstUser_append, hlead, if_pos rfl]

/-! ## The key of a conversation -/

namespace Conversation

variable {t : PythonText} {c : Conversation} {request request' : ChatCompletionRequest}

/-- Appended messages leave the first user text. -/
theorem firstUser_later (hfirst : c.first t = .ok request) (hlater : c.later t = .ok request')
    (htext : c.HasUserText) : firstUser request'.messages = firstUser request.messages := by
  cases c with
  | chat body appended =>
    obtain rfl := Except.ok.inj hfirst
    obtain rfl := Except.ok.inj hlater
    change firstUser (body.messages ++ appended) = _
    rw [firstUser_append, if_neg (firstUser_ne_empty_iff.2 htext)]
  | messages body appended =>
    rw [fromAnthropicRequest_ok hfirst, fromAnthropicRequest_ok hlater, firstUser_inbound,
      firstUser_inbound, List.flatMap_append, firstUser_append, if_neg]
    obtain ⟨msg, hmsg, hrole, hhas⟩ := htext
    obtain ⟨m, hm, hu⟩ := userBody_hasText hhas
    refine firstUser_ne_empty_iff.2 ⟨m, List.mem_flatMap.2 ⟨msg, hmsg, ?_⟩, hu⟩
    rw [bodyOf, hrole]
    exact hm

/-- The system text stays iff nothing is put before or joined to it. -/
theorem firstSystem_later_iff (hfirst : c.first t = .ok request)
    (hlater : c.later t = .ok request') :
    firstSystem request.messages = firstSystem request'.messages ↔ c.KeepsSystemText := by
  cases c with
  | chat body appended =>
    obtain rfl := Except.ok.inj hfirst
    obtain rfl := Except.ok.inj hlater
    change firstSystem body.messages = firstSystem (body.messages ++ appended) ↔
      (∃ m ∈ body.messages, _) ∨ _
    rw [firstSystem_append, ← firstSystem_ne_empty_iff]
    have hnone : firstSystem appended = "" ↔
        ∀ m ∈ appended, ∀ s, m.systemPart = some s → s = "" := by
      unfold firstSystem
      rw [firstText_eq_empty_iff]
      simp only [List.mem_filterMap, forall_exists_index, and_imp]
      exact ⟨fun h m hm s hs => h s m hm hs, fun h s m hm hs => h m hm s hs⟩
    rw [← hnone]
    by_cases hempty : firstSystem body.messages = ""
    · rw [if_pos hempty, hempty]
      have hnot : ¬("" : String) ≠ "" := fun h => h rfl
      rw [eq_comm, or_iff_right hnot]
    · rw [if_neg hempty]
      exact iff_of_true rfl (.inl hempty)
  | messages body appended =>
    rw [fromAnthropicRequest_ok hfirst, fromAnthropicRequest_ok hlater, firstSystem_inbound,
      firstSystem_inbound]
    change _ ↔ ∀ msg ∈ appended, _
    rw [← leadText_append_iff (systemFragments body) appended, eq_comm]
    unfold systemFragments
    rw [List.filterMap_append, ← List.append_assoc]
    rfl

end Conversation

/-- **The session key of a conversation stays iff a header names the session or the appended
messages keep its system text; keys of different tenants are never equal.** The digests are
assumed to tell the two prefixes apart when these differ. -/
theorem session_key_iff (t : PythonText) (parts : KeyParts) (headers : List (String × String))
    (tenantId : String) {c : Conversation} {first later : ChatCompletionRequest}
    (hfirst : c.first t = .ok first) (hlater : c.later t = .ok later) (htext : c.HasUserText)
    (hdigest : implicitDigest parts tenantId first = implicitDigest parts tenantId later →
      stablePrefix first = stablePrefix later) :
    (deriveSessionKey parts headers first tenantId =
        deriveSessionKey parts headers later tenantId ∧
      ∀ tenant tenant' headers' request request', validTenantId tenant = true →
        validTenantId tenant' = true → tenant ≠ tenant' →
        deriveSessionKey parts headers request tenant ≠
          deriveSessionKey parts headers' request' tenant') ↔
      explicitSession parts headers ≠ "" ∨ c.KeepsSystemText := by
  have huser := Conversation.firstUser_later hfirst hlater htext
  have hsystem := Conversation.firstSystem_later_iff hfirst hlater
  rw [deriveSessionKey_eq_iff, and_iff_left]
  · refine or_congr_right ?_
    rw [← hsystem, ← stablePrefix_inj huser]
    constructor
    · exact hdigest
    · intro hbegins
      unfold implicitDigest
      rw [hbegins]
  · intro tenant tenant' headers' request request' hvalid hvalid' hne
    exact deriveSessionKey_apart hvalid hvalid' hne

/-! ## Two requests -/

/-- `str.lower` and SHA-256 on the texts of the examples. -/
def sampleKeyParts : KeyParts where
  lower := id
  sha256 text :=
    if text = "acme\x00\nHello" then
      "0ced7adc11c796d1030c5673981834d45c94f0a326cfe67ce51db8027d5c85f3"
    else if text = "acme\x00Be brief.\nHello" then
      "e7dee34002d1bbd7118e49dc619a6ef173576095754f74ed3a706f03c78248f9"
    else ""

def greeting : AnthropicMessagesRequest where
  model := "modelmeld-auto"
  maxTokens := 100
  messages := [{ role := .user, content := .str "Hello" }]

/-- A turn of each side. -/
def plainTurns : List AnthropicMessage :=
  [{ role := .assistant, content := .str "Hi." }, { role := .user, content := .str "Go on." }]

/-- The same turns, and a system message between them. -/
def remindedTurns : List AnthropicMessage :=
  [{ role := .assistant, content := .str "Hi." },
    { role := .system, content := .str "Be brief." },
    { role := .user, content := .str "Go on." }]

theorem greeting_hasUserText (appended : List AnthropicMessage) :
    (Conversation.messages greeting appended).HasUserText :=
  ⟨{ role := .user, content := .str "Hello" }, List.mem_singleton_self _, rfl,
    by simp [AnthropicMessage.HasText]⟩

theorem session_key_iff_plain_turns :
    (deriveSessionKey sampleKeyParts [] (inbound weatherTexts greeting) "acme" =
        deriveSessionKey sampleKeyParts []
          (inbound weatherTexts { greeting with messages := greeting.messages ++ plainTurns })
          "acme" ∧
      ∀ tenant tenant' headers' request request', validTenantId tenant = true →
        validTenantId tenant' = true → tenant ≠ tenant' →
        deriveSessionKey sampleKeyParts [] request tenant ≠
          deriveSessionKey sampleKeyParts headers' request' tenant') ↔
      explicitSession sampleKeyParts [] ≠ "" ∨
        (Conversation.messages greeting plainTurns).KeepsSystemText :=
  session_key_iff weatherTexts sampleKeyParts [] "acme" rfl rfl (greeting_hasUserText plainTurns)
    (fun _ => rfl)

/-- A system message in a later request changes the key. -/
theorem session_key_changed :
    ¬ ∀ (t : PythonText) (parts : KeyParts) (headers : List (String × String))
      (tenantId : String) (c : Conversation) (first later : ChatCompletionRequest),
      c.first t = .ok first → c.later t = .ok later → c.HasUserText →
      deriveSessionKey parts headers first tenantId =
          deriveSessionKey parts headers later tenantId ∧
        ∀ tenant tenant' headers' request request', validTenantId tenant = true →
          validTenantId tenant' = true → tenant ≠ tenant' →
          deriveSessionKey parts headers request tenant ≠
            deriveSessionKey parts headers' request' tenant' := by
  intro h
  have hsame := (h weatherTexts sampleKeyParts [] "acme" (.messages greeting remindedTurns) _ _ rfl
    rfl (greeting_hasUserText remindedTurns)).1
  revert hsame
  decide

end ModelMeld
