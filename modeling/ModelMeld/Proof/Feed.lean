import ModelMeld.Lib.Checked
import ModelMeld.Lib.Runs
import ModelMeld.Spec.Feed

/-!
# Where the registry of a result comes from

The cache file is read without its signature. What makes up for it is an
invariant of the whole run: the file is the beginning of a body that an earlier
call received and verified (`CacheVouched`). So a registry that is not the bundled
one is always that of a signed body (`feed_provenance`).
-/

namespace ModelMeld

variable {K : Type} {lib : FeedLibrary K} {client : RegistryFeedClient K}

/-- The call was answered with the body, and with a signature of it by a pinned key. -/
def AnsweredWith (lib : FeedLibrary K) (client : RegistryFeedClient K) (call : FeedCall)
    (body : List UInt8) : Prop :=
  ∃ status text signature, ∃ key ∈ client.publicKeys,
    call.http = .response status (some text) body ∧ status < 400 ∧
      lib.b64decode text = some signature ∧ lib.verify key signature body = .verified

/-- The `valid_until` of an envelope, where it has one, has not passed. -/
def Unexpired (lib : FeedLibrary K) (now : ℚ) (envelope : PyDict) : Prop :=
  ∀ v, envelope.get? "valid_until" = some v → v ≠ .null →
    ∃ text expiry, v = .str text ∧ lib.fromisoformat text = some (.aware expiry) ∧ now ≤ expiry

/-- The body is a supported envelope, not expired by then, and its registry is this one. -/
def Carries (lib : FeedLibrary K) (now : ℚ) (body : List UInt8) (registry : LoadedRegistry) :
    Prop :=
  ∃ envelope : PyDict, lib.loads body = .ok (.obj envelope) ∧
    (∃ version, envelope.get? "schema_version" = some version ∧ equalsOne version = true) ∧
    Unexpired lib now envelope ∧
    ∃ payload, envelope.get? "registry" = some payload ∧
      fromJson lib.conversions payload = .ok registry

/-- When a call that ended in a result of the source checked the expiry of its envelope. -/
def FeedCall.checkedAt (call : FeedCall) : FeedSource → ℚ
  | .cached => call.cacheCheckedAt
  | _ => call.feedCheckedAt

/-! ## Checks -/

theorem verifyKeys_sound {signature body : List UInt8} : ∀ {keys : List K},
    verifyKeys lib signature body keys = true →
      ∃ key ∈ keys, lib.verify key signature body = .verified := by
  intro keys
  induction keys with
  | nil =>
    intro h
    cases h
  | cons key keys ih =>
    intro h
    rw [verifyKeys] at h
    split at h
    · next hkey => exact ⟨key, List.mem_cons_self, hkey⟩
    · obtain ⟨later, hlater, hverified⟩ := ih h
      exact ⟨later, List.mem_cons_of_mem _ hlater, hverified⟩
    · cases h

theorem stillValid_sound {now : ℚ} {envelope : PyDict}
    (h : stillValid lib now ((envelope.get? "valid_until").getD .null) = .ok true) :
    Unexpired lib now envelope := by
  intro v hv hnull
  rw [hv, Option.getD_some] at h
  cases v with
  | null => exact absurd rfl hnull
  | str text =>
    rw [stillValid] at h
    split at h
    · cases h
    · cases h
    · next expiry hparsed =>
      refine ⟨text, expiry, rfl, hparsed, ?_⟩
      simpa using h
  | bool b => cases h
  | int n => cases h
  | float q => cases h
  | arr items => cases h
  | obj fields => cases h

/-- What an envelope has that passes. -/
theorem validateEnvelope_sound {now : ℚ} {envelope : PyValue}
    (h : validateEnvelope lib now envelope = .ok true) :
    ∃ d : PyDict, envelope = .obj d ∧
      (∃ version, d.get? "schema_version" = some version ∧ equalsOne version = true) ∧
      Unexpired lib now d := by
  cases envelope with
  | obj d =>
    rw [validateEnvelope] at h
    obtain ⟨supported, hsupported, h⟩ := Checked.bind_eq_ok.mp h
    cases supported with
    | false => cases h
    | true =>
      obtain ⟨valid, hvalid, h⟩ := Checked.bind_eq_ok.mp h
      cases valid with
      | false => cases h
      | true =>
        refine ⟨d, rfl, ?_, stillValid_sound hvalid⟩
        unfold schemaSupported at hsupported
        split at hsupported
        · cases hversion : PyDict.get? d "schema_version" with
          | none =>
            rw [hversion] at hsupported
            cases hsupported
          | some version =>
            rw [hversion] at hsupported
            exact ⟨version, rfl, Except.ok.inj hsupported⟩
        · cases hsupported
  | null => cases h
  | bool b => cases h
  | int n => cases h
  | float q => cases h
  | str s => cases h
  | arr items => cases h

theorem subscript_ok {d : PyDict} {key : String} {v : PyValue} (h : subscript (.obj d) key = .ok v) :
    d.get? key = some v := by
  simp only [subscript] at h
  cases hget : PyDict.get? d key with
  | none =>
    rw [hget] at h
    cases h
  | some w =>
    rw [hget] at h
    exact congrArg some (Except.ok.inj h)

/-- A body that is not turned down carries the registry that is read from it. -/
theorem registryOf_sound {now : ℚ} {body : List UInt8} {registry : LoadedRegistry} {envelope : PyValue}
    (h : registryOf lib now body = .ok (some (registry, envelope))) :
    Carries lib now body registry := by
  unfold registryOf at h
  split at h
  · cases h
  · cases h
  · next loaded hloads =>
    obtain ⟨passes, hpasses, h⟩ := Checked.bind_eq_ok.mp h
    cases passes with
    | false => cases h
    | true =>
      obtain ⟨d, rfl, hversion, hunexpired⟩ := validateEnvelope_sound hpasses
      simp only [if_true] at h
      split at h
      · next parsed hparsed =>
        obtain ⟨rfl, -⟩ := Prod.mk.inj (Option.some.inj (Except.ok.inj h))
        obtain ⟨payload, hpayload, hjson⟩ := Checked.bind_eq_ok.mp hparsed
        exact ⟨d, hloads, hversion, hunexpired, payload, subscript_ok hpayload, hjson⟩
      · split at h <;> cases h

/-! ## One call -/

/-- The body of a cache file is the beginning of a body that one of the calls received signed. -/
def CacheVouched (lib : FeedLibrary K) (client : RegistryFeedClient K) (calls : List FeedCall)
    (file : Option CacheFile) : Prop :=
  ∀ f ∈ file, ∃ body n, f.body = body.take n ∧
    (∃ call ∈ calls, AnsweredWith lib client call body) ∧
    ∃ envelope : PyDict, lib.loads body = .ok (.obj envelope)

/-- The call was answered with a signed body that carries a registry. -/
def Accepted (lib : FeedLibrary K) (client : RegistryFeedClient K) (call : FeedCall) : Prop :=
  ∃ body registry, AnsweredWith lib client call body ∧
    Carries lib call.feedCheckedAt body registry

theorem answeredWith_of_fetch {call : FeedCall} {body : List UInt8} {text : String}
    (hkeys : client.publicKeys.isEmpty = false) (hhttp : httpFetch client call.http = some (body, text))
    (hverify : verifySignature lib client.publicKeys body text = true) :
    AnsweredWith lib client call body := by
  unfold httpFetch at hhttp
  split at hhttp
  · cases hhttp
  · next status header content hresponse =>
    split at hhttp
    · cases hhttp
    · next hstatus =>
      cases header with
      | none =>
        simp only [hkeys] at hhttp
        cases hhttp
      | some sent =>
        obtain ⟨rfl, rfl⟩ := Prod.mk.inj (Option.some.inj hhttp)
        unfold verifySignature at hverify
        split at hverify
        · cases hverify
        · next signature hdecoded =>
          obtain ⟨key, hkey, hverified⟩ := verifyKeys_sound hverify
          exact ⟨status, sent, signature, key, hkey, hresponse, by omega, hdecoded, hverified⟩

/-- What `fetchFeed` can end in. -/
inductive FeedCase (lib : FeedLibrary K) (client : RegistryFeedClient K) (call : FeedCall)
    (file : Option CacheFile) : Except PyError FeedFetchResult × Option CacheFile → Prop where
  | seed : FeedCase lib client call file (.ok (fallbackToSeed client), file)
  | raised (e : PyError) : FeedCase lib client call file (.error e, file)
  | fetched {body : List UInt8} {registry : LoadedRegistry}
      {result : Except PyError FeedFetchResult}
      (answered : AnsweredWith lib client call body)
      (carries : Carries lib call.feedCheckedAt body registry)
      (hresult : ∀ r, result = .ok r → r.source = .feed ∧ r.registry = registry) :
      FeedCase lib client call file (result, writeCache client call body file)

theorem fetchFeed_cases (call : FeedCall) (file : Option CacheFile) :
    FeedCase lib client call file (fetchFeed lib client call file) := by
  unfold fetchFeed
  split
  · exact .seed
  · split
    · exact .seed
    · next body text hhttp =>
      split
      · exact .seed
      · next hkeys =>
        split
        · next hverify =>
          split
          · exact .raised _
          · exact .seed
          · next registry envelope hregistry =>
            refine .fetched (answeredWith_of_fetch (by simpa using hkeys) hhttp hverify)
              (registryOf_sound hregistry) ?_
            intro r hr
            cases hversion : feedVersion lib envelope with
            | error e =>
              rw [hversion] at hr
              cases hr
            | ok version =>
              rw [hversion] at hr
              rw [← Except.ok.inj hr]
              exact ⟨rfl, rfl⟩
        · exact .seed

theorem readCache_some {call : FeedCall} {file : Option CacheFile} {cached : FeedFetchResult}
    (h : readCache lib client call file = .ok (some cached)) :
    ∃ f, file = some f ∧ cached.source = .cached ∧
      Carries lib call.cacheCheckedAt f.body cached.registry := by
  unfold readCache at h
  split at h
  · cases h
  · split at h
    · cases h
    · cases file with
      | none => cases h
      | some f =>
        simp only at h
        split at h
        · cases h
        · split at h
          · cases h
          · split at h
            · cases h
            · obtain ⟨read, hread, h⟩ := Checked.bind_eq_ok.mp h
              cases read with
              | none => cases h
              | some pair =>
                obtain ⟨registry, envelope⟩ := pair
                obtain ⟨version, -, h⟩ := Checked.bind_eq_ok.mp h
                have hresult := Option.some.inj (Except.ok.inj h)
                rw [← hresult]
                exact ⟨f, rfl, rfl, registryOf_sound hread⟩

/-- What a cached file carries, the body it is the beginning of carries too. -/
theorem carries_of_take {now : ℚ} {body : List UInt8} {n : ℕ} {registry : LoadedRegistry}
    {whole : PyDict} (hwhole : lib.loads body = .ok (.obj whole))
    (h : Carries lib now (body.take n) registry) : Carries lib now body registry := by
  obtain ⟨envelope, hloads, hrest⟩ := h
  have hsame := lib.loads_take body n whole envelope hwhole hloads
  subst hsame
  exact ⟨envelope, hwhole, hrest⟩

variable (lib client) in
/-- What `fetch` can end in. -/
theorem fetch_cases (call : FeedCall) (file : Option CacheFile) :
    (∃ f cached, file = some f ∧ fetch lib client file call = (.ok cached, file) ∧
      cached.source = .cached ∧ Carries lib call.cacheCheckedAt f.body cached.registry) ∨
    FeedCase lib client call file (fetch lib client file call) := by
  unfold fetch
  split
  · exact .inr (.raised _)
  · next cached hread =>
    obtain ⟨f, hfile, hsource, hcarries⟩ := readCache_some hread
    exact .inl ⟨f, cached, hfile, rfl, hsource, hcarries⟩
  · exact .inr (fetchFeed_cases call file)

variable (lib client) in
/-- A call changes the cache file only by a body it received signed, and that carries a registry. -/
theorem fileAfter_cases (call : FeedCall) (file : Option CacheFile) :
    fileAfter lib client file call = file ∨
      ∃ body registry, AnsweredWith lib client call body ∧
        Carries lib call.feedCheckedAt body registry ∧
        fileAfter lib client file call = writeCache client call body file := by
  unfold fileAfter
  rcases fetch_cases lib client call file with
    ⟨f, cached, -, hfetch, -, -⟩ | hcase
  · left
    rw [hfetch]
  · generalize hfetch : fetch lib client file call = outcome at hcase
    cases hcase with
    | seed => exact .inl rfl
    | raised e => exact .inl rfl
    | fetched answered carries hresult => exact .inr ⟨_, _, answered, carries, rfl⟩

/-! ## Runs -/

theorem cacheVouched_mono {calls calls' : List FeedCall} (hsub : calls ⊆ calls')
    {file : Option CacheFile} (h : CacheVouched lib client calls file) :
    CacheVouched lib client calls' file := by
  intro f hf
  obtain ⟨body, n, hbody, ⟨call, hcall, hanswered⟩, henvelope⟩ := h f hf
  exact ⟨body, n, hbody, ⟨call, hsub hcall, hanswered⟩, henvelope⟩

/-- **A call keeps the cache vouched for.** -/
theorem cacheVouched_step {calls : List FeedCall} {file : Option CacheFile} (call : FeedCall)
    (h : CacheVouched lib client calls file) :
    CacheVouched lib client (calls ++ [call]) (fileAfter lib client file call) := by
  have hkept := cacheVouched_mono (List.subset_append_left calls [call]) h
  rcases fileAfter_cases lib client call file with
    hsame | ⟨body, registry, hanswered, ⟨envelope, hloads, -⟩, hwritten⟩
  · rwa [hsame]
  · rw [hwritten]
    have hcall : ∃ c ∈ calls ++ [call], AnsweredWith lib client c body :=
      ⟨call, List.mem_append_right _ List.mem_cons_self, hanswered⟩
    unfold writeCache
    split
    · split
      · exact hkept
      · next written mtime hwrite =>
        intro f hf
        rw [← Option.some.inj hf]
        exact ⟨body, written, rfl, hcall, envelope, hloads⟩
      · next mtime hwrite =>
        intro f hf
        rw [← Option.some.inj hf]
        exact ⟨body, body.length, (List.take_length).symm, hcall, envelope, hloads⟩
    · exact hkept

/-- The cache file after calls that began without one. -/
def cacheAfter (lib : FeedLibrary K) (client : RegistryFeedClient K) (calls : List FeedCall) :
    Option CacheFile :=
  Runs.run (fileAfter lib client) none calls

theorem cacheVouched_run (calls : List FeedCall) :
    CacheVouched lib client calls (cacheAfter lib client calls) := by
  induction calls using List.reverseRecOn with
  | nil =>
    intro f hf
    cases hf
  | append_singleton calls call ih =>
    unfold cacheAfter
    rw [Runs.run_append]
    exact cacheVouched_step call ih

/-- **A registry that is not the bundled one is that of a body a pinned key signed; and only such a
body changes the cache.** -/
theorem feed_provenance (lib : FeedLibrary K) (client : RegistryFeedClient K)
    (calls : List FeedCall) (call : FeedCall) :
    (∀ result, (fetch lib client (cacheAfter lib client calls) call).1 = .ok result →
      (result.source ≠ .seed → ∃ body, (∃ earlier ∈ calls ++ [call],
          AnsweredWith lib client earlier body) ∧
        Carries lib (call.checkedAt result.source) body result.registry) ∧
      (result.source = .seed → result = fallbackToSeed client)) ∧
    (¬ Accepted lib client call →
      fileAfter lib client (cacheAfter lib client calls) call = cacheAfter lib client calls) := by
  constructor
  · intro result hok
    rcases fetch_cases lib client call (cacheAfter lib client calls) with
      ⟨f, cached, hfile, hfetch, hsource, hcarries⟩ | hcase
    · rw [hfetch] at hok
      have hresult : cached = result := Except.ok.inj hok
      subst hresult
      obtain ⟨body, n, hbody, ⟨earlier, hearlier, hanswered⟩, envelope, hwhole⟩ :=
        cacheVouched_run calls f hfile
      refine ⟨fun _ => ⟨body, ⟨earlier, List.mem_append_left _ hearlier, hanswered⟩, ?_⟩, ?_⟩
      · rw [hsource]
        apply carries_of_take hwhole
        rw [← hbody]
        exact hcarries
      · intro hseed
        rw [hsource] at hseed
        cases hseed
    · generalize hfetch : fetch lib client (cacheAfter lib client calls) call = outcome at hcase hok
      cases hcase with
      | seed =>
        have hresult : fallbackToSeed client = result := Except.ok.inj hok
        subst hresult
        exact ⟨fun hne => absurd rfl hne, fun _ => rfl⟩
      | raised e => cases hok
      | fetched answered carries hresult =>
        obtain ⟨hsource, hregistry⟩ := hresult result hok
        refine ⟨fun _ => ⟨_, ⟨call, List.mem_append_right _ List.mem_cons_self, answered⟩, ?_⟩, ?_⟩
        · rw [hsource, hregistry]
          exact carries
        · intro hseed
          rw [hsource] at hseed
          cases hseed
  · intro hnot
    rcases fileAfter_cases lib client call (cacheAfter lib client calls) with
      hsame | ⟨body, registry, hanswered, hcarries, -⟩
    · exact hsame
    · exact absurd ⟨body, registry, hanswered, hcarries⟩ hnot

/-- A library that knows one body, of two bytes, and takes the signature of one byte for it. -/
def sampleLibrary : FeedLibrary Unit where
  conversions := ⟨fun _ => none, fun _ => none, fun n => some n, fun _ => ""⟩
  b64decode := fun text => if text = "AQ==" then some [1] else none
  verify := fun _ signature _ => if signature = [1] then .verified else .invalid
  loads := fun body =>
    if body = [1, 2] then
      .ok (.obj [("schema_version", .int 1), ("registry", .obj [("models", .arr [])])])
    else .error .jsonDecodeError
  loads_take := by
    intro body n d d' hwhole hpart
    split at hwhole
    · split at hpart
      · exact (PyValue.obj.inj (Except.ok.inj hpart)).symm.trans (PyValue.obj.inj (Except.ok.inj hwhole))
      · cases hpart
    · cases hwhole
  fromisoformat := fun _ => none

def sampleClient : RegistryFeedClient Unit where
  feedUrl := some "https://feed"
  publicKeys := [()]
  caching := true
  cacheTtlSec := 3600
  pinned := fun _ => List.cons_ne_nil _ _
  bundled := ⟨[]⟩

def sampleCall (now : ℚ) (http : HttpOutcome) : FeedCall where
  readFault := .none
  readAt := now
  cacheCheckedAt := now
  http := http
  feedCheckedAt := now
  write := .finished now
  fetchedAt := now

/-- A signed answer, then the same registry from the cache while the server is down. -/
example :
    let answered := sampleCall 0 (.response 200 (some "AQ==") [1, 2])
    (fetch sampleLibrary sampleClient none answered).1.map FeedFetchResult.source = .ok .feed ∧
      (fetch sampleLibrary sampleClient (cacheAfter sampleLibrary sampleClient [answered])
        (sampleCall 60 .raised)).1.map FeedFetchResult.source = .ok .cached := by
  decide +kernel

end ModelMeld
