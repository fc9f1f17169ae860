import ModelMeld.Proof.Feed
import ModelMeld.Proof.PayloadFaults

/-!
# When a fetch returns

`fetch` is to fall back to the bundled registry whatever it meets. It does so for
everything its `except` clauses name; `fetch_returns_iff` is the exact list of what
they leave out: a body that is no text or nests too deep, a version that cannot be
looked up in a set, a `valid_until` that is no text or has no zone, a feed version
that is no finite number, and values in the payload the conversions do not take.
-/

namespace ModelMeld

open Checked

variable {K : Type} {lib : FeedLibrary K} {client : RegistryFeedClient K} {call : FeedCall}
  {now : ℚ}

/-! ## Bodies -/

/-- A `valid_until` that can be compared with the clock. -/
def ValidUntilTaken (lib : FeedLibrary K) : PyValue → Prop
  | .null => True
  | .str s => lib.fromisoformat s ≠ some .naive
  | _ => False

/-- A `valid_until` that has not passed. -/
def ValidUntilPasses (lib : FeedLibrary K) (now : ℚ) : PyValue → Prop
  | .null => True
  | .str s => ∃ expiry, lib.fromisoformat s = some (.aware expiry) ∧ now ≤ expiry
  | _ => False

/-- The fields of an envelope. -/
def schemaVersionOf (d : PyDict) : PyValue := (d.get? "schema_version").getD .null

def validUntilOf (d : PyDict) : PyValue := (d.get? "valid_until").getD .null

def feedVersionOf (d : PyDict) : PyValue := (d.get? "feed_version").getD (.int 0)

/-- An envelope that reaches the registry in it. -/
def EnvelopePasses (lib : FeedLibrary K) (now : ℚ) (d : PyDict) : Prop :=
  equalsOne (schemaVersionOf d) = true ∧ ValidUntilPasses lib now (validUntilOf d)

/-- An envelope whose checks and whose registry raise nothing that is not caught. -/
def EnvelopeTaken (lib : FeedLibrary K) (now : ℚ) : PyValue → Prop
  | .obj d =>
    hashable (schemaVersionOf d) = true ∧
      (equalsOne (schemaVersionOf d) = true → ValidUntilTaken lib (validUntilOf d)) ∧
      (EnvelopePasses lib now d → ∀ payload, PyDict.get? d "registry" = some payload →
        PayloadTaken lib.conversions payload)
  | _ => True

/-- An envelope a registry comes out of. -/
def EnvelopeServes (lib : FeedLibrary K) (now : ℚ) : PyValue → Prop
  | .obj d => EnvelopePasses lib now d ∧ ∃ payload, PyDict.get? d "registry" = some payload ∧
      PayloadRead lib.conversions payload
  | _ => False

/-- The version of an envelope is a number, or a text of one. -/
def FeedVersionReads (lib : FeedLibrary K) : PyValue → Prop
  | .obj d => FieldUse.integer.Reads lib.conversions (feedVersionOf d)
  | _ => False

/-- A body that is turned down or comes to a result. -/
def BodyTaken (lib : FeedLibrary K) (now : ℚ) (body : List UInt8) : Prop :=
  match lib.loads body with
  | .error e => e = .jsonDecodeError
  | .ok envelope => EnvelopeTaken lib now envelope ∧
      (EnvelopeServes lib now envelope → FeedVersionReads lib envelope)

/-- A body a registry comes out of. -/
def BodyServes (lib : FeedLibrary K) (now : ℚ) (body : List UInt8) : Prop :=
  ∃ envelope, lib.loads body = .ok envelope ∧ EnvelopeServes lib now envelope

/-! ## Calls -/

/-- The file whose body the call reads. -/
def Opened (client : RegistryFeedClient K) (call : FeedCall) (file : Option CacheFile)
    (f : CacheFile) : Prop :=
  client.caching = true ∧ file = some f ∧ call.readFault = .none ∧
    call.readAt - f.mtime ≤ client.cacheTtlSec

/-- The body the call receives and verifies. -/
def Received (lib : FeedLibrary K) (client : RegistryFeedClient K) (call : FeedCall)
    (body : List UInt8) : Prop :=
  client.feedUrl.getD "" ≠ "" ∧ ∃ signature, httpFetch client call.http = some (body, signature) ∧
    verifySignature lib client.publicKeys body signature = true

/-- **What a call has to meet so that it returns.** -/
structure FetchTaken (lib : FeedLibrary K) (client : RegistryFeedClient K) (file : Option CacheFile)
    (call : FeedCall) : Prop where
  looked : client.caching = true → call.readFault ≠ .exists
  cached : ∀ f, Opened client call file f → BodyTaken lib call.cacheCheckedAt f.body
  fetched : (∀ f, Opened client call file f → ¬ BodyServes lib call.cacheCheckedAt f.body) →
    ∀ body, Received lib client call body → BodyTaken lib call.feedCheckedAt body

/-! ## Checks of an envelope -/

theorem schemaSupported_eq (version : PyValue) :
    schemaSupported version =
      if hashable version then .ok (equalsOne version) else .error .typeError := rfl

theorem hashable_of_equalsOne {version : PyValue} (h : equalsOne version = true) :
    hashable version = true := by
  cases version with
  | arr items => cases h
  | obj fields => cases h
  | _ => rfl

variable (lib now) in
theorem stillValid_succeeds (v : PyValue) : Succeeds (stillValid lib now v) ↔ ValidUntilTaken lib v := by
  cases v with
  | str s =>
    rw [stillValid, ValidUntilTaken]
    split <;> simp_all
  | _ => simp [stillValid, ValidUntilTaken]

theorem stillValid_passes (v : PyValue) :
    stillValid lib now v = .ok true ↔ ValidUntilPasses lib now v := by
  cases v with
  | str s =>
    rw [stillValid, ValidUntilPasses]
    split <;> simp_all
  | _ => simp [stillValid, ValidUntilPasses]

theorem passes_taken {v : PyValue} (h : ValidUntilPasses lib now v) : ValidUntilTaken lib v :=
  (stillValid_succeeds lib now v).1 ⟨true, (stillValid_passes v).2 h⟩

theorem validateEnvelope_obj (d : PyDict) :
    validateEnvelope lib now (.obj d) = (do
      if ← schemaSupported (schemaVersionOf d) then
        if ← stillValid lib now (validUntilOf d) then .ok (d.get? "registry").isSome else .ok false
      else .ok false) := rfl

variable (lib now) in
theorem validateEnvelope_succeeds (d : PyDict) :
    Succeeds (validateEnvelope lib now (.obj d)) ↔
      hashable (schemaVersionOf d) = true ∧
        (equalsOne (schemaVersionOf d) = true → ValidUntilTaken lib (validUntilOf d)) := by
  rw [validateEnvelope_obj, schemaSupported_eq]
  cases hhash : hashable (schemaVersionOf d) with
  | false => simp [bind, Except.bind]
  | true =>
    cases hone : equalsOne (schemaVersionOf d) with
    | false => simp [bind, Except.bind]
    | true =>
      have hvalid := stillValid_succeeds lib now (validUntilOf d)
      cases h : stillValid lib now (validUntilOf d) with
      | error e =>
        rw [h] at hvalid
        simpa [bind, Except.bind, h] using hvalid
      | ok valid =>
        rw [h] at hvalid
        cases valid <;> simpa [bind, Except.bind, h] using hvalid

variable (lib now) in
theorem validateEnvelope_true (d : PyDict) :
    validateEnvelope lib now (.obj d) = .ok true ↔
      EnvelopePasses lib now d ∧ (d.get? "registry").isSome = true := by
  rw [validateEnvelope_obj, schemaSupported_eq, EnvelopePasses, ← stillValid_passes]
  cases hone : equalsOne (schemaVersionOf d) with
  | false =>
    cases hashable (schemaVersionOf d) <;> simp [bind, Except.bind]
  | true =>
    rw [hashable_of_equalsOne hone]
    cases h : stillValid lib now (validUntilOf d) with
    | error e => simp [bind, Except.bind]
    | ok valid => cases valid <;> simp [bind, Except.bind]

/-! ## Registries of bodies -/

/-- What a body that is decoded comes to. -/
inductive EnvelopeOutcome (lib : FeedLibrary K) (now : ℚ) (envelope : PyValue) :
    Except PyError (Option (LoadedRegistry × PyValue)) → Prop where
  | raised (e : PyError) (hnot : ¬ EnvelopeTaken lib now envelope)
      (hserves : ¬ EnvelopeServes lib now envelope) : EnvelopeOutcome lib now envelope (.error e)
  | turnedDown (htaken : EnvelopeTaken lib now envelope)
      (hserves : ¬ EnvelopeServes lib now envelope) : EnvelopeOutcome lib now envelope (.ok none)
  | served (registry : LoadedRegistry) (htaken : EnvelopeTaken lib now envelope)
      (hserves : EnvelopeServes lib now envelope) :
      EnvelopeOutcome lib now envelope (.ok (some (registry, envelope)))

/-- The registry of an envelope that passes, as both paths read it. -/
def payloadOf (lib : FeedLibrary K) (envelope payload : PyValue) :
    Except PyError (Option (LoadedRegistry × PyValue)) :=
  match fromJson lib.conversions payload with
  | .ok registry => .ok (some (registry, envelope))
  | .error e => if e.isKeyOrValue then .ok none else .error e

theorem payloadOf_outcome {d : PyDict} {payload : PyValue}
    (hchecks : Succeeds (validateEnvelope lib now (.obj d))) (hpasses : EnvelopePasses lib now d)
    (hget : PyDict.get? d "registry" = some payload) :
    EnvelopeOutcome lib now (.obj d) (payloadOf lib (.obj d) payload) := by
  obtain ⟨hhashable, hvalid⟩ := (validateEnvelope_succeeds lib now d).1 hchecks
  have honly : ∀ p, PyDict.get? d "registry" = some p → p = payload := by
    intro p hp
    rw [hget] at hp
    exact (Option.some.inj hp).symm
  have htaken : EnvelopeTaken lib now (.obj d) ↔ PayloadTaken lib.conversions payload := by
    constructor
    · exact fun h => h.2.2 hpasses payload hget
    · exact fun h => ⟨hhashable, hvalid, fun _ p hp => honly p hp ▸ h⟩
  have hserves : EnvelopeServes lib now (.obj d) ↔ PayloadRead lib.conversions payload := by
    constructor
    · rintro ⟨-, p, hp, hread⟩
      exact honly p hp ▸ hread
    · exact fun h => ⟨hpasses, payload, hget, h⟩
  rw [← fromJson_tolerated] at htaken
  rw [← fromJson_succeeds] at hserves
  unfold payloadOf
  cases hjson : fromJson lib.conversions payload with
  | ok registry =>
    rw [hjson] at htaken hserves
    exact .served registry (htaken.2 (tolerates_ok registry)) (hserves.2 (succeeds_ok registry))
  | error e =>
    rw [hjson] at htaken hserves
    have hno : ¬ EnvelopeServes lib now (.obj d) := mt hserves.1 (not_succeeds_error e)
    rw [Tolerated, tolerates_error] at htaken
    simp only
    split
    · next hcaught => exact .turnedDown (htaken.2 hcaught) hno
    · next hcaught => exact .raised e (mt htaken.1 hcaught) hno

variable (now) in
theorem registryOf_outcome {body : List UInt8} {envelope : PyValue}
    (hloads : lib.loads body = .ok envelope) :
    EnvelopeOutcome lib now envelope (registryOf lib now body) := by
  have hreg : registryOf lib now body = (do
      if ← validateEnvelope lib now envelope then
        match subscript envelope "registry" >>= fromJson lib.conversions with
        | .ok registry => .ok (some (registry, envelope))
        | .error e => if e.isKeyOrValue then .ok none else .error e
      else .ok none) := by
    unfold registryOf
    split
    · next h => cases hloads.symm.trans h
    · next h => cases hloads.symm.trans h
    · next h =>
      obtain rfl := Except.ok.inj (hloads.symm.trans h)
      rfl
  rw [hreg]
  cases envelope with
  | obj d =>
    have hsucceeds := validateEnvelope_succeeds lib now d
    have htrue := validateEnvelope_true lib now d
    cases hvalidate : validateEnvelope lib now (.obj d) with
    | error e =>
      rw [hvalidate] at hsucceeds
      have hnot := mt hsucceeds.2 (not_succeeds_error e)
      refine .raised e (fun h => hnot ⟨h.1, h.2.1⟩) fun h => hnot ?_
      exact ⟨hashable_of_equalsOne h.1.1, fun _ => passes_taken h.1.2⟩
    | ok passes =>
      rw [hvalidate] at hsucceeds htrue
      cases passes with
      | false =>
        -- the envelope is turned down before its registry
        have hmissing : ∀ payload, EnvelopePasses lib now d →
            PyDict.get? d "registry" ≠ some payload := by
          intro payload hpasses hget
          have hok := htrue.2 ⟨hpasses, by rw [hget]; rfl⟩
          cases hok
        obtain ⟨hhashable, hvalid⟩ := hsucceeds.1 (succeeds_ok false)
        refine .turnedDown ⟨hhashable, hvalid, fun hpasses payload hget => ?_⟩ ?_
        · exact absurd hget (hmissing payload hpasses)
        · rintro ⟨hpasses, payload, hget, -⟩
          exact hmissing payload hpasses hget
      | true =>
        obtain ⟨hpasses, hsome⟩ := htrue.1 rfl
        obtain ⟨payload, hget⟩ := Option.isSome_iff_exists.1 hsome
        have hsub : subscript (.obj d) "registry" = .ok payload := by simp [subscript, hget]
        rw [hsub]
        exact payloadOf_outcome ⟨true, hvalidate⟩ hpasses hget
  | _ => exact .turnedDown trivial id

/-! ## Versions -/

theorem feedVersion_succeeds (envelope : PyValue) :
    Succeeds (feedVersion lib envelope) ↔ FeedVersionReads lib envelope := by
  cases envelope with
  | obj d =>
    have h : feedVersion lib (.obj d) =
        lib.conversions.int (feedVersionOf d) >>= fun n => .ok (if n = 0 then none else some n) := rfl
    rw [h, succeeds_bind (P := True) (fun n _ => iff_of_true (succeeds_ok _) trivial), and_true]
    exact int_succeeds (feedVersionOf d)
  | _ => simp [feedVersion, getOr, FeedVersionReads, bind, Except.bind]

/-! ## Calls -/

variable (lib now) in
/-- What comes of a body: an error, nothing, or a registry and the envelope of its version. -/
theorem registryOf_cases (body : List UInt8) :
    (∃ e, registryOf lib now body = .error e ∧ ¬ BodyTaken lib now body ∧ ¬ BodyServes lib now body) ∨
      (registryOf lib now body = .ok none ∧ BodyTaken lib now body ∧ ¬ BodyServes lib now body) ∨
      ∃ registry envelope, registryOf lib now body = .ok (some (registry, envelope)) ∧
        BodyServes lib now body ∧
        (BodyTaken lib now body ↔ Succeeds (feedVersion lib envelope)) := by
  cases hloads : lib.loads body with
  | error e =>
    have hno : ¬ BodyServes lib now body := by
      rintro ⟨envelope, henvelope, -⟩
      rw [hloads] at henvelope
      cases henvelope
    have htaken : BodyTaken lib now body ↔ e = .jsonDecodeError := by rw [BodyTaken, hloads]
    by_cases he : e = .jsonDecodeError
    · refine .inr (.inl ⟨?_, htaken.2 he, hno⟩)
      rw [registryOf, hloads, he]
    · refine .inl ⟨e, ?_, mt htaken.1 he, hno⟩
      rw [registryOf, hloads]
      cases e <;> first | exact absurd rfl he | rfl
  | ok envelope =>
    have hserves : BodyServes lib now body ↔ EnvelopeServes lib now envelope := by
      constructor
      · rintro ⟨e, he, hserves⟩
        rw [hloads] at he
        exact Except.ok.inj he ▸ hserves
      · exact fun h => ⟨envelope, hloads, h⟩
    have htaken : BodyTaken lib now body ↔ EnvelopeTaken lib now envelope ∧
        (EnvelopeServes lib now envelope → FeedVersionReads lib envelope) := by
      rw [BodyTaken, hloads]
    have houtcome := registryOf_outcome now hloads
    generalize registryOf lib now body = outcome at houtcome
    cases houtcome with
    | raised e hnot hno =>
      exact .inl ⟨e, rfl, fun h => hnot (htaken.1 h).1, mt hserves.1 hno⟩
    | turnedDown hall hno =>
      exact .inr (.inl ⟨rfl, htaken.2 ⟨hall, fun h => absurd h hno⟩, mt hserves.1 hno⟩)
    | served registry hall hyes =>
      refine .inr (.inr ⟨registry, envelope, rfl, hserves.2 hyes, ?_⟩)
      rw [htaken, feedVersion_succeeds]
      exact ⟨fun h => h.2 hyes, fun h => ⟨hall, fun _ => h⟩⟩

variable {file : Option CacheFile}

/-- What is returned of a body that gave a registry. -/
def cachedResult (lib : FeedLibrary K) :
    Option (LoadedRegistry × PyValue) → Except PyError (Option FeedFetchResult)
  | none => .ok none
  | some (registry, envelope) => do
    let version ← feedVersion lib envelope
    return some
      { registry := registry, source := .cached, fetchedAt := none, feedVersion := version }

theorem readCache_opened {f : CacheFile} (h : Opened client call file f) :
    readCache lib client call file =
      registryOf lib call.cacheCheckedAt f.body >>= cachedResult lib := by
  obtain ⟨hcaching, rfl, hfault, hage⟩ := h
  unfold readCache
  rw [hcaching, hfault]
  simp only [Bool.true_eq_false, reduceCtorEq, if_false, not_lt.2 hage]
  rfl

theorem readCache_unopened (hlooked : client.caching = true → call.readFault ≠ .exists)
    (h : ∀ f, ¬ Opened client call file f) : readCache lib client call file = .ok none := by
  unfold readCache
  split
  · rfl
  · next hcaching =>
    have hcaching' : client.caching = true := by simpa using hcaching
    rw [if_neg (hlooked hcaching')]
    cases file with
    | none => rfl
    | some f =>
      simp only
      split
      · rfl
      · next hstat =>
        split
        · rfl
        · next hage =>
          split
          · rfl
          · next hread =>
            refine absurd ⟨hcaching', rfl, ?_, not_lt.1 hage⟩ (h f)
            cases hfault : call.readFault with
            | none => rfl
            | «exists» => exact absurd hfault (hlooked hcaching')
            | stat => exact absurd hfault hstat
            | read => exact absurd hfault hread

theorem opened_unique {f g : CacheFile} (hf : Opened client call file f)
    (hg : Opened client call file g) : f = g :=
  Option.some.inj (hf.2.1.symm.trans hg.2.1)

variable (lib client call file) in
/-- Whether the cache is read without an error, and when it answers. -/
theorem readCache_spec :
    (Succeeds (readCache lib client call file) ↔
      (client.caching = true → call.readFault ≠ .exists) ∧
        ∀ f, Opened client call file f → BodyTaken lib call.cacheCheckedAt f.body) ∧
    (∀ read, readCache lib client call file = .ok read →
      (read = none ↔ ∀ f, Opened client call file f → ¬ BodyServes lib call.cacheCheckedAt f.body)) := by
  by_cases hlooked : client.caching = true → call.readFault ≠ .exists
  · by_cases hopened : ∃ f, Opened client call file f
    · obtain ⟨f, hf⟩ := hopened
      have hall : ∀ Q : CacheFile → Prop, (∀ g, Opened client call file g → Q g) ↔ Q f :=
        fun Q => ⟨fun h => h f hf, fun h g hg => opened_unique hf hg ▸ h⟩
      rw [readCache_opened hf, hall, hall fun g => ¬ BodyServes lib call.cacheCheckedAt g.body,
        and_iff_right hlooked]
      rcases registryOf_cases lib call.cacheCheckedAt f.body with
        ⟨e, hreg, hnot, hno⟩ | ⟨hreg, htaken, hno⟩ | ⟨registry, envelope, hreg, hserves, htaken⟩
      · rw [hreg]
        refine ⟨iff_of_false (not_succeeds_error e) hnot, fun read hread => ?_⟩
        cases hread
      · rw [hreg]
        refine ⟨iff_of_true ⟨none, rfl⟩ htaken, fun read hread => ?_⟩
        exact iff_of_true (Except.ok.inj hread).symm hno
      · rw [hreg, htaken]
        have hresult : (.ok (some (registry, envelope)) >>= cachedResult lib) =
            feedVersion lib envelope >>= fun version =>
              .ok (some (FeedFetchResult.mk registry .cached none version)) := rfl
        rw [hresult]
        constructor
        · rw [succeeds_bind (P := True) (fun v _ => iff_of_true (succeeds_ok _) trivial), and_true]
        · intro read hread
          obtain ⟨version, -, hsome⟩ := bind_eq_ok.mp hread
          refine iff_of_false (fun hnone => ?_) (not_not.2 hserves)
          rw [hnone] at hsome
          cases hsome
    · have hnone : ∀ f, ¬ Opened client call file f := fun f hf => hopened ⟨f, hf⟩
      rw [readCache_unopened hlooked hnone]
      refine ⟨iff_of_true (succeeds_ok none) ⟨hlooked, fun f hf => absurd hf (hnone f)⟩, ?_⟩
      intro read hread
      exact iff_of_true (Except.ok.inj hread).symm fun f hf => absurd hf (hnone f)
  · have herror : readCache lib client call file = .error .osError := by
      rw [Classical.not_imp, not_not] at hlooked
      unfold readCache
      rw [hlooked.1, hlooked.2]
      rfl
    rw [herror]
    refine ⟨iff_of_false (not_succeeds_error _) fun h => hlooked h.1, fun read hread => ?_⟩
    cases hread

/-- What the network side raises. -/
theorem fetchFeed_succeeds :
    Succeeds (fetchFeed lib client call file).1 ↔
      ∀ body, Received lib client call body → BodyTaken lib call.feedCheckedAt body := by
  unfold fetchFeed
  split
  · next hurl => exact iff_of_true ⟨_, rfl⟩ fun body h => absurd hurl h.1
  · next hurl =>
    split
    · next hhttp =>
      refine iff_of_true ⟨_, rfl⟩ ?_
      rintro body ⟨-, signature, hsome, -⟩
      rw [hhttp] at hsome
      cases hsome
    · next body signature hhttp =>
      have hsame : ∀ b, Received lib client call b → b = body ∧
          verifySignature lib client.publicKeys body signature = true := by
        rintro b ⟨-, s, hsome, hverify⟩
        rw [hhttp] at hsome
        cases hsome
        exact ⟨rfl, hverify⟩
      split
      · next hkeys =>
        refine iff_of_true ⟨_, rfl⟩ fun b hb => ?_
        obtain ⟨-, hverify⟩ := hsame b hb
        rw [List.isEmpty_iff.1 hkeys] at hverify
        unfold verifySignature at hverify
        split at hverify <;> cases hverify
      · split
        · next hverify =>
          have hall : (∀ b, Received lib client call b → BodyTaken lib call.feedCheckedAt b) ↔
              BodyTaken lib call.feedCheckedAt body := by
            constructor
            · exact fun h => h body ⟨hurl, signature, hhttp, hverify⟩
            · exact fun h b hb => (hsame b hb).1 ▸ h
          rw [hall]
          rcases registryOf_cases lib call.feedCheckedAt body with
            ⟨e, hreg, hnot, -⟩ | ⟨hreg, htaken, -⟩ | ⟨registry, envelope, hreg, -, htaken⟩
          · rw [hreg]
            exact iff_of_false (not_succeeds_error e) hnot
          · rw [hreg]
            exact iff_of_true ⟨_, rfl⟩ htaken
          · rw [hreg, htaken]
            change Succeeds ((feedVersion lib envelope).map _) ↔ _
            cases feedVersion lib envelope with
            | error e => exact iff_of_false (not_succeeds_error e) (not_succeeds_error e)
            | ok version => exact iff_of_true ⟨_, rfl⟩ (succeeds_ok version)
        · next hverify =>
          exact iff_of_true ⟨_, rfl⟩ fun b hb => absurd (hsame b hb).2 hverify

/-- **A fetch returns exactly when what it meets is turned down or read to the end.** -/
theorem fetch_returns_iff (lib : FeedLibrary K) (client : RegistryFeedClient K)
    (file : Option CacheFile) (call : FeedCall) :
    (∃ result, (fetch lib client file call).1 = .ok result) ↔ FetchTaken lib client file call := by
  obtain ⟨hsucceeds, hnone⟩ := readCache_spec lib client call file
  unfold fetch
  cases hread : readCache lib client call file with
  | error e =>
    rw [hread] at hsucceeds
    refine iff_of_false (not_succeeds_error e) fun h => ?_
    exact not_succeeds_error e (hsucceeds.2 ⟨h.looked, h.cached⟩)
  | ok read =>
    rw [hread] at hsucceeds
    obtain ⟨hlooked, hcached⟩ := hsucceeds.1 (succeeds_ok read)
    cases read with
    | some cached =>
      refine iff_of_true ⟨cached, rfl⟩ ⟨hlooked, hcached, fun hno => ?_⟩
      cases (hnone _ hread).2 hno
    | none =>
      refine fetchFeed_succeeds.trans ⟨fun h => ⟨hlooked, hcached, fun _ => h⟩, fun h => ?_⟩
      exact h.fetched ((hnone _ hread).1 rfl)

/-- A library whose one signed body is valid until a date without a zone. -/
def zonelessLibrary : FeedLibrary Unit where
  conversions := sampleLibrary.conversions
  b64decode := sampleLibrary.b64decode
  verify := sampleLibrary.verify
  loads := fun body =>
    if body = [1, 2] then
      .ok (.obj [("schema_version", .int 1), ("valid_until", .str "2027-01-01"),
        ("registry", .obj [("models", .arr [])])])
    else .error .jsonDecodeError
  loads_take := by
    intro body n d d' hwhole hpart
    split at hwhole
    · split at hpart
      · exact (PyValue.obj.inj (Except.ok.inj hpart)).symm.trans (PyValue.obj.inj (Except.ok.inj hwhole))
      · cases hpart
    · cases hwhole
  fromisoformat := fun s => if s = "2027-01-01" then some .naive else none

/-- A date without a zone does not compare with the clock, and the fetch raises. -/
theorem fetch_may_raise :
    ¬ ∀ (lib : FeedLibrary Unit) (client : RegistryFeedClient Unit) (file : Option CacheFile)
      (call : FeedCall), ∃ result, (fetch lib client file call).1 = .ok result := by
  intro h
  obtain ⟨result, hok⟩ := h zonelessLibrary sampleClient none
    (sampleCall 0 (.response 200 (some "AQ==") [1, 2]))
  have hraised : (fetch zonelessLibrary sampleClient none
      (sampleCall 0 (.response 200 (some "AQ==") [1, 2]))).1.map FeedFetchResult.source =
        .error .typeError := by
    decide
  rw [hok] at hraised
  cases hraised

end ModelMeld
