import ModelMeld.Spec.RegistryPayload

/-!
# The registry feed client

`RegistryFeedClient.fetch`: the local cache, then the network with its signature
check, then the bundled registry. A call runs against whatever the clocks, the
file system and the server do during it; the state between the calls is the cache
file.
-/

namespace ModelMeld

/-- A `datetime` that was read from a text. -/
inductive ParsedTime where
  /-- Without a zone; to compare it with an aware one raises. -/
  | naive
  | aware (instant : ℚ)
deriving DecidableEq

inductive VerifyOutcome where
  | verified | invalid | raised
deriving DecidableEq

/-- What the client takes from the standard library and from `cryptography`. -/
structure FeedLibrary (K : Type) where
  conversions : Conversions
  /-- `base64.b64decode`; `none` where it raises. -/
  b64decode : String → Option (List UInt8)
  /-- `key.verify(signature, body)`. -/
  verify : K → List UInt8 → List UInt8 → VerifyOutcome
  /-- `json.loads(body)`. -/
  loads : List UInt8 → Except PyError PyValue
  /-- The text of an object ends where it is complete: what is left of it when it is cut off is no
  text of another object. -/
  loads_take : ∀ body n d d', loads body = .ok (.obj d) → loads (body.take n) = .ok (.obj d') → d' = d
  /-- `datetime.fromisoformat(text.replace("Z", "+00:00"))`. -/
  fromisoformat : String → Option ParsedTime

inductive FeedSource where
  | feed | cached | seed
deriving DecidableEq

structure FeedFetchResult where
  registry : LoadedRegistry
  source : FeedSource
  fetchedAt : Option ℚ
  feedVersion : Option ℤ
deriving DecidableEq

/-- A client as it is constructed: with a feed it has a key to verify it by. -/
structure RegistryFeedClient (K : Type) where
  feedUrl : Option String
  publicKeys : List K
  /-- Whether there is a `cache_path`. -/
  caching : Bool
  cacheTtlSec : ℤ
  pinned : feedUrl.getD "" ≠ "" → publicKeys ≠ []
  /-- `ModelRegistry.load_default()`. -/
  bundled : LoadedRegistry

structure CacheFile where
  body : List UInt8
  mtime : ℚ
deriving DecidableEq

/-! ## What a call meets -/

/-- What goes wrong when the cache file is read. -/
inductive ReadFault where
  | none | exists | stat | read
deriving DecidableEq

inductive HttpOutcome where
  | raised
  | response (status : ℤ) (signature : Option String) (content : List UInt8)
deriving DecidableEq

/-- How the writing of the cache file ends. -/
inductive WriteOutcome where
  /-- The file was not opened. -/
  | failed
  /-- It was, and the writing raised after some bytes. -/
  | stopped (written : ℕ) (mtime : ℚ)
  | finished (mtime : ℚ)
deriving DecidableEq

/-- A call of `fetch`, by what it meets. -/
structure FeedCall where
  readFault : ReadFault
  /-- `time.time()` for the age of the file. -/
  readAt : ℚ
  /-- `datetime.now` when the cached envelope is checked. -/
  cacheCheckedAt : ℚ
  http : HttpOutcome
  /-- `datetime.now` when the fetched envelope is checked. -/
  feedCheckedAt : ℚ
  write : WriteOutcome
  /-- `datetime.now` for the result. -/
  fetchedAt : ℚ
deriving DecidableEq

variable {K : Type} (lib : FeedLibrary K)

/-! ## Checks -/

/-- `_http_fetch`: the body and the text of the signature; `none` where it raises. -/
def httpFetch (client : RegistryFeedClient K) (http : HttpOutcome) :
    Option (List UInt8 × String) :=
  match http with
  | .raised => none
  | .response status signature content =>
    if 400 ≤ status then none
    else match signature with
      | none => if client.publicKeys.isEmpty then some (content, "") else none
      | some s => some (content, s)

/-- The loop of `_verify_signature` over the pinned keys. -/
def verifyKeys (signature body : List UInt8) : List K → Bool
  | [] => false
  | key :: keys =>
    match lib.verify key signature body with
    | .verified => true
    | .invalid => verifyKeys signature body keys
    | .raised => false

/-- Whether `_verify_signature` returns. -/
def verifySignature (keys : List K) (body : List UInt8) (signatureB64 : String) : Bool :=
  match lib.b64decode signatureB64 with
  | none => false
  | some signature => verifyKeys lib signature body keys

/-- `schema_version in SUPPORTED_SCHEMA_VERSIONS`. -/
def schemaSupported (version : PyValue) : Except PyError Bool :=
  if hashable version then .ok (equalsOne version) else .error .typeError

/-- Whether `valid_until` lets the envelope pass. -/
def stillValid (now : ℚ) : PyValue → Except PyError Bool
  | .null => .ok true
  | .str s =>
    match lib.fromisoformat s with
    | none => .ok false
    | some .naive => .error .typeError
    | some (.aware expiry) => .ok (decide (now ≤ expiry))
  | _ => .error .attributeError

/-- `_validate_envelope`, less the reasons it gives. -/
def validateEnvelope (now : ℚ) (envelope : PyValue) : Except PyError Bool :=
  match envelope with
  | .obj d => do
    if ← schemaSupported ((PyDict.get? d "schema_version").getD .null) then
      if ← stillValid lib now ((PyDict.get? d "valid_until").getD .null) then
        .ok (PyDict.get? d "registry").isSome
      else .ok false
    else .ok false
  | _ => .ok false

/-- `int(envelope.get("feed_version", 0)) or None`. -/
def feedVersion (envelope : PyValue) : Except PyError (Option ℤ) := do
  let n ← lib.conversions.int (← getOr envelope "feed_version" (.int 0))
  return if n = 0 then none else some n

/-- What both paths do with a body: the registry of its envelope and the envelope, unless the body
is turned down. -/
def registryOf (now : ℚ) (body : List UInt8) : Except PyError (Option (LoadedRegistry × PyValue)) :=
  match lib.loads body with
  | .error .jsonDecodeError => .ok none
  | .error e => .error e
  | .ok envelope => do
    if ← validateEnvelope lib now envelope then
      match subscript envelope "registry" >>= fromJson lib.conversions with
      | .ok registry => .ok (some (registry, envelope))
      | .error e => if e.isKeyOrValue then .ok none else .error e
    else .ok none

/-! ## Fetching -/

/-- `_read_cache`. -/
def readCache (client : RegistryFeedClient K) (call : FeedCall) (file : Option CacheFile) :
    Except PyError (Option FeedFetchResult) :=
  if client.caching = false then .ok none
  else if call.readFault = .exists then .error .osError
  else match file with
    | none => .ok none
    | some f =>
      if call.readFault = .stat then .ok none
      else if client.cacheTtlSec < call.readAt - f.mtime then .ok none
      else if call.readFault = .read then .ok none
      else do
        match ← registryOf lib call.cacheCheckedAt f.body with
        | none => .ok none
        | some (registry, envelope) =>
          let version ← feedVersion lib envelope
          return some
            { registry := registry, source := .cached, fetchedAt := none, feedVersion := version }

/-- `_write_cache`; nothing it meets raises. -/
def writeCache (client : RegistryFeedClient K) (call : FeedCall) (body : List UInt8)
    (file : Option CacheFile) : Option CacheFile :=
  if client.caching then
    match call.write with
    | .failed => file
    | .stopped written mtime => some ⟨body.take written, mtime⟩
    | .finished mtime => some ⟨body, mtime⟩
  else file

/-- `_fallback_to_seed`. -/
def fallbackToSeed (client : RegistryFeedClient K) : FeedFetchResult :=
  { registry := client.bundled, source := .seed, fetchedAt := none, feedVersion := none }

/-- The part of `fetch` after the cache was of no use: the result and the cache file. -/
def fetchFeed (client : RegistryFeedClient K) (call : FeedCall) (file : Option CacheFile) :
    Except PyError FeedFetchResult × Option CacheFile :=
  if client.feedUrl.getD "" = "" then (.ok (fallbackToSeed client), file)
  else match httpFetch client call.http with
    | none => (.ok (fallbackToSeed client), file)
    | some (body, signature) =>
      if client.publicKeys.isEmpty then (.ok (fallbackToSeed client), file)
      else if verifySignature lib client.publicKeys body signature then
        match registryOf lib call.feedCheckedAt body with
        | .error e => (.error e, file)
        | .ok none => (.ok (fallbackToSeed client), file)
        | .ok (some (registry, envelope)) =>
          -- the cache is written before the version is read, which may still raise
          ((feedVersion lib envelope).map (fun version =>
            { registry := registry, source := .feed, fetchedAt := some call.fetchedAt,
              feedVersion := version }), writeCache client call body file)
      else (.ok (fallbackToSeed client), file)

/-- `RegistryFeedClient.fetch`. -/
def fetch (client : RegistryFeedClient K) (file : Option CacheFile) (call : FeedCall) :
    Except PyError FeedFetchResult × Option CacheFile :=
  match readCache lib client call file with
  | .error e => (.error e, file)
  | .ok (some cached) => (.ok cached, file)
  | .ok none => fetchFeed lib client call file

/-- The cache file after a call. -/
def fileAfter (client : RegistryFeedClient K) (file : Option CacheFile) (call : FeedCall) :
    Option CacheFile :=
  (fetch lib client file call).2

end ModelMeld
