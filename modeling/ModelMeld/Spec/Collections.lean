import ModelMeld.Spec.Postgres
import ModelMeld.Spec.Summarizer

/-!
# Vector collections

`tenant_collection_name`, and what `Mem0MemoryProvider._build_config` makes of
it for the vector store of a tenant. The first twelve digits of
`hashlib.sha256(tenant_id).hexdigest()` are a parameter.
-/

namespace ModelMeld

/-- The characters `_QDRANT_SAFE_CHARS` keeps. -/
def qdrantSafe (c : Char) : Bool :=
  ('A' ≤ c && c ≤ 'Z') || ('a' ≤ c && c ≤ 'z') || ('0' ≤ c && c ≤ '9') || c = '_' || c = '-'

/-- `_QDRANT_SAFE_CHARS.sub("_", tenant_id)`. -/
def safeText (tenantId : String) : String :=
  String.ofList (tenantId.toList.map (fun c => if qdrantSafe c then c else '_'))

/-- `_QDRANT_MAX_NAME_LEN`. -/
def qdrantMaxNameLen : ℤ := 60

/-- `QDRANT_COLLECTION_PREFIX`. -/
def qdrantCollectionPrefix : String := "tksaver_"

/-- The first twelve hexadecimal digits of the SHA-256 of a text. -/
structure ShortDigest where
  digits : String → String
  length_digits : ∀ text, (digits text).length = 12

/-- `tenant_collection_name`; `none` when `validate_tenant_id` raises. -/
def tenantCollectionName (digest : ShortDigest) (tenantId : String) : Option String :=
  if validTenantId tenantId then
    let safe := safeText tenantId
    if safe.length ≤ qdrantMaxNameLen - qdrantCollectionPrefix.length then
      some (qdrantCollectionPrefix ++ safe)
    else
      let digits := digest.digits tenantId
      let headLen := qdrantMaxNameLen - qdrantCollectionPrefix.length - digits.length - 1
      some (qdrantCollectionPrefix ++ sliceTo safe headLen ++ "_" ++ digits)
  else none

/-- The settings of the vector store. -/
structure Mem0Settings where
  embeddingDims : ℤ := 1536
  vectorStoreUrl : Option String := none
  vectorStoreApiKey : Option String := none
  vectorStorePath : Option String := none
deriving DecidableEq

/-- `vs_cfg`. -/
structure VectorStoreConfig where
  collectionName : String
  embeddingModelDims : ℤ
  url : Option String := none
  apiKey : Option String := none
  path : Option String := none
deriving DecidableEq

/-- `os.path.join(path, name)` for a relative `name`. -/
def pathJoin (path name : String) : String :=
  if path.toList.getLast? = some '/' then path ++ name else path ++ "/" ++ name

/-- The vector store in `_build_config`. -/
def vectorStoreConfig (digest : ShortDigest) (settings : Mem0Settings) (tenantId : String) :
    Option VectorStoreConfig :=
  (tenantCollectionName digest tenantId).map (fun collection =>
    let config : VectorStoreConfig := ⟨collection, settings.embeddingDims, none, none, none⟩
    if settings.vectorStoreUrl.getD "" ≠ "" then
      { config with
        url := settings.vectorStoreUrl
        apiKey := if settings.vectorStoreApiKey.getD "" ≠ "" then settings.vectorStoreApiKey
          else none }
    else if settings.vectorStorePath.getD "" ≠ "" then
      { config with path := settings.vectorStorePath.map (fun path => pathJoin path collection) }
    else config)

end ModelMeld
