import TaskGraph.Error
import TaskGraph.Storage.Bucket
import TaskGraph.Yaml.Parser

/-!
# Storage sessions

How the object store of a pipeline root is reached: its endpoint and the secret that opens it. The
secret comes from exactly one place: the first configuration that matches bucket and path, else the
provider's default, else the environment of the task.
-/

namespace TaskGraph

open JsonCodec

/-- Names of a secret and of the two keys in it. -/
structure SecretRef where
  secretName : String := ""
  accessKeyKey : String := ""
  secretKeyKey : String := ""
  deriving DecidableEq

/-- What holds for one bucket and the paths under a prefix, instead of the provider's own. -/
structure AuthConfig where
  bucketName : String := ""
  keyPrefix : String := ""
  region : Option String := none
  endpoint : Option String := none
  secret : Option SecretRef := none
  deriving DecidableEq

structure ProviderConfig where
  endpoint : String := ""
  region : String := ""
  disableSsl : Bool := false
  fromEnv : Bool := false
  defaultSecret : Option SecretRef := none
  authConfigs : List AuthConfig := []
  deriving DecidableEq

structure BucketProviders where
  minio : Option ProviderConfig := none
  s3 : Option ProviderConfig := none
  gs : Option ProviderConfig := none
  deriving DecidableEq

/-- Present or null. -/
def Json.orNull (encode : α → Json) : Option α → Json
  | some x => encode x
  | none => .null

namespace SecretRef

def fields : List String := ["secretName", "accessKeyKey", "secretKeyKey"]

def encode (s : SecretRef) : Json :=
  .ofRecord fields [present s.secretName, present s.accessKeyKey, present s.secretKeyKey]

def ofYaml? (y : Yaml) : Option SecretRef := do
  let [name, access, key] ← y.record? fields | none
  return ⟨← Yaml.field Yaml.string? "" name, ← Yaml.field Yaml.string? "" access,
    ← Yaml.field Yaml.string? "" key⟩

end SecretRef

namespace AuthConfig

def fields : List String := ["bucketName", "keyPrefix", "region", "endpoint", "secretRef"]

def encode (a : AuthConfig) : Json :=
  .ofRecord fields [present a.bucketName, present a.keyPrefix, some (Json.orNull .str a.region),
    some (Json.orNull .str a.endpoint), some (Json.orNull SecretRef.encode a.secret)]

def ofYaml? (y : Yaml) : Option AuthConfig := do
  let [bucket, keyPrefix, region, endpoint, secret] ← y.record? fields | none
  return ⟨← Yaml.field Yaml.string? "" bucket, ← Yaml.field Yaml.string? "" keyPrefix,
    ← Yaml.field (Yaml.optional Yaml.string?) none region,
    ← Yaml.field (Yaml.optional Yaml.string?) none endpoint,
    ← Yaml.field (Yaml.optional SecretRef.ofYaml?) none secret⟩

def appliesTo (a : AuthConfig) (b : Bucket) : Bool :=
  a.bucketName = b.name && Text.startsWith b.keyPrefix a.keyPrefix

end AuthConfig

namespace ProviderConfig

def fields : List String :=
  ["endpoint", "region", "disableSSL", "fromEnv", "defaultProviderSecretRef", "authConfigs"]

def encode (p : ProviderConfig) : Json :=
  .ofRecord fields [present p.endpoint, present p.region, present p.disableSsl, present p.fromEnv,
    some (Json.orNull SecretRef.encode p.defaultSecret),
    some (.arr (p.authConfigs.map AuthConfig.encode))]

def ofYaml? (y : Yaml) : Option ProviderConfig := do
  let [endpoint, region, disableSsl, fromEnv, secret, authConfigs] ← y.record? fields | none
  return ⟨← Yaml.field Yaml.string? "" endpoint, ← Yaml.field Yaml.string? "" region,
    ← Yaml.field Yaml.bool? false disableSsl, ← Yaml.field Yaml.bool? false fromEnv,
    ← Yaml.field (Yaml.optional SecretRef.ofYaml?) none secret,
    ← Yaml.field (Yaml.list? AuthConfig.ofYaml?) [] authConfigs⟩

/-- The first configuration that applies to a bucket. -/
def authFor? (p : ProviderConfig) (b : Bucket) : Option AuthConfig :=
  p.authConfigs.find? (·.appliesTo b)

end ProviderConfig

namespace BucketProviders

def fields : List String := ["minio", "s3", "gs"]

def encode (p : BucketProviders) : Json :=
  .ofRecord fields ([p.minio, p.s3, p.gs].map fun c => some (Json.orNull ProviderConfig.encode c))

def ofYaml? (y : Yaml) : Option BucketProviders := do
  let [minio, s3, gs] ← y.record? fields | none
  let read := Yaml.field (Yaml.optional ProviderConfig.ofYaml?) none
  return ⟨← read minio, ← read s3, ← read gs⟩

def parse (text : String) : Result BucketProviders :=
  match (Yaml.parse? text).bind ofYaml? with
  | some p => .ok p
  | none => .fail .malformedProviders

def config? (p : BucketProviders) : StorageProvider → Option ProviderConfig
  | .minio => p.minio
  | .s3 => p.s3
  | .gs => p.gs

end BucketProviders

def Bucket.ofRoot (root : String) : Result Bucket :=
  match Bucket.parse root with
  | .ok b => .ok b
  | .error .unrecognized => .fail (.unrecognizedRoot root)
  | .error .unsupported => .fail (.unsupportedBucket root)

/-- A storage session: the provider and the parameters it is opened with. -/
structure SessionInfo where
  provider : String
  params : Dict String
  deriving DecidableEq

namespace SessionInfo

def encode (s : SessionInfo) : Json :=
  .obj [("Provider", .str s.provider), ("Params", JsonCodec.encode s.params)]

def text (s : SessionInfo) : String := s.encode.text

def secretParams (s : SecretRef) : List (String × String) :=
  [("fromEnv", "false"), ("secretName", s.secretName), ("accessKeyKey", s.accessKeyKey),
    ("secretKeyKey", s.secretKeyKey)]

def environmentParams : List (String × String) := [("fromEnv", "true")]

/-- The session of the store that comes with the cluster. -/
def builtIn : SessionInfo where
  provider := "minio"
  params := SortedMap.ofList <|
    [("region", "minio"), ("endpoint", "minio-service.kubeflow:9000"), ("disableSsl", "true")] ++
      secretParams ⟨"mlpipeline-minio-artifact", "accesskey", "secretkey"⟩

/-- The session of a provider that nothing is configured for. -/
def unconfigured : StorageProvider → SessionInfo
  | .minio => builtIn
  | p => ⟨p.name, SortedMap.ofList environmentParams⟩

def credentials (provider : StorageProvider) (config : ProviderConfig) :
    Option AuthConfig → Result (List (String × String))
  | some auth =>
    match auth.secret with
    | some secret => .ok (secretParams secret)
    | none => .fail (.invalidProvider provider.name "authConfigs[].secretRef is required")
  | none =>
    match config.defaultSecret with
    | some secret => .ok (secretParams secret)
    | none =>
      if config.fromEnv then .ok environmentParams
      else .fail (.invalidProvider provider.name "defaultProviderSecretRef is required")

def configured (bucket : Bucket) (config : ProviderConfig) : Result SessionInfo := do
  let auth := config.authFor? bucket
  let endpoint := (auth.bind (·.endpoint)).getD config.endpoint
  if endpoint.isEmpty then
    .fail (.invalidProvider bucket.provider.name "endpoint is required")
  else
    let region := (auth.bind (·.region)).getD config.region
    let credentials ← credentials bucket.provider config auth
    return ⟨bucket.provider.name, SortedMap.ofList <|
      [("endpoint", endpoint), ("region", region),
        ("disableSsl", if config.disableSsl then "true" else "false")] ++ credentials⟩

/-- The session for a pipeline root. -/
def ofRoot (root : String) (providers : Option BucketProviders) : Result SessionInfo := do
  let bucket ← Bucket.ofRoot root
  match providers.bind (·.config? bucket.provider) with
  | some config => configured bucket config
  | none => return unconfigured bucket.provider

end SessionInfo

end TaskGraph
