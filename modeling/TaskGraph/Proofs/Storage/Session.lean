import TaskGraph.Proofs.Result
import TaskGraph.Proofs.SortedMap
import TaskGraph.Storage.Session

/-! Credentials of sessions. A session is opened with one whole secret or with what the
environment of the task holds. The first entry that is for the bucket settles which, and no other
entry has a part in it. -/

namespace TaskGraph

/-- What a store is opened with. -/
inductive Credentials where
  | environment
  | secret (ref : SecretRef)

namespace Credentials

def params : Credentials → List (String × String)
  | environment => SessionInfo.environmentParams
  | secret ref => SessionInfo.secretParams ref

end Credentials

/-- An entry is for one bucket and for the paths in it that start with its prefix. -/
structure AuthConfig.IsFor (a : AuthConfig) (b : Bucket) : Prop where
  bucket : a.bucketName = b.name
  path : a.keyPrefix.toList <+: b.keyPrefix.toList

theorem AuthConfig.appliesTo_iff {a : AuthConfig} {b : Bucket} :
    a.appliesTo b = true ↔ a.IsFor b := by
  simp only [appliesTo, Text.startsWith, Bool.and_eq_true, decide_eq_true_eq,
    List.isPrefixOf_iff_prefix]
  exact ⟨fun ⟨bucket, path⟩ => ⟨bucket, path⟩, fun isFor => ⟨isFor.bucket, isFor.path⟩⟩

namespace ProviderConfig

variable {config : ProviderConfig} {bucket : Bucket} {a : AuthConfig}

/-- What the provider gives by itself: its default secret, or else the environment if it says so. -/
def credentials? (config : ProviderConfig) : Option Credentials :=
  (config.defaultSecret.map .secret).or (if config.fromEnv then some .environment else none)

theorem authFor?_eq_some {before after : List AuthConfig}
    (entries : config.authConfigs = before ++ a :: after) (others : ∀ x ∈ before, ¬ x.IsFor bucket)
    (isFor : a.IsFor bucket) : config.authFor? bucket = some a := by
  have skipped : before.find? (·.appliesTo bucket) = none := by
    refine List.find?_eq_none.2 fun x member applies => ?_
    exact others x member (AuthConfig.appliesTo_iff.1 applies)
  rw [authFor?, entries, List.find?_append, skipped, Option.none_or]
  exact List.find?_cons_of_pos (AuthConfig.appliesTo_iff.2 isFor)

theorem authFor?_eq_none (others : ∀ x ∈ config.authConfigs, ¬ x.IsFor bucket) :
    config.authFor? bucket = none :=
  List.find?_eq_none.2 fun x member applies => others x member (AuthConfig.appliesTo_iff.1 applies)

end ProviderConfig

/-- The same providers, one of them with other entries. -/
def BucketProviders.withEntries (ps : BucketProviders) (p : StorageProvider)
    (entries : List AuthConfig) : BucketProviders :=
  let change (c : ProviderConfig) : ProviderConfig := { c with authConfigs := entries }
  match p with
  | .minio => { ps with minio := ps.minio.map change }
  | .s3 => { ps with s3 := ps.s3.map change }
  | .gs => { ps with gs := ps.gs.map change }

@[simp] theorem BucketProviders.config?_withEntries (ps : BucketProviders) (p : StorageProvider)
    (entries : List AuthConfig) : (ps.withEntries p entries).config? p =
      (ps.config? p).map fun c => { c with authConfigs := entries } := by
  cases p <;> rfl

namespace SessionInfo

variable {root : String} {providers : Option BucketProviders} {bucket : Bucket}
  {config : ProviderConfig} {s : SessionInfo} {auth : Option AuthConfig}

/-- A session has all entries of one secret, or none of them. -/
def OpensWith (s : SessionInfo) : Credentials → Prop
  | .environment => s.params.get? "fromEnv" = some "true" ∧ s.params.get? "secretName" = none ∧
      s.params.get? "accessKeyKey" = none ∧ s.params.get? "secretKeyKey" = none
  | .secret ref => s.params.get? "fromEnv" = some "false" ∧
      s.params.get? "secretName" = some ref.secretName ∧
      s.params.get? "accessKeyKey" = some ref.accessKeyKey ∧
      s.params.get? "secretKeyKey" = some ref.secretKeyKey

structure Opens (s : SessionInfo) (endpoint region : String) (c : Credentials) : Prop where
  endpoint : s.params.get? "endpoint" = some endpoint
  region : s.params.get? "region" = some region
  credentials : s.OpensWith c

/-- A session is made for an endpoint and a region if there are credentials and an endpoint at all,
and it is opened with these. -/
structure OpenedBy (r : Result SessionInfo) (endpoint region : String)
    (credentials : Option Credentials) : Prop where
  succeeds : (∃ s, r = .ok s) ↔ endpoint ≠ "" ∧ credentials ≠ none
  opens : ∀ s, r = .ok s → ∃ c, credentials = some c ∧ s.Opens endpoint region c

/-- With credentials and an endpoint there is a session. -/
theorem OpenedBy.exists_opens {r : Result SessionInfo} {endpoint region : String}
    {c : Credentials} (opened : OpenedBy r endpoint region (some c)) (known : endpoint ≠ "") :
    ∃ s, r = .ok s ∧ s.Opens endpoint region c := by
  obtain ⟨s, made⟩ := opened.succeeds.2 ⟨known, nofun⟩
  obtain ⟨c', same, opens⟩ := opened.opens s made
  obtain rfl := Option.some.inj same
  exact ⟨s, made, opens⟩

/-- The credentials come last and are the only ones. -/
theorem opens_of_params (c : Credentials) (provider endpoint region ssl : String) :
    Opens ⟨provider, SortedMap.ofList
      ([("endpoint", endpoint), ("region", region), ("disableSsl", ssl)] ++ c.params)⟩
      endpoint region c := by
  cases c with
  | environment =>
    constructor <;> simp [OpensWith, SortedMap.get?_ofList, SortedMap.lookup_cons_ite,
      Credentials.params, environmentParams]
  | secret ref =>
    constructor <;> simp [OpensWith, SortedMap.get?_ofList, SortedMap.lookup_cons_ite,
      Credentials.params, secretParams]

theorem unconfigured_opensWith (p : StorageProvider) : ∃ c, (unconfigured p).OpensWith c := by
  cases p with
  | minio =>
    let ref : SecretRef := ⟨"mlpipeline-minio-artifact", "accesskey", "secretkey"⟩
    exact ⟨.secret ref, rfl, rfl, rfl, rfl⟩
  | s3 => exact ⟨.environment, rfl, rfl, rfl, rfl⟩
  | gs => exact ⟨.environment, rfl, rfl, rfl, rfl⟩

/-- What opens a store: the secret of the entry for the bucket, if there is one. -/
def chosen (config : ProviderConfig) (auth : Option AuthConfig) : Option Credentials :=
  auth.elim config.credentials? fun a => a.secret.map .secret

theorem credentials_toOption (p : StorageProvider) (config : ProviderConfig)
    (auth : Option AuthConfig) :
    (credentials p config auth).toOption = (chosen config auth).map Credentials.params := by
  unfold credentials chosen ProviderConfig.credentials?
  cases auth with
  | some a =>
    obtain ⟨_, _, _, _, secret⟩ := a
    cases secret <;> rfl
  | none =>
    cases config.defaultSecret with
    | some ref => rfl
    | none => cases config.fromEnv <;> rfl

theorem configured_openedBy (found : config.authFor? bucket = auth) :
    OpenedBy (configured bucket config) ((auth.bind (·.endpoint)).getD config.endpoint)
      ((auth.bind (·.region)).getD config.region) (chosen config auth) := by
  have given := credentials_toOption bucket.provider config auth
  unfold configured
  simp only [found]
  by_cases empty : ((auth.bind (·.endpoint)).getD config.endpoint).isEmpty
  · rw [if_pos empty]
    exact ⟨by simp [String.isEmpty_iff.1 empty], nofun⟩
  · rw [if_neg empty]
    rw [String.isEmpty_iff] at empty
    -- without credentials the step that asks for them fails, with them only the session is left
    cases choice : chosen config auth with
    | none =>
      rw [choice] at given
      cases made : credentials bucket.provider config auth with
      | error e => exact ⟨by simp [bind, Except.bind], nofun⟩
      | ok params =>
        rw [made] at given
        cases given
    | some c =>
      rw [choice] at given
      rw [toOption_eq_some_iff.1 given, ok_bind]
      refine ⟨by simp [empty], ?_⟩
      rintro s ⟨⟩
      exact ⟨c, rfl, opens_of_params c ..⟩

/-- Entries have a part in a session only through the one that is found. -/
theorem configured_withEntries {entries : List AuthConfig}
    (same : { config with authConfigs := entries }.authFor? bucket = config.authFor? bucket) :
    configured bucket { config with authConfigs := entries } = configured bucket config := by
  have given (auth : Option AuthConfig) : credentials bucket.provider
      { config with authConfigs := entries } auth = credentials bucket.provider config auth := by
    cases auth <;> rfl
  simp only [configured, same, given]

theorem ofRoot_of_configured (bucketOf : Bucket.ofRoot root = .ok bucket)
    (configuredBy : providers.bind (·.config? bucket.provider) = some config) :
    ofRoot root providers = configured bucket config := by
  rw [ofRoot, bucketOf, ok_bind, configuredBy]

theorem ofRoot_withEntries {entries : List AuthConfig} (bucketOf : Bucket.ofRoot root = .ok bucket)
    (configuredBy : providers.bind (·.config? bucket.provider) = some config)
    (same : { config with authConfigs := entries }.authFor? bucket = config.authFor? bucket) :
    ofRoot root (providers.map (·.withEntries bucket.provider entries)) =
      ofRoot root providers := by
  have changed : (providers.map (·.withEntries bucket.provider entries)).bind
      (·.config? bucket.provider) = some { config with authConfigs := entries } := by
    obtain ⟨ps, rfl, known⟩ := Option.bind_eq_some_iff.1 configuredBy
    simp [known]
  rw [ofRoot_of_configured bucketOf changed, ofRoot_of_configured bucketOf configuredBy,
    configured_withEntries same]

theorem ofRoot_opensWith (made : ofRoot root providers = .ok s) : ∃ c, s.OpensWith c := by
  obtain ⟨bucket, bucketOf, made⟩ := bind_eq_ok_iff.1 made
  cases configuredBy : providers.bind (·.config? bucket.provider) with
  | none =>
    rw [configuredBy] at made
    obtain ⟨⟩ := made
    exact unconfigured_opensWith bucket.provider
  | some config =>
    rw [configuredBy] at made
    obtain ⟨c, -, opens⟩ := (configured_openedBy rfl).opens s made
    exact ⟨c, opens.credentials⟩

/-- A session is opened with one whole secret or with the environment. Where the provider is
configured, the first entry for the bucket gives the secret, and the endpoint and the region unless
it leaves them to the provider; neither what comes after it nor what is not for the bucket matters.
Without such an entry all of it is the provider's. -/
theorem session_by_first_entry (root : String) (providers : Option BucketProviders) :
    (∀ s, ofRoot root providers = .ok s → ∃ c, s.OpensWith c) ∧
    ∀ bucket config, Bucket.ofRoot root = .ok bucket →
      providers.bind (·.config? bucket.provider) = some config →
      (∀ before a after, config.authConfigs = before ++ a :: after →
        (∀ x ∈ before, ¬ x.IsFor bucket) → a.IsFor bucket →
        OpenedBy (ofRoot root providers) (a.endpoint.getD config.endpoint)
          (a.region.getD config.region) (a.secret.map .secret) ∧
        ∀ before' after', (∀ x ∈ before', ¬ x.IsFor bucket) →
          ofRoot root (providers.map (·.withEntries bucket.provider (before' ++ a :: after'))) =
            ofRoot root providers) ∧
      ((∀ x ∈ config.authConfigs, ¬ x.IsFor bucket) →
        OpenedBy (ofRoot root providers) config.endpoint config.region config.credentials? ∧
        ∀ others, (∀ x ∈ others, ¬ x.IsFor bucket) →
          ofRoot root (providers.map (·.withEntries bucket.provider others)) =
            ofRoot root providers) := by
  refine ⟨fun s => ofRoot_opensWith, fun bucket config bucketOf configuredBy => ⟨?_, ?_⟩⟩
  · intro before a after entries others isFor
    have found := ProviderConfig.authFor?_eq_some entries others isFor
    constructor
    · rw [ofRoot_of_configured bucketOf configuredBy]
      exact configured_openedBy found
    · intro before' after' others'
      refine ofRoot_withEntries bucketOf configuredBy ?_
      rw [found, ProviderConfig.authFor?_eq_some rfl others' isFor]
  · intro none
    have found := ProviderConfig.authFor?_eq_none none
    constructor
    · rw [ofRoot_of_configured bucketOf configuredBy]
      exact configured_openedBy found
    · intro others none'
      refine ofRoot_withEntries bucketOf configuredBy ?_
      rw [found]
      exact ProviderConfig.authFor?_eq_none none'

namespace Versions

def secret (name : String) : SecretRef := ⟨name, "access", "secret"⟩

/-- An entry for a path of the bucket, with a secret of its own. -/
def entry (path : String) (region : Option String) : AuthConfig where
  bucketName := "models"
  keyPrefix := path
  region := region
  secret := some (secret path)

/-- Entries for two versions, and one for all of the bucket. -/
def s3Config : ProviderConfig where
  endpoint := "s3.local"
  region := "eu"
  defaultSecret := some (secret "default")
  authConfigs := [entry "v1/" none, entry "v2/" (some "us"), entry "" none]

def onlyS3 : BucketProviders where
  s3 := some s3Config

end Versions

/-- The second of three entries is the first for its path. Its secret opens the store, in its region
and at the endpoint of the provider, also where it is the only entry. No entry is for another
bucket, which is opened with the secret of the provider. -/
theorem session_by_second_entry :
    (∃ s, ofRoot "s3://models/v2/runs" (some Versions.onlyS3) = .ok s ∧
      s.Opens "s3.local" "us" (.secret (Versions.secret "v2/"))) ∧
    ofRoot "s3://models/v2/runs"
        (some (Versions.onlyS3.withEntries .s3 [Versions.entry "v2/" (some "us")])) =
      ofRoot "s3://models/v2/runs" (some Versions.onlyS3) ∧
    ∃ s, ofRoot "s3://logs/v2/runs" (some Versions.onlyS3) = .ok s ∧
      s.Opens "s3.local" "eu" (.secret (Versions.secret "default")) := by
  have models : Bucket.ofRoot "s3://models/v2/runs" = .ok ⟨.s3, "models", "v2/runs/", ""⟩ := rfl
  have logs : Bucket.ofRoot "s3://logs/v2/runs" = .ok ⟨.s3, "logs", "v2/runs/", ""⟩ := rfl
  have others : ∀ x ∈ [Versions.entry "v1/" none], ¬ x.IsFor ⟨.s3, "models", "v2/runs/", ""⟩ :=
    List.forall_mem_singleton.2 fun isFor => absurd isFor.path (by decide)
  obtain ⟨opened, same⟩ := ((session_by_first_entry _ (some Versions.onlyS3)).2 _
    Versions.s3Config models rfl).1 _ (Versions.entry "v2/" (some "us")) _ rfl others
    ⟨rfl, by decide⟩
  have named : ∀ x ∈ Versions.s3Config.authConfigs, x.bucketName = "models" := by decide
  have unlisted := (((session_by_first_entry _ (some Versions.onlyS3)).2 _ Versions.s3Config
    logs rfl).2 fun x member isFor =>
      absurd ((named x member).symm.trans isFor.bucket) (by decide)).1
  exact ⟨opened.exists_opens (by decide), same [] [] nofun, unlisted.exists_opens (by decide)⟩

/-- An entry without a secret does not fall back on the one of the provider. -/
example : configured ⟨.s3, "models", "v2/", ""⟩
    { endpoint := "s3.local", defaultSecret := some ⟨"default", "access", "secret"⟩,
      authConfigs := [{ bucketName := "models", keyPrefix := "v2" }] } =
    .fail (.invalidProvider "s3" "authConfigs[].secretRef is required") := by
  rfl

end SessionInfo

end TaskGraph
