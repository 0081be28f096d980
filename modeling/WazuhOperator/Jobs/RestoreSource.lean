import WazuhOperator.Jobs.Backup

namespace WazuhOperator
namespace Jobs

/-!
# The sources of a restore

A `WazuhRestore` names the archive to restore in one of five ways: in S3, GCS,
Azure or HDFS, or by reference to a `WazuhBackup`.  Two parts of the operator
look at these fields.  `validateSource` of the reconciler decides whether the
restore goes ahead, and the job builder turns the source into the script that
fetches the archive.

They do not look at the same fields.  Validation knows S3 and the reference,
the builder knows the four kinds of storage.  The last theorem of the module
says exactly for which sources the two agree.
-/

/-! ## The resource -/

/-- `RepositoryCredentialsRef`; the keys inside the Secret are the pod's affair. -/
structure RepositoryCredentialsRef where
  name : String
  deriving DecidableEq

structure S3RestoreSource where
  (bucket key : String)
  (region endpoint : String := "")
  forcePathStyle : Bool := false
  credentialsSecret : RepositoryCredentialsRef
  deriving DecidableEq

structure GCSRestoreSource where
  (bucket key : String)
  project : String := ""
  credentialsSecret : Option RepositoryCredentialsRef := none
  deriving DecidableEq

structure AzureRestoreSource where
  (container key : String)
  (accountName endpointSuffix : String := "")
  deriving DecidableEq

structure HDFSRestoreSource where
  (uri path key : String)
  deriving DecidableEq

/-- `WazuhBackupReference`; its `backupTimestamp` is read by nobody. -/
structure WazuhBackupReference where
  name : String
  deriving DecidableEq

structure RestoreSource where
  s3 : Option S3RestoreSource := none
  gcs : Option GCSRestoreSource := none
  azure : Option AzureRestoreSource := none
  hdfs : Option HDFSRestoreSource := none
  wazuhBackupRef : Option WazuhBackupReference := none
  deriving DecidableEq

structure RestoreComponents where
  (agentKeys fimDatabase agentDatabase integrations alertLogs : Bool := false)
  customPaths : List String := []
  deriving DecidableEq

/-- The part of `WazuhRestoreSpec` the reconciler and the script read. -/
structure RestoreSpec where
  clusterRef : String
  source : RestoreSource
  components : Option RestoreComponents := none
  (preRestoreBackup stopManager restartAfterRestore : Bool := true)
  serviceAccount : Option ServiceAccountConfig := none
  deriving DecidableEq

/-! ## Validation -/

/-- The S3 part of `validateSource`; `secret` is the answer to the `Get` of the credentials. -/
def validateS3 (secret : Fetched Unit) : Option S3RestoreSource -> Except String Unit
  | none => .ok ()
  | some s3 =>
    if s3.bucket = "" then .error "s3.bucket is required"
    else if s3.key = "" then .error "s3.key is required"
    else
      match secret with
      | .found _ => .ok ()
      | .notFound => .error ("credentials Secret '" ++ s3.credentialsSecret.name ++ "' not found")
      | .failed text => .error ("failed to get credentials Secret: " ++ text)

/-- The reference part of `validateSource`; `backup` is the answer to the `Get` of the backup. -/
def validateBackupRef (backup : Fetched BackupStatus) : Option WazuhBackupReference -> Except String Unit
  | none => .ok ()
  | some ref =>
    match backup with
    | .notFound => .error ("WazuhBackup '" ++ ref.name ++ "' not found")
    | .failed text => .error ("failed to get WazuhBackup: " ++ text)
    | .found status =>
      -- Any recorded backup will do, also one that failed.
      if status.lastBackup = none then
        .error ("WazuhBackup '" ++ ref.name ++ "' has no completed backups")
      else .ok ()

def validateSource (source : RestoreSource) (secret : Fetched Unit) (backup : Fetched BackupStatus) :
    Except String Unit :=
  if source.s3 = none ∧ source.wazuhBackupRef = none then
    .error "either s3 or wazuhBackupRef must be specified"
  else
    match validateS3 secret source.s3 with
    | .error text => .error text
    | .ok _ => validateBackupRef backup source.wazuhBackupRef

def HasLastBackup (backup : Fetched BackupStatus) : Prop :=
  ∃ status, backup = .found status ∧ status.lastBackup ≠ none

theorem validateS3_eq_ok_iff (secret : Fetched Unit) (s3 : S3RestoreSource) :
    validateS3 secret (some s3) = .ok () <->
      s3.bucket ≠ "" ∧ s3.key ≠ "" ∧ secret = .found () := by
  by_cases bucket : s3.bucket = ""
  · simp [validateS3, bucket]
  · by_cases key : s3.key = ""
    · simp [validateS3, key, bucket]
    · cases secret <;> simp [validateS3, bucket, key]

theorem validateBackupRef_eq_ok_iff (backup : Fetched BackupStatus) (ref : Option WazuhBackupReference) :
    validateBackupRef backup ref = .ok () <-> (ref ≠ none -> HasLastBackup backup) := by
  cases ref with
  | none => simp [validateBackupRef]
  | some =>
    cases backup with
    | notFound | failed => simp [validateBackupRef, HasLastBackup]
    | found status =>
      by_cases last : status.lastBackup = none <;> simp [validateBackupRef, HasLastBackup, last]

theorem validateSource_eq_ok_iff (source : RestoreSource) (secret : Fetched Unit)
    (backup : Fetched BackupStatus) :
    validateSource source secret backup = .ok () <->
      match source.s3 with
      | some s3 => s3.bucket ≠ "" ∧ s3.key ≠ "" ∧ secret = .found () ∧
          (source.wazuhBackupRef ≠ none -> HasLastBackup backup)
      | none => source.wazuhBackupRef ≠ none ∧ HasLastBackup backup := by
  rw [validateSource]
  cases named : source.s3 with
  | none =>
    by_cases ref : source.wazuhBackupRef = none
    · simp [ref]
    · simp [ref, validateS3, validateBackupRef_eq_ok_iff]
  | some s3 =>
    rw [if_neg (by simp)]
    cases checked : validateS3 secret (some s3) with
    | error =>
      have rejected := (validateS3_eq_ok_iff secret s3).not.mp (by simp [checked])
      simp only [reduceCtorEq, false_iff]
      exact fun all => rejected ⟨all.1, all.2.1, all.2.2.1⟩
    | ok =>
      have accepted := (validateS3_eq_ok_iff secret s3).mp checked
      simp [accepted, validateBackupRef_eq_ok_iff]

/-! ## The script -/

inductive StorageType where
  | s3
  | gcs
  | azure
  | hdfs
  deriving DecidableEq

/-- `getStorageType`: the first source that is there.  The reference is none of them. -/
def getStorageType (source : RestoreSource) : Option StorageType :=
  if source.s3.isSome then some .s3
  else if source.gcs.isSome then some .gcs
  else if source.azure.isSome then some .azure
  else if source.hdfs.isSome then some .hdfs
  else none

/-- A setting of the remote, left out where it is empty. -/
def setting (name value : String) : String := if value = "" then "" else name ++ "=" ++ value ++ " "

def noSourceText : String := "echo \"ERROR: No restore source configured\"; exit 1"

def buildRcloneConfig (source : RestoreSource) : String :=
  match source.s3, source.gcs, source.azure, source.hdfs with
  | some s3, _, _, _ =>
    "rclone config create remote s3 env_auth=true " ++ setting "endpoint" s3.endpoint ++
      setting "region" s3.region ++ (if s3.forcePathStyle then "force_path_style=true " else "") ++
      "provider=Other"
  | none, some gcs, _, _ =>
    "rclone config create remote gcs " ++ setting "project_number" gcs.project ++
      (if gcs.credentialsSecret.isSome then "service_account_file=/mnt/credentials/credentials-file"
        else "env_auth=true") ++ " bucket_policy_only=true"
  | none, none, some azure, _ =>
    "rclone config create remote azureblob " ++ setting "account" azure.accountName ++
      setting "endpoint_suffix" azure.endpointSuffix ++ "env_auth=true"
  | none, none, none, some hdfs => "rclone config create remote webdav url=" ++ hdfs.uri
  | none, none, none, none => noSourceText

/-- The place and the key of the archive, from the first source that is there. -/
def directSource (source : RestoreSource) : Option (String × String) :=
  match source.s3, source.gcs, source.azure, source.hdfs with
  | some s3, _, _, _ => some (s3.bucket, s3.key)
  | none, some gcs, _, _ => some (gcs.bucket, gcs.key)
  | none, none, some azure, _ => some (azure.container, azure.key)
  | none, none, none, some hdfs => some (hdfs.path, hdfs.key)
  | none, none, none, none => none

def buildSourceRemotePath (source : RestoreSource) : String :=
  match directSource source with
  | some (place, key) => "remote:" ++ place ++ "/" ++ key
  | none => ""

def fileName (key : String) : String :=
  String.ofList (key.toList.reverse.takeWhile (· ≠ '/')).reverse

/-- `buildArchiveName`.  Splitting a text always gives a last part, so the default name in the source
is never taken. -/
def buildArchiveName (source : RestoreSource) : String :=
  match directSource source with
  | some (_, key) => fileName key
  | none => fileName ""

def buildRestorePaths (components : Option RestoreComponents) : List String :=
  let chosen := components.getD { agentKeys := true, fimDatabase := true, agentDatabase := true }
  (if chosen.agentKeys then ["/var/ossec/etc/client.keys"] else []) ++
    (if chosen.fimDatabase then ["/var/ossec/queue/fim/db/"] else []) ++
    (if chosen.agentDatabase then ["/var/ossec/queue/db/"] else []) ++
    (if chosen.integrations then ["/var/ossec/integrations/"] else []) ++
    (if chosen.alertLogs then ["/var/ossec/logs/alerts/"] else []) ++ chosen.customPaths

/-- `strings.TrimPrefix` and, on reversed texts, `strings.TrimSuffix`. -/
def trimStart (start text : List Char) : List Char := (text.dropPrefix? start).getD text

def tarPath (path : String) : String :=
  String.ofList (trimStart "/var/ossec/".toList path.toList)

structure ScriptValues where
  (clusterName nspace restoreName : String)
  storageType : StorageType
  (preRestoreBackup stopManager restartAfterRestore : Bool)
  (archiveName sourcePath : String)
  paths : List String
  rcloneConfig : String
  tarPaths : List String
  sourceDir : String

inductive RestoreScript where
  | refusal (text : String)
  | restore (values : ScriptValues)

def buildRestoreScript (name nspace : String) (spec : RestoreSpec) : RestoreScript :=
  match getStorageType spec.source with
  | none => .refusal noSourceText
  | some storageType =>
    let sourcePath := buildSourceRemotePath spec.source
    let archiveName := buildArchiveName spec.source
    .restore
      { clusterName := spec.clusterRef
        nspace := nspace
        restoreName := name
        storageType := storageType
        preRestoreBackup := spec.preRestoreBackup
        stopManager := spec.stopManager
        restartAfterRestore := spec.restartAfterRestore
        archiveName := archiveName
        sourcePath := sourcePath
        paths := buildRestorePaths spec.components
        rcloneConfig := buildRcloneConfig spec.source
        tarPaths := (buildRestorePaths spec.components).map tarPath
        sourceDir := String.ofList
          (trimStart ("/" ++ archiveName).toList.reverse sourcePath.toList.reverse).reverse }

/-! ## What the script fetches -/

/-- Where the script looks for the archive: the bucket, the container or the server. -/
def sourceLocation (source : RestoreSource) : String :=
  match source.s3, source.gcs, source.azure, source.hdfs with
  | some s3, _, _, _ => s3.bucket
  | none, some gcs, _, _ => gcs.bucket
  | none, none, some azure, _ => azure.container
  | none, none, none, some hdfs => hdfs.uri
  | none, none, none, none => ""

/-- The script is one that copies a file from some place: not the refusal, with a place to copy from
and with the name of a file, which it goes on to list and unpack. -/
def FetchesArchive (name nspace : String) (spec : RestoreSpec) : Prop :=
  ∃ values, buildRestoreScript name nspace spec = .restore values ∧
    values.archiveName ≠ "" ∧ sourceLocation spec.source ≠ ""

def NamesArchive (location key : String) : Prop := location ≠ "" ∧ fileName key ≠ ""

/-- An archive is named in one of the kinds of storage other than S3. -/
def NamedElsewhere (source : RestoreSource) : Prop :=
  match source.gcs, source.azure, source.hdfs with
  | some gcs, _, _ => NamesArchive gcs.bucket gcs.key
  | none, some azure, _ => NamesArchive azure.container azure.key
  | none, none, some hdfs => NamesArchive hdfs.uri hdfs.key
  | none, none, none => False

attribute [local simp] getStorageType buildArchiveName directSource sourceLocation NamesArchive NamedElsewhere

theorem fetchesArchive_iff (name nspace : String) (spec : RestoreSpec) :
    FetchesArchive name nspace spec <->
      match spec.source.s3 with
      | some s3 => NamesArchive s3.bucket s3.key
      | none => NamedElsewhere spec.source := by
  have built : FetchesArchive name nspace spec <-> getStorageType spec.source ≠ none ∧
      buildArchiveName spec.source ≠ "" ∧ sourceLocation spec.source ≠ "" := by
    simp only [FetchesArchive, buildRestoreScript]
    cases getStorageType spec.source <;> simp
  rw [built]
  rcases spec.source with ⟨s3, gcs, azure, hdfs, ref⟩
  cases s3 with
  | some s3 =>
    simp [and_comm]
  | none =>
    cases gcs with
    | some =>
      simp [and_comm]
    | none =>
      cases azure with
      | some =>
        simp [and_comm]
      | none =>
        cases hdfs with
        | some =>
          simp [and_comm]
        | none => simp

/-- When validation and script agree about a source.  With S3: the bucket or the key is missing, which
both reject, or the key names a file exactly where the credentials and the referenced backup, if
any, are there.  Without S3: another kind of storage names an archive exactly where there is a
reference to a backup that has run, although neither has to do with the other. -/
def SourceAgrees (source : RestoreSource) (secret : Fetched Unit) (backup : Fetched BackupStatus) : Prop :=
  match source.s3 with
  | some s3 => s3.bucket = "" ∨ s3.key = "" ∨
      (fileName s3.key ≠ "" <->
        secret = .found () ∧ (source.wazuhBackupRef ≠ none -> HasLastBackup backup))
  | none => NamedElsewhere source <-> source.wazuhBackupRef ≠ none ∧ HasLastBackup backup

/-- Validation accepts a source exactly when the builder makes a script that fetches the archive, for
the sources with `SourceAgrees` and for no others. -/
theorem validation_matches_script_iff (name nspace : String) (spec : RestoreSpec) (secret : Fetched Unit)
    (backup : Fetched BackupStatus) :
    (validateSource spec.source secret backup = .ok () <-> FetchesArchive name nspace spec) <->
      SourceAgrees spec.source secret backup := by
  rw [validateSource_eq_ok_iff, fetchesArchive_iff, SourceAgrees]
  cases spec.source.s3 with
  | none => exact iff_comm
  | some s3 =>
    by_cases bucket : s3.bucket = ""
    · simp [bucket, NamesArchive]
    · by_cases key : s3.key = ""
      · have empty : fileName "" = "" := rfl
        simp [key, bucket, NamesArchive, empty]
      · simp only [bucket, key, NamesArchive, ne_eq, not_false_eq_true, true_and, false_or]
        exact iff_comm

namespace Sample

def gcsRestore : RestoreSpec where
  clusterRef := "wazuh-cluster"
  source :=
    { gcs := some
        { bucket := "my-wazuh-backups"
          key := "wazuh-cluster/wazuh/daily-backup-gcs-20260105-020000.tar.gz"
          project := "my-gcp-project"
          credentialsSecret := some { name := "gcs-backup-credentials" } } }

def referenceRestore : RestoreSpec where
  clusterRef := "wazuh-cluster"
  source := { wazuhBackupRef := some { name := "daily-backup" } }

def succeededBackup : BackupStatus where
  phase := some .active
  message := "One-shot backup job created"
  lastBackup := some { status := backupStatusSuccess, message := "Backup completed successfully" }

end Sample

open Sample

/-- The documented restore from GCS has a script that fetches the archive and is rejected; the
documented restore from a backup that succeeded is accepted and has no such script. -/
theorem documented_sources_disagree :
    (validateSource gcsRestore.source (.found ()) (.found succeededBackup) =
        .error "either s3 or wazuhBackupRef must be specified" ∧
      FetchesArchive "restore-from-gcs" "wazuh" gcsRestore) ∧
    (validateSource referenceRestore.source (.found ()) (.found succeededBackup) = .ok () ∧
      ¬ FetchesArchive "restore-from-wazuhbackup" "wazuh" referenceRestore) := by
  refine ⟨⟨rfl, (fetchesArchive_iff ..).mpr ⟨?_, ?_⟩⟩, rfl, fun fetches => (fetchesArchive_iff ..).mp fetches⟩
  · decide
  · decide

end Jobs
end WazuhOperator
