import WazuhOperator.Certificates.Maintenance
import WazuhOperator.Cluster.Events
import WazuhOperator.Library.Procedure

namespace WazuhOperator
namespace Certificates

open Procedure Proc

/-!
# A certificate pass

`CertificateReconciler.ReconcileWithHashes`, over the Secrets which hold the
CA and the six leaf certificates of one cluster.  A key pair is a number; a
certificate names its own key and the key which signed it.  An entry of a
Secret which is missing or cannot be parsed is `none`.

The reads, writes and key generations of a pass are answered by a record, the
clock and the calendar are those of its setting.  What a pass records is the
Secrets it sends to the API server, in their order, whatever became of the
write.
-/

/-! ## Certificates and Secrets -/

structure Certificate where
  publicKey : Nat
  /-- The key whose signature the certificate carries. -/
  signedBy : Nat
  (notBefore notAfter : Int)
  dnsNames : List String
  deriving DecidableEq

structure PrivateKey where
  publicKey : Nat
  /-- The stored text is the one which the conversion to PKCS#8 produces. -/
  pkcs8 : Bool
  deriving DecidableEq

/-- The Secret `<cluster>-ca`. -/
structure CASecret where
  caCert : Option Certificate
  caKey : Option PrivateKey
  deriving DecidableEq

/-- The Secret of a leaf certificate: `ca.crt`, `tls.crt` and `tls.key`. -/
structure LeafSecret where
  (caCert tlsCert : Option Certificate)
  tlsKey : Option PrivateKey
  deriving DecidableEq

inductive CertSecret where
  | ca
  | leaf (leaf : Leaf)
  deriving DecidableEq

def CertSecret.name (clusterName : String) : CertSecret -> String
  | .ca => clusterName ++ "-ca"
  | .leaf .managerMaster => clusterName ++ "-manager-master-certs"
  | .leaf .managerWorker => clusterName ++ "-manager-worker-certs"
  | .leaf .indexer => clusterName ++ "-indexer-certs"
  | .leaf .dashboard => clusterName ++ "-dashboard-certs"
  | .leaf .filebeat => clusterName ++ "-filebeat-certs"
  | .leaf .admin => clusterName ++ "-admin-certs"

structure Secrets where
  ca : Option CASecret
  leaf : Leaf -> Option LeafSecret

namespace Secrets

def putCA (secret : CASecret) (secrets : Secrets) : Secrets := { secrets with ca := some secret }

def putLeaf (leaf : Leaf) (secret : LeafSecret) (secrets : Secrets) : Secrets :=
  { secrets with leaf := fun other => if other = leaf then some secret else secrets.leaf other }

variable (secrets : Secrets)

@[simp] theorem putLeaf_self (leaf : Leaf) (secret : LeafSecret) :
    (secrets.putLeaf leaf secret).leaf leaf = some secret := if_pos rfl

theorem putLeaf_other {leaf other : Leaf} (different : other ≠ leaf) (secret : LeafSecret) :
    (secrets.putLeaf leaf secret).leaf other = secrets.leaf other := if_neg different

end Secrets

structure CAResult where
  certificate : Certificate
  privateKey : PrivateKey
  deriving DecidableEq

/-- `ParseCA`, which does not compare the key with the certificate. -/
def parseCA (secret : CASecret) : Option CAResult :=
  match secret.caCert, secret.caKey with
  | some certificate, some privateKey => some ⟨certificate, privateKey⟩
  | _, _ => none

/-- `ParseNodeCert` and its namesakes. -/
def parseLeafCert (secret : LeafSecret) : Option (Certificate × PrivateKey) :=
  match secret.tlsCert, secret.tlsKey with
  | some certificate, some privateKey => some (certificate, privateKey)
  | _, _ => none

/-! ## The setting and the answers of a pass -/

/-- The Secrets of a user which `customCerts` may name beside that of the CA. -/
inductive CustomRef where
  | node
  | admin
  | filebeat
  deriving DecidableEq

/-- `v1.CustomCertsConfig`: which of the optional references are given. -/
structure CustomCertsConfig where
  (nodeSecretRef adminSecretRef filebeatSecretRef : Bool := false)

structure TLSConfig where
  certConfig : Option CertificateConfig := none
  caMaintenance : Option CAMaintenanceConfig := none
  customCerts : Option CustomCertsConfig := none

/-- The cluster a pass is about, the domain the operator was started with, and the time. -/
structure Setting where
  domain : String
  key : ClusterKey
  spec : ClusterSpec
  tls : Option TLSConfig
  now : Nat
  calendar : Calendar
  /-- The number of rounds which the search for a maintenance window may take. -/
  fuel : Nat

structure CertAnswers where
  /-- A read of a Secret; that the Secret does not exist is not an error. -/
  get : CertSecret -> Except String Unit
  /-- The key pair made for a certificate. -/
  generate : CertSecret -> Except String Nat
  write : CertSecret -> WriteAnswer
  /-- The certificate under the key of `caSecretRef`. -/
  customCA : Except String (Option Certificate)
  /-- The content of another Secret of the user. -/
  custom : CustomRef -> Except String LeafSecret

namespace Setting

variable (setting : Setting)

def certConfig : Option CertificateConfig := setting.tls.bind TLSConfig.certConfig

def caMaintenance : Option CAMaintenanceConfig := setting.tls.bind TLSConfig.caMaintenance

def customCerts : Option CustomCertsConfig := setting.tls.bind TLSConfig.customCerts

def options : CertificateOptions := getCertOptions setting.certConfig

def shouldRenewCA (ca : CAResult) : Bool :=
  needsRenewal setting.now ca.certificate.notAfter setting.options.getCARenewalThreshold

def checkMaintenance (caExpiry : Int) : Option CAMaintenanceCheckResult :=
  checkCAMaintenanceWindow setting.calendar setting.fuel setting.caMaintenance setting.now caExpiry

def newCA (key : Nat) : CAResult where
  certificate :=
    { publicKey := key, signedBy := key, dnsNames := []
      notBefore := notBeforeOf setting.now
      notAfter := notAfterOf setting.now setting.options.getCAValidity }
  privateKey := ⟨key, false⟩

def newLeaf (ca : CAResult) (leaf : Leaf) (key : Nat) : LeafSecret where
  caCert := some ca.certificate
  tlsCert := some
    { publicKey := key, signedBy := ca.privateKey.publicKey
      dnsNames := leafNames setting.domain setting.key setting.spec leaf
      notBefore := notBeforeOf setting.now
      notAfter := notAfterOf setting.now (setting.options.validity leaf) }
  tlsKey := some ⟨key, leaf = .admin⟩

/-- The certificate in a Secret is left as it is: it parses, was made for the domain, and is
not yet due. -/
def keeps (leaf : Leaf) (found : LeafSecret) : Bool :=
  match parseLeafCert found with
  | none => false
  | some (certificate, _) =>
    !requiresDomainRegeneration setting.domain certificate.dnsNames &&
      !needsRenewal setting.now certificate.notAfter (setting.options.threshold leaf)

end Setting

/-! ## `reconcileCA` -/

def writeSecret (answers : CertAnswers) (target : CertSecret) (change : Secrets -> Secrets) :
    Proc Secrets CertSecret Unit := do
  emit target
  modify (if (answers.write target).applied then change else id)
  ofExcept (answers.write target).toExcept

structure CAReconcileResult where
  caResult : CAResult
  (renewed renewalPending : Bool := false)
  nextMaintenanceWindow : Int := zeroTime

section

variable (setting : Setting) (answers : CertAnswers)

def issueCA (exists_already : Bool) : Proc Secrets CertSecret CAReconcileResult := do
  let key ← mapError ("failed to generate CA: " ++ ·) (ofExcept (answers.generate .ca))
  let ca := setting.newCA key
  let verb := if exists_already then "update" else "create"
  mapError (("failed to " ++ verb ++ " CA secret: ") ++ ·)
    (writeSecret answers .ca (Secrets.putCA ⟨some ca.certificate, some ca.privateKey⟩))
  pure { caResult := ca, renewed := exists_already }

def reconcileCA : Proc Secrets CertSecret CAReconcileResult := do
  mapError ("failed to get CA secret: " ++ ·) (ofExcept (answers.get .ca))
  let secrets ← read
  match secrets.ca with
  | none => issueCA setting answers false
  | some found =>
    match parseCA found with
    | none => issueCA setting answers true
    | some ca =>
      if setting.shouldRenewCA ca then
        match setting.checkMaintenance ca.certificate.notAfter with
        -- The search for a window does not end, and the pass with it.
        | none => fail "checkCAMaintenanceWindow does not return"
        | some check =>
          if check.allowRenewal then issueCA setting answers true
          else pure { caResult := ca, renewalPending := true
                      nextMaintenanceWindow := check.nextWindowStart }
      else pure { caResult := ca }

/-! ## The leaf certificates -/

def Leaf.noun : Leaf -> String
  | .managerMaster | .managerWorker | .indexer => "node"
  | .dashboard => "dashboard"
  | .filebeat => "filebeat"
  | .admin => "admin"

/-- A new key pair, signed by the CA.  `x509.CreateCertificate` refuses a CA key which does not
belong to the CA certificate. -/
def generateLeafKey (ca : CAResult) (leaf : Leaf) : Except String Nat :=
  match answers.generate (.leaf leaf) with
  | .error text => .error text
  | .ok key =>
    if ca.privateKey.publicKey = ca.certificate.publicKey then .ok key
    else .error "x509: provided PrivateKey doesn't match parent's PublicKey"

/-- The part which all functions for leaf certificates share from generation on. -/
def issueLeaf (ca : CAResult) (leaf : Leaf) (exists_already : Bool) : Proc Secrets CertSecret Bool := do
  let key ← mapError (("failed to generate " ++ leaf.noun ++ " certificate: ") ++ ·)
    (ofExcept (generateLeafKey answers ca leaf))
  let verb := if exists_already then "update " else "create "
  mapError (("failed to " ++ verb ++ leaf.noun ++ " secret: ") ++ ·)
    (writeSecret answers (.leaf leaf) (Secrets.putLeaf leaf (setting.newLeaf ca leaf key)))
  pure exists_already

/-- The common shape of the functions for leaf certificates.  They differ in what they do with a
certificate which they keep.  The result is whether an existing Secret was renewed. -/
def reconcileLeaf (ca : CAResult) (leaf : Leaf) (whenKept : LeafSecret -> Proc Secrets CertSecret Unit) :
    Proc Secrets CertSecret Bool := do
  mapError (("failed to get " ++ leaf.noun ++ " secret: ") ++ ·)
    (ofExcept (answers.get (.leaf leaf)))
  let secrets ← read
  match secrets.leaf leaf with
  | none => issueLeaf setting answers ca leaf false
  | some found =>
    if setting.keeps leaf found then do
      whenKept found
      pure false
    else issueLeaf setting answers ca leaf true

def reconcileNodeCertWithRenewalStatus (ca : CAResult) (leaf : Leaf) : Proc Secrets CertSecret Bool :=
  reconcileLeaf setting answers ca leaf fun _ => pure ()

def reconcileManagerCerts (ca : CAResult) : Proc Secrets CertSecret Unit := do
  let _ ← mapError ("failed to reconcile master certificate: " ++ ·)
    (reconcileNodeCertWithRenewalStatus setting answers ca .managerMaster)
  let _ ← mapError ("failed to reconcile worker certificate: " ++ ·)
    (reconcileNodeCertWithRenewalStatus setting answers ca .managerWorker)
  pure ()

def reconcileIndexerCerts (ca : CAResult) : Proc Secrets CertSecret Bool :=
  reconcileNodeCertWithRenewalStatus setting answers ca .indexer

def reconcileDashboardCerts (ca : CAResult) : Proc Secrets CertSecret Bool :=
  reconcileLeaf setting answers ca .dashboard fun _ => pure ()

def reconcileFilebeatCerts (ca : CAResult) : Proc Secrets CertSecret Bool :=
  reconcileLeaf setting answers ca .filebeat fun _ => pure ()

/-- The key of an admin Secret as `ConvertPrivateKeyPEMToPKCS8` writes it. -/
def LeafSecret.migrated (secret : LeafSecret) : LeafSecret :=
  { secret with tlsKey := secret.tlsKey.map fun key => { key with pkcs8 := true } }

/-- `reconcileAdminCerts`, which rewrites the key of a certificate it keeps when the key is not
stored as PKCS#8. -/
def reconcileAdminCerts (ca : CAResult) : Proc Secrets CertSecret Bool :=
  reconcileLeaf setting answers ca .admin fun found =>
    if found.migrated = found then pure ()
    else mapError
      (("failed to migrate admin key to PKCS#8 in secret " ++ CertSecret.name setting.key.name (.leaf .admin) ++ ": ") ++ ·)
      (writeSecret answers (.leaf .admin) (Secrets.putLeaf .admin found.migrated))

/-! ## `reconcileCustomCerts` -/

/-- `ensureCustomCertSecret`, which writes whether or not the content differs. -/
def ensureCustomCertSecret (target : CertSecret) (change : Secrets -> Secrets) :
    Proc Secrets CertSecret Unit := do
  mapError (("failed to get existing secret " ++ target.name setting.key.name ++ ": ") ++ ·)
    (ofExcept (answers.get target))
  writeSecret answers target change

def copyNodeCertsToComponents (content : LeafSecret) : Proc Secrets CertSecret Unit :=
  forEach (fun leaf => mapError
      (("failed to ensure secret " ++ CertSecret.name setting.key.name (.leaf leaf) ++ ": ") ++ ·)
      (ensureCustomCertSecret setting answers (.leaf leaf) (Secrets.putLeaf leaf content)))
    [.indexer, .managerMaster, .managerWorker, .dashboard]

def withCustomRef (given : Bool) (ref : CustomRef) (noun : String)
    (copy : LeafSecret -> Proc Secrets CertSecret Unit) : Proc Secrets CertSecret Unit :=
  if given then do
    let content ← mapError (("failed to read " ++ noun ++ " certificate secret: ") ++ ·)
      (ofExcept (answers.custom ref))
    copy content
  else pure ()

/-- `CertHashResult`, without the hashes and the hot reload. -/
structure CertHashResult where
  (caRenewed indexerCertsRenewed caRenewalPending : Bool := false)
  caRenewalScheduledAt : Int := zeroTime
  deriving DecidableEq

def reconcileCustomCerts (custom : CustomCertsConfig) : Proc Secrets CertSecret CertHashResult := do
  let caCert ← mapError ("failed to read CA secret: " ++ ·) (ofExcept answers.customCA)
  mapError ("failed to ensure CA secret: " ++ ·)
    (ensureCustomCertSecret setting answers .ca (Secrets.putCA ⟨caCert, none⟩))
  withCustomRef answers custom.nodeSecretRef .node "node" fun content =>
    mapError ("failed to copy node certificates: " ++ ·) (copyNodeCertsToComponents setting answers content)
  withCustomRef answers custom.adminSecretRef .admin "admin" fun content =>
    mapError ("failed to ensure admin certs secret: " ++ ·)
      (ensureCustomCertSecret setting answers (.leaf .admin) (Secrets.putLeaf .admin content))
  withCustomRef answers custom.filebeatSecretRef .filebeat "filebeat" fun content =>
    mapError ("failed to ensure filebeat certs secret: " ++ ·)
      (ensureCustomCertSecret setting answers (.leaf .filebeat) (Secrets.putLeaf .filebeat content))
  pure {}

/-! ## `ReconcileWithHashes` -/

/-- The part of `ReconcileWithHashes` after the CA, for a CA which is not waiting to be renewed. -/
def reconcileLeaves (ca : CAResult) : Proc Secrets CertSecret Bool := do
  mapError ("failed to reconcile manager certificates: " ++ ·) (reconcileManagerCerts setting answers ca)
  let indexerCertsRenewed ← mapError ("failed to reconcile indexer certificates: " ++ ·)
    (reconcileIndexerCerts setting answers ca)
  let _ ← mapError ("failed to reconcile dashboard certificates: " ++ ·)
    (reconcileDashboardCerts setting answers ca)
  let _ ← mapError ("failed to reconcile filebeat certificates: " ++ ·)
    (reconcileFilebeatCerts setting answers ca)
  let _ ← mapError ("failed to reconcile admin certificates: " ++ ·)
    (reconcileAdminCerts setting answers ca)
  pure indexerCertsRenewed

def reconcileWithHashes : Proc Secrets CertSecret CertHashResult :=
  match setting.customCerts with
  | some custom => reconcileCustomCerts setting answers custom
  | none => do
      let ca ← mapError ("failed to reconcile CA: " ++ ·) (reconcileCA setting answers)
      if ca.renewalPending then
        pure { caRenewalPending := true, caRenewalScheduledAt := ca.nextMaintenanceWindow }
      else do
        let indexerCertsRenewed ← reconcileLeaves setting answers ca.caResult
        pure { caRenewed := ca.renewed, indexerCertsRenewed := indexerCertsRenewed }

end

end Certificates
end WazuhOperator
