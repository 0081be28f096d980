import WazuhOperator.Certificates.Renewal
import WazuhOperator.Cluster.Workload

namespace WazuhOperator
namespace Certificates

open Procedure Proc

/-!
# The indexer after a renewal of the CA

The indexer has to restart when the CA was renewed, because a hot reload does
not renew its trust store.  To this end the controller puts the hash of the
indexer's certificates into the pod template, in the pass in which the CA was
renewed, or in which a hot reload has failed.  In other passes it builds the
pod template without a hash, and an update check which meets an empty hash
looks no further.

So the restart depends on the pass which renews the CA.  Between the renewal
and the update of the StatefulSet a pass may end with an error, or wait for a
drain or a dry run, and the next one no longer knows of the renewal.
-/

namespace TrustStore

/-! ## A pass -/

structure SecretHash where
  text : LeafSecret -> String
  nonempty : forall secret, text secret ≠ ""

structure PassInput where
  setting : Setting
  certificates : CertAnswers
  /-- `collectCertHashes` gets as far as the indexer's Secret. -/
  hashRead : Bool
  /-- `TriggerCertificateHotReload`. -/
  hotReload : Except String Unit
  dryRun : Bool
  /-- The drain check makes the pass wait. -/
  draining : Bool
  workload : WorkloadAnswers
  /-- The steps of the pass after the indexer. -/
  later : Except String Unit

/-- The Secrets and the indexer's StatefulSet.  For the statements the model notes whether the CA
has been renewed, and the indexer's certificates which the present CA has issued since. -/
structure World where
  secrets : Secrets
  indexer : Option StatefulSet
  renewed : Bool
  leaves : List LeafSecret

def built (input : PassInput) (certHash : String) : StatefulSet where
  controller := some input.setting.key
  component := .indexer
  replicas := some ((input.setting.spec.indexer.map IndexerSpec.desiredReplicas).getD defaultIndexerReplicas)
  template := { input.workload.template with certHash := certHash }

def issuedUnder (ca : Option CASecret) (leaf : LeafSecret) : Bool :=
  match ca.bind CASecret.caCert, leaf.tlsCert with
  | some authority, some certificate => certificate.signedBy = authority.publicKey
  | _, _ => false

section Pass

variable (hash : SecretHash) (world : World) (input : PassInput)

def certificates : Outcome Secrets CertSecret CertHashResult :=
  reconcileWithHashes input.setting input.certificates world.secrets

def indexerCertHash (result : CertHashResult) (secrets : Secrets) : String :=
  if result.caRenewed || (result.indexerCertsRenewed && !input.hotReload.isOk) then
    if input.hashRead then ((secrets.leaf .indexer).map hash.text).getD "" else ""
  else ""

def replaced : Bool :=
  input.setting.customCerts.isNone && world.secrets.ca.isSome &&
    (certificates world input).state.ca ≠ world.secrets.ca

def certified : World where
  secrets := (certificates world input).state
  indexer := world.indexer
  renewed := world.renewed || replaced world input
  leaves :=
    (if replaced world input then [] else world.leaves) ++
      (((certificates world input).state.leaf .indexer).filter
        (issuedUnder (certificates world input).state.ca)).toList

/-- The indexer's part of the pass: none where the pass does not get to it or waits. -/
def reconcileIndexer : Option (Outcome (Option StatefulSet) Event Unit) :=
  match (certificates world input).result with
  | .error _ => none
  | .ok result =>
    if input.dryRun || input.draining then none
    else
      match input.workload.prepare with
      | .error _ => none
      | .ok () =>
        some (reconcileStatefulSet "indexer" indexerNeedsUpdate input.workload
          (built input (indexerCertHash hash input result (certificates world input).state))
          world.indexer)

def pass : World :=
  match reconcileIndexer hash world input with
  | none => certified world input
  | some outcome => { certified world input with indexer := outcome.state }

def Succeeds : Prop :=
  ∃ outcome, reconcileIndexer hash world input = some outcome ∧ outcome.result = .ok () ∧
    input.later = .ok ()

/-- The pod template carries the hash of certificates which the renewed CA has issued. -/
def Carried : Prop :=
  ∃ sts, world.indexer = some sts ∧ ∃ leaf ∈ world.leaves, sts.template.certHash = hash.text leaf

/-- After a pass which succeeds, a CA which has been renewed shows in the pod template. -/
def Restarted : Prop :=
  Succeeds hash world input -> (pass hash world input).renewed = true ->
    Carried hash (pass hash world input)

/-! ## The condition -/

def Due : Prop :=
  input.setting.customCerts = none ∧ world.secrets.ca.isSome = true ∧
    input.setting.caDecision world.secrets = .issue

/-- Nothing fails or waits before the StatefulSet is written. -/
structure Smooth : Prop where
  certificates : input.certificates.Smooth
  hashRead : input.hashRead = true
  dryRun : input.dryRun = false
  draining : input.draining = false
  prepare : input.workload.prepare = .ok ()
  get : input.workload.get = .ok ()
  create : input.workload.create = .accepted
  delete : input.workload.delete = .accepted
  update : input.workload.update = .accepted

/-- Nothing but a hash of certificates can make the pass write the StatefulSet. -/
def Steady : Prop :=
  ∃ found, world.indexer = some found ∧
    needsStatefulSetRecreation found (built input "") = false ∧
    indexerNeedsUpdate found (built input "") = false ∧ input.workload.immutableField = false

/-- A pass which renews the CA renews the indexer's certificates too, and nothing fails or waits
before the StatefulSet is written; later passes do not write it for other reasons. -/
def Orderly : Prop :=
  (Due world input -> Smooth input ∧ ¬ input.setting.Kept world.secrets .indexer) ∧
    (¬ Due world input -> world.renewed = true -> Steady world input)

theorem succeeds_iff : Succeeds hash world input <->
    (reconcileIndexer hash world input).any (fun outcome => outcome.result.isOk) ∧
      input.later.isOk = true := by
  rw [Succeeds]
  cases input.later with
  | error => simp
  | ok =>
    cases reconcileIndexer hash world input with
    | none => simp
    | some outcome => cases ended : outcome.result <;> simp [ended]

instance : Decidable (Succeeds hash world input) := decidable_of_iff _ (succeeds_iff hash world input).symm

instance : Decidable (Steady world input) :=
  decidable_of_iff (world.indexer.any (fun found =>
    !needsStatefulSetRecreation found (built input "") && !indexerNeedsUpdate found (built input "") &&
      !input.workload.immutableField) = true) <| by
    cases found : world.indexer with
    | none => simp [Steady, found]
    | some sts => simp [Steady, found, and_assoc]

end Pass

/-! ## What the certificates step does -/

section Certificates

variable (ca : Option CASecret)

theorem keeps_ca_writeSecret (leaf : Leaf) (secret : LeafSecret) :
    Keeps (fun secrets => secrets.ca = ca) (fun _ => True)
      (writeSecret answers (.leaf leaf) (Secrets.putLeaf leaf secret)) := by
  refine keeps_bind (keeps_emit trivial) fun _ => ?_
  refine keeps_bind (keeps_modify fun secrets same => ?_) fun _ => keeps_ofExcept _
  split
  · exact same
  · exact same

theorem keeps_ca_reconcileLeaf (authority : CAResult) (leaf : Leaf)
    (kept : forall found, Keeps (fun secrets => secrets.ca = ca) (fun _ => True) (whenKept found)) :
    Keeps (fun secrets => secrets.ca = ca) (fun _ => True)
      (reconcileLeaf setting answers authority leaf whenKept) := by
  have issues (existing : Bool) : Keeps (fun secrets => secrets.ca = ca) (fun _ => True)
      (issueLeaf setting answers authority leaf existing) := by
    refine keeps_bind (keeps_mapError (keeps_ofExcept _)) fun _ => ?_
    exact keeps_bind (keeps_mapError (keeps_ca_writeSecret ca leaf _)) fun _ => keeps_pure _
  refine keeps_bind (keeps_mapError (keeps_ofExcept _)) fun _ => ?_
  refine keeps_read_bind fun secrets _ => ?_
  cases secrets.leaf leaf with
  | none => exact issues false
  | some found =>
    dsimp only
    split
    · exact keeps_bind (kept found) fun _ => keeps_pure _
    · exact issues true

theorem keeps_ca_reconcileLeaves (authority : CAResult) :
    Keeps (fun secrets => secrets.ca = ca) (fun _ => True)
      (reconcileLeaves setting answers authority) := by
  refine reconcileLeaves_rule (compositional_keeps _ _) (fun leaf => ?_) ?_
  · exact keeps_ca_reconcileLeaf ca authority leaf fun _ => keeps_pure _
  · refine keeps_ca_reconcileLeaf ca authority .admin fun found => ?_
    split
    · exact keeps_pure _
    · exact keeps_mapError (keeps_ca_writeSecret ca .admin _)

theorem ca_of_not_issue (generated : setting.customCerts = none)
    (remains : setting.caDecision before ≠ .issue) :
    (reconcileWithHashes setting answers before).state.ca = before.ca := by
  have first : (mapError ("failed to reconcile CA: " ++ ·) (reconcileCA setting answers) before).state =
      before :=
    (keeps_mapError (Setting.keeps_reconcileCA remains) before rfl).1
  rw [reconcileWithHashes, generated]
  dsimp only
  rw [bind_apply]
  rcases ran : mapError ("failed to reconcile CA: " ++ ·) (reconcileCA setting answers) before with
    ⟨result, after, log⟩
  rw [ran] at first
  cases first
  cases result with
  | error => rfl
  | ok ca =>
    have kept : Keeps (fun secrets => secrets.ca = after.ca) (fun _ => True)
        ((if ca.renewalPending then
            pure { caRenewalPending := true, caRenewalScheduledAt := ca.nextMaintenanceWindow }
          else do
            let indexerCertsRenewed ← reconcileLeaves setting answers ca.caResult
            pure { caRenewed := ca.renewed, indexerCertsRenewed := indexerCertsRenewed }) :
          Proc Secrets CertSecret CertHashResult) := by
      split
      · exact keeps_pure _
      · exact keeps_bind (keeps_ca_reconcileLeaves after.ca ca.caResult) fun _ => keeps_pure _
    exact (kept after rfl).1

theorem existing_of_caRenewed (generated : setting.customCerts = none) (before : Secrets) :
    Ensures (· = before) (fun result _ => result.caRenewed -> before.ca.isSome)
      (reconcileWithHashes setting answers) := by
  have authority : Ensures (· = before)
      (fun result _ => result.renewed -> before.ca.isSome) (reconcileCA setting answers) := by
    rw [reconcileCA_eq]
    refine ensures_bind (fun _ state => state = before) ?_ fun _ => ?_
    · exact ensures_mapError (ensures_ofExcept fun _ _ _ same => same)
    · refine ensures_read_bind ?_
      rintro secrets rfl
      cases setting.caDecision secrets with
      | keep ca | wait ca nextWindow => exact ensures_pure fun _ _ => by rintro ⟨⟩
      | stuck => exact ensures_fail _
      | issue =>
        refine ensures_bind (fun _ _ => True) (fun _ _ _ _ => trivial) fun key => ?_
        refine ensures_bind (fun _ _ => True) (fun _ _ _ _ => trivial) fun _ => ?_
        exact ensures_pure fun _ _ renewed => renewed
  rw [reconcileWithHashes, generated]
  refine ensures_bind _ (ensures_mapError authority) fun ca => ?_
  split
  · exact ensures_pure fun _ _ => by rintro ⟨⟩
  · refine ensures_bind (fun _ _ => ca.renewed -> before.ca.isSome)
      (fun _ known _ _ => known) fun _ => ?_
    exact ensures_pure fun _ known => known

theorem issue_of_caRenewed
    (course : PassCourse setting answers before result after) (renewed : result.caRenewed) :
    setting.caDecision before = .issue := by
  cases course with
  | waits => exact nomatch renewed
  | settles _ _ reportedCA => exact reportedCA renewed

theorem issued_of_course (course : PassCourse setting answers before result after)
    (reported : result.caRenewed ∨ result.indexerCertsRenewed)
    (both : result.caRenewed -> ¬ setting.Kept before .indexer) :
    ∃ leaf, after.leaf .indexer = some leaf ∧ issuedUnder after.ca leaf = true := by
  cases course with
  | waits => exact absurd reported (by simp)
  | settles current leaves _ reportedIndexer =>
    have notKept := reported.elim both reportedIndexer
    rcases current.stored with ⟨secret, stored, authority⟩
    have done := leaves .indexer
    generalize after.leaf .indexer = found at done
    cases done with
    | @kept kept also keeps => exact absurd ⟨kept, also, keeps⟩ notKept
    | issued _ _ fits =>
      refine ⟨_, rfl, ?_⟩
      rw [issuedUnder, stored, Option.bind_some, authority]
      exact decide_eq_true fits

theorem returns_of_issue (smooth : answers.Smooth) (generated : setting.customCerts = none)
    (existing : before.ca.isSome) (decided : setting.caDecision before = .issue) :
    ∃ result, (reconcileWithHashes setting answers before).result = .ok result ∧ result.caRenewed = true := by
  rcases smooth.generate .ca with ⟨key, made⟩
  have first : mapError ("failed to reconcile CA: " ++ ·) (reconcileCA setting answers) before =
      ⟨.ok { caResult := setting.newCA key, renewed := true },
        before.putCA ⟨some (setting.newCA key).certificate, some (setting.newCA key).privateKey⟩, [.ca]⟩ := by
    rw [reconcileCA_eq]
    simp [smooth.get, decided, existing, issueCA, made, writeSecret, smooth.write]
  rw [reconcileWithHashes, generated]
  dsimp only
  rw [bind_apply, first]
  have rest : Returns (fun _ => True) (fun _ => True)
      (reconcileLeaves setting answers (setting.newCA key)) := returns_reconcileLeaves smooth rfl
  rcases (rest (before.putCA ⟨some (setting.newCA key).certificate, some (setting.newCA key).privateKey⟩)
    trivial).1 with ⟨renewed, returned⟩
  refine ⟨{ caRenewed := true, indexerCertsRenewed := renewed }, ?_, rfl⟩
  dsimp only
  rw [if_neg (by decide), Outcome.following_result, bind_apply]
  rcases ran : reconcileLeaves setting answers (setting.newCA key)
    (before.putCA ⟨some (setting.newCA key).certificate, some (setting.newCA key).privateKey⟩) with
    ⟨result, after, log⟩
  rw [ran] at returned
  cases returned
  rfl

end Certificates

/-! ## What becomes of the StatefulSet -/

section Workload

variable {input : PassInput} {found : StatefulSet}

theorem certHash_of_not_needsUpdate (known : desired.template.certHash ≠ "")
    (unchanged : indexerNeedsUpdate found desired = false) :
    found.template.certHash = desired.template.certHash := by
  simp only [indexerNeedsUpdate, Bool.or_eq_false_iff] at unchanged
  have same := unchanged.1.2
  simp only [hashChanged, known, ne_eq, not_false_eq_true, decide_true, Bool.true_and,
    decide_eq_false_iff_not, not_not] at same
  exact same.symm

attribute [local simp] reconcileStatefulSet

theorem carries_of_smooth (smooth : Smooth input) (noun : String) (known : desired.template.certHash ≠ "")
    (before : Option StatefulSet) :
    ∃ sts, (reconcileStatefulSet noun indexerNeedsUpdate input.workload desired before).state = some sts ∧
      sts.template.certHash = desired.template.certHash := by
  cases before with
  | none =>
    refine ⟨desired, ?_, rfl⟩
    simp [smooth.get, smooth.create]
  | some found =>
    cases recreation : needsStatefulSetRecreation found desired with
    | true =>
      refine ⟨desired, ?_, rfl⟩
      simp [smooth.get, recreation, smooth.delete, smooth.create]
    | false =>
      cases changed : indexerNeedsUpdate found desired with
      | true =>
        refine ⟨mergeStatefulSetUpdate found desired, ?_, rfl⟩
        simp [smooth.get, recreation, changed, smooth.update]
      | false =>
        refine ⟨found, ?_, certHash_of_not_needsUpdate known changed⟩
        simp [smooth.get, recreation, changed]

theorem stays_or_carries (noun : String)
    (noRecreation : needsStatefulSetRecreation found desired = false)
    (mutable : answers.immutableField = false) :
    (reconcileStatefulSet noun indexerNeedsUpdate answers desired (some found)).state = some found ∨
      indexerNeedsUpdate found desired ∧
        ∃ sts, (reconcileStatefulSet noun indexerNeedsUpdate answers desired (some found)).state = some sts ∧
          sts.template.certHash = desired.template.certHash := by
  cases read : answers.get with
  | error => exact .inl (by simp [read])
  | ok =>
    cases changed : indexerNeedsUpdate found desired with
    | false => exact .inl (by simp [read, noRecreation, changed])
    | true =>
      cases update : answers.update with
      | accepted | unacknowledged text =>
        refine .inr ⟨rfl, mergeStatefulSetUpdate found desired, ?_, rfl⟩
        simp [read, noRecreation, changed, update]
      | refused =>
        exact .inl (by
          simp [read, noRecreation, changed, update, mutable])

end Workload

/-! ## Passes and runs -/

section Run

variable {hash : SecretHash} {world : World} {input : PassInput}

theorem replaced_eq_false (notDue : ¬ Due world input) : replaced world input = false := by
  cases generated : input.setting.customCerts with
  | some => simp [replaced, generated]
  | none =>
    cases existing : world.secrets.ca.isSome with
    | false => simp [replaced, existing]
    | true =>
      have remains := fun decided => notDue ⟨generated, existing, decided⟩
      simp [replaced, certificates, ca_of_not_issue generated remains]

theorem mem_leaves_certified (stored : (certificates world input).state.leaf .indexer = some leaf)
    (issued : issuedUnder (certificates world input).state.ca leaf) :
    leaf ∈ (certified world input).leaves := by
  refine List.mem_append_right _ ?_
  simp [stored, Option.filter, issued]

theorem reconcileCustomCerts_reports (setting : Setting) (answers : CertAnswers) (custom : CustomCertsConfig) :
    Ensures (fun _ => True) (fun result _ => result = {}) (reconcileCustomCerts setting answers custom) := by
  iterate 5
    refine ensures_bind (fun _ _ => True) (fun _ _ _ _ => trivial) fun _ => ?_
  exact ensures_pure fun _ _ => rfl

theorem generated_of_reported (returned : (certificates world input).result = .ok result)
    (reported : result.caRenewed ∨ result.indexerCertsRenewed) :
    input.setting.customCerts = none := by
  cases given : input.setting.customCerts with
  | none => rfl
  | some custom =>
    rw [certificates, reconcileWithHashes, given] at returned
    rw [reconcileCustomCerts_reports _ _ _ _ trivial result returned] at reported
    exact absurd reported (by decide)

theorem indexerCertHash_issued (returned : (certificates world input).result = .ok result)
    (both : result.caRenewed -> ¬ input.setting.Kept world.secrets .indexer)
    (known : indexerCertHash hash input result (certificates world input).state ≠ "") :
    ∃ leaf ∈ (certified world input).leaves,
      indexerCertHash hash input result (certificates world input).state = hash.text leaf := by
  have reported : result.caRenewed ∨ result.indexerCertsRenewed := by
    by_contra blank
    rw [not_or, Bool.not_eq_true, Bool.not_eq_true] at blank
    exact known (by simp [indexerCertHash, blank.1, blank.2])
  have generated := generated_of_reported returned reported
  have course := ensures_reconcileWithHashes input.setting input.certificates world.secrets generated
    world.secrets rfl result returned
  rcases issued_of_course course reported both with ⟨leaf, stored, issued⟩
  refine ⟨leaf, mem_leaves_certified stored issued, ?_⟩
  have found : (certificates world input).state.leaf .indexer = some leaf := stored
  rw [indexerCertHash] at known ⊢
  split at known
  · next handed =>
      split at known
      · next read => rw [if_pos handed, if_pos read, found, Option.map_some, Option.getD_some]
      · exact absurd rfl known
  · exact absurd rfl known

theorem reconcileIndexer_eq_some (reached : reconcileIndexer hash world input = some outcome) :
    ∃ result, (certificates world input).result = .ok result ∧
      outcome = reconcileStatefulSet "indexer" indexerNeedsUpdate input.workload
        (built input (indexerCertHash hash input result (certificates world input).state))
        world.indexer := by
  rw [reconcileIndexer] at reached
  cases returned : (certificates world input).result with
  | error =>
    rw [returned] at reached
    exact nomatch reached
  | ok result =>
    rw [returned] at reached
    dsimp only at reached
    split at reached
    · exact nomatch reached
    · split at reached
      · exact nomatch reached
      · exact ⟨result, rfl, (Option.some.inj reached).symm⟩

theorem pass_leaves (hash : SecretHash) : (pass hash world input).leaves = (certified world input).leaves := by
  rw [pass]
  split <;> rfl

theorem pass_renewed (hash : SecretHash) : (pass hash world input).renewed = (certified world input).renewed := by
  rw [pass]
  split <;> rfl

/-- A renewal of the CA in which nothing fails shows in the pod template. -/
theorem carried_of_due (due : Due world input) (smooth : Smooth input)
    (notKept : ¬ input.setting.Kept world.secrets .indexer) : Carried hash (pass hash world input) := by
  rcases due with ⟨generated, existing, decided⟩
  rcases returns_of_issue smooth.certificates generated existing decided with ⟨result, returned, renewed⟩
  have course := ensures_reconcileWithHashes input.setting input.certificates world.secrets generated
    world.secrets rfl result returned
  rcases issued_of_course course (.inl renewed) (fun _ => notKept) with ⟨leaf, stored, issued⟩
  have handed : indexerCertHash hash input result (certificates world input).state = hash.text leaf := by
    simp [indexerCertHash, renewed, smooth.hashRead, certificates, stored]
  have known : (built input (hash.text leaf)).template.certHash ≠ "" := hash.nonempty leaf
  rcases carries_of_smooth smooth "indexer" known world.indexer with ⟨sts, written, carries⟩
  have reached : reconcileIndexer hash world input =
      some (reconcileStatefulSet "indexer" indexerNeedsUpdate input.workload (built input (hash.text leaf))
        world.indexer) := by
    have ended : (certificates world input).result = .ok result := returned
    rw [reconcileIndexer, ended, ← handed]
    simp only [smooth.dryRun, smooth.draining, Bool.or_false, Bool.false_eq_true, if_false, smooth.prepare]
  refine ⟨sts, ?_, leaf, ?_, carries⟩
  · rw [pass, reached]
    exact written
  · rw [pass_leaves]
    exact mem_leaves_certified stored issued

theorem carried_of_not_due (notDue : ¬ Due world input) (steady : Steady world input)
    (carried : Carried hash world) : Carried hash (pass hash world input) := by
  rcases carried with ⟨sts, present, leaf, listed, carries⟩
  rcases steady with ⟨found, same, noRecreation, unchanged, mutable⟩
  cases present.symm.trans same
  have kept : leaf ∈ (certified world input).leaves := by
    refine List.mem_append_left _ ?_
    rw [replaced_eq_false notDue]
    exact listed
  cases reached : reconcileIndexer hash world input with
  | none =>
    refine ⟨sts, ?_, leaf, ?_, carries⟩
    · rw [pass, reached]
      exact present
    · rw [pass_leaves]
      exact kept
  | some =>
    rcases reconcileIndexer_eq_some reached with ⟨result, returned, rfl⟩
    have state : (pass hash world input).indexer = (reconcileStatefulSet "indexer" indexerNeedsUpdate
        input.workload (built input (indexerCertHash hash input result (certificates world input).state))
        (some sts)).state := by
      rw [pass, reached, present]
    have stays : needsStatefulSetRecreation sts
        (built input (indexerCertHash hash input result (certificates world input).state)) = false :=
      noRecreation
    rcases stays_or_carries "indexer" stays mutable with untouched | ⟨changed, after, written, newHash⟩
    · refine ⟨sts, state.trans untouched, leaf, ?_, carries⟩
      rw [pass_leaves]
      exact kept
    · have known : indexerCertHash hash input result (certificates world input).state ≠ "" := by
        intro blank
        rw [blank] at changed
        exact absurd (changed.symm.trans unchanged) (by decide)
      have both : result.caRenewed -> ¬ input.setting.Kept world.secrets .indexer := by
        intro renewed
        have generated := generated_of_reported returned (.inl renewed)
        have existing := existing_of_caRenewed generated world.secrets world.secrets rfl result returned renewed
        have course := ensures_reconcileWithHashes input.setting input.certificates world.secrets
          generated world.secrets rfl result returned
        exact absurd ⟨generated, existing, issue_of_caRenewed course renewed⟩ notDue
      rcases indexerCertHash_issued returned both known with ⟨later, issued, hashed⟩
      refine ⟨after, state.trans written, later, ?_, newHash.trans hashed⟩
      rw [pass_leaves]
      exact issued

theorem carried_step (world : World) (input : PassInput)
    (carried : world.renewed -> Carried hash world) (orderly : Orderly world input)
    (renewed : (pass hash world input).renewed) : Carried hash (pass hash world input) := by
  by_cases due : Due world input
  · exact carried_of_due due (orderly.1 due).1 (orderly.1 due).2
  · rw [pass_renewed, certified, replaced_eq_false due, Bool.or_false] at renewed
    exact carried_of_not_due due (orderly.2 due renewed) (carried renewed)

end Run

/-- In every run whose passes are orderly, a renewal of the CA shows in the pod template after every
pass which succeeds. -/
theorem ca_renewal_restarts_indexer (hash : SecretHash) (start : World) (begins : start.renewed = false)
    (inputs : List PassInput) (orderly : Runs.Along (pass hash) Orderly start inputs) :
    Runs.Along (pass hash) (Restarted hash) start inputs := by
  have initially : start.renewed -> Carried hash start :=
    fun renewed => absurd (begins.symm.trans renewed) (by decide)
  refine Runs.along_of_invariant carried_step ?_ inputs start initially orderly
  exact fun world input carried met _ => carried_step world input carried met

namespace Sample

def hash : SecretHash where
  text leaf := "key " ++ toString ((leaf.tlsCert.map Certificate.publicKey).getD 0)
  nonempty := by
    intro leaf empty
    have length := congrArg String.length empty
    rw [String.length_append] at length
    exact absurd length (by simp [show "key ".length = 4 from rfl])

/-- A pass on a day, with the outcome of the steps before the StatefulSet. -/
def input (day : Nat) (prepare : Except String Unit) : PassInput where
  setting := dailySetting day
  certificates := smoothAnswers day
  hashRead := true
  hotReload := .ok ()
  dryRun := false
  draining := false
  workload :=
    { prepare := prepare
      template := { specHash := "spec", configHash := "config" }
      get := .ok ()
      create := .accepted
      delete := .accepted
      update := .accepted
      immutableField := false }
  later := .ok ()

/-- The cluster in its tenth year, with the CA of the first day and certificates issued on day
3250. -/
def aged : World where
  secrets :=
    let ca := (dailySetting 0).newCA 0
    { ca := some ⟨some ca.certificate, some ca.privateKey⟩
      leaf := fun leaf => some ((dailySetting 3250).newLeaf ca leaf 3250) }
  indexer := some (built (input 3250 (.ok ())) "")
  renewed := false
  leaves := []

def renewing : PassInput := input 3600 (.error "failed to reconcile indexer services")

end Sample

open Sample in
/-- Passes succeed again, and the pod template has no hash. -/
theorem ca_renewal_without_restart :
    (pass hash (pass hash aged renewing) (input 3601 (.ok ()))).renewed = true ∧
      Succeeds hash (pass hash aged renewing) (input 3601 (.ok ())) ∧
      ((pass hash (pass hash aged renewing) (input 3601 (.ok ()))).indexer.map
        fun sts => sts.template.certHash) = some "" ∧
      ¬ Runs.Along (pass hash) (Restarted hash) aged [renewing, input 3601 (.ok ())] := by
  have facts : (pass hash (pass hash aged renewing) (input 3601 (.ok ()))).renewed ∧
      Succeeds hash (pass hash aged renewing) (input 3601 (.ok ())) ∧
      ((pass hash (pass hash aged renewing) (input 3601 (.ok ()))).indexer.map
        fun sts => sts.template.certHash) = some "" := by decide +kernel
  rcases facts with ⟨renewed, succeeds, without⟩
  refine ⟨renewed, succeeds, without, ?_⟩
  rintro ⟨_, restarted, _⟩
  rcases restarted succeeds renewed with ⟨sts, present, leaf, _, carries⟩
  rw [present, Option.map_some, carries] at without
  exact hash.nonempty leaf (Option.some.inj without)

open Sample in
/-- The same passes with nothing failing. -/
theorem ca_renewal_restarts_indexer_tenth_year :
    Succeeds hash aged (input 3600 (.ok ())) ∧ (pass hash aged (input 3600 (.ok ()))).renewed = true ∧
      Runs.Along (pass hash) (Restarted hash) aged [input 3600 (.ok ()), input 3601 (.ok ())] := by
  have facts : Succeeds hash aged (input 3600 (.ok ())) ∧
      (pass hash aged (input 3600 (.ok ()))).renewed ∧
      ¬ (dailySetting 3600).Kept aged.secrets .indexer ∧
      (pass hash aged (input 3600 (.ok ()))).secrets.ca.bind parseCA =
        some ((dailySetting 3600).newCA 3600) ∧
      (dailySetting 3601).shouldRenewCA ((dailySetting 3600).newCA 3600) = false ∧
      Steady (pass hash aged (input 3600 (.ok ()))) (input 3601 (.ok ())) := by decide +kernel
  rcases facts with ⟨succeeds, renewed, notKept, parsed, early, steady⟩
  refine ⟨succeeds, renewed, ?_⟩
  refine ca_renewal_restarts_indexer hash aged rfl _ ⟨?_, ?_, trivial⟩
  · have smooth : Smooth (input 3600 (.ok ())) :=
      ⟨⟨fun _ => rfl, fun target => by cases target <;> exact ⟨_, rfl⟩, fun _ => rfl⟩,
        rfl, rfl, rfl, rfl, rfl, rfl, rfl, rfl⟩
    exact ⟨fun _ => ⟨smooth, notKept⟩, fun _ renewed => absurd renewed (by decide)⟩
  · have kept := (Setting.caDecision_eq_keep_iff _ _ _).mpr ⟨parsed, early⟩
    exact ⟨fun due => absurd (kept.symm.trans due.2.2) nofun, fun _ _ => steady⟩

end TrustStore
end Certificates
end WazuhOperator
