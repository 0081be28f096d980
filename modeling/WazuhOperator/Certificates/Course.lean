import WazuhOperator.Certificates.Pass

namespace WazuhOperator
namespace Certificates

open Procedure Proc

/-!
# What a certificate pass does

The decision about the CA and the one about each leaf certificate depend on
the Secrets the pass finds, on the cluster and on the clock.  This module
takes the decisions out of the procedures, and says once what a pass which
returns has made of the Secrets.  Later results never unfold the pass again.
-/

/-! ## Decisions -/

inductive CADecision where
  | keep (ca : CAResult)
  | wait (ca : CAResult) (nextWindow : Int)
  | issue
  /-- The check of the maintenance windows does not return. -/
  | stuck

namespace Setting

variable (setting : Setting)

def caDecision (secrets : Secrets) : CADecision :=
  match secrets.ca.bind parseCA with
  | none => .issue
  | some ca =>
    if setting.shouldRenewCA ca then
      match setting.checkMaintenance ca.certificate.notAfter with
      | none => .stuck
      | some check => if check.allowRenewal then .issue else .wait ca check.nextWindowStart
    else .keep ca

def Kept (secrets : Secrets) (leaf : Leaf) : Prop :=
  ∃ found, secrets.leaf leaf = some found ∧ setting.keeps leaf found = true

instance (secrets : Secrets) (leaf : Leaf) : Decidable (setting.Kept secrets leaf) :=
  decidable_of_iff ((secrets.leaf leaf).any (setting.keeps leaf) = true) <| by
    cases stored : secrets.leaf leaf with
    | none | some found => simp [Kept, stored]

end Setting

variable (setting : Setting)

theorem Setting.caDecision_eq_keep_iff (secrets : Secrets) (ca : CAResult) :
    setting.caDecision secrets = .keep ca <->
      secrets.ca.bind parseCA = some ca ∧ setting.shouldRenewCA ca = false := by
  unfold caDecision
  cases secrets.ca.bind parseCA with
  | none => exact iff_of_false nofun nofun
  | some other =>
    dsimp only
    by_cases due : setting.shouldRenewCA other
    · rw [if_pos due]
      refine iff_of_false ?_ ?_
      · split
        · exact nofun
        · split <;> exact nofun
      · rintro ⟨same, fresh⟩
        cases same
        exact absurd due (by simp [fresh])
    · rw [if_neg due, CADecision.keep.injEq, Option.some.injEq]
      refine (and_iff_left_of_imp ?_).symm
      rintro rfl
      exact Bool.eq_false_iff.mpr due

theorem reconcileCA_eq (answers : CertAnswers) :
    reconcileCA setting answers = (do
      mapError ("failed to get CA secret: " ++ ·) (ofExcept (answers.get .ca))
      let secrets ← read
      match setting.caDecision secrets with
      | .keep ca => pure { caResult := ca }
      | .wait ca nextWindow =>
        pure { caResult := ca, renewalPending := true, nextMaintenanceWindow := nextWindow }
      | .issue => issueCA setting answers secrets.ca.isSome
      | .stuck => fail "checkCAMaintenanceWindow does not return") := by
  rw [reconcileCA]
  congr 1
  funext _
  congr 1
  funext secrets
  unfold Setting.caDecision
  cases secrets.ca with
  | none => rfl
  | some found =>
    rw [Option.bind_some]
    dsimp only
    cases parseCA found with
    | none => rfl
    | some ca =>
      dsimp only
      by_cases due : setting.shouldRenewCA ca
      · rw [if_pos due, if_pos due]
        cases setting.checkMaintenance ca.certificate.notAfter with
        | none => rfl
        | some check =>
          dsimp only
          by_cases allowed : check.allowRenewal
          · rw [if_pos allowed, if_pos allowed]
            rfl
          · rw [if_neg allowed, if_neg allowed]
      · rw [if_neg due, if_neg due]

/-! ## The CA -/

/-- The CA which a pass goes on with, and the Secret it is stored in afterwards. -/
inductive CurrentCA (setting : Setting) (answers : CertAnswers) (before : Secrets) :
    CAResult -> Option CASecret -> Prop where
  | kept (decided : setting.caDecision before = .keep ca) :
      CurrentCA setting answers before ca before.ca
  | issued (decided : setting.caDecision before = .issue) (generated : answers.generate .ca = .ok key) :
      CurrentCA setting answers before (setting.newCA key)
        (some ⟨some (setting.newCA key).certificate, some (setting.newCA key).privateKey⟩)

theorem parseCA_eq_some (parsed : parseCA secret = some ca) :
    secret.caCert = some ca.certificate ∧ secret.caKey = some ca.privateKey := by
  rcases secret with ⟨certificate, privateKey⟩
  cases certificate with
  | none => exact nomatch parsed
  | some =>
    cases privateKey with
    | none => exact nomatch parsed
    | some =>
      cases parsed
      exact ⟨rfl, rfl⟩

theorem CurrentCA.stored {setting : Setting} {answers : CertAnswers}
    (current : CurrentCA setting answers before ca after) :
    ∃ secret, after = some secret ∧ secret.caCert = some ca.certificate := by
  cases current with
  | issued => exact ⟨_, rfl, rfl⟩
  | kept decided =>
    rcases (setting.caDecision_eq_keep_iff before ca).mp decided with ⟨parsed, _⟩
    rcases Option.bind_eq_some_iff.mp parsed with ⟨secret, stored, readable⟩
    exact ⟨secret, stored, (parseCA_eq_some readable).1⟩

theorem CurrentCA.decided {setting : Setting} {answers : CertAnswers}
    (current : CurrentCA setting answers before ca after) :
    setting.caDecision before = .keep ca ∨ setting.caDecision before = .issue := by
  cases current with
  | kept decided => exact .inl decided
  | issued decided => exact .inr decided

section Writing

variable (answers : CertAnswers)

theorem ensures_writeSecret (target : CertSecret) (change : Secrets -> Secrets)
    (implied : forall state, pre state -> post () (change state)) :
    Ensures pre post (writeSecret answers target change) := by
  intro state holds value returned
  have told : (answers.write target).toExcept = .ok value := by
    simpa [writeSecret] using returned
  have applied := WriteAnswer.applied_of_toExcept told
  simpa [writeSecret, applied] using implied state holds

theorem announced_writeSecret (target : CertSecret) (change : Secrets -> Secrets) :
    Announced (writeSecret answers target change) := by
  intro state silent
  simp [writeSecret] at silent

end Writing

/-- The CA with which `reconcileCA` returns. -/
inductive CAOutcome (setting : Setting) (answers : CertAnswers) (before : Secrets) :
    CAReconcileResult -> Secrets -> Prop where
  | waits (decided : setting.caDecision before = .wait ca nextWindow) :
      CAOutcome setting answers before
        { caResult := ca, renewalPending := true, nextMaintenanceWindow := nextWindow } before
  | settled (current : CurrentCA setting answers before ca after.ca) (leaves : after.leaf = before.leaf)
      (reported : renewed = true -> setting.caDecision before = .issue) :
      CAOutcome setting answers before { caResult := ca, renewed := renewed } after

theorem ensures_issueCA (answers : CertAnswers) (existing : Bool)
    (decided : setting.caDecision before = .issue) :
    Ensures (· = before) (CAOutcome setting answers before) (issueCA setting answers existing) := by
  refine ensures_bind (fun key state => answers.generate .ca = .ok key ∧ state = before) ?_ ?_
  · exact ensures_mapError (ensures_ofExcept fun key state generated same => ⟨generated, same⟩)
  · intro key
    refine ensures_bind
      (fun _ => CAOutcome setting answers before { caResult := setting.newCA key, renewed := existing }) ?_ ?_
    · apply ensures_mapError
      apply ensures_writeSecret
      rintro state ⟨generated, rfl⟩
      exact .settled (.issued decided generated) rfl fun _ => decided
    · exact fun _ => ensures_pure fun _ outcome => outcome

theorem ensures_reconcileCA (answers : CertAnswers) (before : Secrets) :
    Ensures (· = before) (CAOutcome setting answers before) (reconcileCA setting answers) := by
  rw [reconcileCA_eq]
  refine ensures_bind (fun _ state => state = before) ?_ fun _ => ?_
  · exact ensures_mapError (ensures_ofExcept fun _ _ _ same => same)
  · refine ensures_read_bind ?_
    rintro secrets rfl
    cases decided : setting.caDecision secrets with
    | keep ca =>
      apply ensures_pure
      rintro _ rfl
      exact .settled (.kept decided) rfl nofun
    | wait =>
      apply ensures_pure
      rintro _ rfl
      exact .waits decided
    | issue => exact ensures_issueCA setting answers _ decided
    | stuck => exact ensures_fail _

/-! ## The leaf certificates -/

/-- What is left of a Secret whose certificate is kept. -/
def settled (leaf : Leaf) (found : LeafSecret) : LeafSecret :=
  if leaf = .admin then found.migrated else found

inductive LeafDone (setting : Setting) (answers : CertAnswers) (ca : CAResult) (leaf : Leaf)
    (before : Secrets) : Option LeafSecret -> Prop where
  | kept (stored : before.leaf leaf = some found)
      (keeps : setting.keeps leaf found = true) :
      LeafDone setting answers ca leaf before (some (settled leaf found))
  | issued (notKept : ¬ setting.Kept before leaf)
      (generated : answers.generate (.leaf leaf) = .ok key)
      (fits : ca.privateKey.publicKey = ca.certificate.publicKey) :
      LeafDone setting answers ca leaf before (some (setting.newLeaf ca leaf key))

/-- How far a pass has come: the leaves in `done` are dealt with, the others as before. -/
structure Progress (setting : Setting) (answers : CertAnswers) (ca : CAResult) (before : Secrets)
    (caSecret : Option CASecret) (done : List Leaf) (state : Secrets) : Prop where
  authority : state.ca = caSecret
  dealt : ∀ leaf ∈ done, LeafDone setting answers ca leaf before (state.leaf leaf)
  rest : ∀ leaf, leaf ∉ done -> state.leaf leaf = before.leaf leaf

/-- The procedure deals with a further leaf, and reports a renewal only of one which is not kept. -/
abbrev DealsWith (setting : Setting) (answers : CertAnswers) (ca : CAResult) (before : Secrets)
    (caSecret : Option CASecret) (done : List Leaf) (leaf : Leaf) :
    Proc Secrets CertSecret Bool -> Prop :=
  Ensures (Progress setting answers ca before caSecret done) fun renewed after =>
    Progress setting answers ca before caSecret (leaf :: done) after ∧
      (renewed = true -> ¬ setting.Kept before leaf)

section Leaves

variable {setting : Setting} {leaf : Leaf}

theorem Progress.put (progress : Progress setting answers ca before caSecret done state)
    (dealt : LeafDone setting answers ca leaf before (some secret)) :
    Progress setting answers ca before caSecret (leaf :: done) (state.putLeaf leaf secret) where
  authority := progress.authority
  dealt := by
    intro other member
    by_cases same : other = leaf
    · rw [same, Secrets.putLeaf_self]
      exact dealt
    · rw [Secrets.putLeaf_other state same]
      exact progress.dealt other ((List.mem_cons.mp member).resolve_left same)
  rest := by
    intro other remaining
    rw [List.mem_cons, not_or] at remaining
    rw [Secrets.putLeaf_other state remaining.1]
    exact progress.rest other remaining.2

theorem Progress.leave (progress : Progress setting answers ca before caSecret done state)
    (remaining : leaf ∉ done) (dealt : LeafDone setting answers ca leaf before (before.leaf leaf)) :
    Progress setting answers ca before caSecret (leaf :: done) state where
  authority := progress.authority
  dealt := by
    rw [List.forall_mem_cons, progress.rest leaf remaining]
    exact ⟨dealt, progress.dealt⟩
  rest := fun other absent => progress.rest other (List.not_mem_of_not_mem_cons absent)

theorem generateLeafKey_eq_ok (generated : generateLeafKey answers ca leaf = .ok key) :
    answers.generate (.leaf leaf) = .ok key ∧ ca.privateKey.publicKey = ca.certificate.publicKey := by
  rw [generateLeafKey] at generated
  cases made : answers.generate (.leaf leaf) with
  | error => exact nomatch made ▸ generated
  | ok =>
    rw [made] at generated
    dsimp only at generated
    split at generated
    · next fits =>
        cases generated
        exact ⟨rfl, fits⟩
    · exact nomatch generated

theorem ensures_issueLeaf (existing : Bool) (notKept : ¬ setting.Kept before leaf) :
    DealsWith setting answers ca before caSecret done leaf
      (issueLeaf setting answers ca leaf existing) := by
  refine ensures_bind (fun key after => generateLeafKey answers ca leaf = .ok key ∧
    Progress setting answers ca before caSecret done after) ?_ fun key => ?_
  · exact ensures_mapError (ensures_ofExcept fun _ _ generated progress => ⟨generated, progress⟩)
  · refine ensures_bind (fun _ => Progress setting answers ca before caSecret (leaf :: done)) ?_ fun _ => ?_
    · apply ensures_mapError
      apply ensures_writeSecret
      rintro after ⟨generated, progress⟩
      rcases generateLeafKey_eq_ok generated with ⟨made, fits⟩
      exact progress.put (.issued notKept made fits)
    · exact ensures_pure fun _ progress => ⟨progress, fun _ => notKept⟩

theorem ensures_reconcileLeaf (remaining : leaf ∉ done)
    (keeping : forall found, before.leaf leaf = some found -> setting.keeps leaf found ->
      Ensures (Progress setting answers ca before caSecret done)
        (fun _ => Progress setting answers ca before caSecret (leaf :: done)) (whenKept found)) :
    DealsWith setting answers ca before caSecret done leaf
      (reconcileLeaf setting answers ca leaf whenKept) := by
  refine ensures_bind (fun _ => Progress setting answers ca before caSecret done) ?_ fun _ => ?_
  · exact ensures_mapError (ensures_ofExcept fun _ _ _ progress => progress)
  refine ensures_read_bind fun secrets progress => ?_
  rw [progress.rest leaf remaining]
  cases stored : before.leaf leaf with
  | none =>
    have notKept : ¬ setting.Kept before leaf := fun ⟨_, found, _⟩ => nomatch stored.symm.trans found
    exact ensures_at (ensures_issueLeaf false notKept) progress
  | some found =>
    dsimp only
    by_cases keeps : setting.keeps leaf found
    · rw [if_pos keeps]
      refine ensures_bind (fun _ => Progress setting answers ca before caSecret (leaf :: done)) ?_ fun _ => ?_
      · exact ensures_at (keeping found stored keeps) progress
      · exact ensures_pure fun _ further => ⟨further, nofun⟩
    · rw [if_neg keeps]
      have notKept : ¬ setting.Kept before leaf := by
        rintro ⟨other, also, kept⟩
        cases stored.symm.trans also
        exact keeps kept
      exact ensures_at (ensures_issueLeaf true notKept) progress

theorem ensures_reconcileLeaf_untouched (plain : leaf ≠ .admin) (remaining : leaf ∉ done) :
    DealsWith setting answers ca before caSecret done leaf
      (reconcileLeaf setting answers ca leaf fun _ => pure ()) := by
  refine ensures_reconcileLeaf remaining fun found stored keeps => ?_
  refine ensures_pure fun _ progress => progress.leave remaining ?_
  have same : settled leaf found = found := if_neg plain
  rw [stored, ← same]
  exact .kept stored keeps

theorem ensures_reconcileAdminCerts (remaining : .admin ∉ done) :
    DealsWith setting answers ca before caSecret done .admin
      (reconcileAdminCerts setting answers ca) := by
  refine ensures_reconcileLeaf remaining fun found stored keeps => ?_
  have dealt : LeafDone setting answers ca .admin before (some found.migrated) := .kept stored keeps
  by_cases same : found.migrated = found
  · rw [if_pos same]
    refine ensures_pure fun _ progress => progress.leave remaining ?_
    rw [stored, ← same]
    exact dealt
  · rw [if_neg same]
    apply ensures_mapError
    exact ensures_writeSecret answers _ _ fun _ progress => progress.put dealt

theorem ensures_step (ensured : DealsWith setting answers ca before caSecret done leaf procedure) :
    Ensures (Progress setting answers ca before caSecret done)
      (fun _ => Progress setting answers ca before caSecret (leaf :: done)) (mapError wrap procedure) :=
  ensures_mapError fun state holds value returned => (ensured state holds value returned).1

theorem ensures_reconcileManagerCerts : Ensures (Progress setting answers ca before caSecret [])
      (fun _ => Progress setting answers ca before caSecret [.managerWorker, .managerMaster])
      (reconcileManagerCerts setting answers ca) := by
  refine ensures_bind _ (ensures_step (ensures_reconcileLeaf_untouched nofun (by decide))) fun _ => ?_
  refine ensures_bind _ (ensures_step (ensures_reconcileLeaf_untouched nofun (by decide))) fun _ => ?_
  exact ensures_pure fun _ progress => progress

theorem ensures_reconcileLeaves : Ensures (Progress setting answers ca before caSecret [])
      (fun renewed after => after.ca = caSecret ∧
        (∀ leaf, LeafDone setting answers ca leaf before (after.leaf leaf)) ∧
        (renewed = true -> ¬ setting.Kept before .indexer))
      (reconcileLeaves setting answers ca) := by
  refine ensures_bind _ (ensures_mapError ensures_reconcileManagerCerts) fun _ => ?_
  refine ensures_bind _
    (ensures_mapError (ensures_reconcileLeaf_untouched nofun (by decide))) fun renewed => ?_
  refine ensures_given fun reported => ?_
  refine ensures_bind _ (ensures_step (ensures_reconcileLeaf_untouched nofun (by decide))) fun _ => ?_
  refine ensures_bind _ (ensures_step (ensures_reconcileLeaf_untouched nofun (by decide))) fun _ => ?_
  refine ensures_bind _ (ensures_step (ensures_reconcileAdminCerts (by decide))) fun _ => ?_
  refine ensures_pure fun after progress => ⟨progress.authority, fun leaf => ?_, reported⟩
  exact progress.dealt leaf (by cases leaf <;> decide)

end Leaves

/-! ## The pass -/

/-- What a pass over generated certificates which returns has done. -/
inductive PassCourse (setting : Setting) (answers : CertAnswers) (before : Secrets) :
    CertHashResult -> Secrets -> Prop where
  | waits (decided : setting.caDecision before = .wait ca nextWindow) :
      PassCourse setting answers before
        { caRenewalPending := true, caRenewalScheduledAt := nextWindow } before
  | settles (current : CurrentCA setting answers before ca after.ca)
      (leaves : ∀ leaf, LeafDone setting answers ca leaf before (after.leaf leaf))
      (reportedCA : caRenewed = true -> setting.caDecision before = .issue)
      (reportedIndexer : indexerCertsRenewed = true -> ¬ setting.Kept before .indexer) :
      PassCourse setting answers before
        { caRenewed := caRenewed, indexerCertsRenewed := indexerCertsRenewed } after

theorem ensures_reconcileWithHashes (answers : CertAnswers) (before : Secrets)
    (generated : setting.customCerts = none) :
    Ensures (· = before) (PassCourse setting answers before) (reconcileWithHashes setting answers) := by
  rw [reconcileWithHashes, generated]
  refine ensures_bind _ (ensures_mapError (ensures_reconcileCA setting answers before)) fun result => ?_
  intro middle outcome
  cases outcome with
  | waits decided => exact ensures_pure (fun _ same => same ▸ .waits decided) before rfl
  | @settled ca _ _ current leaves reportedCA =>
    have start : Progress setting answers ca before middle.ca [] middle :=
      ⟨rfl, List.forall_mem_nil _, fun leaf _ => congrFun leaves leaf⟩
    refine ensures_bind _ (ensures_at ensures_reconcileLeaves start) (fun renewed => ?_) middle rfl
    refine ensures_pure ?_
    rintro after ⟨authority, leaves, reportedIndexer⟩
    exact .settles (authority ▸ current) leaves reportedCA reportedIndexer

end Certificates
end WazuhOperator
