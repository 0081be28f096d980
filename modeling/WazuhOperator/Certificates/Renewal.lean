import WazuhOperator.Certificates.Matching

namespace WazuhOperator
namespace Certificates

open Procedure Proc

/-!
# Renewal

Two questions about the clock.  Is a leaf certificate ever left inside its
renewal threshold by a pass which succeeds?  And does a second pass at the
same time find nothing to do?

Both depend on whether the certificate a pass makes would be kept at once.
It is made with one duration and judged by another, and by a reading of the
domain out of its names; nothing relates the two durations to each other.
-/

/-! ## New certificates -/

theorem positiveOr_pos (positive : 0 < fallback) (duration : Int) :
    0 < positiveOr duration fallback := by
  unfold positiveOr
  split
  · assumption
  · exact positive

theorem CertificateOptions.threshold_pos (opts : CertificateOptions) (leaf : Leaf) : 0 < opts.threshold leaf := by
  cases leaf <;> exact positiveOr_pos (by decide) _

variable {certificate : Certificate}

theorem parseLeafCert_eq_some {key : PrivateKey}
    (parsed : parseLeafCert secret = some (certificate, key)) : secret.tlsCert = some certificate := by
  rcases secret with ⟨_, tlsCert, tlsKey⟩
  cases tlsCert with
  | none => exact nomatch parsed
  | some =>
    cases tlsKey with
    | none => exact nomatch parsed
    | some =>
      cases parsed
      rfl

namespace Setting

variable (setting : Setting)

def KeepsNew (leaf : Leaf) : Prop :=
  requiresDomainRegeneration setting.domain (leafNames setting.domain setting.key setting.spec leaf) = false ∧
    Outlasts setting.now (setting.options.validity leaf) (setting.options.threshold leaf)
  deriving Decidable

theorem keeps_newLeaf_iff (ca : CAResult) (leaf : Leaf) (key : Nat) :
    setting.keeps leaf (setting.newLeaf ca leaf key) <-> setting.KeepsNew leaf := by
  rw [keeps]
  simp [parseLeafCert, newLeaf, KeepsNew, Outlasts]

theorem needsRenewal_of_keeps {leaf : Leaf}
    (keeps : setting.keeps leaf found) (stored : found.tlsCert = some certificate) :
    needsRenewal setting.now certificate.notAfter (setting.options.threshold leaf) = false := by
  rw [Setting.keeps] at keeps
  cases parsed : parseLeafCert found with
  | none => exact nomatch parsed ▸ keeps
  | some parts =>
    rw [parsed] at keeps
    cases stored.symm.trans (parseLeafCert_eq_some parsed)
    simpa using (Bool.and_eq_true_iff.mp keeps).2

end Setting

open Setting

@[simp] theorem settled_tlsCert (leaf : Leaf) (found : LeafSecret) :
    (settled leaf found).tlsCert = found.tlsCert := by
  unfold settled
  split
  · rfl
  · rfl

/-! ## No certificate lapses -/

def Setting.Lapses (setting : Setting) (leaf : Leaf) (certificate : Certificate) : Prop :=
  certificate.notAfter < setting.now ∨
    needsRenewal setting.now certificate.notAfter (setting.options.threshold leaf) = true

def Setting.NoneLapses (setting : Setting) (secrets : Secrets) : Prop :=
  forall leaf secret certificate, secrets.leaf leaf = some secret -> secret.tlsCert = some certificate ->
    ¬ setting.Lapses leaf certificate

/-- While the CA waits no stored certificate is due; otherwise each certificate which is replaced
is replaced by one that lies outside its threshold. -/
def Setting.RenewsInTime (setting : Setting) (before : Secrets) : Prop :=
  match setting.caDecision before with
  | .wait _ _ => setting.NoneLapses before
  | _ => ∀ leaf, setting.Kept before leaf ∨
      Outlasts setting.now (setting.options.validity leaf) (setting.options.threshold leaf)

variable (setting : Setting)

theorem Setting.not_lapses_iff (leaf : Leaf) (certificate : Certificate) :
    ¬ setting.Lapses leaf certificate <->
      needsRenewal setting.now certificate.notAfter (setting.options.threshold leaf) = false := by
  have positive := setting.options.threshold_pos leaf
  rw [Lapses, needsRenewal, decide_eq_true_eq, decide_eq_false_iff_not]
  omega

variable {answers : CertAnswers}

theorem LeafDone.not_lapses_iff {setting : Setting} {ca : CAResult} {leaf : Leaf} {before : Secrets}
    {after : Option LeafSecret} (dealt : LeafDone setting answers ca leaf before after) :
    (forall secret certificate, after = some secret -> secret.tlsCert = some certificate ->
      ¬ setting.Lapses leaf certificate) <->
      (setting.Kept before leaf ∨
        Outlasts setting.now (setting.options.validity leaf) (setting.options.threshold leaf)) := by
  cases dealt with
  | @kept found stored keeps =>
    refine iff_of_true ?_ (.inl ⟨found, stored, keeps⟩)
    rintro secret certificate same held
    cases same
    rw [settled_tlsCert] at held
    exact (setting.not_lapses_iff leaf certificate).mpr (setting.needsRenewal_of_keeps keeps held)
  | issued notKept =>
    rw [or_iff_right notKept]
    constructor
    · exact fun never => (setting.not_lapses_iff leaf _).mp (never _ _ rfl rfl)
    · rintro outlasts secret certificate same held
      cases same
      cases held
      exact (setting.not_lapses_iff leaf _).mpr outlasts

theorem none_lapses_iff (setting : Setting) (answers : CertAnswers) (before : Secrets) (result : CertHashResult)
    (generated : setting.customCerts = none)
    (returned : (reconcileWithHashes setting answers before).result = .ok result) :
    setting.NoneLapses (reconcileWithHashes setting answers before).state <-> setting.RenewsInTime before := by
  have course := ensures_reconcileWithHashes setting answers before generated before rfl result returned
  generalize (reconcileWithHashes setting answers before).state = after at course ⊢
  unfold RenewsInTime
  cases course with
  | waits decided => rw [decided]
  | settles current leaves =>
    have every : setting.NoneLapses after <-> ∀ leaf, setting.Kept before leaf ∨
        Outlasts setting.now (setting.options.validity leaf) (setting.options.threshold leaf) :=
      forall_congr' fun leaf => (leaves leaf).not_lapses_iff
    rcases current.decided with decided | decided
    · rw [decided, every]
    · rw [decided, every]

/-- The cluster of `dailySetting`, whose owner wants to start a renewal of the CA by hand. -/
def manualSetting (day : Nat) : Setting :=
  { dailySetting day with tls := some { caMaintenance := some { autoRestart := false } } }

/-- The Secrets after a pass at the start and one in which the leaf certificates were renewed. -/
def agedSecrets : Secrets := Runs.run CertPass.step ⟨none, fun _ => none⟩ [dailyPass 0, dailyPass 3250]

theorem none_lapses_iff_aged : (dailySetting 3300).customCerts = none ∧
      (reconcileWithHashes (dailySetting 3300) (smoothAnswers 1) agedSecrets).result = .ok {} ∧
      ((dailySetting 3300).NoneLapses (reconcileWithHashes (dailySetting 3300) (smoothAnswers 1) agedSecrets).state <->
        (dailySetting 3300).RenewsInTime agedSecrets) := by
  have returned : (reconcileWithHashes (dailySetting 3300) (smoothAnswers 1) agedSecrets).result = .ok {} := by
    decide +kernel
  exact ⟨rfl, returned, none_lapses_iff _ _ _ _ rfl returned⟩

/-- The CA is due and waits.  The pass succeeds, although the certificate of the indexer ends in
fifteen days and is to be renewed thirty days before its end. -/
theorem waiting_ca_lets_leaf_lapse :
    (reconcileWithHashes (manualSetting 3600) (smoothAnswers 1) agedSecrets).result =
        .ok { caRenewalPending := true } ∧
      ¬ (manualSetting 3600).NoneLapses
        (reconcileWithHashes (manualSetting 3600) (smoothAnswers 1) agedSecrets).state := by
  refine ⟨by decide +kernel, fun never => ?_⟩
  have due : ((reconcileWithHashes (manualSetting 3600) (smoothAnswers 1) agedSecrets).state.leaf .indexer).any
      (fun secret => secret.tlsCert.any fun certificate =>
        needsRenewal (manualSetting 3600).now certificate.notAfter
          ((manualSetting 3600).options.threshold .indexer)) := by
    decide +kernel
  rcases (Option.any_eq_true _ _).mp due with ⟨secret, stored, due⟩
  rcases (Option.any_eq_true _ _).mp due with ⟨certificate, held, due⟩
  exact never .indexer secret certificate stored held (.inr due)

/-! ## A second pass -/

theorem reconcileLeaves_rule {setting : Setting} {ca : CAResult}
    {judgement : forall {α : Type}, Proc Secrets CertSecret α -> Prop}
    (closed : Compositional judgement)
    (untouched : forall leaf, judgement (reconcileLeaf setting answers ca leaf fun _ => pure ()))
    (admin : judgement (reconcileAdminCerts setting answers ca)) :
    judgement (reconcileLeaves setting answers ca) := by
  refine closed.bind (closed.mapError ?_) fun _ => ?_
  · refine closed.bind (closed.mapError (untouched .managerMaster)) fun _ => ?_
    exact closed.bind (closed.mapError (untouched .managerWorker)) fun _ => closed.pure _
  refine closed.bind (closed.mapError (untouched .indexer)) fun _ => ?_
  refine closed.bind (closed.mapError (untouched .dashboard)) fun _ => ?_
  refine closed.bind (closed.mapError (untouched .filebeat)) fun _ => ?_
  exact closed.bind (closed.mapError admin) fun _ => closed.pure _

/-- A pass over these Secrets sends none of them to the API server and reports no renewal,
whatever it is answered. -/
def SilentPass (setting : Setting) (secrets : Secrets) : Prop :=
  forall answers, (reconcileWithHashes setting answers secrets).log = [] ∧
    forall result, (reconcileWithHashes setting answers secrets).result = .ok result ->
      result.caRenewed = false ∧ result.indexerCertsRenewed = false

namespace Setting

variable (setting : Setting)

def KeepsNewCA : Prop :=
  Outlasts setting.now setting.options.getCAValidity setting.options.getCARenewalThreshold

def RenewsNewCA : Prop :=
  ∃ check, setting.checkMaintenance (notAfterOf setting.now setting.options.getCAValidity) = some check ∧
    check.allowRenewal = true

def LeavesStable (before : Secrets) : Prop :=
  ∀ leaf, setting.Kept before leaf ∨ setting.KeepsNew leaf

/-- What a pass over these Secrets makes would be kept by another at the same time. -/
def Stable (before : Secrets) : Prop :=
  setting.customCerts = none ∧
    match setting.caDecision before with
    | .keep _ => setting.LeavesStable before
    | .issue => (setting.KeepsNewCA ∧ setting.LeavesStable before) ∨
        (¬ setting.KeepsNewCA ∧ ¬ setting.RenewsNewCA)
    -- The pass does not go on to the leaf certificates.
    | .wait _ _ => True
    | .stuck => True

def Rests (secrets : Secrets) (leaf : Leaf) : Prop :=
  ∃ found, secrets.leaf leaf = some found ∧ setting.keeps leaf found = true ∧ settled leaf found = found

variable {setting} {answers : CertAnswers} {ca : CAResult} {leaf : Leaf}

theorem keeps_reconcileLeaf (rests : setting.Rests secrets leaf)
    (quiet : forall found, settled leaf found = found ->
      Keeps (· = secrets) (fun _ => False) (whenKept found)) :
    Keeps (· = secrets) (fun _ => False) (reconcileLeaf setting answers ca leaf whenKept) := by
  rcases rests with ⟨found, stored, keeps, same⟩
  refine keeps_bind (keeps_mapError (keeps_ofExcept _)) fun _ => ?_
  refine keeps_read_bind ?_
  rintro _ rfl
  rw [stored]
  dsimp only
  rw [if_pos keeps]
  exact keeps_bind (quiet found same) fun _ => keeps_pure _

theorem keeps_reconcileLeaves (rest : ∀ leaf, setting.Rests secrets leaf) :
    Keeps (· = secrets) (fun _ => False) (reconcileLeaves setting answers ca) := by
  refine reconcileLeaves_rule (compositional_keeps _ _) (fun leaf => ?_) ?_
  · exact keeps_reconcileLeaf (rest leaf) fun _ _ => keeps_pure _
  · refine keeps_reconcileLeaf (rest .admin) fun found same => ?_
    have already : found.migrated = found := same
    rw [if_pos already]
    exact keeps_pure _

theorem keeps_reconcileCA (remains : setting.caDecision secrets ≠ .issue) :
    Keeps (· = secrets) (fun _ => False) (reconcileCA setting answers) := by
  rw [reconcileCA_eq]
  refine keeps_bind (keeps_mapError (keeps_ofExcept _)) fun _ => ?_
  refine keeps_read_bind ?_
  rintro found rfl
  cases decided : setting.caDecision found with
  | keep | wait => exact keeps_pure _
  | issue => exact absurd decided remains
  | stuck => exact keeps_fail _

end Setting

section Silence

variable {setting : Setting} {ca : CAResult}

variable (generated : setting.customCerts = none)
include generated

theorem silentPass_of_log (remains : setting.caDecision secrets ≠ .issue)
    (rests : forall ca, setting.caDecision secrets = .keep ca -> setting.Kept secrets .indexer)
    (silent : forall answers, (reconcileWithHashes setting answers secrets).log = []) :
    SilentPass setting secrets := by
  refine fun answers => ⟨silent answers, fun result returned => ?_⟩
  have course := ensures_reconcileWithHashes setting answers secrets generated secrets rfl result returned
  generalize (reconcileWithHashes setting answers secrets).state = after at course
  cases course with
  | waits => exact ⟨rfl, rfl⟩
  | settles current _ reportedCA reportedIndexer =>
    have kept := rests _ (current.decided.resolve_right remains)
    exact ⟨Bool.eq_false_iff.mpr fun renewed => remains (reportedCA renewed),
      Bool.eq_false_iff.mpr fun renewed => reportedIndexer renewed kept⟩

theorem silentPass_of_wait (decided : setting.caDecision secrets = .stuck ∨
      ∃ ca nextWindow, setting.caDecision secrets = .wait ca nextWindow) : SilentPass setting secrets := by
  rcases decided with decided | ⟨ca, nextWindow, decided⟩
  all_goals
    refine silentPass_of_log generated (by simp [decided]) (by simp [decided]) fun answers => ?_
    rw [reconcileWithHashes, generated, reconcileCA_eq]
    cases got : answers.get .ca with
    | error => simp
    | ok => simp [decided]

theorem silentPass_of_rest (decided : setting.caDecision secrets = .keep ca)
    (rest : ∀ leaf, setting.Rests secrets leaf) :
    SilentPass setting secrets := by
  have remains : setting.caDecision secrets ≠ .issue := by simp [decided]
  have kept : setting.Kept secrets .indexer := by
    rcases rest .indexer with ⟨found, stored, keeps, _⟩
    exact ⟨found, stored, keeps⟩
  refine silentPass_of_log generated remains (fun _ _ => kept) fun answers => ?_
  refine (silent_of_keeps ?_).1
  rw [reconcileWithHashes, generated]
  refine keeps_bind (keeps_mapError (keeps_reconcileCA remains)) fun result => ?_
  split
  · exact keeps_pure _
  · exact keeps_bind (keeps_reconcileLeaves rest) fun _ => keeps_pure _

end Silence

/-! ### What a silent pass has found -/

section Announced

variable (setting : Setting) (answers : CertAnswers) (ca : CAResult)

theorem announced_issueCA (existing : Bool) : Announced (issueCA setting answers existing) := by
  refine announced_bind (announced_mapError (announced_ofExcept _)) fun key => ?_
  exact announced_bind (announced_mapError (announced_writeSecret _ _ _)) fun _ => announced_pure _

theorem announced_reconcileCA : Announced (reconcileCA setting answers) := by
  rw [reconcileCA_eq]
  refine announced_bind (announced_mapError (announced_ofExcept _)) fun _ => ?_
  refine announced_read_bind fun secrets => ?_
  cases setting.caDecision secrets with
  | keep | wait => exact announced_pure _
  | issue => exact announced_issueCA setting answers _
  | stuck => exact announced_fail _

theorem announced_issueLeaf (leaf : Leaf) (existing : Bool) :
    Announced (issueLeaf setting answers ca leaf existing) := by
  refine announced_bind (announced_mapError (announced_ofExcept _)) fun key => ?_
  exact announced_bind (announced_mapError (announced_writeSecret _ _ _)) fun _ => announced_pure _

theorem announced_reconcileLeaf (leaf : Leaf)
    (announced : forall found, Announced (whenKept found)) :
    Announced (reconcileLeaf setting answers ca leaf whenKept) := by
  refine announced_bind (announced_mapError (announced_ofExcept _)) fun _ => ?_
  refine announced_read_bind fun secrets => ?_
  cases secrets.leaf leaf with
  | none => exact announced_issueLeaf setting answers ca leaf false
  | some found =>
    dsimp only
    split
    · exact announced_bind (announced found) fun _ => announced_pure _
    · exact announced_issueLeaf setting answers ca leaf true

theorem announced_reconcileLeaves : Announced (reconcileLeaves setting answers ca) := by
  refine reconcileLeaves_rule compositional_announced (fun leaf => ?_) ?_
  · exact announced_reconcileLeaf setting answers ca leaf fun _ => announced_pure _
  · refine announced_reconcileLeaf setting answers ca .admin fun found => ?_
    split
    · exact announced_pure _
    · exact announced_mapError (announced_writeSecret _ _ _)

theorem announced_reconcileWithHashes (generated : setting.customCerts = none) :
    Announced (reconcileWithHashes setting answers) := by
  rw [reconcileWithHashes, generated]
  refine announced_bind (announced_mapError (announced_reconcileCA setting answers)) fun result => ?_
  split
  · exact announced_pure _
  · exact announced_bind (announced_reconcileLeaves setting answers _) fun _ => announced_pure _

end Announced

/-- Every call succeeds, and every new key pair has this number. -/
def agreeable (key : Nat) : CertAnswers where
  get _ := .ok ()
  generate _ := .ok key
  write _ := .accepted
  customCA := .ok none
  custom _ := .ok ⟨none, none, none⟩

structure CertAnswers.Smooth (answers : CertAnswers) : Prop where
  get : forall target, answers.get target = .ok ()
  generate : forall target, ∃ key, answers.generate target = .ok key
  write : forall target, answers.write target = .accepted

theorem agreeable_smooth (key : Nat) : (agreeable key).Smooth :=
  ⟨fun _ => rfl, fun _ => ⟨key, rfl⟩, fun _ => rfl⟩

section Returning

variable {setting : Setting} {answers : CertAnswers} {ca : CAResult}

theorem returns_writeSecret (smooth : answers.Smooth) (target : CertSecret) (change : Secrets -> Secrets) :
    Returns (fun _ => True) (fun _ => True) (writeSecret answers target change) := by
  rw [writeSecret, smooth.write]
  exact fun _ _ => ⟨⟨(), rfl⟩, trivial⟩

theorem returns_reconcileLeaf (smooth : answers.Smooth)
    (fits : ca.privateKey.publicKey = ca.certificate.publicKey) (leaf : Leaf)
    (returns : forall found, Returns (fun _ => True) (fun _ => True) (whenKept found)) :
    Returns (fun _ => True) (fun _ => True) (reconcileLeaf setting answers ca leaf whenKept) := by
  have closed : Compositional fun {α} (procedure : Proc Secrets CertSecret α) =>
      Returns (fun _ => True) (fun _ => True) procedure := compositional_returns _
  rcases smooth.generate (.leaf leaf) with ⟨key, made⟩
  have generated : generateLeafKey answers ca leaf = .ok key := by
    rw [generateLeafKey, made]
    exact if_pos fits
  have issues (existing : Bool) : Returns (fun _ => True) (fun _ => True)
      (issueLeaf setting answers ca leaf existing) := by
    refine closed.bind (closed.mapError (returns_ofExcept generated fun _ _ => trivial)) fun _ => ?_
    exact closed.bind (closed.mapError (returns_writeSecret smooth _ _)) fun _ => closed.pure _
  refine closed.bind (closed.mapError (returns_ofExcept (smooth.get _) fun _ _ => trivial)) fun _ => ?_
  refine returns_read_bind fun state _ => ?_
  cases state.leaf leaf with
  | none => exact issues false
  | some found =>
    dsimp only
    split
    · exact closed.bind (returns found) fun _ => closed.pure _
    · exact issues true

theorem returns_reconcileLeaves (smooth : answers.Smooth)
    (fits : ca.privateKey.publicKey = ca.certificate.publicKey) :
    Returns (fun _ => True) (fun _ => True) (reconcileLeaves setting answers ca) := by
  refine reconcileLeaves_rule (compositional_returns _) (fun leaf => ?_) ?_
  · exact returns_reconcileLeaf smooth fits leaf fun _ => returns_pure fun _ _ => trivial
  · refine returns_reconcileLeaf smooth fits .admin fun found => ?_
    split
    · exact returns_pure fun _ _ => trivial
    · exact returns_mapError (returns_writeSecret smooth _ _)

end Returning

section Agreeable

variable {setting : Setting} {key : Nat} {ca : CAResult}

theorem not_silentPass_of_issue (generated : setting.customCerts = none)
    (decided : setting.caDecision secrets = .issue) : ¬ SilentPass setting secrets := by
  intro silent
  have empty := (silent (agreeable 0)).1
  rw [reconcileWithHashes, generated] at empty
  refine log_bind_ne_nil ?_ empty
  rw [log_mapError, reconcileCA_eq]
  simp [agreeable, decided, issueCA, writeSecret]

theorem not_silentPass_of_custom (given : setting.customCerts = some custom) :
    ¬ SilentPass setting secrets := by
  intro silent
  have nothing := (silent (agreeable 0)).1
  have read : mapError ("failed to read CA secret: " ++ ·) (ofExcept (agreeable 0).customCA) secrets =
      (⟨.ok none, secrets, []⟩ : Outcome Secrets CertSecret (Option Certificate)) := rfl
  rw [reconcileWithHashes, given] at nothing
  dsimp only at nothing
  rw [reconcileCustomCerts, bind_of_silent read] at nothing
  refine log_bind_ne_nil ?_ nothing
  simp [ensureCustomCertSecret, writeSecret, agreeable]

theorem returns_of_keep (key : Nat) (generated : setting.customCerts = none)
    (decided : setting.caDecision secrets = .keep ca)
    (fits : ca.privateKey.publicKey = ca.certificate.publicKey) :
    ∃ result, (reconcileWithHashes setting (agreeable key) secrets).result = .ok result := by
  have kept : mapError ("failed to reconcile CA: " ++ ·) (reconcileCA setting (agreeable key)) secrets =
      ⟨.ok { caResult := ca }, secrets, []⟩ := by
    rw [reconcileCA_eq]
    simp [agreeable, decided]
  rw [reconcileWithHashes, generated]
  dsimp only
  rw [bind_of_silent kept]
  exact (returns_bind (returns_reconcileLeaves (agreeable_smooth key) fits)
    (fun _ => returns_pure fun _ holds => holds) secrets trivial).1

theorem rests_of_silentPass (generated : setting.customCerts = none)
    (decided : setting.caDecision secrets = .keep ca) (fits : ca.privateKey.publicKey = ca.certificate.publicKey)
    (silent : SilentPass setting secrets) (leaf : Leaf) : setting.Rests secrets leaf := by
  -- A key which differs from the one in the Secret: were the certificate replaced, it would show.
  let key := (((secrets.leaf leaf).bind LeafSecret.tlsCert).map Certificate.publicKey).getD 0 + 1
  rcases returns_of_keep key generated decided fits with ⟨result, returned⟩
  have course := ensures_reconcileWithHashes setting (agreeable key) secrets generated secrets rfl result returned
  rw [announced_reconcileWithHashes setting (agreeable key) generated secrets (silent _).1] at course
  cases course with
  | waits other => exact nomatch decided.symm.trans other
  | settles _ leaves =>
    have dealt := leaves leaf
    generalize stored : secrets.leaf leaf = after at dealt
    cases dealt with
    | @kept found also keeps =>
      exact ⟨found, also, keeps, Option.some.inj (stored.symm.trans also)⟩
    | @issued made notKept generated fits =>
      have different : made = key := (Except.ok.inj generated).symm
      simp [key, stored, newLeaf] at different

end Agreeable

/-! ### What the first pass leaves to the second -/

theorem LeafSecret.migrated_migrated (secret : LeafSecret) : secret.migrated.migrated = secret.migrated := by
  rcases secret with ⟨_, _, key⟩
  cases key with
  | none | some => rfl

theorem settled_settled (leaf : Leaf) (found : LeafSecret) : settled leaf (settled leaf found) = settled leaf found := by
  unfold settled
  split
  · exact found.migrated_migrated
  · rfl

theorem settled_newLeaf (ca : CAResult) (leaf : Leaf) (key : Nat) :
    settled leaf (setting.newLeaf ca leaf key) = setting.newLeaf ca leaf key := by
  unfold settled
  split
  · next same => simp [LeafSecret.migrated, newLeaf, same]
  · rfl

theorem Setting.keeps_settled (leaf : Leaf) (found : LeafSecret) :
    setting.keeps leaf (settled leaf found) = setting.keeps leaf found := by
  unfold settled
  split
  · rcases found with ⟨_, certificate, key⟩
    cases certificate with
    | none => rfl
    | some =>
      cases key with
      | none | some => rfl
  · rfl

section Second

variable {setting : Setting} {answers : CertAnswers} {ca : CAResult} {before after : Secrets} {leaf : Leaf}

theorem LeafDone.rests_iff (dealt : LeafDone setting answers ca leaf before (after.leaf leaf)) :
    setting.Rests after leaf <-> setting.Kept before leaf ∨ setting.KeepsNew leaf := by
  generalize stored : after.leaf leaf = found at dealt
  cases dealt with
  | @kept found also keeps =>
    refine iff_of_true ⟨_, stored, ?_, settled_settled leaf found⟩ (.inl ⟨found, also, keeps⟩)
    rw [setting.keeps_settled, keeps]
  | @issued key notKept generated fits =>
    rw [or_iff_right notKept, ← setting.keeps_newLeaf_iff ca leaf key]
    constructor
    · rintro ⟨found, also, keeps, _⟩
      cases stored.symm.trans also
      exact keeps
    · exact fun keeps => ⟨_, stored, keeps, settled_newLeaf setting ca leaf key⟩

theorem leavesStable_of_unfit (unfit : ca.privateKey.publicKey ≠ ca.certificate.publicKey)
    (leaves : ∀ leaf, LeafDone setting answers ca leaf before (after.leaf leaf)) : setting.LeavesStable before := by
  intro leaf
  have dealt := leaves leaf
  generalize after.leaf leaf = found at dealt
  cases dealt with
  | kept stored keeps => exact .inl ⟨_, stored, keeps⟩
  | issued _ _ fits => exact absurd fits unfit

theorem silentPass_iff_of_keep (generated : setting.customCerts = none)
    (decided : setting.caDecision after = .keep ca)
    (leaves : ∀ leaf, LeafDone setting answers ca leaf before (after.leaf leaf)) :
    SilentPass setting after <-> setting.LeavesStable before := by
  constructor
  · intro silent
    by_cases fits : ca.privateKey.publicKey = ca.certificate.publicKey
    · exact fun leaf => (leaves leaf).rests_iff.mp (rests_of_silentPass generated decided fits silent leaf)
    · exact leavesStable_of_unfit fits leaves
  · exact fun stable => silentPass_of_rest generated decided fun leaf => (leaves leaf).rests_iff.mpr (stable leaf)

theorem caDecision_issued (setting : Setting) {key : Nat}
    (stored : after.ca = some ⟨some (setting.newCA key).certificate, some (setting.newCA key).privateKey⟩) :
    setting.caDecision after =
      if needsRenewal setting.now (notAfterOf setting.now setting.options.getCAValidity)
          setting.options.getCARenewalThreshold then
        match setting.checkMaintenance (notAfterOf setting.now setting.options.getCAValidity) with
        | none => .stuck
        | some check => if check.allowRenewal then .issue else .wait (setting.newCA key) check.nextWindowStart
      else .keep (setting.newCA key) := by
  rw [caDecision, stored]
  rfl

theorem silentPass_iff_of_due {key : Nat} (generated : setting.customCerts = none)
    (stored : after.ca = some ⟨some (setting.newCA key).certificate, some (setting.newCA key).privateKey⟩)
    (due : ¬ setting.KeepsNewCA) : SilentPass setting after <-> ¬ setting.RenewsNewCA := by
  have decision := caDecision_issued setting stored
  rw [if_pos (Bool.not_eq_false _ ▸ due)] at decision
  unfold RenewsNewCA
  cases checked : setting.checkMaintenance (notAfterOf setting.now setting.options.getCAValidity) with
  | none =>
    rw [checked] at decision
    exact iff_of_true (silentPass_of_wait generated (.inl decision)) (by simp)
  | some check =>
    rw [checked] at decision
    dsimp only at decision
    by_cases allowed : check.allowRenewal
    · rw [if_pos allowed] at decision
      exact iff_of_false (not_silentPass_of_issue generated decision) (by simp [allowed])
    · rw [if_neg allowed] at decision
      exact iff_of_true (silentPass_of_wait generated (.inr ⟨_, _, decision⟩)) (by simp [allowed])

end Second

theorem second_pass_silent_iff (setting : Setting) (answers : CertAnswers) (before : Secrets)
    (result : CertHashResult) (returned : (reconcileWithHashes setting answers before).result = .ok result) :
    SilentPass setting (reconcileWithHashes setting answers before).state <-> setting.Stable before := by
  unfold Stable
  cases custom : setting.customCerts with
  | some => exact iff_of_false (not_silentPass_of_custom custom) (by simp)
  | none =>
    have course := ensures_reconcileWithHashes setting answers before custom before rfl result returned
    generalize (reconcileWithHashes setting answers before).state = after at course ⊢
    rw [and_iff_right rfl]
    cases course with
    | waits decided =>
      rw [decided]
      exact iff_of_true (silentPass_of_wait custom (.inr ⟨_, _, decided⟩)) trivial
    | settles current leaves =>
      generalize stored : after.ca = caSecret at current
      cases current with
      | kept decided =>
        have same : setting.caDecision after = setting.caDecision before := by
          rw [caDecision, caDecision, stored]
        rw [decided]
        exact silentPass_iff_of_keep custom (same.trans decided) leaves
      | @issued key decided generated =>
        rw [decided]
        by_cases fresh : setting.KeepsNewCA
        · have kept : setting.caDecision after = .keep (setting.newCA key) := by
            rw [caDecision_issued setting stored, if_neg (Bool.eq_false_iff.mp fresh)]
          rw [silentPass_iff_of_keep custom kept leaves]
          simp [fresh]
        · rw [silentPass_iff_of_due custom stored fresh]
          simp [fresh]

theorem second_pass_silent_iff_first_install :
    (reconcileWithHashes (dailySetting 0) (smoothAnswers 1) ⟨none, fun _ => none⟩).result = .ok {} ∧
      (SilentPass (dailySetting 0)
          (reconcileWithHashes (dailySetting 0) (smoothAnswers 1) ⟨none, fun _ => none⟩).state <->
        (dailySetting 0).Stable ⟨none, fun _ => none⟩) := by
  have returned : (reconcileWithHashes (dailySetting 0) (smoothAnswers 1) ⟨none, fun _ => none⟩).result =
      .ok {} := by decide +kernel
  exact ⟨returned, second_pass_silent_iff _ _ _ _ returned⟩

/-- A validity which the resource gives as an example, below the default threshold of thirty days. -/
def shortLivedSetting : Setting :=
  { dailySetting 0 with tls := some { certConfig := some { indexerValidity := "24h" } } }

/-- The certificate of the indexer is due as soon as it is made, and the second pass makes another. -/
theorem short_validity_renews_again :
    let first := reconcileWithHashes shortLivedSetting (smoothAnswers 1) ⟨none, fun _ => none⟩
    first.result = .ok {} ∧ ¬ SilentPass shortLivedSetting first.state ∧
      (reconcileWithHashes shortLivedSetting (smoothAnswers 2) first.state).result =
        .ok { indexerCertsRenewed := true } := by
  refine ⟨by decide +kernel, fun silent => ?_, by decide +kernel⟩
  have nothing := (silent (smoothAnswers 2)).1
  revert nothing
  decide +kernel

/-! ## Leaf and CA -/

/-- A leaf begins when it is made, never before its CA, and lasts as long as is configured, in whole
seconds.  It ends in time if its validity fits into what is left of the CA's, and where the CA is
not due, it outlives the CA by no more than its validity exceeds the renewal threshold of the CA. -/
theorem leaf_lifetime (past issue : Setting) (caKey key : Nat) (leaf : Leaf) :
    let ca := past.newCA caKey
    exists certificate, (issue.newLeaf ca leaf key).tlsCert = some certificate ∧
      (past.now ≤ issue.now -> ca.certificate.notBefore ≤ certificate.notBefore) ∧
      certificate.notBefore = notBeforeOf issue.now ∧
      certificate.notAfter = notAfterOf issue.now (issue.options.validity leaf) ∧
      ((10 ^ 9 : Int) ∣ issue.options.validity leaf ->
        certificate.notAfter = certificate.notBefore + issue.options.validity leaf) ∧
      (certificate.notAfter ≤ ca.certificate.notAfter <->
        (issue.now + issue.options.validity leaf) / 10 ^ 9 ≤
          (past.now + past.options.getCAValidity) / 10 ^ 9) ∧
      (issue.shouldRenewCA ca = false -> certificate.notAfter ≤ ca.certificate.notAfter +
        (issue.options.validity leaf - issue.options.getCARenewalThreshold)) := by
  refine ⟨_, rfl, ?_, rfl, rfl, ?_, ?_, ?_⟩
  · intro later
    simp only [Setting.newCA, notBeforeOf]
    omega
  · intro whole
    simp only [notBeforeOf, notAfterOf]
    omega
  · simp only [Setting.newCA, notAfterOf]
    omega
  · intro notDue
    have := of_decide_eq_false notDue
    simp only [Setting.newCA, notAfterOf] at this ⊢
    omega

/-- With the default validities, a leaf made after 3400 days outlives its CA. -/
theorem late_leaf_outlives_ca :
    ¬ forall (past setting : Setting) (caKey key : Nat) (leaf : Leaf), past.now ≤ setting.now ->
      ∀ certificate ∈ (setting.newLeaf (past.newCA caKey) leaf key).tlsCert,
        certificate.notAfter ≤ (past.newCA caKey).certificate.notAfter := by
  intro bounded
  have := bounded (dailySetting 0) (dailySetting 3400) 1 2 .indexer (by decide +kernel) _ rfl
  revert this
  decide +kernel

end Certificates
end WazuhOperator
