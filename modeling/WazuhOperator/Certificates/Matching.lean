import WazuhOperator.Certificates.Course
import WazuhOperator.Library.Runs

namespace WazuhOperator
namespace Certificates

open Runs

/-!
# Leaf certificates and the CA

After a certificate pass the leaf certificates should be signed by the CA in
the CA Secret, and their Secrets should carry it.  The certificates a pass
makes are; the ones it keeps need not be, since `keeps` looks at the domain
and at the clock and never at the issuer.  `leaves_match_iff` says of every
run of passes, interrupted ones included, that this is the whole difference.

The only assumption is that a new CA key is not one which a leaf Secret
already trusts.
-/

/-- The certificate is signed by the CA, and the Secret carries the CA beside it. -/
def LeafSecret.Matches (ca : Certificate) (secret : LeafSecret) : Prop :=
  secret.caCert = some ca ∧ ∃ certificate, secret.tlsCert = some certificate ∧ certificate.signedBy = ca.publicKey

def Secrets.AllMatch (secrets : Secrets) : Prop :=
  ∃ caSecret ca, secrets.ca = some caSecret ∧ caSecret.caCert = some ca ∧
    ∀ leaf, ∃ secret, secrets.leaf leaf = some secret ∧ secret.Matches ca

theorem Secrets.AllMatch.carries {secrets : Secrets} (all : secrets.AllMatch) (leaf : Leaf) :
    (secrets.leaf leaf).bind LeafSecret.caCert = secrets.ca.bind CASecret.caCert := by
  rcases all with ⟨caSecret, ca, stored, carried, leaves⟩
  rcases leaves leaf with ⟨secret, found, trusted, _⟩
  rw [stored, found, Option.bind_some, Option.bind_some, carried, trusted]

/-- The CA is kept, and so is no certificate of another CA; or the CA is replaced and no
certificate is kept. -/
def KeepsOnlyMatching (setting : Setting) (before : Secrets) : Prop :=
  forall leaf found, before.leaf leaf = some found -> setting.keeps leaf found = true ->
    ∃ ca, setting.caDecision before = .keep ca ∧ found.Matches ca.certificate

/-! ## Passes -/

structure CertPass where
  setting : Setting
  answers : CertAnswers

namespace CertPass

def step (before : Secrets) (pass : CertPass) : Secrets :=
  (reconcileWithHashes pass.setting pass.answers before).state

/-- The pass generates certificates and returns without error and without a pending renewal. -/
def Settles (before : Secrets) (pass : CertPass) : Prop :=
  pass.setting.customCerts = none ∧
    ∃ result, (reconcileWithHashes pass.setting pass.answers before).result = .ok result ∧
      result.caRenewalPending = false

def FreshKey (before : Secrets) (pass : CertPass) : Prop :=
  forall key leaf found ca, pass.answers.generate .ca = .ok key -> before.leaf leaf = some found ->
    found.caCert = some ca -> ca.publicKey ≠ key

end CertPass

open CertPass

/-! ## One pass -/

section Leaf

variable {setting : Setting} {answers : CertAnswers} {before : Secrets} {ca : CAResult} {leaf : Leaf}

@[simp] theorem settled_matches (authority : Certificate) (found : LeafSecret) :
    (settled leaf found).Matches authority <-> found.Matches authority := by
  unfold settled
  split
  · exact Iff.rfl
  · exact Iff.rfl

theorem LeafDone.matches_iff {after : Option LeafSecret} (dealt : LeafDone setting answers ca leaf before after) :
    (∃ secret, after = some secret ∧ secret.Matches ca.certificate) <->
      forall found, before.leaf leaf = some found -> setting.keeps leaf found ->
        found.Matches ca.certificate := by
  cases dealt with
  | issued notKept _ fits =>
    refine iff_of_true ⟨_, rfl, rfl, _, rfl, fits⟩ fun found stored keeps => ?_
    exact absurd ⟨found, stored, keeps⟩ notKept
  | @kept found stored keeps =>
    constructor
    · rintro ⟨secret, same, matching⟩ other also _
      cases same
      cases stored.symm.trans also
      exact (settled_matches _ _).mp matching
    · exact fun all => ⟨_, rfl, (settled_matches _ _).mpr (all found stored keeps)⟩

theorem CurrentCA.keepsOnlyMatching_iff {after : Option CASecret}
    (current : CurrentCA setting answers before ca after) (fresh : FreshKey before ⟨setting, answers⟩) :
    KeepsOnlyMatching setting before <->
      forall leaf found, before.leaf leaf = some found -> setting.keeps leaf found ->
        found.Matches ca.certificate := by
  refine forall_congr' fun leaf => forall_congr' fun found =>
    forall_congr' fun stored => forall_congr' fun _ => ?_
  cases current with
  | kept decided =>
    constructor
    · rintro ⟨other, also, matching⟩
      cases decided.symm.trans also
      exact matching
    · exact fun matching => ⟨ca, decided, matching⟩
  | @issued key decided generated =>
    refine iff_of_false ?_ ?_
    · rintro ⟨other, also, _⟩
      exact nomatch decided.symm.trans also
    · rintro ⟨carried, _⟩
      exact fresh key leaf found _ generated stored carried rfl

end Leaf

theorem CertPass.allMatch_iff {before : Secrets} {pass : CertPass} (settles : pass.Settles before)
    (fresh : pass.FreshKey before) :
    (pass.step before).AllMatch <-> KeepsOnlyMatching pass.setting before := by
  rcases settles with ⟨generated, result, returned, notPending⟩
  have course := ensures_reconcileWithHashes pass.setting pass.answers before generated before rfl result returned
  rw [step]
  generalize (reconcileWithHashes pass.setting pass.answers before).state = after at course ⊢
  cases course with
  | waits => exact nomatch notPending
  | settles current leaves _ _ =>
    rcases current.stored with ⟨caSecret, stored, carried⟩
    rw [current.keepsOnlyMatching_iff fresh]
    constructor
    · rintro ⟨otherSecret, other, also, alsoCarried, all⟩ leaf
      cases stored.symm.trans also
      cases carried.symm.trans alsoCarried
      exact (leaves leaf).matches_iff.mp (all leaf)
    · exact fun all => ⟨caSecret, _, stored, carried, fun leaf => (leaves leaf).matches_iff.mpr (all leaf)⟩

/-! ## Runs -/

/-- In every run of passes, from any Secrets: after each pass which settles the certificates all of
them match the CA, exactly if each of these passes keeps only certificates of the CA it keeps. -/
theorem leaves_match_iff (start : Secrets) (passes : List CertPass)
    (fresh : Along step (fun before pass => pass.FreshKey before) start passes) :
    Along step (fun before pass => pass.Settles before -> (pass.step before).AllMatch) start passes <->
      Along step
        (fun before pass => pass.Settles before -> KeepsOnlyMatching pass.setting before) start passes := by
  induction passes generalizing start with
  | nil => exact Iff.rfl
  | cons _ _ ih =>
    refine and_congr ?_ (ih _ fresh.2)
    exact forall_congr' fun settles => allMatch_iff settles fresh.1

/-- A cluster with the default certificate options, some days after its creation. -/
def dailySetting (day : Nat) : Setting where
  domain := "cluster.local"
  key := ⟨"wazuh", "main"⟩
  spec := ⟨none, none, none⟩
  tls := none
  now := day * 24 * 3600 * 10 ^ 9
  calendar := weeklyCalendar
  fuel := 0

def smoothAnswers (key : Nat) : CertAnswers where
  get _ := .ok ()
  generate
    | .ca => .ok key
    | .leaf _ => .ok (key + 100)
  write _ := .accepted
  customCA := .error "not found"
  custom _ := .error "not found"

def dailyPass (day : Nat) : CertPass := ⟨dailySetting day, smoothAnswers day⟩

theorem freshKey_dailyPass
    (apart : ∀ leaf ∈ [.managerMaster, .managerWorker, .indexer, .dashboard, .filebeat, .admin],
      ((before.leaf leaf).bind (·.caCert)).all (·.publicKey ≠ day) = true) :
    (dailyPass day).FreshKey before := by
  rintro _ leaf found ca ⟨⟩ stored carried
  simpa [stored, carried] using apart leaf (by cases leaf <;> simp)

theorem leaves_match_iff_renewed :
    let passes := [dailyPass 0, dailyPass 3400]
    Along step (fun before pass => pass.Settles before -> (pass.step before).AllMatch)
        ⟨none, fun _ => none⟩ passes <->
      Along step (fun before pass => pass.Settles before -> KeepsOnlyMatching pass.setting before)
        ⟨none, fun _ => none⟩ passes := by
  refine leaves_match_iff _ _ ⟨freshKey_dailyPass fun _ _ => rfl, freshKey_dailyPass ?_, trivial⟩
  decide +kernel

/-- The CA is replaced sixty days before its end.  The leaf certificates were renewed two hundred
days earlier and have half a year left: they stay as they are, signed by the old CA. -/
theorem renewed_ca_leaves_old_leaves :
    ¬ Along step (fun before pass => pass.Settles before -> (pass.step before).AllMatch)
      ⟨none, fun _ => none⟩ [dailyPass 0, dailyPass 3400, dailyPass 3600] := by
  rintro ⟨_, _, last, _⟩
  have settles : (dailyPass 3600).Settles
      (run step ⟨none, fun _ => none⟩ [dailyPass 0, dailyPass 3400]) := by
    refine ⟨rfl, { caRenewed := true }, ?_, rfl⟩
    decide +kernel
  have carried := (last settles).carries .indexer
  revert carried
  decide +kernel

end Certificates
end WazuhOperator
