import WazuhOperator.Library.Histories
import WazuhOperator.Snapshots.Restore

namespace WazuhOperator
namespace Snapshots

open Procedure Proc Drafts Histories Runs
open Jobs (Resource)

/-!
# Is a restore issued once, and after its checks?

The phase of the resource tells a pass what remains to be done.  It is written
before each step, and a failure of that write is only logged.  Two things are
then lost.  A restore which was issued under a phase that was not stored is
issued again.  And a stored phase `Validating` makes the next pass issue the
restore, also where the pass that stored it did not finish its checks or could
not store that they failed.
-/

abbrev RestoreHistory : Type := List (Note RestoreStatus RestoreCall)

abbrev RestoreWorld : Type := World RestoreSpec RestoreStatus RestoreCall

abbrev RestoreMove : Type := Move RestoreAnswers RestoreSpec

/-! ## The property -/

def Note.issued : Note RestoreStatus RestoreCall -> Option (String × String)
  | .call (.restoreSnapshot repository snapshot _ _) => some (repository, snapshot)
  | _ => none

def issued (history : RestoreHistory) : List (String × String) := history.filterMap Note.issued

def ChecksFirst (history : RestoreHistory) : Prop :=
  AtEach (fun before event => forall repository snapshot, event.issued = some (repository, snapshot) ->
    Note.call (.checked repository snapshot) ∈ before) history

def IssuedOnce (history : RestoreHistory) : Prop :=
  (issued history).length ≤ 1 ∧ ChecksFirst history

theorem issued_concat (history : RestoreHistory) (event : Note RestoreStatus RestoreCall) :
    issued (history ++ [event]) = issued history ++ event.issued.toList := by
  rw [issued, issued, List.filterMap_append]
  cases found : event.issued with
  | none | some => simp [found]

variable {history : RestoreHistory}

theorem IssuedOnce.concat (once : IssuedOnce history)
    (other : event.issued = none) : IssuedOnce (history ++ [event]) := by
  refine ⟨?_, once.2.concat ?_⟩
  · rw [issued_concat, other, Option.toList_none, List.append_nil]
    exact once.1
  · intro repository snapshot found
    exact nomatch other.symm.trans found

theorem ChecksFirst.checked (first : ChecksFirst history) (repository snapshot : String)
    (member : (repository, snapshot) ∈ issued history) :
    Note.call (.checked repository snapshot) ∈ history := by
  rcases List.mem_filterMap.mp member with ⟨event, recorded, found⟩
  rcases List.append_of_mem recorded with ⟨before, after, rfl⟩
  exact List.mem_append_left _ (first before event after rfl repository snapshot found)

/-! ## The condition -/

def rejects (answers : RestoreAnswers) (copy : Restore) : Bool :=
  (rejection copy.spec answers.repository answers.snapshot).isSome

/-- A pass which gets as far as OpenSearch issues the restore. -/
def Issues (answers : RestoreAnswers) (copy : Restore) : Prop :=
  answers.interrupted ≠ some .started ∧
    if copy.status.isNew then
      rejects answers copy = false ∧ answers.interrupted ≠ some .validating ∧
        answers.interrupted ≠ some .checked
    else copy.status.phase = some .validating

/-- After the phase `Validating`, which is refused or acknowledged, the pass stores the phase it
comes to: `Failed` where the checks fail, `InProgress` where they succeed. -/
structure StoresVerdict (answers : RestoreAnswers) (copy : Restore) : Prop where
  heard : answers.validating.applied = true -> answers.validating = .accepted
  onward : answers.interrupted ≠ some .validating
  failed : rejects answers copy = true -> answers.conclude.applied = true
  checked : rejects answers copy = false -> answers.interrupted ≠ some .checked
  inProgress : rejects answers copy = false -> answers.inProgress.applied = true

/-- What a pass must meet: it issues the restore only from a current copy, and if it issues the
restore or stores the phase `Validating`, it stores the phase it comes to as well. -/
structure Careful (world : RestoreWorld) (answers : RestoreAnswers) : Prop where
  current : forall copy, Proceeds world.object answers copy -> Issues answers copy ->
    world.object.upToDate = true
  stored : forall copy, Proceeds world.object answers copy -> copy.status.isNew = true ->
    world.object.upToDate = true -> answers.validating.applied = true ∨ Issues answers copy ->
    StoresVerdict answers copy

/-! ## Passes -/

/-- What the stored status says about the history: a restore which has not been looked at has not
been issued, and no pass has to continue after `Validating`. -/
def Recalls (history : RestoreHistory) (status : RestoreStatus) : Prop :=
  status.phase ≠ some .validating ∧ (status.isNew = true -> issued history = [])

section Passes

variable {after : Draft Restore} {history : RestoreHistory}

abbrev Known (object : Feed (Option Restore)) (history : RestoreHistory) : Prop :=
  RemembersStatus IssuedOnce Recalls object history

theorem known_concat (known : Known object history)
    (other : event.issued = none) : Known object (history ++ [event]) := by
  refine ⟨known.past.concat other, fun resource found => ?_⟩
  rcases known.memory resource found with ⟨settled, unissued⟩
  refine ⟨settled, fun new => ?_⟩
  rw [issued_concat, unissued new, other]
  rfl

/-- The phases which a pass comes to. -/
inductive Verdict : RestorePhase -> Prop where
  | inProgress : Verdict .inProgress
  | completed : Verdict .completed
  | failed : Verdict .failed

def Settled (status : RestoreStatus) : Prop := status.phase ≠ some .validating ∧ status.isNew = false

theorem settled_restoreReport (verdict : Verdict phase) (restore : Restore) (message : String) :
    Settled (restoreReport restore phase message) := by
  cases verdict <;> exact ⟨by simp [restoreReport], rfl⟩

variable {status : RestoreStatus}

theorem known_stored (settled : Settled status)
    (once : IssuedOnce history) : Known (withStored draft status acknowledged).object history := by
  refine ⟨once, fun resource found => ?_⟩
  rw [withStored, Draft.written, Feed.stored_write, Option.some.injEq] at found
  subst found
  exact ⟨settled.1, fun new => nomatch settled.2.symm.trans new⟩

theorem known_noted (settled : Settled status)
    (noted : Noted answer status draft history after later) (known : Known draft.object history) :
    Known after.object later := by
  cases noted with
  | lost => exact known
  | stored => exact known_stored settled (known.past.concat rfl)

theorem known_of_applied (settled : Settled status)
    (noted : Noted answer status draft history after later) (fresh : draft.fresh)
    (applied : answer.applied) (once : IssuedOnce whole) :
    Known after.object whole := by
  cases noted with
  | lost lost => exact nomatch applied.symm.trans (lost fresh)
  | stored => exact known_stored settled once

theorem known_or_stored
    (known : Known draft.object history) (noted : Noted answer status draft history after later) :
    Known after.object later ∨ draft.fresh ∧ answer.applied = true := by
  cases noted with
  | lost => exact .inl known
  | stored fresh applied => exact .inr ⟨fresh, applied⟩

theorem leads_verdict (verdict : Verdict phase) (known : Known draft.object history) :
    Leads (fun _ draft history => Known draft.object history)
      (updateRestoreStatus answer phase message) history draft :=
  leads_updateRestoreStatus fun _ _ _ noted => known_noted (settled_restoreReport verdict _ _) noted known

theorem leads_monitor (known : Known draft.object history) :
    Leads (fun _ draft history => Known draft.object history)
      (monitorRestoreProgress answers) history draft := by
  apply leads_read_bind
  cases draft.copy.status.restoredIndices with
  | nil =>
    dsimp only
    split
    · exact leads_verdict .completed known
    · exact leads_verdict .inProgress known
  | cons =>
    cases answers.recovery with
    | failed => exact leads_pure known
    | notFound => exact leads_verdict .inProgress known
    | found =>
      apply leads_emit_bind
      split
      · exact leads_verdict .completed (known_concat known rfl)
      · exact leads_verdict .inProgress (known_concat known rfl)

def issueNote (answers : RestoreAnswers) (copy : Restore) : Note RestoreStatus RestoreCall :=
  .call (.restoreSnapshot copy.spec.repository copy.spec.snapshot copy.spec.options answers.extent)

theorem leads_startRestore (each : forall after later,
      Noted answers.inProgress (restoreReport (atStart draft.copy) .inProgress "Restoring indices")
        { draft with copy := atStart draft.copy } history after later ->
      (answers.interrupted = some .started -> Known after.object later) ∧
      (answers.interrupted ≠ some .started ->
        Known after.object (later ++ [issueNote answers draft.copy]))) :
    Leads (fun _ draft history => Known draft.object history) (startRestore answers) history draft := by
  apply leads_edit_bind
  apply leads_attempt_bind
  apply leads_updateRestoreStatus
  intro _ after later noted
  refine leads_checkpoint_bind (each after later noted).1 fun issues => ?_
  have known := (each after later noted).2 issues
  apply leads_read_bind
  apply leads_emit_bind
  have spec : after.copy.spec = draft.copy.spec := by
    rw [noted.copy]
    rfl
  rw [spec]
  refine leads_checkpoint_bind (fun _ => known) fun _ => ?_
  cases answers.restoreSnapshot with
  | error =>
    apply leads_bind
    apply leads_updateRestoreStatus
    intro result last end_ ended
    have kept := known_noted (settled_restoreReport .failed _ _) ended known
    cases result with
    | error => exact kept
    | ok => exact leads_pure kept
  | ok =>
    apply leads_edit_bind
    exact leads_pure known

theorem leads_executeRestore (start : draft.copy.status.phase = some .validating ->
      Leads (fun _ draft history => Known draft.object history) (startRestore answers) history draft)
    (monitored : draft.copy.status.phase ≠ some .validating -> Known draft.object history) :
    Leads (fun _ draft history => Known draft.object history) (executeRestore answers) history draft := by
  apply leads_read_bind
  by_cases validating : draft.copy.status.phase = some .validating
  · rw [if_pos validating]
    apply leads_bind
    refine leads_imp (start validating) fun result draft history known => ?_
    cases result with
    | error => exact known
    | ok started =>
      cases started with
      | true => exact leads_monitor known
      | false => exact leads_pure known
  · rw [if_neg validating]
    exact leads_monitor (monitored validating)

theorem noted_issued
    (noted : Noted answer status draft history after later) : issued later = issued history := by
  cases noted with
  | lost => rfl
  | stored => rw [issued_concat]; exact List.append_nil _

theorem noted_once (once : IssuedOnce history)
    (noted : Noted answer status draft history after later) : IssuedOnce later := by
  cases noted with
  | lost => exact once
  | stored => exact once.concat rfl

theorem once_of_first {copy : Restore} (once : IssuedOnce history) (empty : issued history = [])
    (checked : Note.call (.checked copy.spec.repository copy.spec.snapshot) ∈ history) :
    IssuedOnce (history ++ [issueNote answers copy]) := by
  refine ⟨?_, once.2.concat ?_⟩
  · rw [issued_concat, empty]
    exact Nat.le_refl 1
  · intro repository snapshot found
    cases found
    exact checked

variable {world : RestoreWorld} {copy : Restore}

theorem leads_newRestore (careful : Careful world answers) (proceeds : Proceeds world.object answers copy)
    (opened : Opened IssuedOnce (fun history restore => Recalls history restore.status)
      (desk world.object copy) draft world.history history)
    (new : copy.status.isNew) :
    Leads (fun _ draft history => Known draft.object history)
      (do
        let validated ← validateRestore answers
        if validated then executeRestore answers) history draft := by
  have verdict (fresh : draft.fresh) (reached : answers.validating.applied ∨ Issues answers copy) :
      StoresVerdict answers copy :=
    careful.stored copy proceeds new (opened.fresh.symm.trans fresh) reached
  apply leads_bind
  apply leads_attempt_bind
  apply leads_updateRestoreStatus
  intro _ validating later noted
  have spec : validating.copy.spec = copy.spec := by
    rw [noted.copy]
    exact opened.spec
  have once := noted_once opened.known.past noted
  have fate := known_or_stored opened.known noted
  refine leads_checkpoint_bind (fun stopped => ?_) fun onward => ?_
  · rcases fate with known | ⟨fresh, applied⟩
    · exact known
    · exact absurd stopped (verdict fresh (.inl applied)).onward
  apply leads_read_bind
  cases rejected : rejection validating.copy.spec answers.repository answers.snapshot with
  | some =>
    have rejects : rejects answers copy := by
      rw [Snapshots.rejects, <- spec, rejected]
      rfl
    apply leads_bind
    apply leads_updateRestoreStatus
    intro result last final ended
    have known : Known last.object final := by
      rcases fate with known | ⟨fresh, applied⟩
      · exact known_noted (settled_restoreReport .failed _ _) ended known
      · have stores := verdict fresh (.inl applied)
        exact known_of_applied (settled_restoreReport .failed _ _) ended (noted.fresh fresh stores.heard)
          (stores.failed rejects) (noted_once once ended)
    cases result with
    | error => exact known
    | ok => exact leads_pure (leads_pure known)
  | none =>
    have passed : Snapshots.rejects answers copy = false := by
      rw [Snapshots.rejects, <- spec, rejected]
      rfl
    apply leads_emit_bind
    refine leads_checkpoint_bind (fun stopped => ?_) fun unstopped => ?_
    · rcases fate with known | ⟨fresh, applied⟩
      · exact known_concat known rfl
      · exact absurd stopped ((verdict fresh (.inl applied)).checked passed)
    apply leads_pure
    apply leads_executeRestore
    · intro _
      apply leads_startRestore
      intro started final ended
      have recorded := noted_once (once.concat rfl) ended
      have applied (stores : StoresVerdict answers copy) (fresh : draft.fresh)
          {whole : RestoreHistory} (once : IssuedOnce whole) : Known started.object whole :=
        known_of_applied (settled_restoreReport .inProgress _ _) ended
          (noted.fresh fresh stores.heard) (stores.inProgress passed) once
      refine ⟨fun _ => ?_, fun issuing => ?_⟩
      · rcases fate with known | ⟨fresh, landed⟩
        · exact known_noted (settled_restoreReport .inProgress _ _) ended (known_concat known rfl)
        · exact applied (verdict fresh (.inl landed)) fresh recorded
      · have issues : Issues answers copy :=
          ⟨issuing, by rw [if_pos new]; exact ⟨passed, onward, unstopped⟩⟩
        have fresh : draft.fresh := opened.fresh.trans (careful.current copy proceeds issues)
        have unissued : issued history = [] := by
          have recalls := opened.known.memory draft.copy (opened.faithful fresh)
          exact recalls.2 (opened.status ▸ new)
        refine applied (verdict fresh (.inr issues)) fresh (once_of_first recorded ?_ ?_)
        · rw [noted_issued ended, issued_concat, noted_issued noted, unissued]
          rfl
        · cases ended <;> simp
    · intro other
      refine absurd ?_ other
      rw [noted.copy]
      rfl

theorem leads_laterRestore (careful : Careful world answers) (proceeds : Proceeds world.object answers copy)
    (opened : Opened IssuedOnce (fun history restore => Recalls history restore.status)
      (desk world.object copy) draft world.history history)
    (looked : copy.status.isNew = false) :
    Leads (fun _ draft history => Known draft.object history) (executeRestore answers) history draft := by
  refine leads_executeRestore (fun validating => ?_) fun _ => opened.known
  have outdated : draft.fresh -> False := by
    intro fresh
    exact (opened.known.memory draft.copy (opened.faithful fresh)).1 validating
  apply leads_startRestore
  intro after later noted
  refine ⟨fun _ => known_noted (settled_restoreReport .inProgress _ _) noted opened.known, fun issuing => ?_⟩
  have issues : Issues answers copy :=
    ⟨issuing, by rw [looked, if_neg Bool.false_ne_true]; exact opened.status ▸ validating⟩
  exact (outdated (opened.fresh.trans (careful.current copy proceeds issues))).elim

theorem known_restorePass (world : RestoreWorld) (answers : RestoreAnswers)
    (known : Known world.object world.history) (careful : Careful world answers) :
    Known (restorePass answers world.object).object
      (world.history ++ (restorePass answers world.object).notes) := by
  apply restorePass_keeps
  · exact fun history once => once.concat rfl
  · intro history restore recalls
    refine ⟨recalls.1, fun new => ?_⟩
    rw [issued_concat, recalls.2 new]
    rfl
  · exact known
  · intro copy draft history proceeds opened
    apply leads_read_bind
    cases new : copy.status.isNew with
    | true =>
      rw [if_pos (opened.status ▸ new)]
      exact leads_newRestore careful proceeds opened new
    | false =>
      rw [if_neg (by rw [opened.status]; exact Bool.eq_false_iff.mp new)]
      exact leads_laterRestore careful proceeds opened new

end Passes

/-! ## Runs -/

/-- A restore whose passes are all careful is issued at most once, and only after its checks. -/
theorem restore_issued_once (restore : Restore) (unreported : restore.status = {})
    (moves : List RestoreMove)
    (careful : Along (World.step restorePass) (OnPasses Careful) (World.begin restore) moves) :
    Throughout (World.step restorePass) (fun world => IssuedOnce world.history)
      (World.begin restore) moves := by
  refine throughout_of_passes known_restorePass (World.begin restore) ?_ moves careful
  refine ⟨⟨Nat.zero_le 1, atEach_nil⟩, fun resource found => ?_⟩
  cases found
  rw [unreported]
  exact ⟨nofun, fun _ => rfl⟩

theorem careful_of_accepted {world : RestoreWorld} {answers : RestoreAnswers}
    (current : world.object.upToDate) (validating : answers.validating = .accepted)
    (inProgress : answers.inProgress = .accepted) (conclude : answers.conclude = .accepted)
    (uninterrupted : answers.interrupted = none) : Careful world answers := by
  refine ⟨fun _ _ _ => current, fun _ _ _ _ _ => ?_⟩
  constructor
  · exact fun _ => validating
  · simp [uninterrupted]
  · simp [conclude]
  · simp [uninterrupted]
  · simp [inProgress]

namespace Sample

def restore : Restore where
  name := "restore-alerts"
  spec :=
    { repository := "minio-backups"
      snapshot := "pre-upgrade-20250105-143022"
      options := { indices := ["wazuh-alerts-*"], renamePattern := "(.+)", renameReplacement := "restored-$1" } }
  status := {}

/-- No status update gets through. -/
def unrecorded : RestoreAnswers where
  validating := .refused "etcdserver: request timed out"
  inProgress := .refused "etcdserver: request timed out"
  conclude := .refused "etcdserver: request timed out"

/-- OpenSearch does not answer, and the failure is not stored. -/
def unchecked : RestoreAnswers where
  repository := .failed "connection refused"
  conclude := .refused "etcdserver: request timed out"

end Sample

open Sample

/-- The documented restore is issued by its first pass and not again. -/
theorem restore_issued_once_documented :
    issued (run (World.step restorePass) (World.begin restore)
      [.pass {}, .outside .restart, .pass {}]).history =
        [("minio-backups", "pre-upgrade-20250105-143022")] ∧
    Throughout (World.step restorePass) (fun world => IssuedOnce world.history)
      (World.begin restore) [.pass {}, .outside .restart, .pass {}] := by
  refine ⟨by decide +kernel, restore_issued_once restore rfl _ ⟨?_, trivial, ?_, trivial⟩⟩
  · exact careful_of_accepted rfl rfl rfl rfl rfl
  · exact careful_of_accepted rfl rfl rfl rfl rfl

/-- A pass whose status updates fail issues the restore, and so does the next one.  A pass which
cannot check the repository leaves `Validating` behind, and the next one issues the restore
without any checks. -/
theorem restore_issued_twice_or_unchecked :
    (issued (run (World.step restorePass) (World.begin restore)
      [.pass unrecorded, .outside .restart, .pass {}]).history).length = 2 ∧
    ¬ ChecksFirst (run (World.step restorePass) (World.begin restore)
      [.pass unchecked, .outside .restart, .pass {}]).history := by
  refine ⟨by decide +kernel, fun checksFirst => ?_⟩
  have checked := checksFirst.checked "minio-backups" "pre-upgrade-20250105-143022"
    (by decide +kernel)
  exact absurd checked (by decide +kernel)

end Snapshots
end WazuhOperator
