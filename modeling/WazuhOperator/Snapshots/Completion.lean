import WazuhOperator.Snapshots.Issue

namespace WazuhOperator
namespace Snapshots

open Procedure Proc Drafts Histories List Runs
open Jobs (Resource)

/-!
# Is a restore complete when it is reported so?

The reconciler does not wait for a restore.  It reports the end of a restore
where the reply to the request names no index and no shard, and where the
recovery report of the first restored index has no shard which is not done.
The reply to a restore which is not waited for names nothing; a report may have
no shard at all; and the other indices are not asked for.
-/

/-! ## The property -/

def Note.extent : Note RestoreStatus RestoreCall -> List Shard
  | .call (.restoreSnapshot _ _ _ extent) => extent
  | _ => []

/-- All shards which have been restored, or are being restored. -/
def extents (history : RestoreHistory) : List Shard := history.flatMap Note.extent

/-- Every shard of a restore has been reported done after the restore was issued. -/
def Covered (history : RestoreHistory) : Prop :=
  forall before restore after, history = before ++ restore :: after -> ∀ shard ∈ restore.extent,
    ∃ index report, Note.call (.recovery index report) ∈ after ∧ RecoveryReport.Reports report shard

/-- `Completed` is stored only when every shard of every restored index has been reported done. -/
def CompletedWhenDone (history : RestoreHistory) : Prop :=
  AtEach (fun before event => forall status, event = .status status ->
    status.phase = some .completed -> Covered before) history

theorem extents_concat (history : RestoreHistory) (event : Note RestoreStatus RestoreCall) :
    extents (history ++ [event]) = extents history ++ event.extent := by
  rw [extents, extents, flatMap_append]
  simp

theorem mem_extents {before after : RestoreHistory} (member : shard ∈ event.extent)
    : shard ∈ extents (before ++ event :: after) :=
  mem_flatMap.mpr ⟨event, by simp, member⟩

variable {history : RestoreHistory}

theorem covered_of_nothing (nothing : extents history = []) :
    Covered history := by
  rintro before restore after rfl shard member
  have covered : shard ∈ extents (before ++ restore :: after) := mem_extents member
  rw [nothing] at covered
  exact nomatch covered

theorem covered_of_report (complete : ∀ shard ∈ extents history, report.Reports shard) :
    Covered (history ++ [.call (.recovery index report)]) := by
  intro before restore after split shard member
  rcases eq_nil_or_concat after with rfl | ⟨front, final, rfl⟩
  · -- The report itself restores nothing.
    have same := (append_inj' split rfl).2
    rw [<- singleton_inj.mp same] at member
    exact nomatch member
  · have shorter : history ++ [Note.call (.recovery index report)] =
        (before ++ restore :: front) ++ [final] := by simpa using split
    have parts := append_inj' shorter rfl
    refine ⟨index, report, ?_, complete shard ?_⟩
    · rw [concat_eq_append, <- parts.2]
      simp
    · rw [parts.1]
      exact mem_extents member

/-! ## The condition -/

def RestoreStatus.Bare (status : RestoreStatus) : Prop :=
  status.restoredIndices = [] ∧ status.shards.map ShardStats.total = some 0

/-- What OpenSearch must answer to a pass from a current copy.  A reply which names no index and
no shard is given only if none of the restores so far restores anything, and a report with no
unfinished shard has every shard of these restores. -/
structure Attested (world : RestoreWorld) (answers : RestoreAnswers) : Prop where
  bare : forall copy result, Proceeds world.object answers copy -> world.object.upToDate = true ->
    Issues answers copy -> answers.restoreSnapshot = .ok result -> result.indices = [] ->
    result.shards.total = 0 -> extents world.history = [] ∧ answers.extent = []
  report : forall copy report, Proceeds world.object answers copy -> world.object.upToDate = true ->
    answers.recovery = .found report -> report.allDone = true ->
    (∀ shard ∈ extents world.history, report.Reports shard) ∧
      (Issues answers copy -> ∀ shard ∈ answers.extent, report.Reports shard)

/-! ## Passes -/

section Passes

variable {after : Draft Restore} {history : RestoreHistory}

/-- What is known at the end of a pass: a stored status without indices and shards is final. -/
abbrev Reported (object : Feed (Option Restore)) (history : RestoreHistory) : Prop :=
  RemembersStatus CompletedWhenDone (fun _ status => status.phase = some .completed ∨ ¬ status.Bare) object history

theorem reported_call
    (known : Reported object history) : Reported object (history ++ [.call call]) :=
  ⟨known.past.concat nofun, known.memory⟩

/-- A status which may be stored. -/
def Fits (history : RestoreHistory) (status : RestoreStatus) : Prop :=
  (status.phase = some .completed ∧ Covered history) ∨ (status.phase ≠ some .completed ∧ ¬ status.Bare)

variable {status : RestoreStatus}

theorem reported_noted (noted : Noted answer status draft history after later)
    (fits : draft.fresh -> Fits history status) (known : Reported draft.object history) :
    Reported after.object later := by
  cases noted with
  | lost => exact known
  | stored fresh =>
    refine ⟨known.past.concat ?_, fun resource found => ?_⟩
    · rintro status ⟨⟩ completed
      rcases fits fresh with ⟨_, covered⟩ | ⟨other, _⟩
      · exact covered
      · exact absurd completed other
    · rw [withStored, Draft.written, Feed.stored_write, Option.some.injEq] at found
      subst found
      rcases fits fresh with ⟨completed, _⟩ | ⟨_, full⟩
      · exact .inl completed
      · exact .inr full

theorem leads_fitting
    (fits : draft.fresh -> Fits history (restoreReport draft.copy phase message))
    (known : Reported draft.object history) :
    Leads (fun _ draft history => Reported draft.object history)
      (updateRestoreStatus answer phase message) history draft :=
  leads_updateRestoreStatus fun _ _ _ noted => reported_noted noted fits known

theorem fits_report {copy : Restore} (other : phase ≠ .completed) (full : ¬ copy.status.Bare) :
    Fits history (restoreReport copy phase message) :=
  .inr ⟨fun same => other (Option.some.inj same), full⟩

theorem leads_monitor_reported (bare : draft.fresh -> draft.copy.status.Bare ->
      draft.copy.status.startTime ∧ extents history = [])
    (attested : draft.fresh -> forall report, answers.recovery = .found report ->
      report.allDone -> ∀ shard ∈ extents history, report.Reports shard)
    (known : Reported draft.object history) :
    Leads (fun _ draft history => Reported draft.object history)
      (monitorRestoreProgress answers) history draft := by
  apply leads_read_bind
  cases indices : draft.copy.status.restoredIndices with
  | nil =>
    dsimp only
    by_cases ended : draft.copy.status.startTime ∧
        draft.copy.status.shards.map ShardStats.total = some 0
    · rw [if_pos ended]
      refine leads_fitting (fun fresh => .inl ⟨rfl, ?_⟩) known
      exact covered_of_nothing (bare fresh ⟨indices, ended.2⟩).2
    · rw [if_neg ended]
      refine leads_fitting (fun fresh => fits_report nofun fun unread => ended ?_) known
      exact ⟨(bare fresh unread).1, unread.2⟩
  | cons index rest =>
    have full : ¬ draft.copy.status.Bare := fun unread => nomatch indices.symm.trans unread.1
    cases recovery : answers.recovery with
    | failed => exact leads_pure known
    | notFound => exact leads_fitting (fun _ => fits_report nofun full) known
    | found report =>
      apply leads_emit_bind
      by_cases done : report.allDone
      · rw [if_pos done]
        refine leads_fitting (fun fresh => .inl ⟨rfl, ?_⟩) (reported_call known)
        exact covered_of_report (attested fresh report recovery done)
      · rw [if_neg done]
        exact leads_fitting (fun _ => fits_report nofun full) (reported_call known)

theorem noted_extents (noted : Noted answer status draft history after later) :
    extents later = extents history := by
  cases noted with
  | lost => rfl
  | stored => rw [extents_concat]; exact append_nil _

variable {world : RestoreWorld} {copy : Restore}

theorem leads_execute_reported (attested : Attested world answers)
    (proceeds : Proceeds world.object answers copy)
    (current : draft.fresh -> world.object.upToDate)
    (issues : draft.copy.status.phase = some .validating -> answers.interrupted ≠ some .started ->
      Issues answers copy)
    (full : draft.fresh -> ¬ draft.copy.status.Bare)
    (same : extents history = extents world.history) (known : Reported draft.object history) :
    Leads (fun _ draft history => Reported draft.object history) (executeRestore answers) history draft := by
  apply leads_read_bind
  by_cases validating : draft.copy.status.phase = some .validating
  · rw [if_pos validating]
    apply leads_bind
    apply leads_edit_bind
    apply leads_attempt_bind
    apply leads_updateRestoreStatus
    intro _ started later noted
    have current (fresh : started.fresh) : world.object.upToDate :=
      current (noted.fresh_before fresh)
    have stillFull (fresh : started.fresh) : ¬ started.copy.status.Bare := by
      rw [noted.copy]
      exact full (noted.fresh_before fresh)
    have reported := reported_noted noted (fun fresh => fits_report nofun (full fresh)) known
    refine leads_checkpoint_bind (fun _ => reported) fun issuing => ?_
    have issued := issues validating issuing
    apply leads_read_bind
    apply leads_emit_bind
    refine leads_checkpoint_bind (fun _ => reported_call reported) fun _ => ?_
    cases reply : answers.restoreSnapshot with
    | error text =>
      apply leads_bind
      apply leads_updateRestoreStatus
      intro result last final ended
      have failed := reported_noted ended (fun fresh => fits_report nofun (stillFull fresh))
        (reported_call reported)
      cases result with
      | error => exact failed
      | ok => exact leads_pure (leads_pure failed)
    | ok result =>
      apply leads_edit_bind
      apply leads_pure
      have covers (call : RestoreCall) : extents (later ++ [.call call]) =
          extents world.history ++ (Note.call call).extent := by
        rw [extents_concat, noted_extents noted, same]
      refine leads_monitor_reported (fun fresh bare => ?_) (fun fresh report read done => ?_)
        (reported_call reported)
      · refine ⟨?_, ?_⟩
        · show started.copy.status.startTime
          rw [noted.copy]
          rfl
        · have nothing := attested.bare copy result proceeds (current fresh) issued reply bare.1
            (Option.some.inj bare.2)
          rw [covers, nothing.1]
          exact nothing.2
      · have complete := attested.report copy report proceeds (current fresh) read done
        intro shard member
        rw [covers] at member
        rcases mem_append.mp member with earlier | now
        · exact complete.1 shard earlier
        · exact complete.2 issued shard now
  · rw [if_neg validating]
    refine leads_monitor_reported (fun fresh bare => absurd bare (full fresh)) ?_ known
    intro fresh report read done
    rw [same]
    exact (attested.report copy report proceeds (current fresh) read done).1

theorem leads_new_reported (attested : Attested world answers)
    (proceeds : Proceeds world.object answers copy)
    (current : draft.fresh -> world.object.upToDate) (new : copy.status.isNew)
    (spec : draft.copy.spec = copy.spec) (full : draft.fresh -> ¬ draft.copy.status.Bare)
    (same : extents history = extents world.history) (known : Reported draft.object history) :
    Leads (fun _ draft history => Reported draft.object history)
      (do
        let validated ← validateRestore answers
        if validated then executeRestore answers) history draft := by
  apply leads_bind
  apply leads_attempt_bind
  apply leads_updateRestoreStatus
  intro _ validating later noted
  have spec : validating.copy.spec = copy.spec := by
    rw [noted.copy]
    exact spec
  have stillFull (fresh : validating.fresh) : ¬ validating.copy.status.Bare := by
    rw [noted.copy]
    exact full (noted.fresh_before fresh)
  have reported := reported_noted noted (fun fresh => fits_report nofun (full fresh)) known
  refine leads_checkpoint_bind (fun _ => reported) fun onward => ?_
  apply leads_read_bind
  cases rejected : rejection validating.copy.spec answers.repository answers.snapshot with
  | some message =>
    apply leads_bind
    apply leads_updateRestoreStatus
    intro result last final ended
    have failed := reported_noted ended (fun fresh => fits_report nofun (stillFull fresh)) reported
    cases result with
    | error => exact failed
    | ok => exact leads_pure (leads_pure failed)
  | none =>
    have passed : rejects answers copy = false := by
      rw [rejects, <- spec, rejected]
      rfl
    apply leads_emit_bind
    refine leads_checkpoint_bind (fun _ => reported_call reported) fun unstopped => ?_
    apply leads_pure
    refine leads_execute_reported attested proceeds (fun fresh => current (noted.fresh_before fresh))
      (fun _ issuing => ⟨issuing, ?_⟩) stillFull ?_ (reported_call reported)
    · rw [if_pos new]
      exact ⟨passed, onward, unstopped⟩
    · rw [extents_concat, noted_extents noted, same]
      exact append_nil _

theorem reported_restorePass (world : RestoreWorld) (answers : RestoreAnswers)
    (known : Reported world.object world.history) (attested : Attested world answers) :
    Reported (restorePass answers world.object).object
      (world.history ++ (restorePass answers world.object).notes) := by
  apply restorePass_keeps
  · exact fun history completed => completed.concat nofun
  · exact fun _ _ remembered => remembered
  · exact known
  · intro copy draft history proceeds opened
    have current (fresh : draft.fresh) : world.object.upToDate :=
      opened.fresh.symm.trans fresh
    have full (fresh : draft.fresh) : ¬ draft.copy.status.Bare := by
      rcases opened.known.memory draft.copy (opened.faithful fresh) with completed | full
      · exact absurd (.inl (opened.status ▸ completed)) proceeds.unfinished
      · exact full
    have same : extents history = extents world.history := by
      rcases opened.recorded with rfl | rfl
      · rfl
      · rw [extents_concat]
        exact append_nil _
    apply leads_read_bind
    cases new : copy.status.isNew with
    | true =>
      rw [if_pos (opened.status ▸ new)]
      exact leads_new_reported attested proceeds current new opened.spec full same opened.known
    | false =>
      rw [if_neg (by rw [opened.status]; exact Bool.eq_false_iff.mp new)]
      refine leads_execute_reported attested proceeds current (fun validating issuing => ?_) full same
        opened.known
      refine ⟨issuing, ?_⟩
      rw [new, if_neg Bool.false_ne_true]
      exact opened.status ▸ validating

end Passes

/-! ## Runs -/

/-- In a run to which OpenSearch answers as required, `Completed` is stored only when every
shard of every restored index has been reported done. -/
theorem restore_completed_when_done (restore : Restore) (unreported : restore.status = {})
    (moves : List RestoreMove)
    (attested : Along (World.step restorePass) (OnPasses Attested) (World.begin restore) moves) :
    Throughout (World.step restorePass) (fun world => CompletedWhenDone world.history)
      (World.begin restore) moves := by
  refine throughout_of_passes reported_restorePass (World.begin restore) ?_ moves attested
  refine ⟨atEach_nil, fun resource found => .inr ?_⟩
  cases found
  rw [unreported]
  exact fun bare => nomatch bare.2

/-! ## Cases -/

def reportedDone (history : RestoreHistory) (shard : Shard) : Bool :=
  history.any fun
    | .call (.recovery _ report) => decide (report.Reports shard)
    | _ => false

def endsCompleted (history : RestoreHistory) : Bool :=
  match history.getLast? with
  | some (.status status) => status.phase = some .completed
  | _ => false

theorem CompletedWhenDone.done (completed : CompletedWhenDone history)
    (ends : endsCompleted history) (shard : Shard) (member : shard ∈ extents history) :
    reportedDone history shard = true := by
  rcases eq_nil_or_concat history with rfl | ⟨before, last, rfl⟩
  · exact nomatch member
  rw [concat_eq_append] at completed ends member ⊢
  rw [endsCompleted, getLast?_concat] at ends
  cases last with
  | metadata | call => exact nomatch ends
  | status status =>
    have covered := completed before (.status status) [] rfl status rfl (of_decide_eq_true ends)
    rw [extents_concat, mem_append] at member
    rcases member with member | none
    · rcases mem_flatMap.mp member with ⟨restore, recorded, covers⟩
      rcases append_of_mem recorded with ⟨front, after, rfl⟩
      rcases covered front restore after rfl shard covers with ⟨index, report, read, reports⟩
      refine any_eq_true.mpr ⟨.call (.recovery index report), ?_, decide_eq_true reports⟩
      simp [read]
    · exact nomatch none

namespace Sample

def alerts : String := "restored-wazuh-alerts-4.x-2025.01.04"

def olderAlerts : String := "restored-wazuh-alerts-4.x-2025.01.03"

/-- The report of the only shard of the first index. -/
def alertsIn (stage : String) : RecoveryReport := [(alerts, [{ id := 0, stage := stage }])]

def restoring : RestoreAnswers where
  extent := [(alerts, 0)]
  restoreSnapshot := .ok { indices := [alerts], total := 1 }
  recovery := .found (alertsIn "INDEX")

def restored : RestoreAnswers where
  restoreSnapshot := .error "not asked for"
  recovery := .found (alertsIn "DONE")

/-- OpenSearch answers `{"accepted": true}` to a restore which is not waited for. -/
def accepted : RestoreAnswers where
  extent := [(alerts, 0)]
  restoreSnapshot := .ok {}

def unreported : RestoreAnswers where
  extent := [(alerts, 0)]
  restoreSnapshot := .ok { indices := [alerts], total := 1 }
  recovery := .found []

def halfDone : RestoreAnswers where
  extent := [(alerts, 0), (olderAlerts, 0)]
  restoreSnapshot := .ok { indices := [alerts, olderAlerts], total := 2 }
  recovery := .found (alertsIn "DONE")

end Sample

open Sample

/-- A restore of one index whose shard is reported done before `Completed` is stored. -/
theorem restore_completed_when_done_documented :
    endsCompleted (run (World.step restorePass) (World.begin restore)
      [.pass restoring, .outside .restart, .pass restored]).history = true ∧
    Throughout (World.step restorePass) (fun world => CompletedWhenDone world.history)
      (World.begin restore) [.pass restoring, .outside .restart, .pass restored] := by
  refine ⟨by decide +kernel, restore_completed_when_done restore rfl _ ⟨?_, trivial, ?_, trivial⟩⟩
  · constructor
    · rintro copy result - - - ⟨⟩ absent -
      exact nomatch absent
    · rintro copy report - - ⟨⟩ done
      exact absurd done (by decide)
  · constructor
    · rintro copy result - - - ⟨⟩
    · rintro copy report - - ⟨⟩ -
      exact ⟨by decide +kernel, fun _ => nofun⟩

/-- `Completed` is stored after the reply that a restore was accepted, after an empty recovery
report, and when the first of two indices is done. -/
theorem restore_completed_too_early :
    ¬ CompletedWhenDone (run (World.step restorePass) (World.begin restore)
      [.pass accepted]).history ∧
    ¬ CompletedWhenDone (run (World.step restorePass) (World.begin restore)
      [.pass unreported]).history ∧
    ¬ CompletedWhenDone (run (World.step restorePass) (World.begin restore)
      [.pass halfDone]).history := by
  refine ⟨fun completed => ?_, fun completed => ?_, fun completed => ?_⟩
  · have done := completed.done (by decide +kernel) (alerts, 0) (by decide +kernel)
    exact absurd done (by decide +kernel)
  · have done := completed.done (by decide +kernel) (alerts, 0) (by decide +kernel)
    exact absurd done (by decide +kernel)
  · have done := completed.done (by decide +kernel) (olderAlerts, 0) (by decide +kernel)
    exact absurd done (by decide +kernel)

/-! ## The final status

A pass stops at a copy which has ended.  From an outdated copy it restores again, and none of its
status updates is accepted. -/

/-- From an outdated copy the procedure leaves the object as it is. -/
abbrev Inert (object : Feed (Option Restore)) (procedure : RestoreProc α) : Prop :=
  Keeps (fun draft => draft.fresh = false ∧ draft.object = object) (fun _ => True) procedure

theorem inert_updateRestoreStatus : Inert object (updateRestoreStatus answer phase message) := by
  refine keeps_read_bind fun _ _ => keeps_bind (keeps_modify fun _ => id) fun _ => ?_
  refine keeps_read_bind fun _ _ => keeps_read_bind fun draft outdated => ?_
  rw [outdated.1]
  exact keeps_fail _

theorem inert_checkpoint : Inert object (checkpoint answers point) := by
  unfold checkpoint
  split
  · exact keeps_fail _
  · exact keeps_pure _

theorem inert_validateRestore : Inert object (validateRestore answers) := by
  refine keeps_bind (keeps_attempt inert_updateRestoreStatus) fun _ => ?_
  refine keeps_bind inert_checkpoint fun _ => keeps_read_bind fun _ _ => ?_
  split
  · exact keeps_bind inert_updateRestoreStatus fun _ => keeps_pure _
  · refine keeps_bind (keeps_emit trivial) fun _ => ?_
    exact keeps_bind inert_checkpoint fun _ => keeps_pure _

theorem inert_startRestore : Inert object (startRestore answers) := by
  refine keeps_bind (keeps_modify fun _ => id) fun _ => ?_
  refine keeps_bind (keeps_attempt inert_updateRestoreStatus) fun _ => ?_
  refine keeps_bind inert_checkpoint fun _ => keeps_read_bind fun _ _ => ?_
  refine keeps_bind (keeps_emit trivial) fun _ => keeps_bind inert_checkpoint fun _ => ?_
  split
  · exact keeps_bind inert_updateRestoreStatus fun _ => keeps_pure _
  · exact keeps_bind (keeps_modify fun _ => id) fun _ => keeps_pure _

theorem inert_monitorRestoreProgress : Inert object (monitorRestoreProgress answers) := by
  refine keeps_read_bind fun _ _ => ?_
  split
  · split <;> exact inert_updateRestoreStatus
  · split
    · exact keeps_pure _
    · exact inert_updateRestoreStatus
    · refine keeps_bind (keeps_emit trivial) fun _ => ?_
      split <;> exact inert_updateRestoreStatus

theorem inert_executeRestore : Inert object (executeRestore answers) := by
  refine keeps_read_bind fun _ _ => ?_
  split
  · refine keeps_bind inert_startRestore fun _ => ?_
    split
    · exact inert_monitorRestoreProgress
    · exact keeps_pure _
  · exact inert_monitorRestoreProgress

theorem inert_carryOutRestore : Inert object (carryOutRestore answers) := by
  refine keeps_read_bind fun _ _ => ?_
  split
  · refine keeps_bind inert_validateRestore fun _ => ?_
    split
    · exact inert_executeRestore
    · exact keeps_pure _
  · exact inert_executeRestore

/-- The restore is gone or has this status. -/
abbrev Shows (status : RestoreStatus) (world : RestoreWorld) : Prop :=
  RemembersStatus (fun _ => True) (fun _ found => found = status) world.object world.history

theorem shows_restorePass (ended : status.phase = some .completed ∨ status.phase = some .failed)
    (world : RestoreWorld) (answers : RestoreAnswers) (shows : Shows status world) :
    Shows status (World.step restorePass world (.pass answers)) := by
  refine restorePass_keeps (fun _ _ => trivial) (fun _ _ same => same) shows ?_
  intro copy draft later proceeds opened
  -- A current copy would have ended as well.
  have outdated : draft.fresh = false := by
    refine Bool.eq_false_iff.mpr fun fresh => proceeds.unfinished ?_
    have same : copy.status = status := opened.status.symm.trans (opened.known.memory _ (opened.faithful fresh))
    exact same ▸ ended
  obtain ⟨-, kept⟩ := (@inert_carryOutRestore draft.object answers draft ⟨outdated, rfl⟩).1
  rw [Leads]
  exact ⟨trivial, fun found there => opened.known.memory found (kept ▸ there)⟩

/-- A stored `Completed` or `Failed` stays, whatever is answered and however late the cache is. -/
theorem ended_restore_unchanged (world : RestoreWorld) (restore : Restore)
    (stored : world.object.stored = some restore)
    (ended : restore.status.phase = some .completed ∨ restore.status.phase = some .failed)
    (moves : List RestoreMove) :
    Throughout (World.step restorePass) (fun later => ∀ found ∈ later.object.stored,
      found.status = restore.status) world moves := by
  have preserved : forall world move, Shows restore.status world -> True ->
      Shows restore.status (World.step restorePass world move) := by
    intro world move shows _
    cases move with
    | pass answers => exact shows_restorePass ended world answers shows
    | outside =>
      refine ⟨trivial, fun after found => ?_⟩
      rcases stored_happen found with ⟨before, there, same, -⟩
      exact same.trans (shows.memory before there)
  refine throughout_of_invariant preserved (fun _ shows => shows.memory) moves world ⟨trivial, ?_⟩
    (along_of_forall (fun _ _ _ => trivial) world)
  intro found there
  cases stored.symm.trans there
  rfl

/-- The restore has ended, and the cache still shows it as new. -/
def Sample.late : RestoreWorld where
  object := { shown := some { restore with finalizer := true },
              pending := [some { restore with status := { phase := some .failed } }] }

/-- The pass restores again, in vain. -/
theorem ended_restore_unchanged_late :
    (issued (run (World.step restorePass) late [.pass {}]).history).length = 1 ∧
      Throughout (World.step restorePass) (fun later => ∀ found ∈ later.object.stored,
        found.status = { phase := some .failed }) late [.pass {}] :=
  ⟨by decide +kernel, ended_restore_unchanged late _ rfl (.inr rfl) _⟩

end Snapshots
end WazuhOperator
