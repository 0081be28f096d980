import WazuhOperator.Library.Histories
import WazuhOperator.Snapshots.Manual

namespace WazuhOperator
namespace Snapshots

open Procedure Proc Drafts Histories Runs
open Jobs (Resource Fetched)

/-!
# Is a manual snapshot taken once?

What keeps the reconciler from requesting a second snapshot is that it finds
the first one: under the name in the status, in the repository of the
specification.  Neither the phase nor an earlier request is looked at.  A second
snapshot is requested where the name was not stored, where the copy with the
name has not reached the cache, where the first request did not take effect,
where the snapshot has been removed from the repository, and where the
specification names another repository since.
-/

/-! ## The property -/

def Note.requested : SnapshotNote -> Option (Place × String)
  | .call (.createSnapshot place name _ _) => some (place, name)
  | _ => none

def requested (history : SnapshotHistory) : List (Place × String) := history.filterMap Note.requested

def Note.completes : SnapshotNote -> Bool
  | .status report => report.phase = some .completed
  | _ => false

def reachedCompleted (history : SnapshotHistory) : Bool := history.any Note.completes

/-- At most one snapshot has been requested, and none after `Completed`. -/
def TakenOnce (history : SnapshotHistory) : Prop :=
  (requested history).length ≤ 1 ∧
    AtEach (fun before event => event.requested ≠ none -> reachedCompleted before = false) history

/-- A further request would break the property. -/
def Bound (history : SnapshotHistory) : Prop :=
  requested history ≠ [] ∨ reachedCompleted history = true

section Histories

variable {history : SnapshotHistory}

theorem requested_concat (history : SnapshotHistory) (event : SnapshotNote) :
    requested (history ++ [event]) = requested history ++ event.requested.toList := by
  rw [requested, requested, List.filterMap_append]
  cases found : event.requested with
  | none | some => simp [found]

theorem reachedCompleted_concat (history : SnapshotHistory) (event : SnapshotNote) :
    reachedCompleted (history ++ [event]) = (reachedCompleted history || event.completes) := by
  simp [reachedCompleted]

theorem contents_concat (history : SnapshotHistory) (event : SnapshotNote) :
    contents (history ++ [event]) = (contents history).after event := by
  simp [contents]

theorem TakenOnce.concat (once : TakenOnce history) (other : event.requested = none) :
    TakenOnce (history ++ [event]) := by
  refine ⟨?_, once.2.concat fun requests => absurd other requests⟩
  rw [requested_concat, other, Option.toList_none, List.append_nil]
  exact once.1

theorem TakenOnce.request (once : TakenOnce history) (free : ¬ Bound history) :
    TakenOnce (history ++ [event]) := by
  rcases not_or.mp free with ⟨unrequested, uncompleted⟩
  refine ⟨?_, once.2.concat fun _ => Bool.eq_false_iff.mpr uncompleted⟩
  rw [requested_concat, not_not.mp unrequested]
  cases event.requested with
  | none => exact Nat.zero_le 1
  | some => exact Nat.le_refl 1

theorem bound_concat (other : event.requested = none) (unfinished : event.completes = false) :
    Bound (history ++ [event]) <-> Bound history := by
  rw [Bound, Bound, requested_concat, reachedCompleted_concat, other, unfinished]
  simp

end Histories

/-! ## Runs -/

abbrev SnapshotWorld : Type := World SnapshotSpec SnapshotStatus SnapshotCall

/-- The moves of a run: a pass, something which happens to the resource, and a change of a
repository by OpenSearch or its users. -/
inductive SnapshotMove where
  | pass (answers : SnapshotAnswers)
  | outside (happening : Happening SnapshotSpec)
  | repository (place : Place) (name : String) (info : Option SnapshotInfo)

def snapshotStep (world : SnapshotWorld) : SnapshotMove -> SnapshotWorld
  | .pass answers =>
    let result := snapshotPass answers (contents world.history) world.object
    { object := result.object, history := world.history ++ result.notes }
  | .outside happening => { world with object := happen world.object happening }
  | .repository place name info =>
    { world with history := world.history ++ [.call (.changed place name info)] }

/-! ## The condition -/

/-- A pass which arrives at this copy requests a snapshot: it finds the repository and no snapshot
of its name in it. -/
structure Requests (store : Contents) (answers : SnapshotAnswers) (copy : ManualSnapshot) : Prop where
  client : answers.client = .ok ()
  repository : answers.repository = .found ()
  lookup : answers.lookup = none
  absent : store copy.spec.place (chosenName answers.timestamp copy) = none
  onward : answers.halt ≠ some .beforeRequest

/-- A pass which requests a snapshot does so from a current copy, stores the name, and the request
takes effect. -/
structure Prudent (world : SnapshotWorld) (answers : SnapshotAnswers) : Prop where
  current : world.object.upToDate = true
  recorded : answers.inProgress.applied = true
  effective : answers.create.applied = true

/-- What the moves of a run must meet.  Once a snapshot has been requested or reported complete, it
stays under its name in the repository of the specification. -/
def Tended (world : SnapshotWorld) : SnapshotMove -> Prop
  | .pass answers => forall copy, Arrives world.object answers.getSnapshot answers.addFinalizer copy ->
      Requests (contents world.history) answers copy -> Prudent world answers
  | .outside (.edit spec) => forall resource, world.object.stored = some resource ->
      Bound world.history -> contents world.history spec.place resource.status.snapshotName ≠ none
  | .outside _ => True
  | .repository place name info => forall resource, world.object.stored = some resource ->
      Bound world.history -> place = resource.spec.place -> name = resource.status.snapshotName ->
      info ≠ none

/-! ## Passes -/

/-- The name of the status leads to the snapshot which has been requested or reported complete. -/
def LeadsBack (history : SnapshotHistory) (snapshot : ManualSnapshot) : Prop :=
  Bound history -> snapshot.status.snapshotName ≠ "" ∧
    contents history snapshot.spec.place snapshot.status.snapshotName ≠ none

/-- What is known between moves. -/
abbrev Kept (object : Feed (Option ManualSnapshot)) (history : SnapshotHistory) : Prop :=
  Remembers TakenOnce LeadsBack object history

/-- What is known in the middle of a pass: the copy, if it can be stored, leads back as well. -/
structure Sound (draft : Draft ManualSnapshot) (history : SnapshotHistory) : Prop where
  kept : Kept draft.object history
  copy : draft.fresh = true -> LeadsBack history draft.copy

section Passes

variable {after : Draft ManualSnapshot}
variable {history : SnapshotHistory}

theorem Sound.edited {change : ManualSnapshot -> ManualSnapshot} (sound : Sound draft history)
    (spec : (change draft.copy).spec = draft.copy.spec)
    (name : (change draft.copy).status.snapshotName = draft.copy.status.snapshotName) :
    Sound { draft with copy := change draft.copy } history := by
  refine ⟨sound.kept, fun fresh bound => ?_⟩
  rw [spec, name]
  exact sound.copy fresh bound

theorem Sound.named (sound : Sound draft history) (timestamp : String) :
    Sound { draft with copy := named timestamp draft.copy } history := by
  refine ⟨sound.kept, fun fresh bound => ?_⟩
  have back := sound.copy fresh bound
  have chosen : chosenName timestamp draft.copy = draft.copy.status.snapshotName := if_neg back.1
  rw [Snapshots.named, chosen]
  exact back

theorem Sound.noted (sound : Sound draft history)
    (noted : Noted answer (snapshotReport draft.copy phase state message) draft history after later)
    (present : phase = .completed -> draft.copy.status.snapshotName ≠ "" ∧
      contents history draft.copy.spec.place draft.copy.status.snapshotName ≠ none) :
    Sound after later := by
  cases noted with
  | lost => exact ⟨sound.kept, sound.copy⟩
  | stored fresh =>
    have back : LeadsBack (history ++ [.status (snapshotReport draft.copy phase state message)])
        (withStatus draft (snapshotReport draft.copy phase state message)).copy := by
      intro bound
      rw [contents_concat]
      by_cases completed : phase = .completed
      · exact present completed
      · refine sound.copy fresh ((bound_concat rfl ?_).mp bound)
        exact decide_eq_false fun same => completed (Option.some.inj same)
    refine ⟨⟨sound.kept.past.concat rfl, fun resource found => ?_⟩, fun _ => back⟩
    rw [withStored, Draft.written, Feed.stored_write, Option.some.injEq] at found
    exact found ▸ back

theorem leads_updateStatus (each : forall result after later,
      Noted answer (snapshotReport draft.copy phase state message) draft history after later ->
      post result after later) :
    Leads post (updateStatus answer phase state message) history draft :=
  leads_read_bind (leads_putStatus each)

theorem leads_report (sound : Sound draft history)
    (present : phase = .completed -> draft.copy.status.snapshotName ≠ "" ∧
      contents history draft.copy.spec.place draft.copy.status.snapshotName ≠ none) :
    Leads (fun _ draft history => Kept draft.object history)
      (updateStatus answer phase state message) history draft :=
  leads_updateStatus fun _ _ _ noted => (sound.noted noted present).kept

theorem leads_haltPoint_bind
    (stopped : answers.halt = some point -> post (.error "interrupted") draft history)
    (goesOn : answers.halt ≠ some point -> Leads post (next ()) history draft) :
    Leads post (haltPoint answers point >>= next) history draft := by
  apply leads_bind
  rw [haltPoint]
  split
  · exact leads_fail (stopped ‹_›)
  · exact leads_pure (goesOn ‹_›)

theorem leads_poll (sound : Sound draft history) (present : entry ≠ none ->
      contents history draft.copy.spec.place draft.copy.status.snapshotName ≠ none) :
    Leads (fun _ draft history => Kept draft.object history)
      (updateSnapshotStatus answers entry) history draft := by
  apply leads_read_bind
  by_cases unnamed : draft.copy.status.snapshotName = ""
  · rw [if_pos unnamed]
    exact leads_fail sound.kept
  · rw [if_neg unnamed]
    cases answers.poll with
    | some text => exact leads_report sound nofun
    | none =>
      cases entry with
      | none => exact leads_report sound nofun
      | some info =>
        apply leads_edit_bind
        refine leads_report (sound.edited rfl rfl) fun _ => ⟨unnamed, ?_⟩
        exact present (Option.some_ne_none info)

theorem leads_createSnapshot (sound : Sound draft history) (nameGiven : draft.copy.status.snapshotName ≠ "")
    (free : draft.fresh -> ¬ Bound history)
    (prudent : answers.halt ≠ some .beforeRequest ->
      draft.fresh ∧ answers.inProgress.applied ∧ answers.create.applied) :
    Leads (fun _ draft history => Kept draft.object history) (createSnapshot answers) history draft := by
  apply leads_edit_bind
  apply leads_attempt_bind
  apply leads_updateStatus
  intro _ started later noted
  have timed : Sound { draft with copy := startedAt answers.startedAt draft.copy } history :=
    sound.edited rfl rfl
  have going : Sound started later := timed.noted noted nofun
  refine leads_haltPoint_bind (fun _ => going.kept) fun onward => ?_
  rcases prudent onward with ⟨fresh, recorded, effective⟩
  have unbound : ¬ Bound later := by
    cases noted with
    | lost => exact free fresh
    | stored => exact fun bound => free fresh ((bound_concat rfl rfl).mp bound)
  have stored : started.object.stored = some started.copy := by
    cases noted with
    | lost lost => exact nomatch recorded.symm.trans (lost fresh)
    | stored => exact Feed.stored_write _ _
  have name : started.copy.status.snapshotName = draft.copy.status.snapshotName := by
    rw [noted.copy]
    rfl
  have back : LeadsBack (later ++ [.call (.createSnapshot started.copy.spec.place
      started.copy.status.snapshotName started.copy.spec.indices started.copy.spec.includeGlobalState)] ++
      [.call (.changed started.copy.spec.place started.copy.status.snapshotName answers.created)])
      started.copy := by
    intro _
    rw [contents_concat]
    exact ⟨name ▸ nameGiven, by simp [Contents.after]⟩
  have requested : Sound started _ :=
    ⟨⟨(going.kept.past.request unbound).concat rfl, by rw [stored]; rintro _ ⟨⟩; exact back⟩, fun _ => back⟩
  apply leads_bind
  apply leads_read_bind
  apply leads_emit_bind
  rw [if_pos effective]
  apply leads_emit
  refine leads_haltPoint_bind (fun _ => requested.kept) fun _ => ?_
  cases answers.create.toExcept with
  | error text => exact leads_report requested nofun
  | ok =>
    refine leads_poll requested fun _ => ?_
    rw [contents_concat]
    simp [Contents.after]

variable {world : SnapshotWorld} {copy : ManualSnapshot}

theorem chosenName_ne_empty (timestamp : String) (snapshot : ManualSnapshot) :
    chosenName timestamp snapshot ≠ "" := by
  rw [chosenName]
  split
  · intro empty
    have lengths := congrArg String.length empty
    simp [generateSnapshotName] at lengths
  · assumption

theorem leads_takeSnapshot
    (tended : Requests (contents world.history) answers copy -> Prudent world answers)
    (client : answers.client = .ok ())
    (opened : Opened TakenOnce LeadsBack (desk world.object copy) draft world.history history) :
    Leads (fun _ draft history => Kept draft.object history)
      (takeSnapshot answers (contents world.history)) history draft := by
  have sound : Sound draft history :=
    ⟨opened.known, fun fresh => opened.known.memory draft.copy (opened.faithful fresh)⟩
  have same : contents history = contents world.history := by
    rcases opened.recorded with rfl | rfl
    · rfl
    · rw [contents_concat]
      rfl
  have chosen : chosenName answers.timestamp draft.copy = chosenName answers.timestamp copy := by
    rw [chosenName, chosenName, opened.status, opened.name]
    rfl
  apply leads_read_bind
  cases repository : answers.repository with
  | failed text | notFound => exact leads_report sound nofun
  | found there =>
    apply leads_edit_bind
    have named := sound.named answers.timestamp
    cases lookup : answers.lookup with
    | some text => exact leads_report named nofun
    | none =>
      cases entry : contents world.history draft.copy.spec.place (chosenName answers.timestamp draft.copy) with
      | some =>
        refine leads_poll named fun _ => ?_
        rw [same]
        exact fun absent => nomatch entry.symm.trans absent
      | none =>
        refine leads_createSnapshot named (chosenName_ne_empty _ _) (fun fresh bound => ?_) fun onward => ?_
        · have back := named.copy fresh bound
          rw [same] at back
          exact back.2 entry
        · have prudent := tended ⟨client, repository, lookup, ?_, onward⟩
          · exact ⟨opened.fresh.trans prudent.current, prudent.recorded, prudent.effective⟩
          · rw [<- chosen]
            exact opened.spec ▸ entry

theorem kept_snapshotPass (world : SnapshotWorld) (answers : SnapshotAnswers)
    (kept : Kept world.object world.history) (tended : Tended world (.pass answers)) :
    Kept (snapshotPass answers (contents world.history) world.object).object
      (world.history ++ (snapshotPass answers (contents world.history) world.object).notes) := by
  refine runPass_keeps (fun _ once => once.concat rfl) ?_ rfl kept fun copy draft later arrives opened => ?_
  · intro history resource back bound
    rw [contents_concat]
    exact back ((bound_concat rfl rfl).mp bound)
  · apply leads_bind
    apply leads_mapError
    apply leads_ofExcept
    cases client : answers.client with
    | error => exact opened.known
    | ok => exact leads_takeSnapshot (tended copy arrives) client opened

end Passes

/-! ## Whole runs -/

theorem kept_step (world : SnapshotWorld) (move : SnapshotMove) (kept : Kept world.object world.history)
    (tended : Tended world move) :
    Kept (snapshotStep world move).object (snapshotStep world move).history := by
  cases move with
  | pass answers => exact kept_snapshotPass world answers kept tended
  | outside =>
    refine ⟨kept.past, fun after found bound => ?_⟩
    rcases stored_happen found with ⟨before, stored, status, spec⟩
    have back := kept.memory before stored bound
    rw [status]
    refine ⟨back.1, ?_⟩
    rcases spec with same | rfl
    · rw [same]
      exact back.2
    · exact tended before stored bound
  | repository place name info =>
    refine ⟨kept.past.concat rfl, fun resource found bound => ?_⟩
    have bound := (bound_concat rfl rfl).mp bound
    have back := kept.memory resource found bound
    refine ⟨back.1, ?_⟩
    show contents (world.history ++ [.call (.changed place name info)]) _ _ ≠ none
    simp only [contents_concat, Contents.after]
    split
    · exact tended resource found bound (by simp_all) (by simp_all)
    · exact back.2

/-- In a run which is tended at most one snapshot is requested, and none after `Completed`. -/
theorem snapshot_taken_once (snapshot : ManualSnapshot) (moves : List SnapshotMove)
    (tended : Along snapshotStep Tended (World.begin snapshot) moves) :
    Throughout snapshotStep (fun world => TakenOnce world.history) (World.begin snapshot) moves := by
  refine throughout_of_invariant kept_step (fun _ kept => kept.past) moves _ ?_ tended
  refine ⟨⟨Nat.zero_le 1, atEach_nil⟩, fun _ _ bound => ?_⟩
  rcases bound with requests | completed
  · exact absurd rfl requests
  · exact nomatch completed

/-! ## Cases -/

namespace Sample

def snapshot : ManualSnapshot where
  name := "pre-upgrade"
  spec :=
    { clusterRef := { name := "wazuh-cluster" }
      repository := "minio-backups"
      indices := ["wazuh-alerts-*", "wazuh-archives-*", "wazuh-monitoring-*"] }
  status := {}

/-- Its repository, and the name which a pass gives it. -/
def place : Place := snapshot.spec.place

def snapshotName : String := "pre-upgrade-20250105-143022"

/-- OpenSearch finishes the snapshot; the operator is started again and reads its state. -/
def finished : List SnapshotMove :=
  [.pass {}, .repository place snapshotName (some { state := "SUCCESS" }), .outside .restart, .pass {}]

/-- No status update gets through. -/
def nameless : SnapshotAnswers where
  inProgress := .refused "etcdserver: request timed out"
  conclude := .refused "etcdserver: request timed out"

end Sample

open Sample

/-- The documented snapshot is requested once and comes to `Completed`. -/
theorem snapshot_taken_once_documented :
    (requested (run snapshotStep (World.begin snapshot) finished).history =
      [(place, snapshotName)] ∧
      reachedCompleted (run snapshotStep (World.begin snapshot) finished).history = true) ∧
    Throughout snapshotStep (fun world => TakenOnce world.history) (World.begin snapshot)
      finished := by
  refine ⟨by decide +kernel, snapshot_taken_once snapshot finished ⟨?_, ?_, trivial, ?_, trivial⟩⟩
  · exact fun _ _ _ => ⟨rfl, rfl, rfl⟩
  · exact fun _ _ _ _ _ => Option.some_ne_none _
  · -- The last pass finds the snapshot and requests nothing.
    intro copy arrives requests
    have kept : ∀ copy ∈ (run snapshotStep (World.begin snapshot) (finished.take 3)).object.shown,
        contents (run snapshotStep (World.begin snapshot) (finished.take 3)).history
          copy.spec.place (chosenName "20250105-143022" copy) ≠ none := by
      decide +kernel
    exact absurd requests.absent (kept copy arrives.shown)

/-- The name is lost with the status updates of the first pass, and a second snapshot is requested
a minute later.  And after `Completed` the snapshot is requested again when it has been removed
from the repository. -/
theorem snapshot_taken_again : ¬ TakenOnce (run snapshotStep (World.begin snapshot)
      [.pass nameless, .outside .restart, .pass { timestamp := "20250105-143122" }]).history ∧
    reachedCompleted (run snapshotStep (World.begin snapshot) finished).history = true ∧
    ¬ TakenOnce (run snapshotStep (World.begin snapshot) (finished ++
      [.outside .restart, .repository place snapshotName none, .pass {}])).history := by
  refine ⟨fun once => ?_, by decide +kernel, fun once => ?_⟩
  · exact absurd once.1 (by decide +kernel)
  · exact absurd once.1 (by decide +kernel)

end Snapshots
end WazuhOperator
