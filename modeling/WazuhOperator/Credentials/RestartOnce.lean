import WazuhOperator.Credentials.ManagerRollout

namespace WazuhOperator
namespace ManagerCredentials

open Procedure Proc Runs World Desk Deployed
open Credentials (SecretData)
open Reporting (ClusterStatus StatusAnswers StatusStep)

/-!
# Restarts after a change of the managers' credentials

A workload whose pods were started under other credentials than the present
ones has to be restarted: its pod template is changed once, before the hash of
the present ones is on record.  Whether a pass does this depends on what it
compares the present hash with.  A hash on record which is empty, or already
the present one, restarts nothing; nor does a pod template which carries the
present hash from an earlier time.

The condition below says that neither happens to a workload which has to be
restarted.  It is a condition on the state before each move, and it is exact
for the passes.
-/

/-! ## What is asked of a pass, and when it is met -/

def Deployed.Outdated (deployed : Deployed) (kind : Kind) (values : List String) : Prop :=
  deployed.started kind ≠ none ∧ deployed.started kind ≠ some values
  deriving Decidable

namespace World

variable (digest : Digest)

def targets (world : World) (kind : Kind) : List Consumer :=
  (world.manager.map (dependents · kind)).getD []

def hash (world : World) (kind : Kind) : String := digest.hashStrings (world.values kind)

/-- A pass changes the pod template of a workload which was started under other values at most once
for the present values, and exactly once before their hash is on record. -/
def RestartedOnce (world : World) : Move -> Prop
  | .pass answers =>
    forall kind, world.values kind ≠ [] -> ∀ consumer ∈ world.targets kind,
      ∀ deployed ∈ world.workloads consumer, deployed.Outdated kind (world.values kind) ->
        (world.pass digest answers).told kind consumer ≤ 1 ∧
          (recorded kind (world.pass digest answers).stored = world.hash digest kind ->
            (world.pass digest answers).told kind consumer = 1)
  | _ => True

/-- There is no hash on record, or that of the present values. -/
def Settled (world : World) (kind : Kind) (status : ClusterStatus) : Prop :=
  recorded kind status = "" ∨ recorded kind status = world.hash digest kind

/-- The workloads which were started under other values carry the hash of the present ones. -/
def Carried (world : World) (kind : Kind) (workloads : Consumer -> Option Deployed) : Prop :=
  ∀ consumer ∈ world.targets kind, ∀ deployed ∈ workloads consumer,
    deployed.Outdated kind (world.values kind) -> deployed.annotated kind = world.hash digest kind

/-- Before a pass: where no hash is on record, or already the present one, the workloads which were
started under other values carry the present one. -/
def InTime (world : World) : Prop :=
  forall kind, world.values kind ≠ [] -> world.Settled digest kind world.stored ->
    world.Carried digest kind world.workloads

/-- No workload which was started under other values carries the hash of new values from before. -/
def NewHash (world : World) (latest : Kind -> List String) : Prop :=
  forall kind, world.values kind ≠ [] -> world.values kind ≠ latest kind ->
    forall consumer, ∀ deployed ∈ world.workloads consumer,
      deployed.Outdated kind (world.values kind) -> deployed.annotated kind ≠ world.hash digest kind

def Timely (world : World) : Move -> Prop
  | .pass _ => world.InTime digest
  | .secret name data => (world.step digest (.secret name data)).NewHash digest world.latest
  | .respec manager => (world.step digest (.respec manager)).NewHash digest world.latest
  | .rewrite consumer template =>
    forall kind, ∀ deployed ∈ world.workloads consumer, deployed.Outdated kind (world.latest kind) ->
      ∀ written ∈ template, written.replicas ≠ some 0 ->
        (written.annotated kind = digest.hashStrings (world.latest kind) <->
          deployed.annotated kind = digest.hashStrings (world.latest kind))
  | .start _ => True

end World

/-! ## One restart -/

/-- The counts of a workload which was started under other values: one where it carries the hash. -/
def Counted (digest : Digest) (latest : Kind -> List String) (workloads : Consumer -> Option Deployed)
    (told : Kind -> Consumer -> Nat) : Prop :=
  forall kind consumer, ∀ deployed ∈ workloads consumer, deployed.Outdated kind (latest kind) ->
    told kind consumer = if deployed.annotated kind = digest.hashStrings (latest kind) then 1 else 0

variable {desk : Desk}

section Restarts

variable {digest : Digest} {answers : RolloutAnswers} {kind : Kind} {hash : String} {consumer : Consumer}

theorem triggerRestartWithHash_keeps
    (marked : forall desk, ∀ deployed ∈ desk.workloads consumer, inv desk ->
      deployed.annotated kind ≠ hash -> inv (desk.mark kind hash consumer)) :
    Keeps inv (fun _ => True) (triggerRestartWithHash answers kind hash consumer) := by
  refine keeps_bind (keeps_ofExcept _) fun _ desk holds => ?_
  cases found : desk.workloads consumer with
  | none => simpa [found] using holds
  | some deployed =>
    by_cases idle : deployed.replicas = some 0
    · simpa [found, idle] using holds
    · by_cases same : deployed.annotated kind = hash
      · simpa [found, idle, same] using holds
      · have changed := marked desk deployed found holds same
        cases applied : (answers.update kind consumer).applied with
        | true => simpa [found, idle, same, applied] using changed
        | false => simpa [found, idle, same, applied] using holds

/-- After a restart which has not failed the workload carries the hash, if it has replicas. -/
def Carries (kind : Kind) (hash : String) (consumer : Consumer) (desk : Desk) : Prop :=
  ∀ deployed ∈ desk.workloads consumer, deployed.replicas ≠ some 0 -> deployed.annotated kind = hash

theorem Desk.mark_self {deployed : Deployed} (found : desk.workloads consumer = some deployed) :
    (desk.mark kind hash consumer).workloads consumer = some (deployed.annotate kind hash) := by
  simp [mark, found]

theorem Desk.mark_of_ne (desk : Desk) (different : other ≠ consumer) :
    (desk.mark kind hash consumer).workloads other = desk.workloads other :=
  if_neg different

theorem carries_mark_self (desk : Desk) : Carries kind hash consumer (desk.mark kind hash consumer) := by
  intro deployed found _
  cases before : desk.workloads consumer with
  | none => simp [mark, before] at found
  | some old =>
    rw [mark_self before] at found
    cases found
    exact old.annotate_self kind hash

theorem carries_mark (other : Consumer) (carries : Carries kind hash other desk) :
    Carries kind hash other (desk.mark kind hash consumer) := by
  by_cases same : other = consumer
  · rw [same]
    exact carries_mark_self desk
  · intro deployed found
    rw [desk.mark_of_ne same] at found
    exact carries deployed found

theorem triggerRestartWithHash_carries :
    Ensures (fun _ => True) (fun _ => Carries kind hash consumer)
      (triggerRestartWithHash answers kind hash consumer) := by
  refine ensures_bind (fun _ _ => True) (ensures_ofExcept fun _ _ _ _ => trivial) fun _ => ?_
  refine ensures_read_bind fun desk _ => ?_
  cases found : desk.workloads consumer with
  | none =>
    refine ensures_pure ?_
    rintro _ rfl deployed present
    rw [found] at present
    cases present
  | some deployed =>
    have here : forall other, other ∈ desk.workloads consumer -> other = deployed := by
      intro other present
      rw [found] at present
      exact (Option.some.inj present).symm
    dsimp only
    split
    · next idle =>
        refine ensures_pure ?_
        rintro _ rfl other present running
        rw [here other present] at running
        exact absurd idle running
    · split
      · next same =>
          refine ensures_pure ?_
          rintro _ rfl other present _
          rw [here other present]
          exact same
      · split
        · intro state _ value returned
          exact carries_mark_self state
        · next refused =>
            refine ensures_ofExcept fun value state accepted => ?_
            cases answer : answers.update kind consumer with
            | accepted => exact absurd (by rw [answer]; rfl) refused
            | unacknowledged | refused => rw [answer] at accepted; cases accepted

theorem restartAll_carries (answers : RolloutAnswers) (kind : Kind) (hash : String)
    (consumers : List Consumer) :
    Ensures (fun _ => True) (fun _ desk => ∀ consumer ∈ consumers, Carries kind hash consumer desk)
      (restartAll answers kind hash consumers) := by
  have one : forall done item,
      Ensures (fun desk => ∀ consumer ∈ done, Carries kind hash consumer desk)
        (fun _ desk => ∀ consumer ∈ item :: done, Carries kind hash consumer desk)
        (mapError (kind.restartError item) (triggerRestartWithHash answers kind hash item)) := by
    intro done item
    refine ensures_mapError fun desk earlier value returned => ?_
    have kept : Keeps (fun desk => ∀ consumer ∈ done, Carries kind hash consumer desk) (fun _ => True)
        (triggerRestartWithHash answers kind hash item) :=
      triggerRestartWithHash_keeps fun _ _ _ carried _ consumer member =>
        carries_mark consumer (carried consumer member)
    rw [List.forall_mem_cons]
    exact ⟨triggerRestartWithHash_carries desk trivial value returned, (kept desk earlier).1⟩
  have looped := ensures_forEach
    (fun done desk => ∀ consumer ∈ done, Carries kind hash consumer desk) one consumers []
  intro desk _ value returned consumer member
  exact looped desk (fun _ nothing => absurd nothing List.not_mem_nil) value returned consumer (by simpa using member)

end Restarts

/-! ## A pass -/

structure Kept (digest : Digest) (world : World) (desk : Desk) : Prop where
  pods : forall consumer,
    (desk.workloads consumer).map started = (world.workloads consumer).map started
  counted : Counted digest world.latest desk.workloads desk.told
  carried : forall kind, world.values kind ≠ [] ->
    world.Settled digest kind desk.working ∨ world.Settled digest kind world.stored ->
      world.Carried digest kind desk.workloads

variable {deployed : Deployed} {consumer : Consumer}

theorem mark_cases {kind : Kind} {hash : String}
    (found : deployed ∈ (desk.mark kind hash consumer).workloads other) :
    (other ≠ consumer ∧ deployed ∈ desk.workloads other) ∨
      (other = consumer ∧ ∃ old ∈ desk.workloads consumer, deployed = old.annotate kind hash) := by
  by_cases same : other = consumer
  · right
    rw [same] at found
    cases before : desk.workloads consumer with
    | none => simp [mark, before] at found
    | some old =>
      rw [mark_self before] at found
      exact ⟨same, old, rfl, (Option.some.inj found).symm⟩
  · rw [desk.mark_of_ne same] at found
    exact .inl ⟨same, found⟩

section Pass

variable {digest : Digest} {world : World} {answers : RolloutAnswers} {kind : Kind} {desk : Desk}

variable {latest : Kind -> List String}

theorem counted_mark (counted : Counted digest latest desk.workloads desk.told)
    (found : marked ∈ desk.workloads consumer)
    (without : marked.annotated kind ≠ digest.hashStrings (latest kind)) :
    Counted digest latest (desk.mark kind (digest.hashStrings (latest kind)) consumer).workloads
      (desk.mark kind (digest.hashStrings (latest kind)) consumer).told := by
  intro otherKind other deployed present outdated
  rcases mark_cases present with ⟨different, before⟩ | ⟨rfl, old, before, rfl⟩
  · have same : (desk.mark kind (digest.hashStrings (latest kind)) consumer).told otherKind other =
        desk.told otherKind other := if_neg fun both => different both.2
    rw [same]
    exact counted otherKind other deployed before outdated
  · have known := counted otherKind other old before outdated
    by_cases same : otherKind = kind
    · rw [Option.mem_unique before found, same, if_neg without] at known
      rw [same, old.annotate_self, if_pos rfl]
      simp [mark, known]
    · rw [old.annotate_of_ne same, ← known]
      exact if_neg fun both => same both.1

theorem carried_mark (otherKind : Kind) (consumer : Consumer)
    (carried : world.Carried digest otherKind desk.workloads) :
    world.Carried digest otherKind (desk.mark kind (world.hash digest kind) consumer).workloads := by
  intro other target deployed present outdated
  rcases mark_cases present with ⟨_, before⟩ | ⟨rfl, old, before, rfl⟩
  · exact carried other target deployed before outdated
  · by_cases same : otherKind = kind
    · rw [same]
      exact old.annotate_self kind _
    · rw [old.annotate_of_ne same]
      exact carried other target old before outdated

theorem started_mark (hash : String) (consumer other : Consumer) :
    ((desk.mark kind hash consumer).workloads other).map started =
      (desk.workloads other).map started := by
  by_cases same : other = consumer
  · rw [same, mark]
    cases desk.workloads consumer <;> simp [annotate]
  · rw [desk.mark_of_ne same]

theorem Kept.record (kept : Kept digest world desk) (hash : String)
    (carried : world.values kind ≠ [] -> world.Carried digest kind desk.workloads) :
    Kept digest world (desk.record kind hash) := by
  refine ⟨kept.pods, kept.counted, fun otherKind present settled => ?_⟩
  by_cases same : otherKind = kind
  · subst same
    exact carried present
  · refine kept.carried otherKind present ?_
    rw [Desk.record, Settled, recorded_record_of_ne same] at settled
    exact settled

theorem restartAll_keeps (current : world.latest kind = world.values kind) (consumers : List Consumer) :
    Keeps (Kept digest world) (fun _ => True)
      (restartAll answers kind (world.hash digest kind) consumers) := by
  refine keeps_forEach fun consumer _ => keeps_mapError ?_
  refine triggerRestartWithHash_keeps fun desk deployed found kept without => ?_
  refine ⟨?_, ?_, fun otherKind present settled => ?_⟩
  · exact fun other => (started_mark _ consumer other).trans (kept.pods other)
  · rw [World.hash, ← current] at without ⊢
    exact counted_mark kept.counted found without
  · exact carried_mark otherKind consumer (kept.carried otherKind present settled)

theorem Deployed.Outdated.running {values : List String} (outdated : deployed.Outdated kind values)
    : deployed.replicas ≠ some 0 :=
  fun zero => outdated.1 (deployed.idle zero kind)

theorem rollOut_keeps (present : world.values kind ≠ []) (current : world.latest kind = world.values kind) :
    Keeps (Kept digest world) (fun _ => True)
      (rollOut answers kind (world.hash digest kind) (world.targets kind)) := by
  intro desk kept
  rw [rollOut, bind_apply, read_apply]
  dsimp only
  split
  · exact ⟨kept, nofun⟩
  · split
    · next first =>
        exact ⟨kept.record _ fun _ => kept.carried kind present (.inl (.inl first)), nofun⟩
    · have later : Kept digest world
          (restartAll answers kind (world.hash digest kind) (world.targets kind) desk).state :=
        (restartAll_keeps current (world.targets kind) desk kept).1
      have carries := restartAll_carries answers kind (world.hash digest kind) (world.targets kind)
        desk trivial ()
      rw [bind_apply]
      rcases ran : restartAll answers kind (world.hash digest kind) (world.targets kind) desk with
        ⟨result, after, log⟩
      rw [ran] at later carries
      cases result with
      | error text => exact ⟨later, fun _ _ => trivial⟩
      | ok done =>
        refine ⟨later.record _ fun _ consumer target deployed found outdated => ?_, fun _ _ => trivial⟩
        exact carries rfl consumer target deployed found outdated.running

variable {manager : ManagerSpec}

theorem readValues_apply (answers : RolloutAnswers) (spec : world.manager = some manager) (kind : Kind)
    (desk : Desk) :
    ∃ result, readValues answers world.clusterName manager world.secrets kind desk = ⟨result, desk, []⟩ ∧
      forall values, result = .ok (.found values) -> values = world.values kind := by
  cases configured : source world.clusterName manager kind with
  | none =>
    refine ⟨.ok (.found []), by simp [readValues, configured], ?_⟩
    simp [values, spec, configured]
  | some source =>
    cases read : answers.secret kind with
    | error text =>
      exact ⟨.error (kind.hashError text), by simp [readValues, configured, read], fun _ => nofun⟩
    | ok =>
      cases stored : world.secrets source.secretName with
      | none =>
        exact ⟨.ok .notFound, by simp [readValues, configured, read, stored],
          fun _ found => nomatch found⟩
      | some data =>
        refine ⟨.ok (.found (source.values data)),
          by simp [readValues, configured, read, stored], ?_⟩
        simp [values, spec, configured, stored]

/-- The procedure of a kind of credentials.  Without values, only the one for authd does anything. -/
def reconcileKind (digest : Digest) (answers : RolloutAnswers) (clusterName : String) (manager : ManagerSpec)
    (secrets : String -> Option SecretData) (kind : Kind) : Proc Desk Empty Unit := do
  match ← readValues answers clusterName manager secrets kind, kind with
  | .found (value :: rest), _ =>
    rollOut answers kind (digest.hashStrings (value :: rest)) (dependents manager kind)
  | .found [], .authd => modify fun desk => desk.record .authd ""
  | _, _ => return ()

theorem reconcileAPICredentials_eq (clusterName : String) (secrets : String -> Option SecretData) :
    reconcileAPICredentials digest answers clusterName manager secrets =
      reconcileKind digest answers clusterName manager secrets .api := by
  refine congrArg (readValues answers clusterName manager secrets .api >>= ·) (funext fun fetched => ?_)
  rcases fetched with (_ | ⟨value, rest⟩) | _ <;> rfl

theorem reconcileAuthdCredentials_eq (clusterName : String) (secrets : String -> Option SecretData) :
    reconcileAuthdCredentials digest answers clusterName manager secrets =
      reconcileKind digest answers clusterName manager secrets .authd := by
  refine congrArg (readValues answers clusterName manager secrets .authd >>= ·) (funext fun fetched => ?_)
  rcases fetched with (_ | ⟨value, rest⟩) | _ <;> rfl

theorem reconcileKind_keeps (spec : world.manager = some manager)
    (current : forall kind, world.values kind ≠ [] -> world.latest kind = world.values kind) (kind : Kind) :
    Keeps (Kept digest world) (fun _ => True)
      (reconcileKind digest answers world.clusterName manager world.secrets kind) := by
  intro desk kept
  rcases readValues_apply answers spec kind desk with ⟨result, ran, known⟩
  rw [reconcileKind, bind_apply, ran]
  cases result with
  | error text => exact ⟨kept, nofun⟩
  | ok fetched =>
    dsimp only
    split
    · next value rest =>
        have read := known _ rfl
        have present : world.values kind ≠ [] := read ▸ List.cons_ne_nil _ _
        have targets : dependents manager kind = world.targets kind := by
          rw [targets, spec, Option.map_some, Option.getD_some]
        rw [read, targets]
        exact rollOut_keeps present (current kind present) desk kept
    · exact ⟨kept.record "" (absurd (known _ rfl).symm ·), nofun⟩
    · exact ⟨kept, nofun⟩

theorem reconcileCredentials_keeps
    (current : forall kind, world.values kind ≠ [] -> world.latest kind = world.values kind) :
    Keeps (Kept digest world) (fun _ => True)
      (reconcileCredentials digest answers world.clusterName world.manager world.secrets) := by
  cases spec : world.manager with
  | none => exact keeps_pure _
  | some =>
    rw [reconcileCredentials, reconcileAPICredentials_eq, reconcileAuthdCredentials_eq]
    exact keeps_bind (reconcileKind_keeps spec current .api) fun _ =>
      reconcileKind_keeps spec current .authd

theorem recorded_apply {step : StatusStep} (other : isRollout step = false) (kind : Kind)
    (status : ClusterStatus) : recorded kind (step.apply status) = recorded kind status := by
  cases recording : Credentials.recordsHash step with
  | false =>
    have same := Credentials.hashesOf_apply recording status
    cases kind with
    | api => exact congrArg (fun hashes => hashes.2.1) same
    | authd => exact congrArg (fun hashes => hashes.2.2) same
  | true =>
    cases step with
    | credentialsSync applied => cases applied <;> cases kind <;> rfl
    | apiCredentials | authdCredentials => cases other
    | _ => cases recording

theorem recorded_otherSteps (kind : Kind) (steps : List StatusStep) (status : ClusterStatus) :
    recorded kind (otherSteps steps status) = recorded kind status := by
  refine @Runs.run_of_step _ _ StatusStep.apply (fun first last => recorded kind last = recorded kind first) _
    (fun _ => rfl) (fun first state step member same => ?_) status
  have other : isRollout step = false := by simpa using (List.mem_filter.mp member).2
  exact (recorded_apply other kind state).trans same

theorem recorded_of_security (same : first.security = second.security)
    (kind : Kind) : recorded kind first = recorded kind second := by
  cases kind <;> simp only [recorded, same]

structure World.Sound (digest : Digest) (world : World) : Prop where
  current : forall kind, world.values kind ≠ [] -> world.latest kind = world.values kind
  counted : Counted digest world.latest world.workloads world.told

/-- A pass ends as the two procedures do, with the hash of its working copy or the old one. -/
structure EndsAs (digest : Digest) (world after : World) (desk : Desk) : Prop where
  kept : Kept digest world desk
  workloads : after.workloads = desk.workloads
  told : after.told = desk.told
  stored : forall kind, recorded kind after.stored = recorded kind desk.working ∨
    recorded kind after.stored = recorded kind world.stored
  latest : after.latest = world.latest
  values : after.values = world.values

variable (sound : world.Sound digest)
include sound

variable (inTime : world.InTime digest)
include inTime

theorem World.Sound.begins (answers : PassAnswers) :
    Kept digest world (world.desk answers) where
  pods := fun _ => rfl
  counted := sound.counted
  carried := by
    intro kind present settled
    refine inTime kind present ?_
    rcases settled with settled | settled
    · rw [Settled, desk, recorded_otherSteps] at settled
      exact settled
    · exact settled

theorem endsAs_pass (answers : PassAnswers) :
    ∃ desk, EndsAs digest world (world.pass digest answers) desk := by
  have begun := sound.begins inTime answers
  have ended : Kept digest world (reconcileCredentials digest answers.rollouts world.clusterName
      world.manager world.secrets (world.desk answers)).state :=
    (reconcileCredentials_keeps sound.current _ begun).1
  rw [World.pass]
  cases answers.before with
  | error =>
    exact ⟨world.desk answers, begun, rfl, rfl, fun _ => .inr rfl, rfl, rfl⟩
  | ok =>
    dsimp only
    split
    · refine ⟨_, ended, rfl, rfl, fun kind => ?_, rfl, rfl⟩
      -- The hash after the last write is that of the working copy or the old one.
      by_cases persists : answers.status.Persists
      · left
        rw [Reporting.updateStatus_of_persists persists,
          recorded_of_security (Credentials.nextStatus_security _ _ _), recorded_otherSteps]
      · rcases Reporting.updateStatus_of_not_persists persists _ _ with ⟨text, ran⟩
        rw [ran]
        exact .inr rfl
    · exact ⟨_, ended, rfl, rfl, fun _ => .inr rfl, rfl, rfl⟩

theorem restartedOnce_pass (answers : PassAnswers) :
    world.RestartedOnce digest (.pass answers) := by
  intro kind present consumer target deployed found outdated
  rcases endsAs_pass sound inTime answers with ⟨desk, ends⟩
  -- The same pods are running after the pass.
  have pods := ends.kept.pods consumer
  rw [Option.mem_def.mp found, Option.map_some, Option.map_eq_some_iff] at pods
  rcases pods with ⟨after, foundAfter, same⟩
  have still : after.Outdated kind (world.values kind) := by
    rw [Outdated, same]
    exact outdated
  have count := ends.kept.counted kind consumer after foundAfter (sound.current kind present ▸ still)
  rw [sound.current kind present] at count
  rw [ends.told, count]
  refine ⟨by split <;> decide, fun onRecord => if_pos ?_⟩
  refine ends.kept.carried kind present ?_ consumer target after foundAfter still
  rcases ends.stored kind with working | stored
  · exact .inl (.inr (working.symm.trans onRecord))
  · exact .inr (.inr (stored.symm.trans onRecord))

/-! ## Runs -/

theorem sound_pass (answers : PassAnswers) :
    (world.pass digest answers).Sound digest := by
  rcases endsAs_pass sound inTime answers with ⟨desk, ends⟩
  refine ⟨?_, ?_⟩
  · rw [ends.values, ends.latest]
    exact sound.current
  · rw [ends.workloads, ends.told, ends.latest]
    exact ends.kept.counted

omit sound

omit inTime

theorem sound_settle {changed : World} (latest : changed.latest = world.latest)
    (workloads : changed.workloads = world.workloads) (told : changed.told = world.told)
    (counted : Counted digest world.latest world.workloads world.told)
    (fresh : changed.settle.NewHash digest world.latest) : changed.settle.Sound digest := by
  refine ⟨fun kind present => if_neg present, ?_⟩
  intro kind consumer deployed found outdated
  by_cases same : changed.values kind = [] ∨ changed.values kind = world.latest kind
  · have kept : changed.settle.latest kind = world.latest kind := by
      rcases same with empty | same
      · rw [← latest]
        exact if_pos empty
      · rw [settle_latest, same, latest]
        exact ite_self _
    have counts : changed.settle.told kind consumer = world.told kind consumer := by
      rw [← told]
      exact if_pos (latest ▸ same)
    rw [kept] at outdated ⊢
    rw [counts]
    exact counted kind consumer deployed (workloads ▸ found) outdated
  · rcases not_or.mp same with ⟨present, different⟩
    have begun : changed.settle.latest kind = changed.values kind := if_neg present
    have counts : changed.settle.told kind consumer = 0 := if_neg (latest ▸ same)
    rw [begun] at outdated ⊢
    rw [counts]
    exact (if_neg (fresh kind present different consumer deployed found outdated)).symm

theorem counted_update {workloads : Consumer -> Option Deployed}
    {told : Kind -> Consumer -> Nat} (counted : Counted digest latest workloads told)
    (consumer : Consumer)
    (replaced : forall kind, ∀ deployed ∈ replacement, deployed.Outdated kind (latest kind) ->
      told kind consumer =
        if deployed.annotated kind = digest.hashStrings (latest kind) then 1 else 0) :
    Counted digest latest (Function.update workloads consumer replacement) told := by
  intro kind other deployed found outdated
  by_cases same : other = consumer
  · rw [same, Function.update_self] at found
    rw [same]
    exact replaced kind deployed found outdated
  · rw [Function.update_of_ne same] at found
    exact counted kind other deployed found outdated

theorem sound_rewrite (sound : world.Sound digest)
    (timely : world.Timely digest (.rewrite consumer template)) :
    (world.step digest (.rewrite consumer template)).Sound digest := by
  refine ⟨sound.current, counted_update sound.counted consumer ?_⟩
  intro kind deployed found outdated
  rcases Option.map_eq_some_iff.mp found with ⟨written, given, rfl⟩
  have running : written.replicas ≠ some 0 := Outdated.running outdated
  cases before : world.workloads consumer with
  | none =>
    refine absurd ?_ outdated.1
    rw [before]
    exact ite_self _
  | some old =>
    have pods : (rewritten (world.workloads consumer) written).started kind = old.started kind := by
      rw [before]
      exact if_neg running
    rw [Outdated, pods] at outdated
    have same := timely kind old before outdated written given running
    refine (sound.counted kind consumer old before outdated).trans ?_
    exact if_congr same.symm rfl rfl

theorem sound_start (sound : world.Sound digest) (consumer : Consumer) :
    (world.step digest (.start consumer)).Sound digest := by
  refine ⟨sound.current, counted_update sound.counted consumer ?_⟩
  intro kind deployed found outdated
  rcases Option.map_eq_some_iff.mp found with ⟨old, before, rfl⟩
  by_cases unchanged : old.replicas = some 0 ∨ world.values kind = []
  · have pods : (world.restarted old).started kind = old.started kind := if_pos unchanged
    rw [Outdated, pods] at outdated
    exact sound.counted kind consumer old before outdated
  · -- Pods which were just started are not outdated.
    have pods : (world.restarted old).started kind = some (world.values kind) := if_neg unchanged
    refine absurd ?_ outdated.2
    rw [pods, sound.current kind (not_or.mp unchanged).2]

theorem sound_step (world : World) (move : Move) (sound : world.Sound digest)
    (timely : world.Timely digest move) : (world.step digest move).Sound digest := by
  cases move with
  | pass answers => exact sound_pass sound timely answers
  | secret | respec => exact sound_settle rfl rfl rfl sound.counted timely
  | rewrite => exact sound_rewrite sound timely
  | start consumer => exact sound_start sound consumer

theorem sound_fresh (digest : Digest) (clusterName : String) : (fresh clusterName).Sound digest :=
  ⟨fun _ present => absurd rfl present, fun _ _ _ found => nomatch found⟩

end Pass

/-! ## Passes without failures -/

structure RolloutAnswers.Smooth (answers : RolloutAnswers) : Prop where
  secret : forall kind, answers.secret kind = .ok ()
  get : forall kind consumer, answers.get kind consumer = .ok ()
  update : forall kind consumer, answers.update kind consumer = .accepted

section Smooth

variable {digest : Digest} {world : World} {answers : RolloutAnswers} {kind : Kind}

variable {manager : ManagerSpec}

section Answered

variable (smooth : answers.Smooth)

include smooth

theorem triggerRestartWithHash_returns {hash : String}
    (marked : forall desk consumer, inv desk -> inv (desk.mark kind hash consumer)) (consumer : Consumer) :
    Returns inv inv (triggerRestartWithHash answers kind hash consumer) := by
  refine returns_bind (returns_ofExcept (smooth.get kind consumer) fun _ holds => holds) fun _ => ?_
  refine returns_read_bind fun desk _ => ?_
  cases desk.workloads consumer with
  | none => exact returns_pure fun _ holds => holds
  | some deployed =>
    dsimp only
    rw [smooth.update]
    split
    · exact returns_pure fun _ holds => holds
    · split
      · exact returns_pure fun _ holds => holds
      · exact fun desk holds => ⟨⟨(), rfl⟩, marked desk consumer holds⟩

theorem reconcileKind_returns
    (marked : forall desk hash consumer, inv desk -> inv (desk.mark kind hash consumer))
    (recorded : forall desk hash, inv desk -> inv (desk.record kind hash)) (clusterName : String)
    (manager : ManagerSpec) (secrets : String -> Option SecretData) :
    Returns inv inv (reconcileKind digest answers clusterName manager secrets kind) := by
  have read : Returns inv inv (readValues answers clusterName manager secrets kind) := by
    rw [readValues]
    split
    · exact returns_pure fun _ holds => holds
    · refine returns_bind (returns_mapError
        (returns_ofExcept (smooth.secret kind) fun _ holds => holds)) fun _ => ?_
      split <;> exact returns_pure fun _ holds => holds
  refine returns_bind read fun fetched => ?_
  split
  · -- The rollout: nothing to do, a first record, or all the restarts and then the record.
    refine returns_read_bind fun desk _ => ?_
    dsimp only
    split
    · exact returns_pure fun _ holds => holds
    · split
      · exact fun desk holds => ⟨⟨(), rfl⟩, recorded desk _ holds⟩
      · have all : forall hash consumers, Returns inv inv (restartAll answers kind hash consumers) :=
          fun hash _ => returns_forEach fun consumer _ => returns_mapError
            (triggerRestartWithHash_returns smooth (fun desk => marked desk hash) consumer)
        exact returns_bind (all _ _) fun _ desk holds => ⟨⟨(), rfl⟩, recorded desk _ holds⟩
  · exact fun desk holds => ⟨⟨(), rfl⟩, recorded desk _ holds⟩
  · exact returns_pure fun _ holds => holds

end Answered

/-- The hash on record is empty or the given one, and pod templates have been changed so often. -/
def Desk.Standing (kind : Kind) (hash : String) (told : Consumer -> Nat) (desk : Desk) : Prop :=
  (recorded kind desk.working = "" ∨ recorded kind desk.working = hash) ∧ desk.told kind = told

def Desk.Done (kind : Kind) (hash : String) (told : Consumer -> Nat) (desk : Desk) : Prop :=
  recorded kind desk.working = hash ∧ desk.told kind = told

theorem reconcileKind_done (smooth : answers.Smooth) (spec : world.manager = some manager)
    (present : world.values kind ≠ []) (told : Consumer -> Nat) :
    Returns (Standing kind (world.hash digest kind) told)
      (Done kind (world.hash digest kind) told)
      (reconcileKind digest answers world.clusterName manager world.secrets kind) := by
  rintro desk ⟨standing, count⟩
  have found : readValues answers world.clusterName manager world.secrets kind desk =
      ⟨.ok (.found (world.values kind)), desk, []⟩ := by
    rw [values, spec, Option.bind_some] at present ⊢
    cases configured : source world.clusterName manager kind with
    | none => simp [configured] at present
    | some source =>
      cases stored : world.secrets source.secretName with
      | none => simp [configured, stored] at present
      | some => simp [readValues, configured, smooth.secret, stored]
  rw [reconcileKind, bind_apply, found]
  rw [World.hash] at standing ⊢
  cases read : world.values kind with
  | nil => exact absurd read present
  | cons =>
    rw [read] at standing
    dsimp only
    rw [rollOut, bind_apply, read_apply, Outcome.following_nil]
    dsimp only
    split
    · next same => exact ⟨⟨(), rfl⟩, same, count⟩
    · next differs =>
        rw [if_pos (standing.resolve_right differs)]
        exact ⟨⟨(), rfl⟩, recorded_record_self (digest.hashStrings_ne _) kind desk.working, count⟩

theorem told_mark (different : other ≠ kind) (desk : Desk) (hash : String)
    (consumer : Consumer) : (desk.mark kind hash consumer).told other = desk.told other := by
  funext target
  exact if_neg fun both => different both.1

/-- Where no hash is on record or already the present one, a pass without failures records it and
changes no pod template for it. -/
theorem reconcileCredentials_done (smooth : answers.Smooth) (present : world.values kind ≠ [])
    (told : Consumer -> Nat) :
    Returns (Standing kind (world.hash digest kind) told)
      (Done kind (world.hash digest kind) told)
      (reconcileCredentials digest answers world.clusterName world.manager world.secrets) := by
  cases spec : world.manager with
  | none =>
    refine absurd ?_ present
    rw [values, spec]
    rfl
  | some =>
    rw [reconcileCredentials, reconcileAPICredentials_eq, reconcileAuthdCredentials_eq]
    cases kind with
    | api =>
      refine returns_bind (reconcileKind_done smooth spec present told) fun _ => ?_
      refine reconcileKind_returns smooth ?_ ?_ _ _ _
      · rintro desk hash consumer ⟨onRecord, count⟩
        exact ⟨onRecord, (told_mark (by decide) desk hash consumer).trans count⟩
      · rintro desk hash ⟨onRecord, count⟩
        exact ⟨(recorded_record_of_ne (by decide) hash desk.working).trans onRecord, count⟩
    | authd =>
      refine returns_bind ?_ fun _ => reconcileKind_done smooth spec present told
      refine reconcileKind_returns smooth ?_ ?_ _ _ _
      · rintro desk hash consumer ⟨standing, count⟩
        exact ⟨standing, (told_mark (by decide) desk hash consumer).trans count⟩
      · rintro desk hash ⟨standing, count⟩
        refine ⟨?_, count⟩
        rw [Desk.record, recorded_record_of_ne (by decide)]
        exact standing

def PassAnswers.smooth : PassAnswers where
  before := .ok ()
  earlier := []
  rollouts :=
    { secret := fun _ => .ok ()
      get := fun _ _ => .ok ()
      update := fun _ _ => .accepted }
  later := []
  after := .ok ()
  status := .allReady

theorem PassAnswers.smooth_rollouts : PassAnswers.smooth.rollouts.Smooth :=
  ⟨fun _ => rfl, fun _ _ => rfl, fun _ _ => rfl⟩

theorem pass_smooth (present : world.values kind ≠ [])
    (settled : world.Settled digest kind world.stored) :
    (world.pass digest .smooth).told kind = world.told kind ∧
      recorded kind (world.pass digest .smooth).stored = world.hash digest kind := by
  rcases reconcileCredentials_done PassAnswers.smooth_rollouts present (world.told kind)
    (world.desk .smooth) ⟨settled, rfl⟩ with ⟨⟨_, returned⟩, onRecord, count⟩
  have persists : PassAnswers.smooth.status.Persists := ⟨rfl, rfl⟩
  simp only [World.pass, PassAnswers.smooth] at returned onRecord count persists ⊢
  rw [returned]
  refine ⟨count, ?_⟩
  rw [Reporting.updateStatus_of_persists persists,
    recorded_of_security (Credentials.nextStatus_security _ _ _), recorded_otherSteps]
  exact onRecord

theorem inTime_of_restartedOnce (sound : world.Sound digest)
    (restarted : forall answers, world.RestartedOnce digest (.pass answers)) : world.InTime digest := by
  intro kind present settled consumer target deployed found outdated
  by_contra without
  rcases pass_smooth present settled with ⟨count, onRecord⟩
  have once := (restarted .smooth kind present consumer target deployed found outdated).2 onRecord
  have never := sound.counted kind consumer deployed found (sound.current kind present ▸ outdated)
  rw [sound.current kind present] at never
  rw [count, never] at once
  exact absurd (once.symm.trans (if_neg without)) (by decide)

end Smooth

namespace World

variable (digest : Digest) (world : World)

deriving instance Decidable for Settled, Carried, InTime, NewHash

instance decidableRestartedOnce : forall move, Decidable (world.RestartedOnce digest move)
  | .pass _ =>
    inferInstanceAs (Decidable (forall kind : Kind, _ -> ∀ consumer ∈ world.targets kind, _))
  | .secret _ _ | .respec _ | .rewrite _ _ | .start _ => inferInstanceAs (Decidable True)

instance decidableTimely : forall move, Decidable (world.Timely digest move)
  | .pass _ => inferInstanceAs (Decidable (world.InTime digest))
  | .secret _ _ | .respec _ => inferInstanceAs (Decidable (NewHash digest _ _))
  | .rewrite consumer _ =>
    inferInstanceAs (Decidable (forall _ : Kind, ∀ deployed ∈ world.workloads consumer, _))
  | .start _ => inferInstanceAs (Decidable True)

end World

/-! ## The statement, and where it fails -/

/-- In a run whose moves all meet the condition, every pass restarts what it must exactly once.  After
such a run, the next pass does so whatever fails in it exactly if the condition is met. -/
theorem credentials_restart_once (digest : Digest) (clusterName : String) (moves : List Move)
    (timely : Along (step digest) (Timely digest) (fresh clusterName) moves) :
    Along (step digest) (RestartedOnce digest) (fresh clusterName) moves ∧
      ((forall answers, (run (step digest) (fresh clusterName) moves).RestartedOnce
          digest (.pass answers)) <->
        (run (step digest) (fresh clusterName) moves).InTime digest) := by
  refine ⟨?_, ?_⟩
  · refine along_of_invariant sound_step ?_ moves _ (sound_fresh digest clusterName) timely
    intro world move sound met
    cases move with
    | pass answers => exact restartedOnce_pass sound met answers
    | _ => exact trivial
  · have sound := run_of_throughout moves _
      (throughout_of_invariant sound_step (fun _ sound => sound) moves _
        (sound_fresh digest clusterName) timely)
    exact ⟨inTime_of_restartedOnce sound, restartedOnce_pass sound⟩

namespace Sample

def digest : Digest where
  hashString text := "#" ++ text
  nonempty := by
    intro text empty
    have length := congrArg String.length empty
    rw [String.length_append] at length
    exact absurd length (by simp [show "#".length = 1 from rfl])

def spec : ManagerSpec where
  auth := some { usePassword := some true, passwordSecretRef := some { name := "authd" } }

def apiSecret (password : String) : Move :=
  .secret "wazuh-api-credentials" (some [("api-username", "wazuh"), ("api-password", password)])

def authdSecret (password : String) : Move := .secret "authd" (some [("password", password)])

/-- The managers are deployed and started, and a pass has recorded the hashes. -/
def deployment : List Move :=
  [.respec (some spec), apiSecret "one", authdSecret "one", .rewrite .master (some {}), .start .master,
    .rewrite .workers (some {}), .start .workers, .pass .smooth]

/-- The password of authd is emptied and given anew.  As the configuration of the managers says
whether there is a password, their templates are written twice. -/
def emptied : List Move :=
  deployment ++ [authdSecret "", .rewrite .master (some {}), .pass .smooth, authdSecret "two",
    .rewrite .master (some {}), .pass .smooth]

def failing : PassAnswers :=
  { PassAnswers.smooth with
    rollouts :=
      { PassAnswers.smooth.rollouts with
        update := fun _ consumer => if consumer = .workers then .refused "conflict" else .accepted } }

/-- The credentials of the API change, the workers cannot be updated, and the old ones return. -/
def returned : List Move :=
  deployment ++ [apiSecret "two", .pass failing, .start .master, apiSecret "one", .pass .smooth]

/-- A change of each, with a failure which is made up for. -/
def orderly : List Move :=
  deployment ++ [apiSecret "two", .pass failing, .pass .smooth, .start .master, .start .workers,
    authdSecret "two", .pass .smooth]

end Sample

open Sample in
theorem credentials_restart_once_orderly :
    Along (step digest) (RestartedOnce digest) (fresh "wazuh") orderly ∧
      (forall answers, (run (step digest) (fresh "wazuh") orderly).RestartedOnce
        digest (.pass answers)) := by
  have both := credentials_restart_once digest "wazuh" orderly (by decide +kernel)
  exact ⟨both.1, both.2.mpr (by decide +kernel)⟩

open Sample in
/-- The hash of a new password of authd is recorded after the old one was forgotten: the master, whose
pods were started under the old one, does not carry it.  And the hash of returning credentials of the
API is still on record, although the master was restarted under the others. -/
theorem credentials_recorded_without_restart :
    let first := run (step digest) (fresh "wazuh") emptied
    let second := run (step digest) (fresh "wazuh") returned
    recorded .authd first.stored = digest.hashStrings ["two"] ∧
      (first.workloads .master).map (fun master => (master.started .authd, master.annotated .authd)) =
        some (some ["one"], "") ∧
      recorded .api second.stored = digest.hashStrings ["wazuh", "one"] ∧
      (second.workloads .master).map (fun master => (master.started .api, master.annotated .api)) =
        some (some ["wazuh", "two"], digest.hashStrings ["wazuh", "two"]) ∧
      ¬ Along (step digest) (RestartedOnce digest) (fresh "wazuh") emptied ∧
      ¬ Along (step digest) (RestartedOnce digest) (fresh "wazuh") returned := by
  decide +kernel

end ManagerCredentials
end WazuhOperator
