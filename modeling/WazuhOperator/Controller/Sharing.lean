import WazuhOperator.Controller.Courses

namespace WazuhOperator
namespace Controller

open Procedure Proc Drain Indexer Worker List ManagerDrainer

/-!
# Whose client does a pass use?

The reconcilers of the indexer and of the workers keep a client and a drainer
in fields that all clusters share.  A pass makes its own client only where none
is cached, and it asks whatever drainer is there.

`BelongsTo` says that everything a reconciler remembers was made for one
cluster.  A pass over that cluster keeps it so and sends its requests through
clients of the cluster; a pass over another cluster keeps it so as long as it
does not need a client itself.
-/

def PassContext.ownWazuhClient (ctx : PassContext) : Client where
  baseURL := wazuhURL ctx.domain ctx.key
  username := ctx.apiCredentials.username
  password := ctx.apiCredentials.password

/-- Everything the indexer's reconciler remembers was made for one cluster. -/
structure IndexerBelongsTo (key : ClusterKey) (client : Client) (memory : IndexerReconciler) : Prop where
  cached : ∀ held ∈ memory.osClient, held = client
  drainer : ∀ drainer ∈ memory.drainer,
    drainer.client = client ∧ ∀ owner ∈ drainer.recordedFor, owner = key

structure WorkerBelongsTo (key : ClusterKey) (client : Client) (memory : WorkerReconciler) : Prop where
  cached : ∀ held ∈ memory.wazuhClient, held = client
  drainer : ∀ drainer ∈ memory.drainer,
    drainer.client = client ∧ ∀ seen ∈ drainer.emptyQueueSeenTime, seen.2 = key

/-- A request goes to the cluster's own endpoint with its own credentials, and what was
recorded of another cluster is not used for it. -/
structure OwnCall (ctx : PassContext) (event : Event) : Prop where
  openSearch : ∀ client ∈ event.openSearchClient, client = ctx.ownClient
  wazuh : ∀ client ∈ event.wazuhClient, client = ctx.ownWazuhClient
  initialCount : forall owner, event = .initialCountUsed (some owner) -> owner = ctx.key
  emptySince : forall owner, event = .emptySinceUsed owner -> owner = ctx.key

variable {ctx : PassContext}

theorem OwnCall.of_plain (plain : event.plain) :
    OwnCall ctx event := by
  constructor
  · intro client member
    cases event with
    | dryRun | shardCount | relocatingShards | setExclusion | clearExclusion | clusterHealth => cases plain
    | _ => cases member
  · intro client member
    cases event with
    | dryRun | queueStatus => cases plain
    | _ => cases member
  · rintro owner rfl
    cases plain
  · rintro owner rfl
    cases plain

variable {client : Client}

theorem OwnCall.of_openSearch (sent : event.openSearchClient = some client)
    (own : client = ctx.ownClient) : OwnCall ctx event := by
  constructor
  · intro other member
    cases sent.symm.trans member
    exact own
  · intro other member
    cases event with
    | dryRun component =>
      cases component with
      | indexer => cases member
      | manager => cases sent
    | queueStatus => cases sent
    | _ => cases member
  · rintro owner rfl
    cases sent
  · rintro owner rfl
    cases sent

theorem OwnCall.of_wazuh (sent : event.wazuhClient = some client)
    (own : client = ctx.ownWazuhClient) : OwnCall ctx event := by
  constructor
  · intro other member
    cases event with
    | dryRun component =>
      cases component with
      | indexer => cases sent
      | manager => cases member
    | queueStatus => cases member
    | _ => cases sent
  · intro other member
    cases sent.symm.trans member
    exact own
  · rintro owner rfl
    cases sent
  · rintro owner rfl
    cases sent

def needsIndexerClient (ctx : PassContext) : Bool :=
  ctx.spec.indexerDrainEnabled || restartDue ctx.spec ctx.input.restart

/-! ## The indexer's drain check -/

section IndexerCheck

variable {ctx : PassContext} {client : Client}

theorem makeClient_own (made : ctx.makeClient secrets = .ok client) : client = ctx.ownClient := by
  cases secrets with
  | error => cases made
  | ok =>
    cases made
    rfl

theorem startClient_own (belongs : IndexerBelongsTo ctx.key ctx.ownClient memory)
    (started : startClient (ctx.makeClient ctx.input.getClient) memory = .ok client) :
    client = ctx.ownClient := by
  cases held : memory.osClient with
  | none =>
    simp only [startClient, held] at started
    exact makeClient_own started
  | some =>
    simp only [startClient, held] at started
    cases started
    exact belongs.cached client held

theorem startDrainer_own (belongs : IndexerBelongsTo ctx.key ctx.ownClient memory)
    (own : client = ctx.ownClient) (config : Option IndexerDrainConfig) :
    (Indexer.startDrainer config client memory).client = ctx.ownClient ∧
      ∀ owner ∈ (Indexer.startDrainer config client memory).recordedFor, owner = ctx.key := by
  cases held : memory.drainer with
  | none =>
    simp only [Indexer.startDrainer, held, Option.getD_none, newIndexerDrainer]
    exact ⟨own, by rintro _ ⟨⟩⟩
  | some drainer =>
    simp only [Indexer.startDrainer, held, Option.getD_some]
    exact belongs.drainer drainer held

theorem OwnCall.of_indexer_asks {drainer : IndexerDrainer}
    (own : drainer.client = ctx.ownClient ∧ ∀ owner ∈ drainer.recordedFor, owner = ctx.key)
    (asked : drainer.asks node event) : OwnCall ctx event := by
  cases event with
  | shardCount =>
    simp only [IndexerDrainer.asks, Bool.and_eq_true, decide_eq_true_eq] at asked
    exact .of_openSearch rfl (asked.1.trans own.1)
  | relocatingShards client =>
    have through : client = drainer.client := by simpa [IndexerDrainer.asks] using asked
    exact .of_openSearch rfl (through.trans own.1)
  | initialCountUsed recordedFor =>
    have recorded : recordedFor = drainer.recordedFor := by simpa [IndexerDrainer.asks] using asked
    refine ⟨nofun, nofun, ?_, ?_⟩
    · rintro owner ⟨⟩
      exact own.2 owner recorded.symm
    · rintro owner ⟨⟩
  | _ => cases asked

theorem indexerCheck_belongs {log : List Event}
    (effect : IndexerEffect ctx state info decision drain log)
    (belongs : IndexerBelongsTo ctx.key ctx.ownClient state.indexer) :
    IndexerBelongsTo ctx.key ctx.ownClient drain.memory ∧ ∀ event ∈ log, OwnCall ctx event := by
  -- Whatever client a starting drain caches, and whatever drainer it makes, is the cluster's.
  have started : forall client, startClient (ctx.makeClient ctx.input.getClient) state.indexer =
      .ok client -> forall drainer : IndexerDrainer,
        (drainer.client = ctx.ownClient ∧ ∀ owner ∈ drainer.recordedFor, owner = ctx.key) ->
        IndexerBelongsTo ctx.key ctx.ownClient ⟨some client, some drainer⟩ := by
    intro client available drainer own
    constructor
    · rintro held ⟨⟩
      exact startClient_own belongs available
    · rintro held ⟨⟩
      exact own
  have observed : forall {node : String} {log : List Event},
      (∀ event ∈ log, ∃ drainer ∈ state.indexer.drainer, drainer.asks node event) ->
      ∀ event ∈ log, OwnCall ctx event := by
    intro node log asked event member
    rcases asked event member with ⟨drainer, held, through⟩
    exact .of_indexer_asks (belongs.drainer drainer held) through
  cases effect with
  | unavailable | alreadyComplete | passedOver => exact ⟨belongs, by simpa using OwnCall.of_plain rfl⟩
  | unsetPhase _ available =>
    exact ⟨started _ available _ (startDrainer_own belongs (startClient_own belongs available) _),
      by simpa using OwnCall.of_plain rfl⟩
  | countFailed _ available =>
    have own := startDrainer_own belongs (startClient_own belongs available)
      (ctx.spec.drain.bind DrainConfiguration.indexer)
    refine ⟨started _ available _ own, ?_⟩
    simp only [forall_mem_cons]
    exact ⟨.of_plain rfl, .of_plain rfl, .of_openSearch rfl own.1, by simp⟩
  | exclusionFailed idle available counted failed | started idle available counted excluded =>
    have own := startDrainer_own belongs (startClient_own belongs available)
      (ctx.spec.drain.bind DrainConfiguration.indexer)
    refine ⟨started _ available _ ⟨own.1, ?_⟩, ?_⟩
    · rintro owner ⟨⟩
      rfl
    · simp only [startEvents, forall_mem_cons]
      exact ⟨.of_plain rfl, .of_plain rfl, .of_openSearch rfl own.1, .of_openSearch rfl own.1, by simp⟩
  | watched under moved target retry asked | unverifiable verifying unknown asked =>
    refine ⟨belongs, ?_⟩
    simp only [forall_mem_cons]
    exact ⟨.of_plain rfl, observed asked⟩
  | notEmpty _ present _ _ asked =>
    refine ⟨belongs, ?_⟩
    simp only [forall_mem_cons]
    exact ⟨.of_plain rfl, observed (fun event member => ⟨_, present, asked event member⟩)⟩
  | verified _ present =>
    have own := belongs.drainer _ present
    refine ⟨belongs, ?_⟩
    simp only [verifiedEvents, forall_mem_cons]
    exact ⟨.of_plain rfl, .of_openSearch rfl own.1, .of_openSearch rfl own.1, .of_plain rfl,
      .of_openSearch rfl own.1, by simp⟩

end IndexerCheck

/-! ## The workers' drain check -/

/-- A drainer works for the cluster: it has its client, and an empty queue was noted for
this cluster if at all. -/
def WorksFor (ctx : PassContext) (drainer : ManagerDrainer) : Prop :=
  drainer.client = ctx.ownWazuhClient ∧ ∀ seen ∈ drainer.emptyQueueSeenTime, seen.2 = ctx.key

section WorkerCheck

variable {ctx : PassContext}

theorem withWazuhClient_belongs (belongs : WorkerBelongsTo ctx.key ctx.ownWazuhClient memory)
    (readable : ctx.readCredentials = .ok own) :
    WorkerBelongsTo ctx.key ctx.ownWazuhClient
      (withWazuhClient (wazuhURL ctx.domain ctx.key) own memory) := by
  have credentials : own = ctx.apiCredentials := by
    rw [PassContext.readCredentials] at readable
    cases read : ctx.input.getCredentials with
    | error =>
      rw [read] at readable
      cases readable
    | ok =>
      rw [read] at readable
      cases readable
      rfl
  constructor
  · intro held member
    rw [withWazuhClient] at member
    split at member
    · exact belongs.cached held member
    · cases member
      rw [credentials]
      rfl
  · rw [withWazuhClient_drainer]
    exact belongs.drainer

theorem workerStartDrainer_own (belongs : WorkerBelongsTo ctx.key ctx.ownWazuhClient memory)
    (own : client = ctx.ownWazuhClient) (config : Option ManagerDrainConfig) :
    WorksFor ctx (Worker.startDrainer config client memory) := by
  cases held : memory.drainer with
  | none =>
    simp only [Worker.startDrainer, held, Option.getD_none, newManagerDrainer]
    exact ⟨own, by rintro _ ⟨⟩⟩
  | some drainer =>
    simp only [Worker.startDrainer, held, Option.getD_some]
    exact belongs.drainer drainer held

variable {drainer : ManagerDrainer}

theorem noted_own (own : WorksFor ctx drainer) (now : Time) :
    (drainer.noted now ctx.key).2 = ctx.key := by
  cases seen : drainer.emptyQueueSeenTime with
  | none => simp [noted, seen]
  | some moment =>
    simp only [noted, seen, Option.getD_some]
    exact own.2 moment seen

theorem OwnCall.of_emptySince (own : owner = ctx.key) :
    OwnCall ctx (.emptySinceUsed owner) := by
  refine ⟨nofun, nofun, nofun, ?_⟩
  rintro other ⟨⟩
  exact own

theorem OwnCall.of_worker_asks (own : WorksFor ctx drainer)
    (asked : drainer.asks ctx.key now node event) : OwnCall ctx event := by
  cases event with
  | queueStatus =>
    simp only [asks, Bool.and_eq_true, decide_eq_true_eq] at asked
    exact .of_wazuh rfl (asked.1.trans own.1)
  | emptySinceUsed owner =>
    have recorded : owner = (drainer.noted now ctx.key).2 := by
      simpa [asks] using asked
    exact .of_emptySince (recorded.trans (noted_own own now))
  | _ => cases asked

theorem reading_own (own : WorksFor ctx drainer) (depth : Int64)
    (now : Time) : WorksFor ctx (drainer.reading depth now ctx.key) := by
  refine ⟨own.1, ?_⟩
  intro seen member
  simp only [reading] at member
  split at member
  · cases member
    exact noted_own own now
  · cases member

theorem checking_own (own : WorksFor ctx drainer) (events : Int64)
    (now : Time) : WorksFor ctx (drainer.checking events now ctx.key) := by
  rw [checking]
  split
  · exact own
  · refine ⟨own.1, ?_⟩
    rintro seen ⟨⟩
    exact noted_own own now

theorem watchedMemory_belongs (belongs : WorkerBelongsTo ctx.key ctx.ownWazuhClient memory) :
    WorkerBelongsTo ctx.key ctx.ownWazuhClient (watchedMemory ctx.key ctx.input.queue ctx.input.now memory) := by
  cases ctx.input.queue with
  | error => exact belongs
  | ok depth =>
    refine ⟨belongs.cached, fun drainer member => ?_⟩
    rcases Option.map_eq_some_iff.mp member with ⟨before, held, rfl⟩
    exact reading_own (belongs.drainer before held) depth ctx.input.now

theorem workerCheck_belongs {log : List Event}
    (effect : WorkerEffect ctx state info decision drain log)
    (belongs : WorkerBelongsTo ctx.key ctx.ownWazuhClient state.worker) :
    WorkerBelongsTo ctx.key ctx.ownWazuhClient drain.memory ∧ ∀ event ∈ log, OwnCall ctx event := by
  have started : forall {own : Credentials}, ctx.readCredentials = .ok own ->
      forall drainer : ManagerDrainer, WorksFor ctx drainer ->
        WorkerBelongsTo ctx.key ctx.ownWazuhClient
          { withWazuhClient (wazuhURL ctx.domain ctx.key) own state.worker with
            drainer := some drainer } := by
    intro own readable drainer works
    refine ⟨(withWazuhClient_belongs belongs readable).cached, ?_⟩
    rintro held ⟨⟩
    exact works
  have observed : forall {node : String} {log : List Event},
      (∀ event ∈ log, ∃ drainer ∈ state.worker.drainer,
        drainer.asks ctx.key ctx.input.now node event) ->
      ∀ event ∈ log, OwnCall ctx event := by
    intro node log asked event member
    rcases asked event member with ⟨drainer, held, through⟩
    exact .of_worker_asks (belongs.drainer drainer held) through
  have starter : forall {own : Credentials} {client : Client}, ctx.readCredentials = .ok own ->
      (withWazuhClient (wazuhURL ctx.domain ctx.key) own state.worker).wazuhClient = some client ->
      forall config, WorksFor ctx (Worker.startDrainer config client state.worker) := by
    intro own client readable connected config
    exact workerStartDrainer_own belongs
      ((withWazuhClient_belongs belongs readable).cached client connected) config
  cases effect with
  | unavailable | alreadyComplete | passedOver => exact ⟨belongs, by simpa using OwnCall.of_plain rfl⟩
  | unsetPhase _ readable connected =>
    exact ⟨started readable _ (starter readable connected _), by simpa using OwnCall.of_plain rfl⟩
  | queueFailed _ readable connected =>
    have works := starter readable connected (ctx.spec.drain.bind DrainConfiguration.manager)
    refine ⟨started readable _ works, ?_⟩
    simp only [forall_mem_cons]
    exact ⟨.of_plain rfl, .of_plain rfl, .of_wazuh rfl works.1, by simp⟩
  | started idle readable connected read =>
    have works := starter readable connected (ctx.spec.drain.bind DrainConfiguration.manager)
    refine ⟨started readable _ ⟨works.1, nofun⟩, ?_⟩
    simp only [forall_mem_cons]
    exact ⟨.of_plain rfl, .of_plain rfl, .of_wazuh rfl works.1, by simp⟩
  | watched _ _ _ _ asked =>
    refine ⟨watchedMemory_belongs belongs, ?_⟩
    simp only [forall_mem_cons]
    exact ⟨.of_plain rfl, observed asked⟩
  | unverifiable _ _ asked =>
    refine ⟨belongs, ?_⟩
    simp only [forall_mem_cons]
    exact ⟨.of_plain rfl, observed asked⟩
  | notEmpty _ present _ _ asked =>
    refine ⟨⟨belongs.cached, ?_⟩, ?_⟩
    · rintro held ⟨⟩
      exact checking_own (belongs.drainer _ present) _ _
    · simp only [forall_mem_cons]
      exact ⟨.of_plain rfl, observed (fun event member => ⟨_, present, asked event member⟩)⟩
  | verified verifying present read seen settled =>
    have works : WorksFor ctx _ := belongs.drainer _ present
    refine ⟨⟨belongs.cached, ?_⟩, ?_⟩
    · rintro held ⟨⟩
      exact ⟨works.1, nofun⟩
    · simp only [forall_mem_cons]
      exact ⟨.of_plain rfl, .of_wazuh rfl works.1, .of_emptySince (works.2 _ seen), .of_plain rfl,
        by simp⟩

end WorkerCheck

/-! ## The whole pass -/

section Pass

variable {ctx : PassContext} {indexerKey workerKey : ClusterKey} {indexerClient workerClient : Client}

variable (indexerKey workerKey indexerClient workerClient) in
/-- What the two reconcilers remember was made for one cluster each. -/
def Tenancy (state : PassState) : Prop :=
  IndexerBelongsTo indexerKey indexerClient state.indexer ∧
    WorkerBelongsTo workerKey workerClient state.worker

theorem IndexerBelongsTo.remember (belongs : IndexerBelongsTo ctx.key ctx.ownClient memory)
    (made : ctx.makeClient secrets = .ok client) :
    IndexerBelongsTo ctx.key ctx.ownClient { memory with osClient := some client } := by
  refine ⟨?_, belongs.drainer⟩
  rintro held ⟨⟩
  exact makeClient_own made

theorem stablePass_tenancy (indexerTenant : needsIndexerClient ctx ->
      indexerKey = ctx.key ∧ indexerClient = ctx.ownClient)
    (workerTenant : ctx.spec.managerDrainEnabled ->
      workerKey = ctx.key ∧ workerClient = ctx.ownWazuhClient) :
    StablePass ctx (Tenancy indexerKey workerKey indexerClient workerClient) (OwnCall ctx) where
  statuses := fun _ _ _ tenancy => tenancy
  sets := fun _ _ tenancy => tenancy
  indexerReset := fun _ tenancy => ⟨⟨tenancy.1.cached, nofun⟩, tenancy.2⟩
  workerReset := fun _ tenancy => ⟨tenancy.1, nofun, nofun⟩
  plain := fun _ => .of_plain
  indexerCheck := by
    apply keeps_indexerCheck_of_effect
    intro state info decision drain log tenancy pending effect
    rcases pendingScaleDown_eq_some pending with ⟨sts, count, _, _, _, enabled, _, _⟩
    rcases indexerTenant (by simp [needsIndexerClient, enabled]) with ⟨rfl, rfl⟩
    have kept := indexerCheck_belongs effect tenancy.1
    exact ⟨⟨kept.1, tenancy.2⟩, kept.2⟩
  workerCheck := by
    apply keeps_workerCheck_of_effect
    intro state info decision drain log tenancy pending effect
    rcases pendingScaleDown_eq_some pending with ⟨sts, count, _, _, _, enabled, _, _⟩
    rcases workerTenant enabled with ⟨rfl, rfl⟩
    have kept := workerCheck_belongs effect tenancy.2
    exact ⟨⟨tenancy.1, kept.1⟩, kept.2⟩
  dryRun := by
    apply keeps_evaluateDryRun
    · intro enabled target
      rcases indexerTenant (by simp [needsIndexerClient, enabled]) with ⟨rfl, rfl⟩
      apply keeps_focus (IndexerBelongsTo ctx.key ctx.ownClient)
      · exact fun _ tenancy => tenancy.1
      · exact fun _ _ tenancy kept => ⟨kept, tenancy.2⟩
      · apply keeps_indexerDryRun
        · exact fun memory client belongs _ made => belongs.remember made
        · exact fun memory client belongs held => .of_openSearch rfl (belongs.cached client held)
    · intro enabled target
      rcases workerTenant enabled with ⟨rfl, rfl⟩
      apply keeps_focus (WorkerBelongsTo ctx.key ctx.ownWazuhClient)
      · exact fun _ tenancy => tenancy.2
      · exact fun _ _ tenancy kept => ⟨tenancy.1, kept⟩
      · apply keeps_managerDryRun
        · exact fun memory own belongs readable => withWazuhClient_belongs belongs readable
        · exact fun memory client belongs held => .of_wazuh rfl (belongs.cached client held)
  restart := by
    apply keeps_focus (IndexerBelongsTo indexerKey indexerClient)
    · exact fun _ tenancy => tenancy.1
    · exact fun _ _ tenancy kept => ⟨kept, tenancy.2⟩
    · cases due : restartDue ctx.spec ctx.input.restart with
      | false => exact keeps_orchestrateRollingRestart_idle due
      | true =>
        rcases indexerTenant (by simp [needsIndexerClient, due]) with ⟨rfl, rfl⟩
        apply keeps_orchestrateRollingRestart
        · exact fun memory client belongs _ made => belongs.remember made
        · exact fun memory client answer belongs held =>
            .of_openSearch rfl (belongs.cached client held)
        · exact fun _ => .of_plain rfl

end Pass

/-! ## Initial shard counts -/

def CountsShards (ctx : PassContext) (state : PassState) : Prop :=
  ReachesGates ctx state -> (indexerScaleDown ctx state).isSome = true ->
    (state.working.indexer.getD initializeDrainStatus).phase ≠ .unset ∧
      ((state.working.indexer.getD initializeDrainStatus).phase = .idle ->
        ctx.input.openSearch.shardCount.isOk = true)

/-- A drainer that is remembered has recorded the shards of its node. -/
def Recorded (memory : IndexerReconciler) : Prop :=
  ∀ drainer ∈ memory.drainer, drainer.recordedFor.isSome = true

section Counts

variable {ctx : PassContext}

theorem starting_phase (starting : phase = .idle ∨ phase = .unset)
    (reached : (indexerDrainState (afterRollback ctx state)).status.phase = phase) :
    (state.working.indexer.getD initializeDrainStatus).phase = phase := by
  have unattended : Unattended ctx.input.now _ _ := .rollback (rolledBack_step ctx state).1
  rcases unattended.phase with same | ⟨status, present, failed | pending⟩
  · simpa [indexerDrainState, afterRollback, same] using reached
  · rcases starting with rfl | rfl <;> simp [indexerDrainState, afterRollback, present, failed] at reached
  · rcases starting with rfl | rfl <;> simp [indexerDrainState, afterRollback, present, pending] at reached

variable {log : List Event}

theorem uncounted_not_asked (recorded : Recorded memory)
    (observed : ∀ event ∈ log, ∃ drainer ∈ memory.drainer, drainer.asks node event) :
    .initialCountUsed none ∉ log := by
  intro used
  rcases observed _ used with ⟨drainer, held, asked⟩
  have count := recorded drainer held
  have missing : none = drainer.recordedFor := by simpa [IndexerDrainer.asks] using asked
  simp [← missing] at count

theorem check_recorded (counts : CountsShards ctx state) (recorded : Recorded state.indexer)
    (reaches : ReachesGates ctx state) (pending : indexerScaleDown ctx state = some info)
    (effect : IndexerEffect ctx (afterRollback ctx state) info decision drain log) :
    Recorded drain.memory ∧ .initialCountUsed none ∉ log := by
  have start := counts reaches (by simp [pending])
  cases effect with
  | unavailable =>
    refine ⟨recorded, ?_⟩
    simp
  | unsetPhase unset => exact absurd (starting_phase (.inr rfl) unset) start.1
  | countFailed idle _ count =>
    have counted := start.2 (starting_phase (.inl rfl) idle)
    simp [count] at counted
  | exclusionFailed idle available counted failed | started idle available counted excluded =>
    refine ⟨?_, by simp [startEvents]⟩
    rintro drainer ⟨⟩
    rfl
  | watched under moved target retry observed | unverifiable verifying unknown observed =>
    refine ⟨recorded, ?_⟩
    have unused := uncounted_not_asked recorded observed
    simpa using unused
  | notEmpty _ present _ _ observed =>
    refine ⟨recorded, ?_⟩
    have unused := uncounted_not_asked recorded
      (fun event member => ⟨_, present, observed event member⟩)
    simpa using unused
  | verified => exact ⟨recorded, by simp [verifiedEvents]⟩
  | alreadyComplete complete | passedOver other => exact ⟨recorded, by simp⟩

theorem course_recorded {after : PassState} (counts : CountsShards ctx state)
    (recorded : Recorded state.indexer) (course : IndexerCourse ctx state after log) :
    Recorded after.indexer ∧ .initialCountUsed none ∉ log := by
  -- Events of the StatefulSet are plain, and what is kept is the drainer.
  have plain : forall {before : Option StatefulSet} {found : Option StatefulSet} {log : List Event},
      IndexerWorkload ctx before found log -> .initialCountUsed none ∉ log := by
    intro before found log workload used
    cases workload.plain _ used
  have same : forall {memory : IndexerReconciler}, memory.drainer = state.indexer.drainer ->
      Recorded memory := by
    intro memory kept drainer held
    exact recorded drainer (kept ▸ held)
  cases course with
  | unreached _ _ drainer => exact ⟨same drainer, by simp⟩
  | unchecked _ _ workload drainer => exact ⟨same drainer, plain workload⟩
  | waited reaches pending effect _ memory =>
    rw [memory]
    exact check_recorded counts recorded reaches pending effect
  | undrained reaches pending effect workload drainer =>
    have checked := check_recorded counts recorded reaches pending effect
    refine ⟨fun held member => checked.1 held (drainer ▸ member), ?_⟩
    simp only [mem_append, not_or]
    exact ⟨checked.2, plain workload⟩
  | drained reaches pending effect workload drainer persisted =>
    have checked := check_recorded counts recorded reaches pending effect
    refine ⟨?_, ?_⟩
    · intro held member
      rw [drainer] at member
      cases member
    · simp only [mem_append, mem_cons, not_or]
      exact ⟨checked.2, nofun, plain workload⟩

theorem reconcile_recorded (counts : CountsShards ctx state) (recorded : Recorded state.indexer) :
    Recorded (reconcile ctx state).state.indexer ∧
      .initialCountUsed none ∉ (reconcile ctx state).log := by
  have course := course_recorded counts recorded (reconcile_indexerCourse ctx state)
  refine ⟨course.1, ?_⟩
  intro used
  exact course.2 (mem_filter.mpr ⟨used, rfl⟩)

end Counts

/-! ## Worker drains that are over -/

theorem worker_forgotten
    (completed : ∃ event ∈ (reconcile ctx state).log, event.completes .manager) :
    (reconcile ctx state).state.worker = {} := by
  rw [← exists_mem_concerning (fun _ => Event.about_of_completes)] at completed
  have course := reconcile_workerCourse ctx state
  generalize concerning .manager (reconcile ctx state).log = log at course completed
  rcases completed with ⟨event, member, completing⟩
  cases course with
  | unreached => cases member
  | unchecked _ _ workload =>
    simp [(workload.quiet .manager event member).1] at completing
  | waited _ _ effect =>
    simp [(effect.frame.quiet event member).2] at completing
  | undrained _ _ effect workload =>
    rcases mem_append.mp member with earlier | later
    · simp [(effect.frame.quiet event earlier).2] at completing
    · simp [(workload.quiet .manager event later).1] at completing
  | drained _ _ _ _ memory => exact memory

end Controller
end WazuhOperator
