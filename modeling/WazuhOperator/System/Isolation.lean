import WazuhOperator.Controller.Sharing
import WazuhOperator.System.World

namespace WazuhOperator
namespace System

open Procedure Drain Indexer Worker Controller Runs

/-!
# Do clusters share drain or health state?

One operator process serves all clusters with one reconciler for the indexer
and one for the workers.  A client, once cached, answers for whichever cluster
comes next, and so does a drainer with what it has recorded.

The notes beside a run name the tenant of each reconciler: the cluster whose
pass needed a client since the operator started, with the client it should
have got.  A finished worker drain ends the tenancy, for then the reconciler
drops both client and drainer; a finished indexer drain leaves the client
behind.  In every run in which no other cluster, and no other credentials,
come to a reconciler with a tenant, all requests are the cluster's own.
-/

/-- The cluster for which a reconciler remembers things, with that cluster's client. -/
structure Tenants where
  (indexer worker : Option (ClusterKey × Client) := none)

def noteTenants (world : World) (taken : Step) (tenants : Tenants) : Tenants :=
  match taken with
  | .pass key input =>
    { indexer :=
        if needsIndexerClient (world.context key input) = true then
          some (key, (world.context key input).ownClient)
        else tenants.indexer
      worker :=
        if ∃ event ∈ (world.outcome key input).log, event.completes .manager = true then none
        else if (world.clusters key).spec.managerDrainEnabled = true then
          some (key, (world.context key input).ownWazuhClient)
        else tenants.worker }
  | .restartOperator => {}
  | _ => tenants

/-- Every request of a pass is the cluster's own, and so is everything recorded that it
uses. -/
def SendsOwnCalls (state : Noted Tenants) : Step -> Prop
  | .pass key input => ∀ event ∈ (state.world.outcome key input).log,
      OwnCall (state.world.context key input) event ∧ event ≠ .initialCountUsed none
  | _ => True

/-- A pass that needs a client finds no other tenant, nor its own former credentials, and
the drain it starts gets its initial shard count. -/
def FindsNoOtherTenant (state : Noted Tenants) : Step -> Prop
  | .pass key input =>
    (needsIndexerClient (state.world.context key input) = true ->
      ∀ tenant ∈ state.notes.indexer,
        tenant = (key, (state.world.context key input).ownClient)) ∧
    ((state.world.clusters key).spec.managerDrainEnabled = true ->
      ∀ tenant ∈ state.notes.worker,
        tenant = (key, (state.world.context key input).ownWazuhClient)) ∧
    CountsShards (state.world.context key input) (state.world.passState key)
  | _ => True

/-! ## One step -/

structure TenantsOwn (state : Noted Tenants) : Prop where
  indexer : forall key client, (∀ tenant ∈ state.notes.indexer, tenant = (key, client)) ->
    IndexerBelongsTo key client state.world.indexer
  worker : forall key client, (∀ tenant ∈ state.notes.worker, tenant = (key, client)) ->
    WorkerBelongsTo key client state.world.worker
  recorded : Recorded state.world.indexer

theorem exists_tenant {belongs : ClusterKey -> Client -> Prop} {noted : Option (ClusterKey × Client)}
    {needed : Prop} (own : ClusterKey × Client)
    (inside : forall key client, (∀ tenant ∈ noted, tenant = (key, client)) -> belongs key client)
    (met : needed -> ∀ tenant ∈ noted, tenant = own) :
    ∃ key client, belongs key client ∧ (needed -> key = own.1 ∧ client = own.2) := by
  by_cases needs : needed
  · exact ⟨own.1, own.2, inside _ _ (met needs), fun _ => ⟨rfl, rfl⟩⟩
  · cases noted with
    | none => exact ⟨own.1, own.2, inside _ _ nofun, fun _ => ⟨rfl, rfl⟩⟩
    | some tenant =>
      refine ⟨tenant.1, tenant.2, inside _ _ ?_, fun needs' => absurd needs' needs⟩
      rintro other ⟨⟩
      rfl

section Pass

variable {state : Noted Tenants} {key : ClusterKey}

theorem pass_tenancy (indexer : IndexerBelongsTo indexerKey indexerClient state.world.indexer)
    (worker : WorkerBelongsTo workerKey workerClient state.world.worker)
    (indexerTenant : needsIndexerClient (state.world.context key input) ->
      indexerKey = key ∧ indexerClient = (state.world.context key input).ownClient)
    (workerTenant : (state.world.clusters key).spec.managerDrainEnabled ->
      workerKey = key ∧ workerClient = (state.world.context key input).ownWazuhClient) :
    Tenancy indexerKey workerKey indexerClient workerClient (state.world.outcome key input).state ∧
      ∀ event ∈ (state.world.outcome key input).log,
        OwnCall (state.world.context key input) event :=
  (stablePass_tenancy indexerTenant workerTenant).keeps (state.world.passState key) ⟨indexer, worker⟩

theorem tenantsOwn_pass (own : TenantsOwn state) (met : FindsNoOtherTenant state (.pass key input)) :
    TenantsOwn (state.step noteTenants (.pass key input)) := by
  rcases met with ⟨indexerMet, workerMet, counts⟩
  constructor
  · intro tenant client noted
    rcases exists_tenant (key, (state.world.context key input).ownWazuhClient) own.worker workerMet
      with ⟨workerKey, workerClient, worker, workerTenant⟩
    have tenants : IndexerBelongsTo tenant client state.world.indexer ∧
        (needsIndexerClient (state.world.context key input) ->
          tenant = key ∧ client = (state.world.context key input).ownClient) := by
      simp only [Noted.step, noteTenants] at noted
      split at noted
      · rename_i needs
        have same := noted _ rfl
        cases same
        exact ⟨own.indexer _ _ (indexerMet needs), fun _ => ⟨rfl, rfl⟩⟩
      · rename_i idle
        exact ⟨own.indexer _ _ noted, fun needs => absurd needs idle⟩
    exact (pass_tenancy tenants.1 worker tenants.2 workerTenant).1.1
  · intro tenant client noted
    simp only [Noted.step, noteTenants] at noted
    split at noted
    · rename_i completed
      have forgotten : (state.world.outcome key input).state.worker = {} := worker_forgotten completed
      simp only [Noted.step, World.step, World.afterPass, forgotten]
      exact ⟨nofun, nofun⟩
    · rcases exists_tenant (key, (state.world.context key input).ownClient) own.indexer indexerMet
        with ⟨indexerKey, indexerClient, indexer, indexerTenant⟩
      have tenants : WorkerBelongsTo tenant client state.world.worker ∧
          ((state.world.clusters key).spec.managerDrainEnabled ->
            tenant = key ∧ client = (state.world.context key input).ownWazuhClient) := by
        split at noted
        · rename_i enabled
          have same := noted _ rfl
          cases same
          exact ⟨own.worker _ _ (workerMet enabled), fun _ => ⟨rfl, rfl⟩⟩
        · rename_i disabled
          exact ⟨own.worker _ _ noted, fun enabled => absurd enabled disabled⟩
      exact (pass_tenancy indexer tenants.1 indexerTenant tenants.2).1.2
  · exact (reconcile_recorded counts own.recorded).1

theorem sendsOwnCalls_pass (own : TenantsOwn state)
    (met : FindsNoOtherTenant state (.pass key input)) : SendsOwnCalls state (.pass key input) := by
  rcases met with ⟨indexerMet, workerMet, counts⟩
  rcases exists_tenant (key, (state.world.context key input).ownClient) own.indexer indexerMet
    with ⟨indexerKey, indexerClient, indexer, indexerTenant⟩
  rcases exists_tenant (key, (state.world.context key input).ownWazuhClient) own.worker workerMet
    with ⟨workerKey, workerClient, worker, workerTenant⟩
  intro event member
  refine ⟨(pass_tenancy indexer worker indexerTenant workerTenant).2 event member, ?_⟩
  rintro rfl
  exact (reconcile_recorded counts own.recorded).2 member

end Pass

theorem tenantsOwn_step (state : Noted Tenants) (taken : Step) (own : TenantsOwn state)
    (met : FindsNoOtherTenant state taken) : TenantsOwn (state.step noteTenants taken) := by
  cases taken with
  | pass => exact tenantsOwn_pass own met
  | restartOperator => exact ⟨fun _ _ _ => ⟨nofun, nofun⟩, fun _ _ _ => ⟨nofun, nofun⟩, nofun⟩
  | editSpec | rotateCredentials | changeStatefulSet => exact ⟨own.indexer, own.worker, own.recorded⟩

/-! ## Runs -/

/-- In every run whose passes find no other tenant, all requests are sent to the cluster's
own endpoints with its own credentials, and nothing recorded for another is used. -/
theorem clusters_isolated (domain : String) (clusters : ClusterKey -> ClusterObject)
    (sets : String -> String -> Option StatefulSet) (steps : List Step)
    (met : Along (Noted.step noteTenants) FindsNoOtherTenant
      ⟨World.start domain clusters sets, {}⟩ steps) :
    Along (Noted.step noteTenants) SendsOwnCalls
      ⟨World.start domain clusters sets, {}⟩ steps := by
  refine along_of_invariant tenantsOwn_step ?_ steps _ ?_ met
  · intro state taken own met
    cases taken with
    | pass => exact sendsOwnCalls_pass own met
    | editSpec | rotateCredentials | changeStatefulSet | restartOperator => trivial
  · exact ⟨fun _ _ _ => ⟨nofun, nofun⟩, fun _ _ _ => ⟨nofun, nofun⟩, nofun⟩

/-! ## Two clusters about to lose a node -/

namespace Sample

def untenanted : Noted Tenants := ⟨world 3 2, {}⟩

def restartedBetween : List Step := [pass first, .restartOperator, pass second]

theorem restartedBetween_findsNoOtherTenant :
    Along (Noted.step noteTenants) FindsNoOtherTenant untenanted restartedBetween := by
  refine ⟨⟨fun _ => nofun, fun _ => nofun, ?_⟩, trivial, ⟨fun _ => nofun, fun _ => nofun, ?_⟩, trivial⟩
  · intro _ _
    exact ⟨by decide, by decide⟩
  · intro _ _
    exact ⟨by decide, by decide⟩

end Sample

open Sample

/-- A restarted operator has forgotten the first cluster. -/
theorem clusters_isolated_restarted :
    Along (Noted.step noteTenants) FindsNoOtherTenant untenanted
        restartedBetween ∧
      Along (Noted.step noteTenants) SendsOwnCalls untenanted restartedBetween :=
  ⟨restartedBetween_findsNoOtherTenant,
    clusters_isolated _ _ _ restartedBetween restartedBetween_findsNoOtherTenant⟩

/-- Without a restart the drain of the second cluster goes to the OpenSearch of the first. -/
theorem second_cluster_asks_first : ¬ Along (Noted.step noteTenants) SendsOwnCalls untenanted
      [pass first, pass second] := by
  rintro ⟨-, sends, -⟩
  have own := fun event member => (sends event member).1.openSearch
  revert own
  decide

end System
end WazuhOperator
