import WazuhOperator.Jobs.Objects
import WazuhOperator.Library.Runs

namespace WazuhOperator
namespace Jobs

/-!
# The life of a resource and its Jobs

A run starts when the resource has been made and has no Job.  Its moves are
the passes of the reconciler with whatever answers they get, the deliveries
to the operator's caches, a restart of the operator (which fills the caches
anew), the events of the Job's pods, the removal of a finished Job by its
time to live, the collection of the Job after the resource, and the edits and
the deletion of the resource by its users.

The world keeps two lists that nobody sees: the copies for which a Job was
created, and the generations whose Jobs have been removed.  They are enough to
say when a second Job is created: `created` grows where the Job is missing,
and then every earlier Job is among the removed ones.
-/

/-- The objects of one resource, and what has been done in the run. -/
structure World (S T X : Type) where
  site : Site S T X
  created : List (Resource S T) := []
  removed : List Nat := []

def World.begin {S T X : Type} (resource : Resource S T) (others : X) : World S T X where
  site := { resource := { shown := some resource }, job := { shown := none }, others := others }

inductive Happening (S X : Type) where
  | deliverResource
  | deliverJob
  | restart
  | pod (event : PodEvent)
  | expire
  | collect
  | edit (spec : S)
  | delete
  | others (change : X -> X)

/-- The moves of a run; `A` are the answers of a pass. -/
inductive Move (A S X : Type) where
  | pass (answers : A)
  | outside (happening : Happening S X)

section Steps

variable {A S T X : Type}

def World.removeJob (world : World S T X) (job : Job) : World S T X :=
  { world with
    site := { world.site with job := world.site.job.write none }
    removed := world.removed ++ [job.madeFor] }

def World.podEvent (world : World S T X) (event : PodEvent) : World S T X :=
  match world.site.job.stored with
  | none => world
  | some job =>
    match job.react event with
    | none => world
    | some next =>
      { world with site := { world.site with job := world.site.job.write (some next) } }

def World.expire (world : World S T X) : World S T X :=
  match world.site.job.stored with
  | none => world
  | some job => if job.finished then world.removeJob job else world

def World.collect (world : World S T X) : World S T X :=
  match world.site.job.stored, world.site.resource.stored with
  | some job, none => world.removeJob job
  | _, _ => world

def World.writeResource (world : World S T X) (next : Option (Resource S T)) : World S T X :=
  { world with site := { world.site with resource := world.site.resource.write next } }

/-- A new spec starts a new generation. -/
def World.edit [DecidableEq S] (world : World S T X) (spec : S) : World S T X :=
  match world.site.resource.stored with
  | none => world
  | some resource =>
    if spec = resource.spec then world
    else world.writeResource (some { resource with spec := spec, generation := resource.generation + 1 })

def World.delete (world : World S T X) : World S T X :=
  match world.site.resource.stored with
  | none => world
  | some resource =>
    world.writeResource (if resource.finalizer then some { resource with deletionTimestamp := true } else none)

variable [DecidableEq S]

def World.happen (world : World S T X) : Happening S X -> World S T X
  | .deliverResource =>
    { world with site := { world.site with resource := world.site.resource.deliver } }
  | .deliverJob => { world with site := { world.site with job := world.site.job.deliver } }
  | .restart =>
    { world with
      site := { world.site with
        resource := world.site.resource.settle
        job := world.site.job.settle } }
  | .pod event => world.podEvent event
  | .expire => world.expire
  | .collect => world.collect
  | .edit spec => world.edit spec
  | .delete => world.delete
  | .others change => { world with site := { world.site with others := change world.site.others } }

variable (pass : A -> Site S T X -> PassResult S T X)

def World.step (world : World S T X) : Move A S X -> World S T X
  | .pass answers =>
    { world with
      site := (pass answers world.site).site
      created := world.created ++ (pass answers world.site).created }
  | .outside happening => world.happen happening

def opened (world : World S T X) : Move A S X -> Option (Resource S T)
  | .pass answers => (pass answers world.site).created.head?
  | .outside _ => none

end Steps

/-! ## Accounting for the Jobs -/

section Accounting

variable {A S T X : Type}

def Accounted (world : World S T X) : Prop :=
  forall generation, generation ∈ world.created.map (·.generation) <->
    generation ∈ world.removed ∨ ∃ job, world.site.job.stored = some job ∧ job.madeFor = generation

theorem accounted_begin (resource : Resource S T) (others : X) :
    Accounted (World.begin resource others) := by
  intro generation
  simp [World.begin, Feed.stored]

inductive JobChange (world next : World S T X) : Prop
  | same (removed : next.removed = world.removed)
      (stored : next.site.job.stored = world.site.job.stored)
  | reacted (there : world.site.job.stored = some job)
      (reacts : job.react event = some after) (removed : next.removed = world.removed)
      (stored : next.site.job.stored = some after)
  | gone (there : world.site.job.stored = some job)
      (removed : next.removed = world.removed ++ [job.madeFor])
      (stored : next.site.job.stored = none)

/-- What can happen outside the reconciler: no Job is created, and nobody else writes the status. -/
structure Change (world next : World S T X) : Prop where
  created : next.created = world.created
  status : forall resource, next.site.resource.stored = some resource ->
    ∃ earlier, world.site.resource.stored = some earlier ∧ resource.status = earlier.status
  job : JobChange world next

theorem Change.refl (world : World S T X) : Change world world :=
  ⟨rfl, fun resource stored => ⟨resource, stored, rfl⟩, .same rfl rfl⟩

variable {world : World S T X}

theorem change_removeJob (there : world.site.job.stored = some job) :
    Change world (world.removeJob job) :=
  ⟨rfl, fun resource stored => ⟨resource, stored, rfl⟩, .gone there rfl (Feed.stored_write _ _)⟩

theorem change_writeResource (there : world.site.resource.stored = some resource)
    (same : forall written, next = some written -> written.status = resource.status) :
    Change world (world.writeResource next) := by
  refine ⟨rfl, fun written stored => ⟨resource, there, same written ?_⟩, .same rfl rfl⟩
  rw [← stored]
  exact (Feed.stored_write _ _).symm

theorem change_happen [DecidableEq S] (world : World S T X) (happening : Happening S X) :
    Change world (world.happen happening) := by
  cases happening with
  | others => exact ⟨rfl, fun resource stored => ⟨resource, stored, rfl⟩, .same rfl rfl⟩
  | deliverResource =>
    exact ⟨rfl, fun resource stored => ⟨resource, (Feed.stored_deliver _).symm.trans stored, rfl⟩,
      .same rfl rfl⟩
  | deliverJob =>
    exact ⟨rfl, fun resource stored => ⟨resource, stored, rfl⟩, .same rfl (Feed.stored_deliver _)⟩
  | restart =>
    exact ⟨rfl, fun resource stored => ⟨resource, stored, rfl⟩, .same rfl (Feed.stored_settle _)⟩
  | pod event =>
    simp only [World.happen, World.podEvent]
    split
    · exact Change.refl world
    · rename_i job there
      split
      · exact Change.refl world
      · rename_i next reacts
        exact ⟨rfl, fun resource stored => ⟨resource, stored, rfl⟩,
          .reacted there reacts rfl (Feed.stored_write _ _)⟩
  | expire =>
    simp only [World.happen, World.expire]
    split
    · exact Change.refl world
    · rename_i job there
      split
      · exact change_removeJob there
      · exact Change.refl world
  | collect =>
    simp only [World.happen, World.collect]
    split
    · rename_i job there _
      exact change_removeJob there
    · exact Change.refl world
  | edit spec =>
    simp only [World.happen, World.edit]
    split
    · exact Change.refl world
    · rename_i resource there
      split
      · exact Change.refl world
      · exact change_writeResource there (by rintro _ ⟨⟩; rfl)
  | delete =>
    simp only [World.happen, World.delete]
    split
    · exact Change.refl world
    · rename_i resource there
      refine change_writeResource there fun written marked => ?_
      split at marked
      · cases marked
        rfl
      · cases marked

variable {pass : A -> Site S T X -> PassResult S T X} {build : Resource S T -> Job}

/-- What the accounting needs of a pass: it creates at most one Job, stamped with the generation of
its copy, and only where there is none; otherwise it leaves the Job alone. -/
structure CreatesOneAtMost (pass : A -> Site S T X -> PassResult S T X)
    (build : Resource S T -> Job) : Prop where
  stamped : forall copy, (build copy).madeFor = copy.generation
  opens : forall answers site, ∃ next, (pass answers site).created = next.toList ∧
    (pass answers site).site.job = jobAfter build site.job next ∧
    (next.isSome -> site.job.stored = none)

variable (contract : CreatesOneAtMost pass build)
include contract

theorem created_iff_removed (accounted : Accounted world)
    (creates : copy ∈ opened pass world move) (generation : Nat) :
    generation ∈ world.created.map (·.generation) <-> generation ∈ world.removed := by
  cases move with
  | pass answers =>
    rcases contract.opens answers world.site with ⟨next, created, _, missing⟩
    have new : next = some copy := by
      cases next with
      | none => simp [opened, created] at creates
      | some => simpa [opened, created] using creates
    have absent := missing (by simp [new])
    rw [accounted generation, absent]
    simp
  | outside => cases creates

variable [DecidableEq S]

theorem accounted_step (world : World S T X) (move : Move A S X) (accounted : Accounted world) :
    Accounted (world.step pass move) := by
  intro generation
  have before := accounted generation
  cases move with
  | pass answers =>
    rcases contract.opens answers world.site with ⟨next, created, left, missing⟩
    cases next with
    | none => simpa [World.step, created, left, jobAfter] using before
    | some =>
      rw [missing rfl] at before
      simp [World.step, created, left, jobAfter, before, contract.stamped, eq_comm]
  | outside happening =>
    have change := change_happen world happening
    rw [World.step, change.created, before]
    cases change.job with
    | same removed stored => rw [removed, stored]
    | reacted there reacts removed stored =>
      rw [removed, there, stored]
      simp only [Option.some.injEq, exists_eq_left', Job.madeFor_react reacts]
    | gone there removed stored =>
      rw [removed, there, stored]
      simp [eq_comm]

theorem created_step (world : World S T X) (move : Move A S X) :
    (world.step pass move).created = world.created ++ (opened pass world move).toList := by
  cases move with
  | outside happening =>
    rw [opened, Option.toList_none, List.append_nil]
    exact (change_happen world happening).created
  | pass answers =>
    rcases contract.opens answers world.site with ⟨next, created, _, _⟩
    cases next <;> simp [World.step, opened, created]

theorem pairwise_iff_removed (apart : Nat -> Nat -> Prop) (resource : Resource S T) (others : X)
    (moves : List (Move A S X)) :
    Runs.Throughout (World.step pass) (fun world =>
        (world.created.map (·.generation)).Pairwise apart) (World.begin resource others) moves <->
      Runs.Along (World.step pass) (fun world move => ∀ copy ∈ opened pass world move,
        ∀ generation ∈ world.removed, apart generation copy.generation)
        (World.begin resource others) moves := by
  have books : forall (world : World S T X) (move : Move A S X),
      (world.step pass move).created.map (·.generation) =
        world.created.map (·.generation) ++ ((opened pass world move).map (·.generation)).toList := by
    intro world move
    rw [created_step contract, List.map_append, Option.toList_map]
  rw [Runs.throughout_pairwise_iff books moves _ List.Pairwise.nil]
  refine Runs.along_iff_of_invariant (accounted_step contract) ?_ moves _ (accounted_begin resource others)
  intro world move accounted
  cases creates : opened pass world move with
  | none => simp
  | some =>
    have sameJobs := created_iff_removed contract accounted creates
    simp only [Option.map_some, Option.mem_some_iff, forall_eq']
    exact forall_congr' fun generation => imp_congr_left (sameJobs generation)

end Accounting

end Jobs
end WazuhOperator
