import WazuhOperator.Jobs.Objects
import WazuhOperator.Library.Drafts
import WazuhOperator.Library.Runs

namespace WazuhOperator
namespace Snapshots

open Procedure Proc Drafts
open Jobs (Resource)

/-!
# Resources which stand for one request to OpenSearch

An `OpenSearchRestore` stands for one restore, an `OpenSearchSnapshot` for one
snapshot.  Their reconcilers keep no memory but the status of the resource.  A
status update which fails in the middle of a pass is only logged, and the pass
goes on with the status it has in memory.  This module has what the two share:
the requests about the resource, a pass, and runs with everything that may
happen between passes.

A run records in its history which writes took effect and which requests went
to OpenSearch.
-/

/-- What a run records: writes of the resource which took effect, and requests to OpenSearch. -/
inductive Note (T C : Type) where
  | metadata
  | status (status : T)
  | call (call : C)
  deriving DecidableEq

variable {S T C A : Type}

/-! ## Requests about the resource -/

/-- The first step of both reconcilers. -/
def addFinalizer (answer : WriteAnswer) : Proc (Draft (Resource S T)) (Note T C) Unit := do
  let draft ← read
  if draft.copy.finalizer then pure ()
  else
    edit fun copy => { copy with finalizer := true }
    mapError ("failed to add finalizer: " ++ ·)
      (save answer.applied answer.toExcept (some { draft.copy with finalizer := true }) .metadata)

/-- `handleDeletion`: what was restored or saved in OpenSearch is kept. -/
def handleDeletion (answer : WriteAnswer) : Proc (Draft (Resource S T)) (Note T C) Unit := do
  edit fun copy => { copy with finalizer := false }
  mapError ("failed to remove finalizer: " ++ ·)
    (save answer.applied answer.toExcept none .metadata)

def putStatus (answer : WriteAnswer) (status : T) : Proc (Draft (Resource S T)) (Note T C) Unit := do
  edit fun copy => { copy with status := status }
  let draft ← read
  save answer.applied answer.toExcept (some draft.copy) (.status status)

def withStatus (draft : Draft (Resource S T)) (status : T) : Draft (Resource S T) :=
  { draft with copy := { draft.copy with status := status } }

def withStored (draft : Draft (Resource S T)) (status : T) (acknowledged : Bool) :
    Draft (Resource S T) :=
  (withStatus draft status).written (some (withStatus draft status).copy) acknowledged

/-- A status update fails and changes the copy only, or it takes effect. -/
inductive Noted (answer : WriteAnswer) (status : T) (draft : Draft (Resource S T))
    (past : List (Note T C)) : Draft (Resource S T) -> List (Note T C) -> Prop where
  | lost : (draft.fresh = true -> answer.applied = false) ->
      Noted answer status draft past (withStatus draft status) past
  | stored : draft.fresh = true -> answer.applied = true ->
      Noted answer status draft past (withStored draft status answer.toExcept.isOk)
        (past ++ [.status status])

variable {draft : Draft (Resource S T)}

theorem Noted.copy (noted : Noted answer status draft past after later) :
    after.copy = { draft.copy with status := status } := by
  cases noted <;> rfl

theorem Noted.fresh_before (noted : Noted answer status draft past after later)
    (fresh : after.fresh) : draft.fresh = true := by
  cases noted with
  | lost => exact fresh
  | stored before => exact before

/-- The copy keeps the current version unless its write took effect unnoticed. -/
theorem Noted.fresh (noted : Noted answer status draft past after later)
    (fresh : draft.fresh) (heard : answer.applied -> answer = .accepted) :
    after.fresh = true := by
  cases noted with
  | lost => exact fresh
  | stored _ applied =>
    rw [heard applied]
    rfl

section Rules

variable {draft : Draft (Resource S T)}

theorem leads_putStatus {status : T}
    (each : forall result after later, Noted answer status draft past after later ->
      post result after later) :
    Leads post (putStatus answer status) past draft := by
  apply leads_edit_bind
  apply leads_read_bind
  refine leads_save WriteAnswer.applied_of_toExcept ?_ ?_
  · exact fun text lost => each _ _ _ (.lost lost)
  · exact fun fresh applied => each _ _ _ (.stored fresh applied)

end Rules

/-! ## A pass -/

/-- What a pass leaves behind, what it records, and what it returns. -/
structure PassResult (S T C : Type) where
  object : Feed (Option (Resource S T))
  notes : List (Note T C)
  result : Except String Unit
  requeueAfter : Option Nat

def desk (object : Feed (Option (Resource S T))) (copy : Resource S T) : Draft (Resource S T) :=
  { object := object, copy := copy, fresh := object.upToDate }

/-- The frame of both controllers: find the resource in the cache, hand a copy of it to the
reconciler, and decide when to look again. -/
def runPass (failure : Option String) (reconcile : Proc (Draft (Resource S T)) (Note T C) Unit)
    (unfinished : T -> Bool) (object : Feed (Option (Resource S T))) : PassResult S T C :=
  match failure, object.shown with
  | some text, _ => ⟨object, [], .error text, none⟩
  | none, none => ⟨object, [], .ok (), none⟩
  | none, some copy =>
    match reconcile (desk object copy) with
    | ⟨.error text, draft, notes⟩ => ⟨draft.object, notes, .error text, some 30⟩
    | ⟨.ok _, draft, notes⟩ =>
      ⟨draft.object, notes, .ok (), if unfinished draft.copy.status then some 10 else none⟩

variable {failure : Option String}

theorem runPass_leads
    {post : Feed (Option (Resource S T)) -> List (Note T C) -> Prop} (idle : post object past)
    (leads : forall copy, failure = none -> object.shown = some copy ->
      Leads (fun _ draft past => post draft.object past) reconcile past (desk object copy)) :
    post (runPass failure reconcile unfinished object).object
      (past ++ (runPass failure reconcile unfinished object).notes) := by
  cases failure with
  | some => simpa [runPass] using idle
  | none =>
    cases shown : object.shown with
    | none => simpa [runPass, shown] using idle
    | some copy =>
      have reached := leads copy rfl shown
      rw [Leads] at reached
      simp only [runPass, shown]
      rcases ran : reconcile (desk object copy) with ⟨result, draft, notes⟩
      rw [ran] at reached
      cases result with
      | error | ok => exact reached

/-! ## What is known between passes -/

/-- What is known of the history, and of the resource beside the history, as long as the resource
is there. -/
structure Remembers (past : List (Note T C) -> Prop)
    (memory : List (Note T C) -> Resource S T -> Prop) (object : Feed (Option (Resource S T)))
    (history : List (Note T C)) : Prop where
  past : past history
  memory : forall resource, object.stored = some resource -> memory history resource

abbrev RemembersStatus (past : List (Note T C) -> Prop) (memory : List (Note T C) -> T -> Prop)
    (object : Feed (Option (Resource S T))) (history : List (Note T C)) : Prop :=
  Remembers past (fun history resource => memory history resource.status) object history

/-- A copy with the current version is what is stored. -/
def Faithful (draft : Draft (Resource S T)) : Prop :=
  draft.fresh = true -> draft.object.stored = some draft.copy

/-- The draft of a pass which has the finalizer: the same copy up to the finalizer, with what
was known. -/
structure Opened (past : List (Note T C) -> Prop) (memory : List (Note T C) -> Resource S T -> Prop)
    (before after : Draft (Resource S T)) (start history : List (Note T C)) : Prop where
  known : Remembers past memory after.object history
  recorded : history = start ∨ history = start ++ [.metadata]
  faithful : Faithful after
  fresh : after.fresh = before.fresh
  name : after.copy.name = before.copy.name
  status : after.copy.status = before.copy.status
  spec : after.copy.spec = before.copy.spec
  deletion : after.copy.deletionTimestamp = before.copy.deletionTimestamp

section Opening

variable {past : List (Note T C) -> Prop} {memory : List (Note T C) -> Resource S T -> Prop}
variable {draft : Draft (Resource S T)} {history : List (Note T C)}

variable (blind : forall history, past history -> past (history ++ [.metadata]))
variable (steady : forall history resource, memory history resource ->
  memory (history ++ [.metadata]) { resource with finalizer := true })
include blind steady in
theorem leads_addFinalizer_bind
    (faithful : Faithful draft) (known : Remembers past memory draft.object history)
    (onward : forall after later,
      (draft.copy.finalizer ∨ draft.fresh ∧ answer = .accepted) ->
      Opened past memory draft after history later ->
      Leads (fun _ draft history => Remembers past memory draft.object history)
        (next ()) later after) :
    Leads (fun _ draft history => Remembers past memory draft.object history)
      (addFinalizer answer >>= next) history draft := by
  have finalized : draft.fresh -> Remembers past memory
      (draft.object.write (some { draft.copy with finalizer := true })) (history ++ [.metadata]) := by
    refine fun fresh => ⟨blind history known.past, fun resource found => ?_⟩
    rw [Feed.stored_write, Option.some.injEq] at found
    subst found
    exact steady history _ (known.memory draft.copy (faithful fresh))
  apply leads_bind
  apply leads_read_bind
  cases present : draft.copy.finalizer with
  | true =>
    exact leads_pure
      (onward draft history (.inl present) ⟨known, .inl rfl, faithful, rfl, rfl, rfl, rfl, rfl⟩)
  | false =>
    apply leads_edit_bind
    apply leads_mapError
    refine leads_save WriteAnswer.applied_of_toExcept (fun _ _ => known) fun fresh applied => ?_
    cases answer with
    | accepted =>
      refine onward _ _ (.inr ⟨fresh, rfl⟩)
        ⟨finalized fresh, .inr rfl, ?_, fresh.symm, rfl, rfl, rfl, rfl⟩
      exact fun _ => Feed.stored_write _ _
    | refused => exact nomatch applied
    | unacknowledged => exact finalized fresh

include blind

theorem leads_handleDeletion_remembers (known : Remembers past memory draft.object history) :
    Leads (fun _ draft history => Remembers past memory draft.object history)
      (handleDeletion answer) history draft := by
  apply leads_edit_bind
  apply leads_mapError
  refine leads_save WriteAnswer.applied_of_toExcept (fun _ _ => known)
    fun _ _ => ⟨blind history known.past, ?_⟩
  intro resource found
  exact nomatch (Feed.stored_write none draft.object).symm.trans found

/-- A pass which finds this copy gets past the finalizer and the check for a deletion. -/
structure Arrives (object : Feed (Option (Resource S T))) (failure : Option String)
    (answer : WriteAnswer) (copy : Resource S T) : Prop where
  shown : object.shown = some copy
  read : failure = none
  finalizer : copy.finalizer = true ∨ object.upToDate = true ∧ answer = .accepted
  live : copy.deletionTimestamp = false

include steady

theorem runPass_keeps {object : Feed (Option (Resource S T))}
    {removal : WriteAnswer}
    {body : Draft (Resource S T) -> Proc (Draft (Resource S T)) (Note T C) Unit}
    (shape : reconcile = (addFinalizer answer >>= fun _ => read >>= fun draft =>
      if draft.copy.deletionTimestamp then handleDeletion removal else body draft))
    (known : Remembers past memory object history)
    (onward : forall copy after later, Arrives object failure answer copy ->
      Opened past memory (desk object copy) after history later ->
      Leads (fun _ draft history => Remembers past memory draft.object history)
        (body after) later after) :
    Remembers past memory (runPass failure reconcile unfinished object).object
      (history ++ (runPass failure reconcile unfinished object).notes) := by
  subst shape
  apply runPass_leads known
  intro copy read shown
  apply leads_addFinalizer_bind blind steady (fun current => (Feed.stored_eq_shown current).trans shown) known
  intro draft later finalizer opened
  apply leads_read_bind
  by_cases deleting : draft.copy.deletionTimestamp
  · rw [if_pos deleting]
    exact leads_handleDeletion_remembers blind opened.known
  · rw [if_neg deleting]
    refine onward copy draft later ⟨shown, read, finalizer, ?_⟩ opened
    exact Bool.eq_false_iff.mpr (opened.deletion ▸ deleting)

end Opening

/-! ## Runs -/

structure World (S T C : Type) where
  object : Feed (Option (Resource S T))
  history : List (Note T C) := []

def World.begin (resource : Resource S T) : World S T C where
  object := { shown := some resource }

/-- What happens outside the reconciler: the cache learns of a change or, when the operator is
started again, of all changes; the resource is edited or deleted. -/
inductive Happening (S : Type) where
  | deliver
  | restart
  | edit (spec : S)
  | delete

/-- The moves of a run; `A` are the answers of a pass. -/
inductive Move (A S : Type) where
  | pass (answers : A)
  | outside (happening : Happening S)

def deleted (resource : Resource S T) : Option (Resource S T) :=
  if resource.finalizer then some { resource with deletionTimestamp := true } else none

def edited [DecidableEq S] (resource : Resource S T) (spec : S) : Resource S T :=
  if spec = resource.spec then resource
  else { resource with spec := spec, generation := resource.generation + 1 }

def happen [DecidableEq S] (object : Feed (Option (Resource S T))) :
    Happening S -> Feed (Option (Resource S T))
  | .deliver => object.deliver
  | .restart => object.settle
  | .edit spec =>
    match object.stored with
    | none => object
    | some resource => object.write (some (edited resource spec))
  | .delete =>
    match object.stored with
    | none => object
    | some resource => object.write (deleted resource)

variable [DecidableEq S]

def World.step (pass : A -> Feed (Option (Resource S T)) -> PassResult S T C) (world : World S T C) :
    Move A S -> World S T C
  | .pass answers =>
    { object := (pass answers world.object).object
      history := world.history ++ (pass answers world.object).notes }
  | .outside happening => { world with object := happen world.object happening }

theorem stored_happen
    {after : Resource S T} (found : (happen object happening).stored = some after) :
    ∃ before, object.stored = some before ∧ after.status = before.status ∧
      (after.spec = before.spec ∨ happening = .edit after.spec) := by
  cases happening with
  | deliver => exact ⟨after, (Feed.stored_deliver object) ▸ found, rfl, .inl rfl⟩
  | restart => exact ⟨after, found, rfl, .inl rfl⟩
  | edit =>
    rw [happen] at found
    cases stored : object.stored with
    | none => simp [stored] at found
    | some before =>
      simp only [stored, Feed.stored_write, Option.some.injEq, edited] at found
      refine ⟨before, rfl, ?_⟩
      split at found
      · exact found ▸ ⟨rfl, .inl rfl⟩
      · exact found ▸ ⟨rfl, .inr rfl⟩
  | delete =>
    rw [happen] at found
    cases stored : object.stored with
    | none => simp [stored] at found
    | some before =>
      simp only [stored, Feed.stored_write, deleted] at found
      split at found
      · cases found
        exact ⟨before, rfl, rfl, .inl rfl⟩
      · exact nomatch found

def OnPasses (condition : World S T C -> A -> Prop) (world : World S T C) : Move A S -> Prop
  | .pass answers => condition world answers
  | .outside _ => True

theorem throughout_of_passes {pass : A -> Feed (Option (Resource S T)) -> PassResult S T C}
    {past : List (Note T C) -> Prop} {memory : List (Note T C) -> T -> Prop}
    {condition : World S T C -> A -> Prop}
    (kept : forall world answers, RemembersStatus past memory world.object world.history ->
      condition world answers -> RemembersStatus past memory (pass answers world.object).object
        (world.history ++ (pass answers world.object).notes))
    (world : World S T C) (begins : RemembersStatus past memory world.object world.history)
    (moves : List (Move A S))
    (met : Runs.Along (World.step pass) (OnPasses condition) world moves) :
    Runs.Throughout (World.step pass) (fun world => past world.history) world moves := by
  have preserved : forall world move, RemembersStatus past memory world.object world.history ->
      OnPasses condition world move ->
      RemembersStatus past memory (World.step pass world move).object
        (World.step pass world move).history := by
    intro world move known condition
    cases move with
    | pass answers => exact kept world answers known condition
    | outside =>
      refine ⟨known.past, fun after found => ?_⟩
      rcases stored_happen found with ⟨before, stored, same, -⟩
      exact same ▸ known.memory before stored
  exact Runs.throughout_of_invariant preserved (fun _ known => known.past) moves world begins met

end Snapshots
end WazuhOperator
