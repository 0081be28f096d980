import WazuhOperator.Library.Feed
import WazuhOperator.Library.Procedure

namespace Drafts

open Procedure Proc

/-!
# Editing a copy of a shared object

A client reads an object from a cache which follows the object with a delay,
edits its copy, and writes the copy back.  A write from an outdated copy is
refused.  A write may also be refused for other reasons, and it may take effect
without its sender being told: the sender then keeps a copy whose version is no
longer the current one, and its further writes are refused.
-/

/-- The object, the copy which a client edits, and whether the copy has the current version. -/
structure Draft (α : Type) where
  object : Feed (Option α)
  copy : α
  fresh : Bool

def conflict : String :=
  "the object has been modified; please apply your changes to the latest version and try again"

variable {α ε : Type}

def edit (change : α -> α) : Proc (Draft α) ε Unit :=
  modify fun draft => { draft with copy := change draft.copy }

def Draft.written (draft : Draft α) (next : Option α) (acknowledged : Bool) : Draft α :=
  { draft with object := draft.object.write next, fresh := acknowledged }

/-- Write the object.  The event is recorded where the write takes effect. -/
def save (applied : Bool) (answer : Except String Unit) (next : Option α) (event : ε) :
    Proc (Draft α) ε Unit := do
  let draft ← read
  if draft.fresh then
    if applied then
      emit event
      modify fun draft => draft.written next answer.isOk
    ofExcept answer
  else
    fail conflict

section Rules

variable {past : List ε} {draft : Draft α}

theorem leads_edit_bind {β : Type} {post : Except String β -> Draft α -> List ε -> Prop} {change : α -> α}
    {next : Unit -> Proc (Draft α) ε β}
    (leads : Leads post (next ()) past { draft with copy := change draft.copy }) :
    Leads post (edit change >>= next) past draft :=
  leads_modify_bind leads

/-- A write fails and leaves the object as it is, or it takes effect, which its sender may or
may not be told. -/
theorem leads_save {post : Except String Unit -> Draft α -> List ε -> Prop} {applied : Bool}
    {answer : Except String Unit} {next : Option α} {event : ε}
    (honest : answer = .ok () -> applied)
    (lost : forall text, (draft.fresh -> applied = false) -> post (.error text) draft past)
    (stored : draft.fresh -> applied ->
      post answer (draft.written next answer.isOk) (past ++ [event])) :
    Leads post (save applied answer next event) past draft := by
  apply leads_read_bind
  cases fresh : draft.fresh with
  | false => exact leads_fail (lost conflict (by simp [fresh]))
  | true =>
    rw [if_pos rfl]
    cases applied with
    | true =>
      rw [if_pos rfl]
      apply leads_emit_bind
      apply leads_modify_bind
      exact leads_ofExcept (stored fresh rfl)
    | false =>
      rw [if_neg Bool.false_ne_true]
      cases answer with
      | ok => exact nomatch honest rfl
      | error text => exact leads_ofExcept (lost text fun _ => rfl)

end Rules

end Drafts
