import Mathlib.Data.List.Basic

/-!
# A value which its readers follow with a delay

A writer changes a value; readers are told of each change in order, but late.
The feed keeps what the readers see now and the changes they have not been
told of.  The value itself is the last of these, so a reader sees a past value
and never one that was not written, and sees the value itself exactly when
nothing is on the way.
-/

/-- A value as its readers see it, and the later values which are on their way. -/
structure Feed (α : Type) where
  shown : α
  pending : List α := []

namespace Feed

variable {α : Type}

def stored (feed : Feed α) : α := feed.pending.getLastD feed.shown

def upToDate (feed : Feed α) : Bool := feed.pending.isEmpty

def write (value : α) (feed : Feed α) : Feed α := { feed with pending := feed.pending ++ [value] }

/-- Tell the readers of the earliest change they do not know. -/
def deliver (feed : Feed α) : Feed α :=
  match feed.pending with
  | [] => feed
  | next :: rest => { shown := next, pending := rest }

def settle (feed : Feed α) : Feed α := { shown := feed.stored }

@[simp] theorem stored_write (value : α) (feed : Feed α) : (feed.write value).stored = value := by
  simp [stored, write]

@[simp] theorem shown_write (value : α) (feed : Feed α) :
    (feed.write value).shown = feed.shown := rfl

@[simp] theorem stored_deliver (feed : Feed α) : feed.deliver.stored = feed.stored := by
  rcases feed with ⟨shown, pending⟩
  cases pending with
  | nil => rfl
  | cons => exact List.getLastD_cons.symm

@[simp] theorem stored_settle (feed : Feed α) : feed.settle.stored = feed.stored := rfl

theorem stored_eq_shown {feed : Feed α} (current : feed.upToDate) :
    feed.stored = feed.shown := by
  rw [stored, List.isEmpty_iff.mp current]
  rfl

end Feed
