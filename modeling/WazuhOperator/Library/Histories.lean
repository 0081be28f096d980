import Mathlib.Data.List.Basic

namespace Histories

/-!
# What holds when an event happens

A history grows at its end.  A property of an event and of everything before it
is a property of the whole history which each new event can only break for
itself.
-/

variable {ε : Type} {holds : List ε -> ε -> Prop}

/-- The property holds of each event and the events before it. -/
def AtEach (holds : List ε -> ε -> Prop) (history : List ε) : Prop :=
  forall before event after, history = before ++ event :: after -> holds before event

theorem atEach_nil : AtEach holds [] := by
  intro before event after split
  simp at split

theorem AtEach.concat {history : List ε} {event : ε} (each : AtEach holds history)
    (free : holds history event) : AtEach holds (history ++ [event]) := by
  intro before other after split
  rcases List.eq_nil_or_concat after with rfl | ⟨front, final, rfl⟩
  · have same := List.append_inj' split rfl
    rw [<- same.1, <- (List.singleton_inj.mp same.2)]
    exact free
  · have shorter : history ++ [event] = (before ++ other :: front) ++ [final] := by
      simpa using split
    exact each before other front (List.append_inj' shorter rfl).1

end Histories
