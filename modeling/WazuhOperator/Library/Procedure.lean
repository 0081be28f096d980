import Mathlib.Logic.Basic

namespace Procedure

open List

/-!
# Sequential procedures with a store, a log and textual failures

A procedure reads and writes a store of type `σ`, records events of type `ε`
in the order in which they happen, and either returns a value or fails with a
text.  Failing does not undo anything: the store and the log keep what was
done before the failure, as they do in an imperative program which returns an
error value to its caller.

The second half of the module is a small program logic.  `Keeps` is the
judgement "whatever the result, the store stays inside `inv` and everything
recorded satisfies `emits`"; it is closed under every way of building
procedures used here, so that an invariant of a long procedure is proved one
call at a time.  `Returns` is the judgement "the procedure does not fail, and
leaves the store inside `post`", `Ensures` the one about what holds if it does
not fail.
-/

/-- What one run of a procedure leaves behind. -/
structure Outcome (σ ε α : Type) where
  result : Except String α
  state : σ
  log : List ε

namespace Outcome

variable {σ ε α : Type}

/-- The same outcome, with events that had been recorded before it. -/
def following (earlier : List ε) (outcome : Outcome σ ε α) : Outcome σ ε α :=
  match outcome with
  | ⟨result, state, log⟩ => ⟨result, state, earlier ++ log⟩

@[simp] theorem following_result (earlier : List ε) (outcome : Outcome σ ε α) :
    (outcome.following earlier).result = outcome.result := rfl

@[simp] theorem following_state (earlier : List ε) (outcome : Outcome σ ε α) :
    (outcome.following earlier).state = outcome.state := rfl

@[simp] theorem following_log (earlier : List ε) (outcome : Outcome σ ε α) :
    (outcome.following earlier).log = earlier ++ outcome.log := rfl

@[simp] theorem following_mk (earlier : List ε) (result : Except String α) (state : σ)
    (log : List ε) :
    (Outcome.mk result state log).following earlier = ⟨result, state, earlier ++ log⟩ := rfl

@[simp] theorem following_nil (outcome : Outcome σ ε α) : outcome.following [] = outcome := rfl

end Outcome

section Answers

variable {α : Type}

@[simp] theorem isOk_ok (value : α) : (.ok value : Except String α).isOk = true := rfl

@[simp] theorem isOk_error (text : String) : (.error text : Except String α).isOk = false := rfl

@[simp] theorem mapError_ok (wrap : String -> String) (value : α) :
    (.ok value : Except String α).mapError wrap = .ok value := rfl

@[simp] theorem mapError_error (wrap : String -> String) (text : String) :
    (.error text : Except String α).mapError wrap = .error (wrap text) := rfl

end Answers

/-- A procedure over the store `σ` which records events `ε` and returns an `α`. -/
def Proc (σ ε α : Type) : Type := σ -> Outcome σ ε α

namespace Proc

variable {σ τ ε α β : Type}

protected def pure (value : α) : Proc σ ε α := fun state => ⟨.ok value, state, []⟩

/-- Sequencing: a failure of the first part ends the whole procedure. -/
protected def bind (first : Proc σ ε α) (next : α -> Proc σ ε β) : Proc σ ε β := fun state =>
  match first state with
  | ⟨.error text, after, log⟩ => ⟨.error text, after, log⟩
  | ⟨.ok value, after, log⟩ => (next value after).following log

instance : Monad (Proc σ ε) where
  pure := Proc.pure
  bind := Proc.bind

def fail (text : String) : Proc σ ε α := fun state => ⟨.error text, state, []⟩

def emit (event : ε) : Proc σ ε Unit := fun state => ⟨.ok (), state, [event]⟩

def read : Proc σ ε σ := fun state => ⟨.ok state, state, []⟩

def modify (change : σ -> σ) : Proc σ ε Unit := fun state => ⟨.ok (), change state, []⟩

/-- Continue with the value of an answer, or end with its error. -/
def ofExcept (answer : Except String α) : Proc σ ε α := fun state => ⟨answer, state, []⟩

/-- Run a procedure whose failure the caller wants to look at. -/
def attempt (inner : Proc σ ε α) : Proc σ ε (Except String α) := fun state =>
  match inner state with
  | ⟨result, after, log⟩ => ⟨.ok result, after, log⟩

/-- Rewrite the error text of a procedure, as wrapping with a message does. -/
def mapError (wrap : String -> String) (inner : Proc σ ε α) : Proc σ ε α := fun state =>
  match inner state with
  | ⟨.error text, after, log⟩ => ⟨.error (wrap text), after, log⟩
  | ⟨.ok value, after, log⟩ => ⟨.ok value, after, log⟩

/-- Run a procedure on a part of the store. -/
def focus (view : σ -> τ) (update : τ -> σ -> σ) (inner : Proc τ ε α) : Proc σ ε α := fun state =>
  match inner (view state) with
  | ⟨result, part, log⟩ => ⟨result, update part state, log⟩

/-- Run a procedure on an optional part of the store, failing where it is absent. -/
def focusOption (view : σ -> Option τ) (update : τ -> σ -> σ) (missing : String)
    (inner : Proc τ ε α) : Proc σ ε α := fun state =>
  match view state with
  | none => ⟨.error missing, state, []⟩
  | some part =>
    match inner part with
    | ⟨result, after, log⟩ => ⟨result, update after state, log⟩

/-- Run a clean-up after a procedure, whether it returned or failed, as a deferred call
does.  The result is that of the procedure. -/
def andFinally (inner : Proc σ ε α) (cleanup : σ -> σ) : Proc σ ε α := fun state =>
  match inner state with
  | ⟨result, after, log⟩ => ⟨result, cleanup after, log⟩

/-- Run a procedure for each item of a list in turn, until one fails. -/
def forEach {ι : Type} (body : ι -> Proc σ ε Unit) : List ι -> Proc σ ε Unit
  | [] => pure ()
  | item :: rest => body item >>= fun _ => forEach body rest

/-! ## Running the building blocks -/

@[simp] theorem pure_apply (value : α) (state : σ) :
    (pure value : Proc σ ε α) state = ⟨.ok value, state, []⟩ := rfl

@[simp] theorem bind_apply (first : Proc σ ε α) (next : α -> Proc σ ε β) (state : σ) :
    (first >>= next) state =
      match first state with
      | ⟨.error text, after, log⟩ => ⟨.error text, after, log⟩
      | ⟨.ok value, after, log⟩ => (next value after).following log := rfl

variable {first : Proc σ ε α} {next : α -> Proc σ ε β} {state : σ} {wrap : String -> String}
variable {inner : Proc σ ε α} {value : α}

theorem bind_of_silent {after : σ} (ran : first state = ⟨.ok value, after, []⟩) :
    (first >>= next) state = next value after := by
  rw [bind_apply, ran]
  rfl

@[simp] theorem fail_apply (text : String) (state : σ) :
    (fail text : Proc σ ε α) state = ⟨.error text, state, []⟩ := rfl

@[simp] theorem emit_apply (event : ε) (state : σ) :
    (emit event : Proc σ ε Unit) state = ⟨.ok (), state, [event]⟩ := rfl

@[simp] theorem read_apply (state : σ) :
    (read : Proc σ ε σ) state = ⟨.ok state, state, []⟩ := rfl

@[simp] theorem modify_apply (change : σ -> σ) (state : σ) :
    (modify change : Proc σ ε Unit) state = ⟨.ok (), change state, []⟩ := rfl

@[simp] theorem ofExcept_apply (answer : Except String α) (state : σ) :
    (ofExcept answer : Proc σ ε α) state = ⟨answer, state, []⟩ := rfl

@[simp] theorem attempt_apply (inner : Proc σ ε α) (state : σ) :
    attempt inner state =
      match inner state with
      | ⟨result, after, log⟩ => ⟨.ok result, after, log⟩ := rfl

@[simp] theorem mapError_apply (wrap : String -> String) (inner : Proc σ ε α) (state : σ) :
    mapError wrap inner state =
      match inner state with
      | ⟨.error text, after, log⟩ => ⟨.error (wrap text), after, log⟩
      | ⟨.ok value, after, log⟩ => ⟨.ok value, after, log⟩ := rfl

theorem mapError_eq (wrap : String -> String) (inner : Proc σ ε α) (state : σ) :
    mapError wrap inner state =
      ⟨(inner state).result.mapError wrap, (inner state).state, (inner state).log⟩ := by
  rw [mapError_apply]
  rcases inner state with ⟨result, after, log⟩
  cases result with
  | error | ok => rfl

@[simp] theorem focus_apply (view : σ -> τ) (update : τ -> σ -> σ) (inner : Proc τ ε α)
    (state : σ) :
    focus view update inner state =
      match inner (view state) with
      | ⟨result, part, log⟩ => ⟨result, update part state, log⟩ := rfl

@[simp] theorem focusOption_apply (view : σ -> Option τ) (update : τ -> σ -> σ)
    (missing : String) (inner : Proc τ ε α) (state : σ) :
    focusOption view update missing inner state =
      match view state with
      | none => ⟨.error missing, state, []⟩
      | some part =>
        match inner part with
        | ⟨result, after, log⟩ => ⟨result, update after state, log⟩ := rfl

@[simp] theorem andFinally_apply (inner : Proc σ ε α) (cleanup : σ -> σ) (state : σ) :
    andFinally inner cleanup state =
      match inner state with
      | ⟨result, after, log⟩ => ⟨result, cleanup after, log⟩ := rfl

/-! ## Invariants of the store and of the log -/

/-- Started inside `inv` the procedure ends inside `inv`, also when it fails, and
everything it records satisfies `emits`. -/
def Keeps (inv : σ -> Prop) (emits : ε -> Prop) (procedure : Proc σ ε α) : Prop :=
  forall state, inv state ->
    inv (procedure state).state ∧ ∀ event ∈ (procedure state).log, emits event

variable {inv : σ -> Prop} {emits : ε -> Prop}

theorem keeps_pure (value : α) : Keeps inv emits (pure value : Proc σ ε α) :=
  fun _ holds => ⟨holds, by simp⟩

variable (text : String)

theorem keeps_fail : Keeps inv emits (fail text : Proc σ ε α) :=
  fun _ holds => ⟨holds, by simp⟩

theorem keeps_ofExcept (answer : Except String α) :
    Keeps inv emits (ofExcept answer : Proc σ ε α) :=
  fun _ holds => ⟨holds, by simp⟩

theorem keeps_emit {event : ε} (allowed : emits event) :
    Keeps inv emits (emit event : Proc σ ε Unit) :=
  fun _ holds => ⟨holds, by simpa using allowed⟩

theorem keeps_modify {change : σ -> σ} (preserved : forall state, inv state -> inv (change state)) :
    Keeps inv emits (modify change : Proc σ ε Unit) :=
  fun state holds => ⟨preserved state holds, by simp⟩

theorem keeps_bind (left : Keeps inv emits first)
    (right : forall value, Keeps inv emits (next value)) : Keeps inv emits (first >>= next) := by
  intro state holds
  have earlier := left state holds
  rw [bind_apply]
  rcases ran : first state with ⟨result, after, log⟩
  rw [ran] at earlier
  cases result with
  | error => exact earlier
  | ok value =>
    have later := right value after earlier.1
    refine ⟨later.1, ?_⟩
    intro event member
    rcases mem_append.mp member with member | member
    · exact earlier.2 event member
    · exact later.2 event member

variable {ι : Type} {body : ι -> Proc σ ε Unit}

theorem keeps_forEach {items : List ι} (each : ∀ item ∈ items, Keeps inv emits (body item)) :
    Keeps inv emits (forEach body items) := by
  induction items with
  | nil => exact keeps_pure ()
  | cons _ _ ih =>
    rw [forall_mem_cons] at each
    exact keeps_bind each.1 fun _ => ih each.2

theorem keeps_read_bind {next : σ -> Proc σ ε β}
    (right : forall value, inv value -> Keeps inv emits (next value)) :
    Keeps inv emits (read >>= next) := by
  intro state holds
  simpa using right state holds state holds

variable {answer : Except String α}

theorem keeps_answer_bind (right : forall value, answer = .ok value -> Keeps inv emits (next value)) :
    Keeps inv emits (mapError wrap (ofExcept answer) >>= next) := by
  intro state holds
  cases answer with
  | error text => exact ⟨holds, nofun⟩
  | ok value => simpa using right value rfl state holds

theorem keeps_attempt (kept : Keeps inv emits inner) :
    Keeps inv emits (attempt inner) := kept

theorem keeps_mapError (kept : Keeps inv emits inner) : Keeps inv emits (mapError wrap inner) := by
  intro state holds
  rw [mapError_eq]
  exact kept state holds

theorem keeps_focus (part : τ -> Prop) {view : σ -> τ} {update : τ -> σ -> σ}
    {inner : Proc τ ε α} (entered : forall state, inv state -> part (view state))
    (left : forall state after, inv state -> part after -> inv (update after state))
    (kept : Keeps part emits inner) : Keeps inv emits (focus view update inner) := by
  intro state holds
  have inside := kept (view state) (entered state holds)
  exact ⟨left state _ holds inside.1, inside.2⟩

theorem keeps_andFinally {cleanup : σ -> σ} (kept : Keeps inv emits inner)
    (preserved : forall state, inv state -> inv (cleanup state)) :
    Keeps inv emits (andFinally inner cleanup) := by
  intro state holds
  have inside := kept state holds
  exact ⟨preserved _ inside.1, inside.2⟩

/-! ## Procedures that do not fail -/

/-- Started inside `pre` the procedure returns a value and ends inside `post`. -/
def Returns (pre post : σ -> Prop) (procedure : Proc σ ε α) : Prop :=
  forall state, pre state ->
    (∃ value, (procedure state).result = .ok value) ∧ post (procedure state).state

variable {procedure : Proc σ ε α}

section Returns

variable {pre middle post : σ -> Prop}

theorem returns_bind {first : Proc σ ε α} {next : α -> Proc σ ε β} (left : Returns pre middle first)
    (right : forall value, Returns middle post (next value)) : Returns pre post (first >>= next) := by
  intro state holds
  rcases left state holds with ⟨⟨value, returned⟩, inside⟩
  rw [bind_apply]
  rcases ran : first state with ⟨result, after, log⟩
  rw [ran] at returned inside
  cases returned
  exact right value after inside

theorem returns_ofExcept (good : answer = .ok value)
    (implied : forall state, pre state -> post state) :
    Returns pre post (ofExcept answer : Proc σ ε α) :=
  fun state holds => ⟨⟨value, good⟩, implied state holds⟩

theorem returns_pure (implied : forall state, pre state -> post state) :
    Returns pre post (pure value : Proc σ ε α) :=
  fun state holds => ⟨⟨value, rfl⟩, implied state holds⟩

theorem returns_read_bind {next : σ -> Proc σ ε β}
    (right : forall value, pre value -> Returns pre post (next value)) :
    Returns pre post (read >>= next) := by
  intro state holds
  simpa using right state holds state holds

theorem returns_mapError {wrap : String -> String} {inner : Proc σ ε α} (returned : Returns pre post inner) :
    Returns pre post (mapError wrap inner) := by
  intro state holds
  rcases returned state holds with ⟨⟨value, ran⟩, ends⟩
  rw [mapError_eq, ran]
  exact ⟨⟨value, rfl⟩, ends⟩

theorem returns_forEach {items : List ι} (each : ∀ item ∈ items, Returns inv inv (body item)) :
    Returns inv inv (forEach body items) := by
  induction items with
  | nil => exact returns_pure fun _ holds => holds
  | cons _ _ ih =>
    rw [forall_mem_cons] at each
    exact returns_bind each.1 fun _ => ih each.2

theorem keeps_of_returns (returned : Returns inv inv procedure) :
    Keeps inv (fun _ => True) procedure :=
  fun state holds => ⟨(returned state holds).2, fun _ _ => trivial⟩

theorem returns_attempt {inner : Proc σ ε α} (kept : Keeps inv emits inner) :
    Returns inv inv (attempt inner) :=
  fun state holds => ⟨⟨_, rfl⟩, (kept state holds).1⟩

end Returns

/-! ## What holds when a procedure has returned -/

/-- Started inside `pre` the procedure satisfies `post`, if it returns a value. -/
def Ensures (pre : σ -> Prop) (post : α -> σ -> Prop) (procedure : Proc σ ε α) : Prop :=
  forall state, pre state -> forall value, (procedure state).result = .ok value ->
    post value (procedure state).state

section Ensures

variable {pre : σ -> Prop} {post : β -> σ -> Prop}

theorem ensures_pure {value : β} (implied : forall state, pre state -> post value state) :
    Ensures pre post (pure value : Proc σ ε β) := by
  intro state holds other returned
  cases returned
  exact implied state holds

theorem ensures_fail : Ensures pre post (fail text : Proc σ ε β) :=
  fun _ _ _ returned => nomatch returned

theorem ensures_ofExcept {answer : Except String β}
    (implied : forall value state, answer = .ok value -> pre state -> post value state) :
    Ensures pre post (ofExcept answer : Proc σ ε β) :=
  fun state holds value returned => implied value state returned holds

theorem ensures_bind (middle : α -> σ -> Prop) {first : Proc σ ε α} {next : α -> Proc σ ε β}
    (left : Ensures pre middle first) (right : forall value, Ensures (middle value) post (next value)) :
    Ensures pre post (first >>= next) := by
  intro state holds value returned
  have earlier := left state holds
  rw [bind_apply] at returned ⊢
  rcases ran : first state with ⟨result, after, log⟩
  rw [ran] at earlier returned
  cases result with
  | error => exact nomatch returned
  | ok found => exact right found after (earlier found rfl) value returned

theorem ensures_read_bind {next : σ -> Proc σ ε β}
    (right : forall value, pre value -> Ensures (· = value) post (next value)) :
    Ensures pre post (read >>= next) := by
  intro state holds value returned
  exact right state holds state rfl value (by simpa using returned)

theorem ensures_mapError {wrap : String -> String} {inner : Proc σ ε β} (ensured : Ensures pre post inner) :
    Ensures pre post (mapError wrap inner) := by
  intro state holds value returned
  have inside := ensured state holds value
  rw [mapError_eq] at returned ⊢
  cases ran : (inner state).result with
  | error =>
    rw [ran] at returned
    cases returned
  | ok =>
    rw [ran] at returned
    exact inside (ran.trans returned)

variable {procedure : Proc σ ε β}

theorem ensures_at (ensured : Ensures pre post procedure) {state : σ}
    (holds : pre state) : Ensures (· = state) post procedure := by
  rintro _ rfl
  exact ensured _ holds

theorem ensures_forEach (inv : List ι -> σ -> Prop)
    (step : forall done item, Ensures (inv done) (fun _ => inv (item :: done)) (body item))
    (items : List ι) :
    forall done, Ensures (inv done) (fun _ => inv (items.reverse ++ done)) (forEach body items) := by
  induction items with
  | nil => exact fun done => ensures_pure fun _ holds => holds
  | cons item _ ih =>
    intro done
    rw [reverse_cons, append_assoc]
    exact ensures_bind _ (step done item) fun _ => ih (item :: done)

theorem ensures_given {fact : Prop} (given : fact -> Ensures pre post procedure) :
    Ensures (fun state => pre state ∧ fact) post procedure :=
  fun state holds => given holds.2 state holds.1

end Ensures

/-! ## One call -/

/-- Called in this state the procedure ends inside `post`, also when it fails. -/
def Ends (post : σ -> Prop) (procedure : Proc σ ε α) (state : σ) : Prop := post (procedure state).state

section Ends

variable {post : σ -> Prop} {state : σ}

theorem ends_of_keeps (kept : Keeps post emits procedure) (holds : post state) :
    Ends post procedure state := (kept state holds).1

theorem ends_read_bind {next : σ -> Proc σ ε β} (ends : Ends post (next state) state) :
    Ends post (read >>= next) state := ends

theorem ends_bind {first : Proc σ ε α} {next : α -> Proc σ ε β} (kept : Keeps post emits first)
    (holds : post state)
    (later : forall value, (first state).result = .ok value -> Ends post (next value) (first state).state) :
    Ends post (first >>= next) state := by
  have earlier := (kept state holds).1
  rw [Ends, bind_apply]
  rcases ran : first state with ⟨result, after, log⟩
  rw [ran] at earlier later
  cases result with
  | error => exact earlier
  | ok value => exact later value rfl

theorem ends_mapError {wrap : String -> String} {inner : Proc σ ε α} (ends : Ends post inner state) :
    Ends post (mapError wrap inner) state := by
  rw [Ends, mapError_eq]
  exact ends

end Ends

/-! ## Where a call leads

The weakest precondition of one call, with the events which had been recorded before it. -/

/-- Called in this state after the events of `past`, the procedure ends as described. -/
@[irreducible] def Leads (post : Except String α -> σ -> List ε -> Prop) (procedure : Proc σ ε α) (past : List ε)
    (state : σ) : Prop :=
  post (procedure state).result (procedure state).state (past ++ (procedure state).log)

section Leads

variable {post : Except String α -> σ -> List ε -> Prop} {past : List ε} {state : σ}

theorem leads_pure (holds : post (.ok value) state past) :
    Leads post (pure value) past state := by
  simpa [Leads] using holds

theorem leads_fail {text : String} (holds : post (.error text) state past) :
    Leads post (fail text) past state := by
  simpa [Leads] using holds

theorem leads_ofExcept (holds : post answer state past) :
    Leads post (ofExcept answer) past state := by
  simpa [Leads] using holds

theorem leads_read_bind {next : σ -> Proc σ ε α} (leads : Leads post (next state) past state) :
    Leads post (read >>= next) past state := by
  rw [Leads] at leads ⊢
  exact leads

/-- What the first of two procedures has to lead to. -/
def Onward (post : Except String β -> σ -> List ε -> Prop) (next : α -> Proc σ ε β) :
    Except String α -> σ -> List ε -> Prop
  | .ok value, state, past => Leads post (next value) past state
  | .error text, state, past => post (.error text) state past

theorem leads_bind {post : Except String β -> σ -> List ε -> Prop} {first : Proc σ ε α}
    {next : α -> Proc σ ε β} (leads : Leads (Onward post next) first past state) :
    Leads post (first >>= next) past state := by
  rw [Leads] at leads
  rw [Leads, bind_apply]
  rcases ran : first state with ⟨result, after, log⟩
  rw [ran] at leads
  cases result with
  | error => exact leads
  | ok => simpa [Onward, Leads] using leads

theorem leads_emit {post : Except String Unit -> σ -> List ε -> Prop} {event : ε}
    (holds : post (.ok ()) state (past ++ [event])) : Leads post (emit event) past state := by
  rw [Leads]
  exact holds

theorem leads_emit_bind {event : ε} {next : Unit -> Proc σ ε α}
    (leads : Leads post (next ()) (past ++ [event]) state) :
    Leads post (emit event >>= next) past state := by
  rw [Leads] at leads ⊢
  simpa using leads

theorem leads_modify_bind {change : σ -> σ} {next : Unit -> Proc σ ε α}
    (leads : Leads post (next ()) past (change state)) :
    Leads post (modify change >>= next) past state := by
  rw [Leads] at leads ⊢
  simpa using leads

/-- The caller goes on whatever the inner procedure returns. -/
theorem leads_attempt_bind {post : Except String β -> σ -> List ε -> Prop} {inner : Proc σ ε α}
    {next : Except String α -> Proc σ ε β}
    (leads : Leads (fun result state past => Leads post (next result) past state) inner past state) :
    Leads post (attempt inner >>= next) past state := by
  apply leads_bind
  rw [Leads] at leads ⊢
  rw [attempt]
  rcases ran : inner state with ⟨result, after, log⟩
  rw [ran] at leads
  exact leads

theorem leads_mapError {wrap : String -> String} {inner : Proc σ ε α}
    (leads : Leads (fun result state past => post (result.mapError wrap) state past) inner past state) :
    Leads post (mapError wrap inner) past state := by
  rw [Leads] at leads ⊢
  rw [mapError_eq]
  exact leads

theorem leads_imp {weaker : Except String α -> σ -> List ε -> Prop} {procedure : Proc σ ε α}
    (leads : Leads post procedure past state)
    (implied : forall result state past, post result state past -> weaker result state past) :
    Leads weaker procedure past state := by
  rw [Leads] at leads ⊢
  exact implied _ _ _ leads

theorem leads_ofExcept_bind {answer : Except String β} {next : β -> Proc σ ε α}
    (failed : forall text, post (.error text) state past)
    (onward : forall value, Leads post (next value) past state) :
    Leads post (ofExcept answer >>= next) past state := by
  apply leads_bind
  apply leads_ofExcept
  cases answer with
  | error text => exact failed text
  | ok value => exact onward value

/-- The store is inside `inv`, and everything recorded satisfies `emits`. -/
abbrev Within (inv : σ -> Prop) (emits : ε -> Prop) (_ : Except String α) (state : σ) (past : List ε) : Prop :=
  inv state ∧ ∀ event ∈ past, emits event

theorem leads_of_keeps (kept : Keeps inv emits procedure)
    (holds : Within inv emits (.ok ()) state past) : Leads (Within inv emits) procedure past state := by
  have later := kept state holds.1
  rw [Leads]
  exact ⟨later.1, forall_mem_append.mpr ⟨holds.2, later.2⟩⟩

end Leads

/-! ## Silence -/

theorem silent_of_keeps (kept : Keeps (· = state) (fun _ => False) procedure) :
    (procedure state).log = [] ∧ (procedure state).state = state := by
  rcases kept state rfl with ⟨same, none⟩
  exact ⟨eq_nil_iff_forall_not_mem.mpr none, same⟩

theorem log_mapError (wrap : String -> String) (inner : Proc σ ε α) (state : σ) :
    (mapError wrap inner state).log = (inner state).log := by
  rw [mapError_eq]

/-- A procedure whose failure is looked at is always followed by the rest. -/
theorem attempt_bind_apply (inner : Proc σ ε α) (next : Except String α -> Proc σ ε β) (state : σ) :
    (attempt inner >>= next) state =
      (next (inner state).result (inner state).state).following (inner state).log := by
  rw [bind_apply, attempt_apply]

theorem log_bind_ne_nil (recorded : (first state).log ≠ []) : ((first >>= next) state).log ≠ [] := by
  rw [bind_apply]
  rcases ran : first state with ⟨result, after, log⟩
  rw [ran] at recorded
  cases result with
  | error => exact recorded
  | ok => exact fun empty => recorded (append_eq_nil_iff.mp empty).1

/-! ## Procedures that change nothing in silence -/

/-- Where the procedure records nothing, it leaves the store as it was. -/
def Announced (procedure : Proc σ ε α) : Prop :=
  forall state, (procedure state).log = [] -> (procedure state).state = state

theorem announced_pure (value : α) : Announced (pure value : Proc σ ε α) := fun _ _ => rfl

theorem announced_fail : Announced (fail text : Proc σ ε α) := fun _ _ => rfl

theorem announced_ofExcept (answer : Except String α) : Announced (ofExcept answer : Proc σ ε α) :=
  fun _ _ => rfl

theorem announced_read_bind {next : σ -> Proc σ ε β} (right : forall value, Announced (next value)) :
    Announced (read >>= next) := by
  intro state silent
  exact right state state (by simpa using silent)

theorem announced_bind (left : Announced first)
    (right : forall value, Announced (next value)) : Announced (first >>= next) := by
  intro state silent
  have earlier := left state
  rw [bind_apply] at silent ⊢
  rcases ran : first state with ⟨result, after, log⟩
  rw [ran] at earlier silent
  cases result with
  | error => exact earlier silent
  | ok value =>
    have both : log = [] ∧ (next value after).log = [] := append_eq_nil_iff.mp silent
    exact (right value after both.2).trans (earlier both.1)

theorem announced_mapError (announced : Announced inner) :
    Announced (mapError wrap inner) := by
  intro state silent
  rw [mapError_eq] at silent ⊢
  exact announced state silent

/-! ## Judgements about every part -/

/-- A judgement which a sequence and a wrapped procedure have from their parts. -/
structure Compositional (judgement : forall {α : Type}, Proc σ ε α -> Prop) : Prop where
  pure : forall {α : Type} (value : α), judgement (pure value : Proc σ ε α)
  bind : forall {α β : Type} {first : Proc σ ε α} {next : α -> Proc σ ε β},
    judgement first -> (forall value, judgement (next value)) -> judgement (first >>= next)
  mapError : forall {α : Type} {wrap : String -> String} {inner : Proc σ ε α},
    judgement inner -> judgement (mapError wrap inner)

theorem compositional_keeps (inv : σ -> Prop) (emits : ε -> Prop) :
    Compositional (fun {α} (procedure : Proc σ ε α) => Keeps inv emits procedure) :=
  ⟨keeps_pure, keeps_bind, keeps_mapError⟩

theorem compositional_announced :
    Compositional (fun {α} (procedure : Proc σ ε α) => Announced procedure) :=
  ⟨announced_pure, announced_bind, announced_mapError⟩

theorem compositional_returns (inv : σ -> Prop) :
    Compositional (fun {α} (procedure : Proc σ ε α) => Returns inv inv procedure) :=
  ⟨fun _ => returns_pure fun _ holds => holds, returns_bind, returns_mapError⟩

/-! ## Procedures that always record the same -/

/-- Whatever the store, the procedure returns a value and records exactly these events. -/
def Records (events : List ε) (procedure : Proc σ ε α) : Prop :=
  forall state, (∃ value, (procedure state).result = .ok value) ∧ (procedure state).log = events

theorem records_pure (value : α) : Records [] (pure value : Proc σ ε α) :=
  fun _ => ⟨⟨value, rfl⟩, rfl⟩

theorem records_emit (event : ε) : Records [event] (emit event : Proc σ ε Unit) :=
  fun _ => ⟨⟨(), rfl⟩, rfl⟩

theorem records_modify (change : σ -> σ) : Records [] (modify change : Proc σ ε Unit) :=
  fun _ => ⟨⟨(), rfl⟩, rfl⟩

theorem records_bind {earlier later : List ε}
    (left : Records earlier first) (right : forall value, Records later (next value)) :
    Records (earlier ++ later) (first >>= next) := by
  intro state
  rcases left state with ⟨⟨value, returned⟩, recorded⟩
  rw [bind_apply]
  rcases ran : first state with ⟨result, after, log⟩
  rw [ran] at returned recorded
  cases returned
  cases recorded
  rcases right value after with ⟨last, others⟩
  exact ⟨last, congrArg (log ++ ·) others⟩

theorem records_forEach {events : ι -> List ε} (items : List ι)
    (each : ∀ item ∈ items, Records (events item) (body item)) :
    Records (items.flatMap events) (forEach body items) := by
  induction items with
  | nil => exact records_pure ()
  | cons item _ ih =>
    rw [flatMap_cons]
    apply records_bind
    · exact each item (mem_cons_self ..)
    · exact fun _ => ih fun other member => each other (mem_cons_of_mem item member)

end Proc

end Procedure
