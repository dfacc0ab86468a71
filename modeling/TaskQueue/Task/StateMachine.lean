import TaskQueue.Task.Basic
set_option autoImplicit false

namespace TaskQueue

def errInvalidTransition : Error := "invalid state transition"
def errInvalidTaskData : Error := "invalid task data"
def errTaskNotFound : Error := "task not found"

namespace StateMachine

def stamp (target : State) (now : Nat) (t : Task) : Task :=
  let t := { t with state := target, updatedAt := now }
  match target with
  | .running => { t with startedAt := some now }
  | .completed | .failed | .cancelled | .deadLetter => { t with completedAt := some now }
  | _ => t

/-- `StateMachine.Transition`. The Go methods mutate `sm.task` and return an `error`;
here every method returns the task as the call leaves it, with that error. -/
def transition (target : State) (now : Nat) (t : Task) : Task × Option Error :=
  if t.state.canTransitionTo target then (stamp target now t, none)
  else (t, some errInvalidTransition)

/-- The tail that `Start`, `Complete` and `Fail` run once the transition succeeded. -/
def onSuccess (f : Task → Task) : Task × Option Error → Task × Option Error
  | (t, none) => (f t, none)
  | r => r

def start (workerID : String) (now : Nat) (t : Task) : Task × Option Error :=
  onSuccess (fun t => Task.incrementAttempts now { t with workerID := workerID })
    (transition .running now t)

def complete (result : Option String) (now : Nat) (t : Task) : Task × Option Error :=
  onSuccess (fun t => { t with result := result, error := "" }) (transition .completed now t)

def fail (errMsg : String) (now : Nat) (t : Task) : Task × Option Error :=
  onSuccess (fun t => { t with error := errMsg }) (transition .failed now t)

def retry (now : Nat) (t : Task) : Task × Option Error :=
  if !t.canRetry then transition .deadLetter now t else transition .retrying now t

theorem retry_eq (now : Nat) (t : Task) :
    retry now t = transition (if t.canRetry then .retrying else .deadLetter) now t := by
  unfold retry; split <;> simp_all

def cancel (now : Nat) (t : Task) : Task × Option Error := transition .cancelled now t

def moveToDLQ (now : Nat) (t : Task) : Task × Option Error := transition .deadLetter now t

def reset (t : Task) : Task :=
  { t with workerID := "", attempts := 0, error := "", startedAt := none, completedAt := none }

/-- `Requeue` resets the task before it checks the transition. -/
def requeue (now : Nat) (t : Task) : Task × Option Error := transition .pending now (reset t)

variable {target : State} {now : Nat} {t : Task}

@[simp] theorem stamp_state : (stamp target now t).state = target := by
  cases target <;> rfl

@[simp] theorem stamp_attempts : (stamp target now t).attempts = t.attempts := by
  cases target <;> rfl

@[simp] theorem stamp_maxRetries : (stamp target now t).maxRetries = t.maxRetries := by
  cases target <;> rfl

@[simp] theorem stamp_error : (stamp target now t).error = t.error := by
  cases target <;> rfl

@[simp] theorem stamp_result : (stamp target now t).result = t.result := by
  cases target <;> rfl

@[simp] theorem stamp_id : (stamp target now t).id = t.id := by
  cases target <;> rfl

@[simp] theorem stamp_priority : (stamp target now t).priority = t.priority := by
  cases target <;> rfl

@[simp] theorem stamp_type : (stamp target now t).type = t.type := by
  cases target <;> rfl

@[simp] theorem stamp_workerID : (stamp target now t).workerID = t.workerID := by
  cases target <;> rfl

theorem stamp_startedAt :
    (stamp target now t).startedAt = if target = .running then some now else t.startedAt := by
  cases target <;> rfl

theorem stamp_completedAt : (stamp target now t).completedAt =
    if target.isFinal then some now else t.completedAt := by
  cases target <;> rfl

theorem transition_of_can (h : t.state.canTransitionTo target) :
    transition target now t = (stamp target now t, none) := if_pos h

theorem transition_of_not_can (h : ¬t.state.canTransitionTo target) :
    transition target now t = (t, some errInvalidTransition) := if_neg h

theorem transition_cases (target : State) (now : Nat) (t : Task) :
    (t.state.canTransitionTo target ∧ transition target now t = (stamp target now t, none)) ∨
      (¬t.state.canTransitionTo target ∧
        transition target now t = (t, some errInvalidTransition)) := by
  by_cases h : t.state.canTransitionTo target
  · exact .inl ⟨h, transition_of_can h⟩
  · exact .inr ⟨h, transition_of_not_can h⟩

theorem transition_error_unchanged {e : Error} (h : (transition target now t).2 = some e) :
    (transition target now t).1 = t ∧ e = errInvalidTransition := by
  rcases transition_cases target now t with ⟨-, hr⟩ | ⟨-, hr⟩ <;> simp_all

theorem transition_state_of_ok {t' : Task} (h : transition target now t = (t', none)) :
    t'.state = target := by
  rcases transition_cases target now t with ⟨-, e⟩ | ⟨-, e⟩ <;> rw [e, Prod.mk.injEq] at h
  · rw [← h.1, stamp_state]
  · cases h.2

theorem transition_fst_frame : ∃ st u s c, (transition target now t).1 =
    { t with state := st, updatedAt := u, startedAt := s, completedAt := c } := by
  rcases transition_cases target now t with ⟨-, e⟩ | ⟨-, e⟩ <;> rw [e]
  · cases target <;> exact ⟨_, _, _, _, rfl⟩
  · exact ⟨_, _, _, _, rfl⟩

section Frame

variable (target : State) (now : Nat) (t : Task)

@[simp] theorem transition_fst_attempts : (transition target now t).1.attempts = t.attempts := by
  obtain ⟨_, _, _, _, e⟩ := @transition_fst_frame target now t; rw [e]

@[simp] theorem transition_fst_maxRetries :
    (transition target now t).1.maxRetries = t.maxRetries := by
  obtain ⟨_, _, _, _, e⟩ := @transition_fst_frame target now t; rw [e]

@[simp] theorem transition_fst_id : (transition target now t).1.id = t.id := by
  obtain ⟨_, _, _, _, e⟩ := @transition_fst_frame target now t; rw [e]

@[simp] theorem transition_fst_type : (transition target now t).1.type = t.type := by
  obtain ⟨_, _, _, _, e⟩ := @transition_fst_frame target now t; rw [e]

@[simp] theorem transition_fst_priority : (transition target now t).1.priority = t.priority := by
  obtain ⟨_, _, _, _, e⟩ := @transition_fst_frame target now t; rw [e]

@[simp] theorem transition_fst_workerID : (transition target now t).1.workerID = t.workerID := by
  obtain ⟨_, _, _, _, e⟩ := @transition_fst_frame target now t; rw [e]

@[simp] theorem transition_fst_error : (transition target now t).1.error = t.error := by
  obtain ⟨_, _, _, _, e⟩ := @transition_fst_frame target now t; rw [e]

@[simp] theorem transition_fst_result : (transition target now t).1.result = t.result := by
  obtain ⟨_, _, _, _, e⟩ := @transition_fst_frame target now t; rw [e]

end Frame

@[simp] theorem onSuccess_error {f : Task → Task} {r : Task × Option Error} :
    (onSuccess f r).2 = r.2 := by
  rcases r with ⟨_, _ | _⟩ <;> rfl

theorem onSuccess_of_error {f : Task → Task} {r : Task × Option Error} {e : Error}
    (h : r.2 = some e) : onSuccess f r = r := by
  rcases r with ⟨_, _ | _⟩ <;> simp_all [onSuccess]

/-- The seven state-machine methods, as one type so that runs of them can be stated. -/
inductive Op
  | start (workerID : String)
  | complete (result : Option String)
  | fail (errMsg : String)
  | retry
  | cancel
  | moveToDLQ
  | requeue
  deriving DecidableEq, Repr

def Op.run : Op → Nat → Task → Task × Option Error
  | .start w => StateMachine.start w
  | .complete r => StateMachine.complete r
  | .fail e => StateMachine.fail e
  | .retry => StateMachine.retry
  | .cancel => StateMachine.cancel
  | .moveToDLQ => StateMachine.moveToDLQ
  | .requeue => StateMachine.requeue

theorem Op.run_unchanged_of_error (op : Op) (hop : op ≠ .requeue) {e : Error}
    (h : (op.run now t).2 = some e) : (op.run now t).1 = t ∧ e = errInvalidTransition := by
  cases op with
  | start w | complete r | fail m =>
    simp only [Op.run, StateMachine.start, StateMachine.complete, StateMachine.fail,
      onSuccess_error] at h ⊢
    rw [onSuccess_of_error h]
    exact transition_error_unchanged h
  | retry =>
    simp only [Op.run, StateMachine.retry] at h ⊢
    split at h <;> simp only [*] <;> exact transition_error_unchanged h
  | cancel | moveToDLQ => exact transition_error_unchanged h
  | requeue => exact absurd rfl hop

theorem requeue_error_iff : (requeue now t).2 = some errInvalidTransition ↔
    ¬(t.state = .scheduled ∨ t.state = .failed ∨ t.state = .deadLetter) := by
  have hs : (reset t).state = t.state := rfl
  unfold requeue transition
  rw [hs]
  cases t.state <;> simp [State.canTransitionTo, State.validTransitions]

theorem requeue_of_error (h : (requeue now t).2 = some errInvalidTransition) :
    (requeue now t).1 = reset t :=
  (transition_error_unchanged h).1

/-- A completed task sent back through `Requeue`: the call is rejected, yet the attempt
count, the worker and both timestamps are gone. -/
theorem requeue_rejected_completed_task_changed :
    let t : Task := { new "t1" "echo" .high 0 with
      state := .completed, attempts := 1, workerID := "w1", startedAt := some 1,
      completedAt := some 2, updatedAt := 2 }
    (requeue 3 t).2 = some errInvalidTransition ∧ (requeue 3 t).1 ≠ t ∧
      (requeue 3 t).1.attempts = 0 := by
  decide

end StateMachine
end TaskQueue
