import TaskQueue.Task.StateMachine
set_option autoImplicit false

namespace TaskQueue.Retryer

/-- `PrepareForRequeue`: `Retry` with its error dropped, then pending whatever the state was. -/
def prepareForRequeue (now : Nat) (t : Task) : Task :=
  let t := (StateMachine.retry now t).1
  { t with state := .pending, scheduledAt := none, updatedAt := now }

@[simp] theorem prepareForRequeue_state (now : Nat) (t : Task) :
    (prepareForRequeue now t).state = .pending := rfl

@[simp] theorem prepareForRequeue_attempts (now : Nat) (t : Task) :
    (prepareForRequeue now t).attempts = t.attempts := by
  simp only [prepareForRequeue, StateMachine.retry]; split <;> simp

@[simp] theorem prepareForRequeue_id (now : Nat) (t : Task) :
    (prepareForRequeue now t).id = t.id := by
  simp only [prepareForRequeue, StateMachine.retry]; split <;> simp

@[simp] theorem prepareForRequeue_type (now : Nat) (t : Task) :
    (prepareForRequeue now t).type = t.type := by
  simp only [prepareForRequeue, StateMachine.retry]; split <;> simp

@[simp] theorem prepareForRequeue_priority (now : Nat) (t : Task) :
    (prepareForRequeue now t).priority = t.priority := by
  simp only [prepareForRequeue, StateMachine.retry]; split <;> simp

@[simp] theorem prepareForRequeue_maxRetries (now : Nat) (t : Task) :
    (prepareForRequeue now t).maxRetries = t.maxRetries := by
  simp only [prepareForRequeue, StateMachine.retry]; split <;> simp

end TaskQueue.Retryer
