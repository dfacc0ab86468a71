import TaskQueue.Queue.DLQ
import TaskQueue.Task.Retry
set_option autoImplicit false

namespace TaskQueue

open Prog Redis

def errHandlerNotFound : Error := "handler not found for task type"
def errTaskTimeout : Error := "task execution timed out"
def errTaskCanceled : Error := "task execution canceled"

/-- `Executor.Execute` with the registered handler types: a known type calls the handler,
whose outcome is mapped to a result or an error. -/
def Executor.execute (handlers : List String) (t : Task) : Prog (Except Error (Option String)) := do
  if t.type ∈ handlers then
    match ← call t with
    | .ok result => return .ok result
    | .err e => return .error e
    | .deadlineExceeded => return .error errTaskTimeout
    | .canceled => return .error errTaskCanceled
    | .panic v => return .error ("handler panicked: " ++ v)
  else return .error errHandlerNotFound

structure Pool where
  id : String
  queue : RedisQueue
  handlers : List String

namespace Pool

def handleTaskSuccess (p : Pool) (t : Task) (messageID : Nat) (result : Option String) :
    Prog (Option Error) := do
  let now ← timeNow
  match StateMachine.complete result now t with
  | (_, some e) => return some ("failed to complete task: " ++ e)
  | (t, none) =>
    match ← p.queue.updateTask t with
    | some e => return some ("failed to update task: " ++ e)
    | none =>
      match ← p.queue.acknowledge t messageID with
      | some e => return some ("failed to acknowledge: " ++ e)
      | none => return none

/-- `handleTaskFailure`: every store error on the way is only logged. -/
def handleTaskFailure (p : Pool) (t : Task) (messageID : Nat) (execErr : Error) : Prog Unit := do
  let now ← timeNow
  if t.canRetry then
    let t := { (StateMachine.retry now t).1 with error := execErr }
    let _ ← p.queue.updateTask t
    let now ← timeNow
    let t := Retryer.prepareForRequeue now t
    let _ ← p.queue.enqueue t
    let _ ← p.queue.acknowledge t messageID
  else
    let t := (StateMachine.fail execErr now t).1
    let _ ← p.queue.updateTask t
    let _ ← DLQ.add t "max retries exceeded"
    let _ ← p.queue.acknowledge t messageID

/-- `processNextTask` once `DequeueBlocking` has returned a task: `Start`, its write, the handler,
and what its result leads to. A task whose `Start` is refused is returned as an error, its
message left unacknowledged. -/
def processTask (p : Pool) (t : Task) (messageID : Nat) : Prog (Option Error) := do
  let now ← timeNow
  match StateMachine.start p.id now t with
  | (_, some e) => return some e
  | (t, none) =>
    let _ ← p.queue.updateTask t
    match ← Executor.execute p.handlers t with
    | .error execErr =>
      p.handleTaskFailure t messageID execErr
      return none
    | .ok result => p.handleTaskSuccess t messageID result

def processNextTask (p : Pool) : Prog (Option Error) := do
  match ← p.queue.dequeueBlocking p.id with
  | .error e => return some ("failed to dequeue: " ++ e)
  | .ok none => return none
  | .ok (some (t, messageID)) => p.processTask t messageID

/-- `n` rounds of a worker goroutine's loop with no shutdown and no pause: each round runs
`processNextTask`, whose error is only logged. -/
def worker (p : Pool) : Nat → Prog Unit
  | 0 => return ()
  | n + 1 => do
    let _ ← p.processNextTask
    p.worker n

def requeueRecovered (p : Pool) : List (Task × Nat) → Prog Unit
  | [] => return ()
  | (t, messageID) :: rest => do
    let now ← timeNow
    let t := Retryer.prepareForRequeue now t
    match ← p.queue.enqueue t with
    | some _ => p.requeueRecovered rest
    | none =>
      let _ ← p.queue.acknowledge t messageID
      p.requeueRecovered rest

def recoverOrphanedTasks (p : Pool) : Prog Unit := do
  let tasks ← p.queue.claimOrphanedTasks p.id
  p.requeueRecovered tasks

end Pool

section Faultless

variable (h : Task → Outcome) (s : Store) (cs : List Task)

theorem Executor.run_execute_error (handlers : List String) (t : Task) (ht : t.type ∈ handlers)
    (hfail : ∀ r, h t ≠ .ok r) :
    ∃ e, run h (Executor.execute handlers t) ⟨s, [], cs⟩ = (.error e, ⟨s, [], cs ++ [t]⟩) := by
  simp only [Executor.execute, if_pos ht, bind_eq, run_call_bind]
  cases hh : h t with
  | ok r => exact absurd hh (hfail r)
  | _ => exact ⟨_, rfl⟩

namespace Pool

theorem run_handleTaskFailure_retry (p : Pool) (t : Task) (i : Nat) (e : Error)
    (hr : t.state = .running) (hc : t.canRetry = true) :
    let t₂ := { StateMachine.stamp .retrying s.clock t with error := e }
    let key := t.priority.streamName p.queue.streamPrefix
    run h (p.handleTaskFailure t i e) ⟨s, [], cs⟩ =
      ((), ⟨((Cmd.xack key p.queue.consumerGroup i).run ((Cmd.xadd key ⟨t.id, t.type⟩).run
        ((Cmd.set t.id (Retryer.prepareForRequeue s.clock t₂) 0).run
          ((Cmd.set t.id t₂ 0).run s).2).2).2).2, [], cs⟩) := by
  have hcan : t.state.canTransitionTo .retrying := by
    simp [hr, State.canTransitionTo, State.validTransitions]
  simp only [handleTaskFailure, bind_eq, pure_eq, run_timeNow_bind, hc, if_true,
    StateMachine.retry_eq, StateMachine.transition_of_can hcan]
  rw [run_bind, RedisQueue.run_updateTask]
  simp only [run_timeNow_bind]
  rw [run_bind, RedisQueue.run_enqueue, run_bind, RedisQueue.run_acknowledge]
  simp only [Retryer.prepareForRequeue_id, Retryer.prepareForRequeue_type,
    Retryer.prepareForRequeue_priority, StateMachine.stamp_id, StateMachine.stamp_type,
    StateMachine.stamp_priority]
  rfl

theorem run_handleTaskFailure_dead (p : Pool) (t : Task) (i : Nat) (e : Error)
    (hr : t.state = .running) (hc : t.canRetry = false) :
    let t₂ := { StateMachine.stamp .failed s.clock t with error := e }
    let key := t.priority.streamName p.queue.streamPrefix
    ∃ ttl, run h (p.handleTaskFailure t i e) ⟨s, [], cs⟩ =
      ((), ⟨((Cmd.xack key p.queue.consumerGroup i).run ((Cmd.sadd t.id).run
        ((Cmd.dlqAdd t.id t.type
          ⟨DLQ.forceDeadLetter s.clock t₂, "max retries exceeded", s.clock, e⟩).run
            ((Cmd.set t.id t₂ ttl).run s).2).2).2).2, [], cs⟩) := by
  have hcan : t.state.canTransitionTo .failed := by
    simp [hr, State.canTransitionTo, State.validTransitions]
  simp only [handleTaskFailure, bind_eq, pure_eq, run_timeNow_bind, hc, Bool.false_eq_true,
    if_false, StateMachine.fail, StateMachine.transition_of_can hcan, StateMachine.onSuccess]
  rw [run_bind, RedisQueue.run_updateTask, run_bind, DLQ.run_add, run_bind,
    RedisQueue.run_acknowledge]
  exact ⟨_, rfl⟩

end Pool

end Faultless

end TaskQueue
