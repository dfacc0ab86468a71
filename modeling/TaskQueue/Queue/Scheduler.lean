import TaskQueue.Queue.RedisQueue
set_option autoImplicit false

namespace TaskQueue.Scheduler

open Prog Redis

def second : Nat := 1000000000
def schedulerLockTTL : Nat := 5 * second

/-! `activateTask` and `ScheduleTask` are cut at their store commands: each tail below is the
rest of the Go function from that point on. -/

def dropScheduled (taskID : String) : Prog (Option Error) := do
  let _ ← exec (.zrem taskID)
  return none

def appendActivated (q : RedisQueue) (taskID : String) (t : Task) : Prog (Option Error) := do
  match ← exec (.xadd (t.priority.streamName q.streamPrefix) ⟨t.id, t.type⟩) with
  | .error e => return some ("failed to add task to stream: " ++ e)
  | .ok _ => dropScheduled taskID

def persistActivated (q : RedisQueue) (taskID : String) (t : Task) : Prog (Option Error) := do
  match ← q.updateTask t with
  | some e => return some ("failed to update task: " ++ e)
  | none => appendActivated q taskID t

def activateScheduled (q : RedisQueue) (taskID : String) (t : Task) : Prog (Option Error) := do
  let now ← timeNow
  match StateMachine.transition .pending now t with
  | (_, some e) => return some ("failed to transition task: " ++ e)
  | (t, none) => persistActivated q taskID t

/-- `activateTask`: read, check that the task is still scheduled, persist it as pending,
append it to its stream, drop it from the index. -/
def activateTask (q : RedisQueue) (taskID : String) : Prog (Option Error) := do
  match ← RedisQueue.getTask taskID with
  | .error _ => dropScheduled taskID
  | .ok t => if t.state ≠ .scheduled then dropScheduled taskID else activateScheduled q taskID t

def release : Prog Unit := do
  let _ ← exec .delLock
  return ()

def activateAll (q : RedisQueue) : List String → Prog Unit
  | [] => release
  | taskID :: rest => do
    let _ ← activateTask q taskID
    activateAll q rest

def activateDue (q : RedisQueue) (now : Nat) : Prog Unit := do
  match ← exec (.zrangeByScore (now / second : Nat)) with
  | .error _ => release
  | .ok taskIDs => activateAll q taskIDs

def processDueTasks (q : RedisQueue) : Prog Unit := do
  match ← exec (.setnxLock schedulerLockTTL) with
  | .error _ | .ok false => return ()
  | .ok true =>
    let now ← timeNow
    activateDue q now

def indexScheduled (t : Task) (scheduledAt : Nat) : Prog (Option Error) := do
  match ← exec (.zadd (scheduledAt / second : Nat) t.id) with
  | .error e =>
    let _ ← exec (.del t.id)
    return some ("failed to add task to scheduled set: " ++ e)
  | .ok () => return none

/-- `ScheduleTask`; `ScheduleTaskFunc` runs the same body. -/
def scheduleTask (t : Task) (scheduledAt : Nat) : Prog (Option Error) := do
  match ← exec (.set t.id t 0) with
  | .error e => return some ("failed to store task data: " ++ e)
  | .ok () => indexScheduled t scheduledAt

def scheduleTaskFunc (t : Task) (scheduledAt : Nat) : Prog (Option Error) :=
  scheduleTask t scheduledAt

end TaskQueue.Scheduler
